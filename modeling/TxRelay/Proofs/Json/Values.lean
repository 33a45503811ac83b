/-
  Values that nobody wants.

  An object may have members of which the program knows nothing, with values of any form.  A
  well-formed value is skipped to its end, however deep it nests.

  1. **Numbers.**  A number is the one value that does not tell where it ends.  What follows a value
     is a blank, a comma or a closing bracket (`Ends`), and none of them goes on with a number, so
     the reader of numbers stops where the number does (`numeral_read`).

  2. **Where a value starts.**  A value begins with a character that is no blank
     (`WellFormed.head`), so an array with items is told from an empty one by its first character
     behind blanks.

  3. **Skipping.**  `Skipped` says of a part of a document, a value, the items of an array or the
     members of an object, that a reader with enough rounds comes to its end.  The induction on the
     grammar has one case for each of its rules (`WellFormed.skipped`).

  4. **Wanted values.**  Where a string or a boolean is wanted, any value is read as one that the
     text stands for, or is a fault (`stringValue_wellFormed`, `boolValue_wellFormed`).

  The crux is the count of rounds.  The reader gets two for each character, and the induction gives
  every part twice its length: an item costs a round of its own, and has at least one character or a
  comma behind it.
-/
import TxRelay.Proofs.Json.Strings

namespace TxRelay.Json

variable {c : Char} {ds text rest w cs : List Char}

/-! ## Numbers -/

/-- No number goes on here. -/
def Ends (rest : List Char) : Prop :=
  ∀ c ∈ rest.head?, c.isDigit = false ∧ c ≠ '.' ∧ c ≠ 'e' ∧ c ≠ 'E'

/-- A value may be followed by these characters. -/
theorem ends_cons (h : c ∈ [' ', '\n', '\t', '\x0d', ',', ']', '\x7d']) (cs : List Char) :
    Ends (c :: cs) := by
  have hall : ∀ c ∈ [' ', '\n', '\t', '\x0d', ',', ']', '\x7d'],
      c.isDigit = false ∧ c ≠ '.' ∧ c ≠ 'e' ∧ c ≠ 'E' := by simp [Char.isDigit]
  intro d hd
  simp only [List.head?_cons, Option.mem_def, Option.some.injEq] at hd
  exact hd ▸ hall c h

/-- Behind a value stand blanks and then a comma or a closing bracket. -/
theorem ends_blank (hw : Blank w) (h : c ∈ [',', ']', '\x7d']) (cs : List Char) :
    Ends (w ++ c :: cs) := by
  cases w with
  | nil =>
    refine ends_cons ?_ cs
    simp only [List.mem_cons] at h ⊢
    tauto
  | cons d w =>
    refine ends_cons ?_ (w ++ c :: cs)
    have hd := hw d List.mem_cons_self
    simp only [List.mem_cons] at hd ⊢
    tauto

/-- Digits are read up to the first character that is none. -/
theorem digits_read (h : Digits ds) (hrest : ∀ c ∈ rest.head?, c.isDigit = false) (atEnd : Fault) :
    digits atEnd (ds ++ rest) = .ok (ds, rest) := by
  obtain ⟨hne, hall⟩ := h
  have hstop : rest.takeWhile Char.isDigit = [] ∧ rest.dropWhile Char.isDigit = rest := by
    cases rest with
    | nil => exact ⟨rfl, rfl⟩
    | cons c rest =>
      have hc := hrest c rfl
      simp [hc]
  have htake : (ds ++ rest).takeWhile Char.isDigit = ds := by
    rw [List.takeWhile_append_of_pos hall, hstop.1, List.append_nil]
  have hdrop : (ds ++ rest).dropWhile Char.isDigit = rest := by
    rw [List.dropWhile_append_of_pos hall, hstop.2]
  unfold digits
  rw [htake, hdrop]
  cases ds with
  | nil => exact absurd rfl hne
  | cons d ds => rfl

/-- One digit is enough. -/
theorem Digits.one (h : c.isDigit = true) : Digits [c] :=
  ⟨List.cons_ne_nil c [], by simpa using h⟩

theorem WholePart.digits (h : WholePart ds) : Digits ds := by
  rcases h with rfl | ⟨hds, -⟩
  · exact .one (by decide)
  · exact hds

theorem wholePart_read (h : WholePart ds) (hrest : ∀ c ∈ rest.head?, c.isDigit = false)
    (atEnd : Fault) : wholePart atEnd (ds ++ rest) = .ok (ds, rest) := by
  have hzero : ¬ (ds.head? = some '0' ∧ 1 < ds.length) := by
    rintro ⟨hhead, hlen⟩
    rcases h with rfl | ⟨-, hds⟩
    · exact absurd hlen (by decide)
    · exact hds hhead
  unfold wholePart
  rw [digits_read h.digits hrest]
  simp only [bind, Except.bind, if_neg hzero]
  rfl

/-- What follows the digits of an exponent's or a fraction's is no digit. -/
theorem Ends.head (h : Ends rest) : ∀ c ∈ rest.head?, c.isDigit = false := fun c hc => (h c hc).1

theorem ExponentPart.head {exponent : List Char} (h : ExponentPart exponent) (hrest : Ends rest) :
    ∀ c ∈ (exponent ++ rest).head?, c.isDigit = false ∧ c ≠ '.' := by
  intro c hc
  cases h with
  | none => exact ⟨(hrest c hc).1, (hrest c hc).2.1⟩
  | some he hs _ =>
    have hall : ∀ e ∈ ['e', 'E'], e.isDigit = false ∧ e ≠ '.' := by simp [Char.isDigit]
    simp only [List.cons_append, List.head?_cons, Option.mem_def, Option.some.injEq] at hc
    exact hc ▸ hall _ he

/-- A sign is not taken for a digit, and a digit not for a sign. -/
theorem digit_ne {ds : List Char} (h : Digits ds) (cs : List Char) :
    ∃ d ds', ds ++ cs = d :: ds' ∧ d ≠ '-' ∧ d ≠ '+' := by
  obtain ⟨hne, hall⟩ := h
  cases ds with
  | nil => exact absurd rfl hne
  | cons d ds =>
    have hd := hall d List.mem_cons_self
    refine ⟨d, ds ++ cs, rfl, ?_, ?_⟩
    · rintro rfl
      exact absurd hd (by decide)
    · rintro rfl
      exact absurd hd (by decide)

/-- A number is read to its end, whatever its parts. -/
theorem numeral_read (h : Unsigned text) (hrest : Ends rest) (atEnd : Fault) (negative : Bool) :
    ∃ n, numeral atEnd negative (text ++ rest) = .ok (n, rest) := by
  cases h with
  | @mk whole fraction exponent hw hf he =>
    have hexp := he.head hrest
    rw [List.append_assoc, List.append_assoc]
    unfold numeral
    cases hf with
    | none =>
      rw [List.nil_append, wholePart_read hw fun c hc => (hexp c hc).1]
      simp only [bind, Except.bind, pure, Except.pure]
      cases he with
      | none =>
        cases rest with
        | nil => exact ⟨_, rfl⟩
        | cons c rest =>
          -- neither a point nor an exponent follows
          obtain ⟨-, hpoint, he, hE⟩ := hrest c rfl
          simp [hpoint, he, hE]
      | @some e sign ds he hs hd =>
        simp only [List.mem_cons, List.not_mem_nil, or_false] at he hs
        obtain ⟨d, ds', heq, hminus, hplus⟩ := digit_ne hd rest
        have hread := digits_read hd hrest.head atEnd
        rw [heq] at hread
        rcases he with rfl | rfl <;> rcases hs with rfl | rfl | rfl <;>
          simp [heq, hread, hminus, hplus]
    | some hds =>
      rw [wholePart_read hw (by simp)]
      simp only [List.cons_append, bind, Except.bind, pure, Except.pure]
      rw [digits_read hds fun c hc => (hexp c hc).1]
      cases he with
      | none =>
        cases rest with
        | nil => exact ⟨_, rfl⟩
        | cons c rest =>
          obtain ⟨-, -, he, hE⟩ := hrest c rfl
          simp [he, hE]
      | @some e sign ds he hs hd =>
        simp only [List.mem_cons, List.not_mem_nil, or_false] at he hs
        obtain ⟨d, ds', heq, hminus, hplus⟩ := digit_ne hd rest
        have hread := digits_read hd hrest.head atEnd
        rw [heq] at hread
        rcases he with rfl | rfl <;> rcases hs with rfl | rfl | rfl <;>
          simp [heq, hread, hminus, hplus]

/-! ## Where a value starts -/

theorem isBlank_of_isDigit (h : c.isDigit = true) : isBlank c = false := by
  have hall : ∀ c ∈ [' ', '\n', '\t', '\x0d'], c.isDigit = false := by simp [Char.isDigit]
  rw [Bool.eq_false_iff]
  intro hblank
  have hno := hall c (isBlank_iff.mp hblank)
  exact absurd h (by simp [hno])

theorem Unsigned.head (h : Unsigned text) : ∃ c cs, text = c :: cs ∧ c.isDigit = true := by
  cases h with
  | @mk whole fraction exponent hw hf he =>
    have hdigits : Digits whole := hw.digits
    obtain ⟨hne, hall⟩ := hdigits
    cases whole with
    | nil => exact absurd rfl hne
    | cons c whole => exact ⟨c, _, rfl, hall c List.mem_cons_self⟩

/-- A value starts with neither a blank nor a closing bracket, and where it starts tells strings
    and truth values from the rest. -/
theorem WellFormed.head (h : WellFormed .value text) :
    ∃ c cs, text = c :: cs ∧ isBlank c = false ∧ c ≠ ']' ∧
      (c = '"' → ∃ body, Quoted body ∧ cs = body ++ ['"']) ∧
      (c = 't' → IsBool true text) ∧ (c = 'f' → IsBool false text) := by
  -- the values that begin with neither a quote, a digit nor the letter of a truth value
  have other {c : Char} {text : List Char} (hc : c ∈ ['n', '-', '[', '\x7b']) :
      isBlank c = false ∧ c ≠ ']' ∧ (c = '"' → ∃ body, Quoted body ∧ text = body ++ ['"']) ∧
        (c = 't' → IsBool true (c :: text)) ∧ (c = 'f' → IsBool false (c :: text)) := by
    have hall : ∀ c ∈ ['n', '-', '[', '\x7b'],
        isBlank c = false ∧ c ≠ ']' ∧ c ≠ '"' ∧ c ≠ 't' ∧ c ≠ 'f' := by simp [isBlank]
    obtain ⟨hblank, hbracket, hquote, ht, hf⟩ := hall c hc
    exact ⟨hblank, hbracket, fun h => absurd h hquote, fun h => absurd h ht, fun h => absurd h hf⟩
  cases h with
  | word h =>
    simp only [List.mem_cons, List.not_mem_nil, or_false] at h
    rcases h with rfl | rfl | rfl
    · exact ⟨'n', _, rfl, other (by simp)⟩
    · exact ⟨'t', _, rfl, by decide, by decide, by simp, fun _ => rfl, by simp⟩
    · exact ⟨'f', _, rfl, by decide, by decide, by simp, by simp, fun _ => rfl⟩
  | string hq => exact ⟨'"', _, rfl, by decide, by decide, fun _ => ⟨_, hq, rfl⟩, by simp, by simp⟩
  | negative _ => exact ⟨'-', _, rfl, other (by simp)⟩
  | emptyArray _ => exact ⟨'[', _, rfl, other (by simp)⟩
  | array _ => exact ⟨'[', _, rfl, other (by simp)⟩
  | emptyObject _ => exact ⟨'\x7b', _, rfl, other (by simp)⟩
  | object _ => exact ⟨'\x7b', _, rfl, other (by simp)⟩
  | number hn =>
    obtain ⟨c, cs, rfl, hc⟩ := hn.head
    have hne (d : Char) (hd : d.isDigit = false) : c ≠ d := by
      rintro rfl
      exact absurd hc (by simp [hd])
    exact ⟨c, cs, rfl, isBlank_of_isDigit hc, hne ']' (by decide),
      fun h => absurd h (hne '"' (by decide)), fun h => absurd h (hne 't' (by decide)),
      fun h => absurd h (hne 'f' (by decide))⟩

/-- Behind `[` and blanks stands the first item, and not `]`. -/
theorem WellFormed.head_items (h : WellFormed .items text) (rest : List Char) :
    ∃ c cs, skipBlank (text ++ rest) = c :: cs ∧ c ≠ ']' := by
  cases h with
  | item hw hv _ =>
    obtain ⟨c, cs, rfl, hblank, hc, -⟩ := hv.head
    simp only [List.append_assoc, List.cons_append]
    rw [skipBlank_append hw, skipBlank_cons hblank]
    exact ⟨c, _, rfl, hc⟩
  | moreItems hw hv _ _ =>
    obtain ⟨c, cs, rfl, hblank, hc, -⟩ := hv.head
    simp only [List.append_assoc, List.cons_append]
    rw [skipBlank_append hw, skipBlank_cons hblank]
    exact ⟨c, _, rfl, hc⟩

/-- Behind an opening brace and blanks stands the first name. -/
theorem WellFormed.head_members (h : WellFormed .members text) (rest : List Char) :
    ∃ cs, skipBlank (text ++ rest) = '"' :: cs := by
  cases h with
  | member hw _ _ _ _ _ =>
    simp only [List.append_assoc, List.cons_append]
    rw [skipBlank_append hw, skipBlank_cons (by decide)]
    exact ⟨_, rfl⟩
  | moreMembers hw _ _ _ _ _ _ =>
    simp only [List.append_assoc, List.cons_append]
    rw [skipBlank_append hw, skipBlank_cons (by decide)]
    exact ⟨_, rfl⟩

/-! ## Skipping -/

theorem skipValueFor_skipBlank (rounds : Nat) (cs : List Char) :
    skipValueFor rounds (skipBlank cs) = skipValueFor rounds cs := by
  cases rounds with
  | zero => rfl
  | succ rounds => simp only [skipValueFor, skipBlank_skipBlank]

theorem skipItemsFor_skipBlank (rounds : Nat) (cs : List Char) :
    skipItemsFor rounds (skipBlank cs) = skipItemsFor rounds cs := by
  cases rounds with
  | zero => rfl
  | succ rounds => simp only [skipItemsFor, skipValueFor_skipBlank]

theorem skipMembersFor_skipBlank (rounds : Nat) (cs : List Char) :
    skipMembersFor rounds (skipBlank cs) = skipMembersFor rounds cs := by
  cases rounds with
  | zero => rfl
  | succ rounds => simp only [skipMembersFor, skipBlank_skipBlank]

theorem skipValueFor_append (hw : Blank w) (rounds : Nat) (cs : List Char) :
    skipValueFor rounds (w ++ cs) = skipValueFor rounds cs := by
  rw [← skipValueFor_skipBlank, skipBlank_append hw, skipValueFor_skipBlank]

/-- The digits of a number are told apart from every other start of a value. -/
theorem skipValueFor_digit (hc : c.isDigit = true) (rounds : Nat) (cs : List Char) :
    skipValueFor (rounds + 1) (c :: cs) =
      (numeral .malformed false (c :: cs)).map fun r => ((), r.2) := by
  have hall : ∀ d ∈ ['n', 't', 'f', '"', '[', '\x7b', '-'], d.isDigit = false := by
    simp [Char.isDigit]
  have hne : ∀ d ∈ ['n', 't', 'f', '"', '[', '\x7b', '-'], c ≠ d := by
    rintro d hd rfl
    exact absurd hc (by simp [hall c hd])
  simp only [List.forall_mem_cons] at hne
  obtain ⟨hn, ht, hf, hquote, hbracket, hbrace, hminus, -⟩ := hne
  simp [skipValueFor, skipBlank_cons (isBlank_of_isDigit hc), hc]

/-- An array with items is skipped by skipping its items. -/
theorem skipValueFor_array (h : WellFormed .items text) (rounds : Nat) (rest : List Char) :
    skipValueFor (rounds + 1) ('[' :: (text ++ rest)) = skipItemsFor rounds (text ++ rest) := by
  obtain ⟨c, cs, heq, hc⟩ := h.head_items rest
  rw [← skipItemsFor_skipBlank, heq]
  simp [skipValueFor, skipBlank_cons (show isBlank '[' = false by decide), heq, hc]

/-- An object with members is skipped by skipping its members. -/
theorem skipValueFor_object (h : WellFormed .members text) (rounds : Nat) (rest : List Char) :
    skipValueFor (rounds + 1) ('\x7b' :: (text ++ rest)) =
      skipMembersFor rounds (text ++ rest) := by
  obtain ⟨cs, heq⟩ := h.head_members rest
  rw [← skipMembersFor_skipBlank, heq]
  simp [skipValueFor, skipBlank_cons (show isBlank '\x7b' = false by decide), heq]

/-- What skipping a piece of text means, for each kind of piece. -/
def Skipped : Part → List Char → Prop
  | .value, text => ∀ rounds rest, 2 * text.length ≤ rounds → Ends rest →
      skipValueFor rounds (text ++ rest) = .ok ((), rest)
  | .items, text => ∀ rounds rest, 2 * text.length < rounds →
      skipItemsFor rounds (text ++ ']' :: rest) = .ok ((), rest)
  | .members, text => ∀ rounds rest, 2 * text.length < rounds →
      skipMembersFor rounds (text ++ '\x7d' :: rest) = .ok ((), rest)

/-- A value has a character, so a round is there to skip it with. -/
theorem skipped_value (filled : 0 < text.length)
    (skips : ∀ rounds rest, 2 * text.length ≤ rounds + 1 → Ends rest →
      skipValueFor (rounds + 1) (text ++ rest) = .ok ((), rest)) : Skipped .value text := by
  intro rounds rest hrounds hrest
  cases rounds with
  | zero => omega
  | succ rounds => exact skips rounds rest hrounds hrest

/-- Items take a round, and as many as for a value are left. -/
theorem skipped_items
    (skips : ∀ rounds rest, 2 * text.length ≤ rounds →
      skipItemsFor (rounds + 1) (text ++ ']' :: rest) = .ok ((), rest)) : Skipped .items text := by
  intro rounds rest hrounds
  cases rounds with
  | zero => omega
  | succ rounds => exact skips rounds rest (Nat.le_of_lt_succ hrounds)

/-- Members take a round, and as many as for a value are left. -/
theorem skipped_members
    (skips : ∀ rounds rest, 2 * text.length ≤ rounds →
      skipMembersFor (rounds + 1) (text ++ '\x7d' :: rest) = .ok ((), rest)) :
    Skipped .members text := by
  intro rounds rest hrounds
  cases rounds with
  | zero => omega
  | succ rounds => exact skips rounds rest (Nat.le_of_lt_succ hrounds)

/-- A piece of the grammar is skipped to its end.  The induction is on the grammar; each piece
    takes one round for itself and leaves two for each character of the pieces in it. -/
theorem WellFormed.skipped {part : Part} (h : WellFormed part text) : Skipped part text := by
  induction h with
  | word h =>
    simp only [List.mem_cons, List.not_mem_nil, or_false] at h
    rcases h with rfl | rfl | rfl
    · exact skipped_value (by simp) fun _ _ _ _ => rfl
    · exact skipped_value (by simp) fun _ _ _ _ => rfl
    · exact skipped_value (by simp) fun _ _ _ _ => rfl
  | @string text hq =>
    refine skipped_value (by simp) fun rounds rest _ _ => ?_
    have hskip := skipString_quoted hq rest
    simpa [skipValueFor, skipBlank_cons (show isBlank '"' = false by decide)] using hskip
  | number hn =>
    obtain ⟨c, cs, rfl, hc⟩ := hn.head
    refine skipped_value (by simp) fun rounds rest _ hrest => ?_
    obtain ⟨n, hread⟩ := numeral_read hn hrest .malformed false
    rw [List.cons_append] at hread ⊢
    rw [skipValueFor_digit hc, hread]
    rfl
  | negative hn =>
    refine skipped_value (by simp) fun rounds rest _ hrest => ?_
    obtain ⟨n, hread⟩ := numeral_read hn hrest .malformed true
    simp [skipValueFor, skipBlank_cons (show isBlank '-' = false by decide), hread, Except.map]
  | emptyArray hw =>
    refine skipped_value (by simp) fun rounds rest _ _ => ?_
    simp [skipValueFor, skipBlank_cons (show isBlank '[' = false by decide), skipBlank_append hw,
      skipBlank_cons (show isBlank ']' = false by decide)]
  | emptyObject hw =>
    refine skipped_value (by simp) fun rounds rest _ _ => ?_
    simp [skipValueFor, skipBlank_cons (show isBlank '\x7b' = false by decide), skipBlank_append hw,
      skipBlank_cons (show isBlank '\x7d' = false by decide)]
  -- the bracket has paid for the round of the array
  | array h ih =>
    refine skipped_value (by simp) fun rounds rest hrounds _ => ?_
    have hskip := ih rounds rest (by simp at hrounds; omega)
    rw [← hskip, ← skipValueFor_array h]
    simp
  | object h ih =>
    refine skipped_value (by simp) fun rounds rest hrounds _ => ?_
    have hskip := ih rounds rest (by simp at hrounds; omega)
    rw [← hskip, ← skipValueFor_object h]
    simp
  -- the last item: the bracket that closes pays for its round
  | @item w₁ value w₂ hw₁ _ hw₂ ih =>
    refine skipped_items fun rounds rest hrounds => ?_
    have hskip := ih rounds (w₂ ++ ']' :: rest) (by simp at hrounds; omega)
      (ends_blank hw₂ (by simp) rest)
    simp [skipItemsFor, skipValueFor_append hw₁, hskip, skipBlank_append hw₂,
      skipBlank_cons (show isBlank ']' = false by decide)]
  -- an item and a comma, which pays for its round
  | @moreItems w₁ value w₂ text hw₁ _ hw₂ _ ih ih' =>
    refine skipped_items fun rounds rest hrounds => ?_
    have hskip := ih rounds (w₂ ++ ',' :: (text ++ ']' :: rest)) (by simp at hrounds; omega)
      (ends_blank hw₂ (by simp) _)
    have hmore := ih' rounds rest (by simp at hrounds; omega)
    simp [skipItemsFor, skipValueFor_append hw₁, hskip, skipBlank_append hw₂,
      skipBlank_cons (show isBlank ',' = false by decide), hmore]
  | @member w₁ name w₂ w₃ value w₄ hw₁ hn hw₂ hw₃ _ hw₄ ih =>
    refine skipped_members fun rounds rest hrounds => ?_
    have hskip := ih rounds (w₄ ++ '\x7d' :: rest) (by simp at hrounds; omega)
      (ends_blank hw₄ (by simp) rest)
    simp [skipMembersFor, skipBlank_append hw₁, skipBlank_cons (show isBlank '"' = false by decide),
      skipString_quoted hn, skipBlank_append hw₂,
      skipBlank_cons (show isBlank ':' = false by decide), skipValueFor_append hw₃, hskip,
      skipBlank_append hw₄, skipBlank_cons (show isBlank '\x7d' = false by decide)]
  | @moreMembers w₁ name w₂ w₃ value w₄ text hw₁ hn hw₂ hw₃ _ hw₄ _ ih ih' =>
    refine skipped_members fun rounds rest hrounds => ?_
    have hskip := ih rounds (w₄ ++ ',' :: (text ++ '\x7d' :: rest)) (by simp at hrounds; omega)
      (ends_blank hw₄ (by simp) _)
    have hmore := ih' rounds rest (by simp at hrounds; omega)
    simp [skipMembersFor, skipBlank_append hw₁, skipBlank_cons (show isBlank '"' = false by decide),
      skipString_quoted hn, skipBlank_append hw₂,
      skipBlank_cons (show isBlank ':' = false by decide), skipValueFor_append hw₃, hskip,
      skipBlank_append hw₄, skipBlank_cons (show isBlank ',' = false by decide), hmore]

/-- A well-formed value is skipped. -/
theorem skipValue_wellFormed (h : WellFormed .value text) (hw : Blank w) (hrest : Ends rest) :
    skipValue (w ++ (text ++ rest)) = .ok ((), rest) := by
  unfold skipValue
  rw [skipValueFor_append hw]
  exact h.skipped _ rest (by simp; omega) hrest

/-! ## Wanted values -/

theorem IsString.wellFormed {s : String} (h : IsString s text) : WellFormed .value text := by
  obtain ⟨body, hbody, rfl⟩ := h
  exact .string hbody.quoted

theorem IsBool.wellFormed {b : Bool} (h : IsBool b text) : WellFormed .value text := by
  have htext : text = if b then "true".toList else "false".toList := h
  refine .word ?_
  cases b <;> simp [htext]

theorem stringValue_isString {s : String} (h : IsString s text) (hw : Blank w) (rest : List Char) :
    stringValue (w ++ (text ++ rest)) = .ok (s, rest) := by
  obtain ⟨body, hbody, rfl⟩ := h
  have hread := stringBody_spells hbody rest
  unfold stringValue
  rw [skipBlank_append hw, List.append_assoc, List.cons_append, skipBlank_cons (by decide)]
  exact hread

/-- A value stands for one string only. -/
theorem IsString.unique {s t : String} (hs : IsString s text) (ht : IsString t text) : s = t := by
  have hread := stringValue_isString hs blank_nil []
  have heq := hread.symm.trans (stringValue_isString ht blank_nil [])
  simpa using heq

/-- Where a string is wanted, a value is read if it is a string that spells something, and then to
    its end. -/
theorem stringValue_wellFormed (h : WellFormed .value text) (hw : Blank w) (rest : List Char) :
    (∃ e, stringValue (w ++ (text ++ rest)) = .error e) ∨
      ∃ s, IsString s text ∧ stringValue (w ++ (text ++ rest)) = .ok (s, rest) := by
  obtain ⟨c, cs, rfl, hblank, -, hstring, -⟩ := h.head
  by_cases hc : c = '"'
  · subst hc
    obtain ⟨body, hbody, rfl⟩ := hstring rfl
    rcases stringBody_quoted hbody rest with ⟨e, he⟩ | ⟨s, hs, -⟩
    · refine Or.inl ⟨e, ?_⟩
      unfold stringValue
      rw [skipBlank_append hw, List.cons_append, skipBlank_cons hblank, List.append_assoc]
      exact he
    · have hs : IsString s ('"' :: (body ++ ['"'])) := ⟨body, hs, rfl⟩
      exact Or.inr ⟨s, hs, stringValue_isString hs hw rest⟩
  · refine Or.inl ?_
    unfold stringValue
    rw [skipBlank_append hw, List.cons_append, skipBlank_cons hblank]
    simp [hc]

theorem boolValue_isBool {b : Bool} (h : IsBool b text) (hw : Blank w) (rest : List Char) :
    boolValue (w ++ (text ++ rest)) = .ok (b, rest) := by
  unfold boolValue
  rw [skipBlank_append hw]
  cases b with
  | true =>
    have htext : text = "true".toList := h
    rw [htext]
    rfl
  | false =>
    have htext : text = "false".toList := h
    rw [htext]
    rfl

theorem IsBool.unique {a b : Bool} (ha : IsBool a text) (hb : IsBool b text) : a = b := by
  have heq := (boolValue_isBool ha blank_nil []).symm.trans (boolValue_isBool hb blank_nil [])
  simpa using heq

/-- Where a boolean is wanted, any other value is a fault. -/
theorem boolValue_wellFormed (h : WellFormed .value text) (hw : Blank w) (rest : List Char) :
    (∃ e, boolValue (w ++ (text ++ rest)) = .error e) ∨
      ∃ b, IsBool b text ∧ boolValue (w ++ (text ++ rest)) = .ok (b, rest) := by
  obtain ⟨c, cs, rfl, hblank, -, -, htrue, hfalse⟩ := h.head
  by_cases ht : c = 't'
  · exact Or.inr ⟨true, htrue ht, boolValue_isBool (htrue ht) hw rest⟩
  by_cases hf : c = 'f'
  · exact Or.inr ⟨false, hfalse hf, boolValue_isBool (hfalse hf) hw rest⟩
  refine Or.inl ?_
  unfold boolValue
  rw [skipBlank_append hw, List.cons_append, skipBlank_cons hblank]
  simp [ht, hf]

end TxRelay.Json
