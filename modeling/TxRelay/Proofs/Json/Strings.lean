/-
  Strings, written, read and skipped.

  A string of a document is any text between quotes that the grammar allows (`Quoted`), and a text
  that the grammar allows spells something (`Spells`) or nothing: a lone surrogate stands for no
  character.

  1. **Escapes.**  What one escape is read as: a letter, four digits that are a character, or two
     times four digits that are a pair of surrogates.  A half that has no other half is a fault
     (`unicodeEscape_low`, `unicodeEscape_high`).

  2. **Reading.**  A reader of strings takes any text that spells something, and gives what it
     spells (`stringBody_spells`); on any other text that the grammar allows it ends in a fault
     (`spells_or_faults`).  So it never gives anything but what is spelled (`stringBody_quoted`).

  3. **Skipping.**  To skip a string the grammar is enough (`skipString_quoted`); what it spells, if
     anything, is not asked.

  4. **Writing.**  What the writer writes is one of the many texts that spell the same
     (`spells_escape`), and it has no character below U+0020 (`printable_quote`).

  The crux is that the reader decides about a surrogate by what comes two pieces later, while the
  grammar goes piece by piece; so the induction in part 2 is on the length of the text, and the case
  of a high surrogate asks which piece follows (`second_half_or_fault`).
-/
import Mathlib.Data.List.DropRight
import TxRelay.Json.Grammar
import TxRelay.Json.Quote
import TxRelay.Json.Read

namespace TxRelay.Json

variable {c l : Char} {n : Nat} {ds form text s w cs : List Char}

/-! ## Blanks -/

theorem isBlank_iff : isBlank c = true ↔ c ∈ [' ', '\n', '\t', '\x0d'] := by
  simp [isBlank, or_assoc]

theorem blank_nil : Blank [] := by simp [Blank]

/-- Blanks in front do not matter. -/
theorem skipBlank_append (h : Blank w) (rest : List Char) :
    skipBlank (w ++ rest) = skipBlank rest := by
  unfold skipBlank
  exact List.dropWhile_append_of_pos fun c hc => isBlank_iff.mpr (h c hc)

/-- The first character that is no blank. -/
theorem skipBlank_cons (h : isBlank c = false) (cs : List Char) :
    skipBlank (c :: cs) = c :: cs := by
  simp [skipBlank, h]

@[simp] theorem skipBlank_skipBlank (cs : List Char) :
    skipBlank (skipBlank cs) = skipBlank cs :=
  List.dropWhile_idempotent isBlank cs

/-! ## Hexadecimal digits -/

/-- A hexadecimal digit is read, and takes one byte. -/
theorem hexValue?_digit (h : HexDigit c n) :
    Text.hexValue? c = some n ∧ n < 16 ∧ c.utf8Size = 1 := by
  have hdigit (digits : String) (hlen : digits.toList.length = 16)
      (hall : ∀ n < 16, digits.toList[n]?.all fun c =>
        Text.hexValue? c = some n ∧ n < 16 ∧ c.utf8Size = 1)
      (h : digits.toList[n]? = some c) : Text.hexValue? c = some n ∧ n < 16 ∧ c.utf8Size = 1 := by
    have hn : n < 16 := hlen ▸ (List.getElem?_eq_some_iff.mp h).1
    have hc := hall n hn
    rwa [h, Option.all_some, decide_eq_true_eq] at hc
  rcases h with h | h
  · exact hdigit _ rfl (by decide) h
  · exact hdigit _ rfl (by decide) h

/-- Four digits are read as their number. -/
theorem fourHex_digits (h : FourDigits ds n) (rest : List Char) :
    fourHex (ds ++ rest) = .ok (n, rest) := by
  cases h with
  | mk ha hb hc hd =>
    obtain ⟨ha, -, ha'⟩ := hexValue?_digit ha
    obtain ⟨hb, -, hb'⟩ := hexValue?_digit hb
    obtain ⟨hc, -, hc'⟩ := hexValue?_digit hc
    obtain ⟨hd, -, hd'⟩ := hexValue?_digit hd
    simp [fourHex, ha, hb, hc, hd, ha', hb', hc', hd']

theorem FourDigits.lt (h : FourDigits ds n) : n < 0x10000 := by
  cases h with
  | mk ha hb hc hd =>
    have hi := (hexValue?_digit ha).2.1
    have hj := (hexValue?_digit hb).2.1
    have hk := (hexValue?_digit hc).2.1
    have hl := (hexValue?_digit hd).2.1
    omega

/-- Every digit of the writer is one of the grammar. -/
theorem hexDigit_lowerDigit {n : Nat} (h : n < 16) : HexDigit (Text.lowerDigit n) n := by
  have hall : ∀ n < 16, "0123456789abcdef".toList[n]? = some (Text.lowerDigit n) := by decide
  exact Or.inl (hall n h)

/-! ## Escapes -/

theorem letterEscape?_of_mem (h : (l, c) ∈ letterEscapes) : letterEscape? l = some c ∧ l ≠ 'u' := by
  have hall : ∀ p ∈ letterEscapes, letterEscape? p.1 = some p.2 ∧ p.1 ≠ 'u' := by decide
  exact hall _ h

theorem escapeSequence_letter (h : (l, c) ∈ letterEscapes) (rest : List Char) :
    escapeSequence (l :: rest) = .ok (c, rest) := by
  obtain ⟨hl, hu⟩ := letterEscape?_of_mem h
  simp [escapeSequence, hl]

/-- The numbers of characters. -/
theorem toNat_valid (c : Char) :
    c.toNat < 0xd800 ∨ 0xdfff < c.toNat ∧ c.toNat < 0x110000 := c.valid

/-- A character is no surrogate. -/
theorem not_surrogate (c : Char) : isLow c.toNat = false ∧ isHigh c.toNat = false := by
  have h := toNat_valid c
  simp only [isLow, isHigh, Bool.and_eq_false_iff, decide_eq_false_iff_not]
  omega

/-- Four digits that are no surrogate are read as their character. -/
theorem escapeSequence_unit (h : FourDigits ds c.toNat) (rest : List Char) :
    escapeSequence ('u' :: (ds ++ rest)) = .ok (c, rest) := by
  obtain ⟨hlow, hhigh⟩ := not_surrogate c
  show unicodeEscape (ds ++ rest) = _
  unfold unicodeEscape
  rw [fourHex_digits h]
  simp [bind, Except.bind, pure, Except.pure, hlow, hhigh]

/-- The halves of a pair are told apart by where they lie, and make the number again. -/
theorem surrogates {m hi lo : Nat} (big : 0x10000 ≤ m) (valid : m < 0x110000)
    (hhi : hi = 0xd800 + (m - 0x10000) / 0x400) (hlo : lo = 0xdc00 + (m - 0x10000) % 0x400) :
    isHigh hi = true ∧ isLow lo = true ∧
      0x10000 + (hi - 0xd800) * 0x400 + (lo - 0xdc00) = m := by
  simp only [isLow, isHigh, Bool.and_eq_true, decide_eq_true_eq]
  omega

theorem isLow_of_isHigh (h : isHigh n = true) : isLow n = false := by
  simp only [isHigh, Bool.and_eq_true, decide_eq_true_eq] at h
  simp only [isLow, Bool.and_eq_false_iff, decide_eq_false_iff_not]
  omega

/-- A low surrogate that comes first is a fault. -/
theorem unicodeEscape_low (h : FourDigits ds n) (low : isLow n = true) (rest : List Char) :
    unicodeEscape (ds ++ rest) = .error .malformed := by
  unfold unicodeEscape
  rw [fourHex_digits h]
  simp only [bind, Except.bind, low, if_true]
  rfl

/-- After the first half of a pair only an escape of the second half may stand. -/
theorem unicodeEscape_high (h : FourDigits ds n) (high : isHigh n = true) (rest : List Char) :
    unicodeEscape (ds ++ rest) =
      match rest with
      | [] => .error .truncated
      | '\\' :: [] => .error .truncated
      | '\\' :: 'u' :: cs => do
        let (m, cs) ← fourHex cs
        if isLow m then pure (Char.ofNat (0x10000 + (n - 0xd800) * 0x400 + (m - 0xdc00)), cs)
        else throw .malformed
      | _ => .error .malformed := by
  have low := isLow_of_isHigh high
  unfold unicodeEscape
  rw [fourHex_digits h]
  simp only [bind, Except.bind, pure, Except.pure, low, high, if_true]
  rfl

/-- A pair of surrogates is read as its character. -/
theorem escapeSequence_pair {es : List Char} (big : 0x10000 ≤ c.toNat)
    (hd : FourDigits ds (0xd800 + (c.toNat - 0x10000) / 0x400))
    (he : FourDigits es (0xdc00 + (c.toNat - 0x10000) % 0x400)) (rest : List Char) :
    escapeSequence ('u' :: (ds ++ '\\' :: 'u' :: (es ++ rest))) = .ok (c, rest) := by
  have hvalid : c.toNat < 0x110000 := by
    have := toNat_valid c
    omega
  obtain ⟨hhigh, hlow, hback⟩ := surrogates big hvalid rfl rfl
  show unicodeEscape (ds ++ '\\' :: 'u' :: (es ++ rest)) = _
  rw [unicodeEscape_high hd hhigh]
  simp only [fourHex_digits he, bind, Except.bind, hlow, if_true, hback, Char.ofNat_toNat]
  rfl

/-! ## Reading strings -/

/-- An escape that is at fault. -/
theorem stringFor_fault {e : Fault} (h : escapeSequence cs = .error e) (rounds : Nat) :
    stringFor (rounds + 1) ('\\' :: cs) = .error e := by
  simp only [stringFor, h, bind, Except.bind]

theorem stringFor_escape {rest : List Char} (h : escapeSequence cs = .ok (c, rest)) (rounds : Nat) :
    stringFor (rounds + 1) ('\\' :: cs) =
      (stringFor rounds rest).map fun p => (c :: p.1, p.2) := by
  simp only [stringFor, h, bind, Except.bind]
  cases stringFor rounds rest <;> rfl

theorem stringFor_plain (h : Unescaped c) (rounds : Nat) (cs : List Char) :
    stringFor (rounds + 1) (c :: cs) = (stringFor rounds cs).map fun p => (c :: p.1, p.2) := by
  obtain ⟨hcontrol, hquote, hbackslash⟩ := h
  have hlow : ¬ c.toNat < 0x20 := by omega
  rw [stringFor.eq_5]
  · simp only [if_neg hlow]
    cases stringFor rounds cs <;> rfl
  · exact hquote
  · exact hbackslash

/-- However a character is written, one round reads it. -/
theorem stringFor_char (h : SpellsChar form c) (rounds : Nat) (rest : List Char) :
    stringFor (rounds + 1) (form ++ rest) =
      (stringFor rounds rest).map fun p => (c :: p.1, p.2) := by
  cases h with
  | plain hc => exact stringFor_plain hc rounds rest
  | letter hl => exact stringFor_escape (escapeSequence_letter hl rest) rounds
  | unit hd => exact stringFor_escape (escapeSequence_unit hd rest) rounds
  | @pair ds es _ big hd he =>
    have hread := stringFor_escape (escapeSequence_pair big hd he rest) rounds
    rwa [List.append_assoc]

theorem SpellsChar.length_pos (h : SpellsChar form c) : 0 < form.length := by
  cases h <;> simp

/-- A text that spells something is read as that. -/
theorem stringFor_spells (h : Spells text s) (rest : List Char) :
    ∀ rounds, text.length < rounds →
      stringFor rounds (text ++ '"' :: rest) = .ok (s, rest) := by
  induction h with
  | nil =>
    intro rounds hrounds
    obtain ⟨rounds, rfl⟩ := Nat.exists_eq_add_one_of_ne_zero (show rounds ≠ 0 by omega)
    rfl
  | @cons form text s c hc _ ih =>
    intro rounds hrounds
    obtain ⟨rounds, rfl⟩ := Nat.exists_eq_add_one_of_ne_zero (show rounds ≠ 0 by omega)
    have hpos := hc.length_pos
    rw [List.length_append] at hrounds
    rw [List.append_assoc, stringFor_char hc, ih rounds (by omega)]
    rfl

/-- A text that spells something is read as that. -/
theorem stringBody_spells {name : String} (h : Spells text name.toList) (rest : List Char) :
    stringBody (text ++ '"' :: rest) = .ok (name, rest) := by
  have hrounds : text.length < (text ++ '"' :: rest).length + 1 := by
    rw [List.length_append]
    omega
  unfold stringBody
  rw [stringFor_spells h rest _ hrounds]
  simp [bind, Except.bind, pure, Except.pure]

/-! ## Text that spells nothing -/

/-- A unit that is no surrogate is a character. -/
theorem exists_char (hn : n < 0x10000) (low : isLow n = false) (high : isHigh n = false) :
    ∃ c : Char, c.toNat = n := by
  simp only [isLow, isHigh, Bool.and_eq_false_iff, decide_eq_false_iff_not] at low high
  have hvalid : n.isValidChar := by
    show n < 0xd800 ∨ 0xdfff < n ∧ n < 0x110000
    omega
  exact ⟨Char.ofNat n, by rw [Char.ofNat, dif_pos hvalid]; rfl⟩

/-- Two surrogates that stand together are a character. -/
theorem exists_char_of_pair {hi lo : Nat} (high : isHigh hi = true) (low : isLow lo = true) :
    ∃ c : Char, 0x10000 ≤ c.toNat ∧ hi = 0xd800 + (c.toNat - 0x10000) / 0x400 ∧
      lo = 0xdc00 + (c.toNat - 0x10000) % 0x400 := by
  simp only [isLow, isHigh, Bool.and_eq_true, decide_eq_true_eq] at low high
  generalize hm : 0x10000 + (hi - 0xd800) * 0x400 + (lo - 0xdc00) = m
  have hvalid : m.isValidChar := by
    show m < 0xd800 ∨ 0xdfff < m ∧ m < 0x110000
    omega
  have hback : (Char.ofNat m).toNat = m := by
    rw [Char.ofNat, dif_pos hvalid]
    rfl
  exact ⟨Char.ofNat m, by omega, by omega, by omega⟩

/-- The text spells something, or reading it is a fault whatever follows its closing quote. -/
def SpellsOrFaults (text : List Char) : Prop :=
  (∃ s, Spells text s) ∨ ∀ rounds rest, ∃ e, stringFor rounds (text ++ '"' :: rest) = .error e

theorem SpellsOrFaults.cons (hc : SpellsChar form c) (h : SpellsOrFaults text) :
    SpellsOrFaults (form ++ text) := by
  rcases h with ⟨s, hs⟩ | hfault
  · exact Or.inl ⟨c :: s, .cons hc hs⟩
  · refine Or.inr fun rounds rest => ?_
    cases rounds with
    | zero => exact ⟨.truncated, rfl⟩
    | succ rounds =>
      obtain ⟨e, he⟩ := hfault rounds rest
      refine ⟨e, ?_⟩
      rw [List.append_assoc, stringFor_char hc, he]
      rfl

theorem SpellsOrFaults.of_unit {e : Fault}
    (h : ∀ rest, unicodeEscape (ds ++ (text ++ '"' :: rest)) = .error e) :
    SpellsOrFaults ('\\' :: 'u' :: ds ++ text) := by
  refine Or.inr fun rounds rest => ?_
  cases rounds with
  | zero => exact ⟨.truncated, rfl⟩
  | succ rounds =>
    have hescape : escapeSequence ('u' :: (ds ++ (text ++ '"' :: rest))) = .error e := h rest
    refine ⟨e, ?_⟩
    rw [List.append_assoc]
    exact stringFor_fault hescape rounds

/-- The piece after the first half of a pair is an escape of the second half, or the text is at
    fault. -/
theorem second_half_or_fault (h : FourDigits ds n) (high : isHigh n = true) (hq : Quoted text) :
    (∃ es text' m, text = '\\' :: 'u' :: es ++ text' ∧ FourDigits es m ∧ isLow m = true ∧
      Quoted text') ∨
      ∀ rest, unicodeEscape (ds ++ (text ++ '"' :: rest)) = .error .malformed := by
  cases hq with
  | nil => exact Or.inr fun rest => unicodeEscape_high h high ('"' :: rest)
  | cons hp hq =>
    cases hp with
    | plain hc =>
      refine Or.inr fun rest => ?_
      rw [unicodeEscape_high h high]
      simp [hc.2.2]
    | letter hl =>
      refine Or.inr fun rest => ?_
      rw [unicodeEscape_high h high]
      simp [(letterEscape?_of_mem hl).2]
    | @unit es m he =>
      by_cases hm : isLow m = true
      · -- the other half
        exact Or.inl ⟨es, _, m, rfl, he, hm, hq⟩
      · refine Or.inr fun rest => ?_
        rw [unicodeEscape_high h high]
        simp only [List.cons_append, List.append_assoc]
        rw [fourHex_digits he]
        simp only [bind, Except.bind, hm, Bool.false_eq_true, if_false]
        rfl

/-- Text between quotes spells something or is at fault: a lone surrogate in it is. -/
theorem spells_or_faults (h : Quoted text) : SpellsOrFaults text := by
  -- A pair is two pieces, so the induction is on the length.
  induction hlen : text.length using Nat.strong_induction_on generalizing text with
  | h k ih =>
    cases h with
    | nil => exact Or.inl ⟨[], .nil⟩
    | @cons piece text hp hq =>
      rw [List.length_append] at hlen
      have hrest : 0 < piece.length → SpellsOrFaults text := fun hpos =>
        ih text.length (by omega) hq rfl
      cases hp with
      | plain hc => exact SpellsOrFaults.cons (.plain hc) (hrest (by simp))
      | letter hl => exact SpellsOrFaults.cons (.letter hl) (hrest (by simp))
      | @unit ds n hd =>
        by_cases low : isLow n = true
        · exact SpellsOrFaults.of_unit fun rest => unicodeEscape_low hd low _
        · by_cases high : isHigh n = true
          · rcases second_half_or_fault hd high hq with ⟨es, text', m, rfl, he, low', hq'⟩ | hfault
            · -- both halves are there: the text goes on two pieces later
              obtain ⟨c, big, hhi, hlo⟩ := exists_char_of_pair high low'
              have hlater : SpellsOrFaults text' := by
                refine ih text'.length ?_ hq' rfl
                simp only [List.length_append, List.length_cons] at hlen
                omega
              have hall := SpellsOrFaults.cons (.pair big (hhi ▸ hd) (hlo ▸ he)) hlater
              rwa [List.append_assoc] at hall
            · exact SpellsOrFaults.of_unit hfault
          · obtain ⟨c, rfl⟩ := exists_char hd.lt (by simpa using low) (by simpa using high)
            exact SpellsOrFaults.cons (.unit hd) (hrest (by simp))

/-- Reading a string is a fault, or it gives what the text spells and stops behind the closing
    quote. -/
theorem stringBody_quoted (h : Quoted text) (rest : List Char) :
    (∃ e, stringBody (text ++ '"' :: rest) = .error e) ∨
      ∃ s : String, Spells text s.toList ∧ stringBody (text ++ '"' :: rest) = .ok (s, rest) := by
  rcases spells_or_faults h with ⟨s, hs⟩ | hfault
  · have hs' : Spells text (String.ofList s).toList := by rwa [String.toList_ofList]
    exact Or.inr ⟨String.ofList s, hs', stringBody_spells hs' rest⟩
  · obtain ⟨e, he⟩ := hfault ((text ++ '"' :: rest).length + 1) rest
    refine Or.inl ⟨e, ?_⟩
    unfold stringBody
    rw [he]
    rfl

/-! ## Skipping strings -/

/-- One round skips a piece. -/
theorem skipStringFor_piece {piece : List Char} (h : Piece piece) (rounds : Nat)
    (rest : List Char) :
    skipStringFor (rounds + 1) (piece ++ rest) = skipStringFor rounds rest := by
  cases h with
  | plain hc =>
    obtain ⟨hcontrol, hquote, hbackslash⟩ := hc
    have hlow : ¬ _ < 0x20 := Nat.not_lt.mpr hcontrol
    show skipStringFor (rounds + 1) (_ :: rest) = _
    -- none of the special forms: no quote and no backslash
    rw [skipStringFor.eq_7]
    · simp only [if_neg hlow]
    · exact hquote
    · rintro rfl -
      exact hbackslash rfl
    · rintro _ rfl -
      exact hbackslash rfl
    · rintro _ _ rfl -
      exact hbackslash rfl
  | letter hl =>
    obtain ⟨hl, hu⟩ := letterEscape?_of_mem hl
    show skipStringFor (rounds + 1) ('\\' :: _ :: rest) = _
    rw [skipStringFor.eq_6]
    · simp [hl]
    · exact hu
  | unit hd =>
    show skipStringFor (rounds + 1) ('\\' :: 'u' :: (_ ++ rest)) = _
    simp only [skipStringFor, fourHex_digits hd, bind, Except.bind]

theorem Piece.length_pos {piece : List Char} (h : Piece piece) : 0 < piece.length := by
  cases h <;> simp

theorem skipStringFor_quoted (h : Quoted text) (rest : List Char) :
    ∀ rounds, text.length < rounds →
      skipStringFor rounds (text ++ '"' :: rest) = .ok ((), rest) := by
  induction h with
  | nil =>
    intro rounds hrounds
    obtain ⟨rounds, rfl⟩ := Nat.exists_eq_add_one_of_ne_zero (show rounds ≠ 0 by omega)
    rfl
  | @cons piece text hp _ ih =>
    intro rounds hrounds
    obtain ⟨rounds, rfl⟩ := Nat.exists_eq_add_one_of_ne_zero (show rounds ≠ 0 by omega)
    have hpos := hp.length_pos
    rw [List.length_append] at hrounds
    rw [List.append_assoc, skipStringFor_piece hp]
    exact ih rounds (by omega)

/-- Any text that the grammar allows is skipped. -/
theorem skipString_quoted (h : Quoted text) (rest : List Char) :
    skipString (text ++ '"' :: rest) = .ok ((), rest) := by
  have hrounds : text.length < (text ++ '"' :: rest).length + 1 := by
    rw [List.length_append]
    omega
  exact skipStringFor_quoted h rest _ hrounds

theorem Quoted.append (h : Quoted text) {text' : List Char} (h' : Quoted text') :
    Quoted (text ++ text') := by
  induction h with
  | nil => exact h'
  | cons hp _ ih =>
    rw [List.append_assoc]
    exact .cons hp ih

theorem SpellsChar.quoted (h : SpellsChar form c) : Quoted form := by
  cases h with
  | plain hc => exact .cons (.plain hc) .nil
  | letter hl => exact .cons (.letter hl) .nil
  | unit hd => simpa using Quoted.cons (.unit hd) .nil
  | pair _ hd he => simpa using Quoted.cons (.unit hd) (.cons (.unit he) .nil)

/-- What spells something is in the grammar. -/
theorem Spells.quoted (h : Spells text s) : Quoted text := by
  induction h with
  | nil => exact .nil
  | cons hc _ ih => exact hc.quoted.append ih

/-! ## Written strings -/

/-- The writer has three ways: a letter, the number of a control character, the character
    itself. -/
theorem escape_cases (c : Char) :
    (∃ l, (l, c) ∈ letterEscapes ∧ escape c = ['\\', l]) ∨
      (c.toNat < 0x20 ∧ escape c =
        ['\\', 'u', '0', '0', Text.lowerDigit (c.toNat / 16), Text.lowerDigit (c.toNat % 16)]) ∨
      (Unescaped c ∧ escape c = [c]) := by
  unfold escape
  split
  iterate 7 exact Or.inl ⟨_, by decide, rfl⟩
  rename_i hquote hbackslash _ _ _ _ _
  by_cases hlow : c.toNat < 0x20
  · rw [if_pos hlow]
    exact Or.inr (Or.inl ⟨hlow, rfl⟩)
  · rw [if_neg hlow]
    exact Or.inr (Or.inr ⟨⟨by omega, hquote, hbackslash⟩, rfl⟩)

theorem spellsChar_escape (c : Char) : SpellsChar (escape c) c := by
  rcases escape_cases c with ⟨l, hl, heq⟩ | ⟨hlow, heq⟩ | ⟨hc, heq⟩
  · rw [heq]
    exact .letter hl
  · have hdigits :
        FourDigits ['0', '0', Text.lowerDigit (c.toNat / 16), Text.lowerDigit (c.toNat % 16)]
          (((0 * 16 + 0) * 16 + c.toNat / 16) * 16 + c.toNat % 16) :=
      .mk (Or.inl rfl) (Or.inl rfl)
        (hexDigit_lowerDigit (by omega)) (hexDigit_lowerDigit (by omega))
    have hnumber : ((0 * 16 + 0) * 16 + c.toNat / 16) * 16 + c.toNat % 16 = c.toNat := by omega
    rw [hnumber] at hdigits
    rw [heq]
    exact .unit hdigits
  · rw [heq]
    exact .plain hc

/-- What is written spells what it was written for. -/
theorem spells_escape (s : List Char) : Spells (s.flatMap escape) s := by
  induction s with
  | nil => exact .nil
  | cons c s ih =>
    rw [List.flatMap_cons]
    exact .cons (spellsChar_escape c) ih

theorem isString_quote (s : String) : IsString s (quote s) :=
  ⟨s.toList.flatMap escape, spells_escape s.toList, rfl⟩

/-- Nothing that a writer puts on a line breaks it. -/
def Printable (text : List Char) : Prop := ∀ c ∈ text, 0x20 ≤ c.toNat

instance (text : List Char) : Decidable (Printable text) :=
  decidable_of_iff (text.all (0x20 ≤ ·.toNat) = true) (by simp [Printable])

theorem Printable.append {text' : List Char} (h : Printable text) (h' : Printable text') :
    Printable (text ++ text') := by
  intro c hc
  rcases List.mem_append.mp hc with hc | hc
  · exact h c hc
  · exact h' c hc

theorem printable_escape (c : Char) : Printable (escape c) := by
  rcases escape_cases c with ⟨l, hl, heq⟩ | ⟨hlow, heq⟩ | ⟨hc, heq⟩
  · have hletters : ∀ p ∈ letterEscapes, 0x20 ≤ ('\\').toNat ∧ 0x20 ≤ p.1.toNat := by decide
    have hl := hletters _ hl
    rw [heq]
    intro d hd
    simp only [List.mem_cons, List.not_mem_nil, or_false] at hd
    rcases hd with rfl | rfl
    · exact hl.1
    · exact hl.2
  · -- a control character is written in digits
    have hdigits : ∀ n < 16, 0x20 ≤ (Text.lowerDigit n).toNat := by decide
    have hhi := hdigits (c.toNat / 16) (by omega)
    have hlo := hdigits (c.toNat % 16) (by omega)
    have hfront : Printable ['\\', 'u', '0', '0'] := by decide
    rw [heq]
    refine Printable.append hfront fun d hd => ?_
    simp only [List.mem_cons, List.not_mem_nil, or_false] at hd
    rcases hd with rfl | rfl
    · exact hhi
    · exact hlo
  · rw [heq]
    intro d hd
    rw [List.mem_singleton] at hd
    exact hd ▸ hc.1

/-- A written string has no character that is not printed. -/
theorem printable_quote (s : String) : Printable (quote s) := by
  have hquote : Printable ['"'] := by decide
  have hbody : Printable (s.toList.flatMap escape) := by
    intro c hc
    obtain ⟨d, -, hd⟩ := List.mem_flatMap.mp hc
    exact printable_escape d c hd
  exact (hquote.append hbody).append hquote

end TxRelay.Json
