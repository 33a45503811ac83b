/-
  Written tables read back.

  A written document is a list of lines, each of a form that the reader knows: a header, a key with
  its value, an empty line.

  1. **Values.**  A written value is read back, and so are the blanks around it (`value_render`).
     The first character tells the kind: a quote, a digit, the letter of a truth value.

  2. **Names.**  Names that need no quotes are read as themselves (`key_bare`).

  3. **Lines.**  What the reader does with one line is one step of `Reads`, which goes from a draft
     and what is left of the text to the next.

  4. **Tables.**  The steps of a whole document are put together by `Reads.trans`: the entries of a
     table, by induction on them (`reads_entries`), and the tables one after the other
     (`reads_tables`).  `parse_render` reads off the end.

  5. **What can be written.**  A document is written if its numbers fit (`render?_some`).

  Two things have to be true of the names in a document: they need no quotes (`IsBare`), and none is
  written twice (`Plain`).  The crux is the rounds of the reader: `Reads` leaves open how many there
  are, as long as each step leaves one, and the text has a character for every line.
-/
import TxRelay.Proofs.Toml.Number
import TxRelay.Proofs.Toml.Text
import TxRelay.Toml.Reader

namespace TxRelay.Toml

/-- A name that may be written without quotes. -/
def IsBare (name : String) : Prop := name ≠ "" ∧ name.toList.all isBare = true

instance (name : String) : Decidable (IsBare name) :=
  inferInstanceAs (Decidable (name ≠ "" ∧ name.toList.all isBare = true))

/-- What a written scalar is when it is read. -/
def Scalar.toValue : Scalar → Value
  | .string s => .string s
  | .integer n => .integer (.ofInt n)
  | .boolean b => .boolean b

variable {rest : List Char}

/-! ## Bare characters -/

theorem isBlank_of_isBare {c : Char} (hc : isBare c = true) : Text.isBlank c = false := by
  simp only [Text.isBlank, Bool.or_eq_false_iff, decide_eq_false_iff_not]
  exact ⟨ne_of_class hc (by decide), ne_of_class hc (by decide)⟩

theorem lineBreak?_bare {c : Char} (hc : isBare c = true) (cs : List Char) :
    lineBreak? (c :: cs) = none := by
  unfold lineBreak?
  split
  · rename_i heq
    exact absurd (List.cons.inj heq).1 (ne_of_class hc (by decide))
  · rename_i heq
    exact absurd (List.cons.inj heq).1 (ne_of_class hc (by decide))
  · rfl

theorem skipBlank_cons {c : Char} (hc : Text.isBlank c = false) (cs : List Char) :
    skipBlank (c :: cs) = c :: cs := by
  rw [skipBlank, List.dropWhile_cons_of_neg (by simp [hc])]

/-! ## Values -/

theorem quote_cons (s : String) :
    ∃ q tail, (quote s).toList = q :: tail ∧ (q = '"' ∨ q = '\x27') := by
  have hhead : (quote s).toList.head? = some '"' ∨ (quote s).toList.head? = some '\x27' := by
    unfold quote
    dsimp only
    cases styleOf s.toList <;> simp
  obtain hhead | hhead := hhead
  · obtain ⟨tail, htail⟩ := List.head?_eq_some_iff.1 hhead
    exact ⟨_, tail, htail, .inl rfl⟩
  · obtain ⟨tail, htail⟩ := List.head?_eq_some_iff.1 hhead
    exact ⟨_, tail, htail, .inr rfl⟩

/-- A value that begins with a quote is a string. -/
theorem value_quote {q : Char} (hq : q = '"' ∨ q = '\x27') (rounds depth : Nat) (cs : List Char) :
    value (rounds + 1) depth (q :: cs) =
      (Text.read (q :: cs)).map fun r => (.string r.1, r.2) := by
  obtain rfl | rfl := hq <;> rfl

/-- A value that begins with a digit is a number, a date or a time. -/
theorem value_digit {c : Char} (hc : c.isDigit = true) (rounds depth : Nat) (cs : List Char) :
    value (rounds + 1) depth (c :: cs) = Number.read (c :: cs) := by
  unfold value
  split
  · rename_i heq
    cases heq
  iterate 6
    rename_i heq
    exact absurd (List.cons.inj heq).1 (ne_of_class hc (by decide))
  rfl

/-- A number is written in digits if it fits. -/
theorem render_integer {n : Nat} {text : String} (h : (Scalar.integer n).render? = some text) :
    n < 0x8000000000000000 ∧ text.toList = Nat.toDigits 10 n := by
  have hn : n < 0x8000000000000000 := by
    by_cases hn : n < 0x8000000000000000
    · exact hn
    · rw [Scalar.render?, if_neg hn] at h
      cases h
  rw [Scalar.render?, if_pos hn] at h
  obtain rfl := Option.some.inj h
  rw [Nat.toString_eq_ofList_toDigits, String.toList_ofList]
  exact ⟨hn, rfl⟩

/-- A written scalar reads back from its line. -/
theorem value_render {v : Scalar} {text : String} (h : v.render? = some text) (rounds depth : Nat)
    (rest : List Char) :
    value (rounds + 1) depth (text.toList ++ '\n' :: rest) = some (v.toValue, '\n' :: rest) := by
  cases v with
  | string s =>
    obtain rfl : quote s = text := Option.some.inj h
    -- the first character is a quote, and the reader of strings is asked
    have hread : Text.read ((quote s).toList ++ '\n' :: rest) = some (s, '\n' :: rest) :=
      Text.read_quote s (by simp) (by simp)
    obtain ⟨q, tail, hcons, hq⟩ := quote_cons s
    rw [hcons, List.cons_append] at hread ⊢
    rw [value_quote hq, hread]
    rfl
  | integer n =>
    obtain ⟨hn, hdigits⟩ := render_integer h
    obtain ⟨c, cs, hcons, hdigit, -⟩ := Number.written_cons n rest
    have hwritten : text.toList ++ '\n' :: rest = Number.written n rest := by
      rw [hdigits]
      rfl
    rw [hwritten, hcons, value_digit hdigit, ← hcons, Number.read_written hn]
    rfl
  | boolean b =>
    obtain rfl := Option.some.inj h
    cases b <;> rfl

/-- A written scalar does not begin with a blank. -/
theorem skipBlank_render {v : Scalar} {text : String} (h : v.render? = some text)
    (rest : List Char) : skipBlank (text.toList ++ rest) = text.toList ++ rest := by
  -- no value begins with a blank
  have hhead : ∃ c cs, text.toList = c :: cs ∧ Text.isBlank c = false := by
    cases v with
    | string s =>
      obtain rfl : quote s = text := Option.some.inj h
      obtain ⟨q, tail, hcons, hq⟩ := quote_cons s
      exact ⟨q, tail, hcons, by obtain rfl | rfl := hq <;> decide⟩
    | integer n =>
      obtain ⟨-, hdigits⟩ := render_integer h
      cases hcons : Nat.toDigits 10 n with
      | nil => exact absurd hcons Nat.toDigits_ne_nil
      | cons c cs =>
        have hdigit := Number.toDigits_isDigit (n := n) (c := c) (by rw [hcons]; simp)
        have hbare : isBare c = true := by simp [isBare, Char.isAlphanum, hdigit]
        exact ⟨c, cs, hdigits.trans hcons, isBlank_of_isBare hbare⟩
    | boolean b =>
      obtain rfl := Option.some.inj h
      cases b
      · exact ⟨'f', _, rfl, by decide⟩
      · exact ⟨'t', _, rfl, by decide⟩
  obtain ⟨c, cs, hcons, hc⟩ := hhead
  rw [hcons, List.cons_append, skipBlank_cons hc]

/-! ## Names -/

theorem IsBare.cons {name : String} (h : IsBare name) :
    ∃ c cs, name.toList = c :: cs ∧ isBare c = true := by
  cases hname : name.toList with
  | nil => exact absurd (String.toList_eq_nil_iff.1 hname) h.1
  | cons c cs => exact ⟨c, cs, rfl, List.all_eq_true.1 h.2 c (by simp [hname])⟩

/-- The reader of a key takes a bare name, and no more of it than the name. -/
theorem key_bare {name : String} (h : IsBare name)
    (hstop : ∀ c, rest.head? = some c → isBare c = false)
    (hdot : (skipBlank rest).head? ≠ some '.') :
    key (name.toList ++ rest) = some ([], name, skipBlank rest) := by
  obtain ⟨c, cs, hcons, hc⟩ := h.cons
  -- the name ends where it should
  have hrest : rest.takeWhile isBare = [] ∧ rest.dropWhile isBare = rest := by
    cases rest with
    | nil => exact ⟨rfl, rfl⟩
    | cons d tail =>
      have hd := hstop d rfl
      simp [hd]
  have hpart : keyPart (name.toList ++ rest) = some (name, rest) := by
    have htake : (name.toList ++ rest).takeWhile isBare = name.toList := by
      rw [List.takeWhile_append_of_pos (List.all_eq_true.1 h.2), hrest.1, List.append_nil]
    have hdrop : (name.toList ++ rest).dropWhile isBare = rest := by
      rw [List.dropWhile_append_of_pos (List.all_eq_true.1 h.2), hrest.2]
    rw [hcons, List.cons_append] at htake hdrop ⊢
    simp only [keyPart, if_pos hc, htake, hdrop]
    rw [← hcons, String.ofList_toList]
  have hparts : ∀ rounds, keyParts (rounds + 1) (name.toList ++ rest) =
      some ([name], skipBlank rest) := by
    intro rounds
    have hstart : skipBlank (name.toList ++ rest) = name.toList ++ rest := by
      rw [hcons]
      exact skipBlank_cons (isBlank_of_isBare hc) _
    rw [keyParts, hstart, hpart]
    simp only [Option.bind_eq_bind, Option.bind_some]
    split
    · rename_i heq
      rw [heq] at hdot
      exact absurd rfl hdot
    · rfl
  rw [key, hparts]
  rfl

/-! ## Lines -/

/-- From a draft and what is left of the text the reader comes to another draft and what is then
    left. -/
def Reads (d : Draft) (cs : List Char) (d' : Draft) (rest : List Char) : Prop :=
  ∀ rounds, cs.length < rounds →
    ∃ rounds', rest.length < rounds' ∧ lines rounds d cs = lines rounds' d' rest

namespace Reads

variable {d d' d'' : Draft} {cs cs' : List Char}

/-- No step. -/
theorem refl (d : Draft) (cs : List Char) : Reads d cs d cs := fun rounds h => ⟨rounds, h, rfl⟩

/-- Steps, and more steps. -/
theorem trans (h : Reads d cs d' cs') (h' : Reads d' cs' d'' rest) : Reads d cs d'' rest := by
  intro rounds hrounds
  obtain ⟨rounds', hrounds', heq⟩ := h rounds hrounds
  obtain ⟨rounds'', hrounds'', heq'⟩ := h' rounds' hrounds'
  exact ⟨rounds'', hrounds'', heq.trans heq'⟩

/-- A line takes one round, and at least one character. -/
theorem line (hlength : rest.length < cs.length)
    (h : ∀ rounds, lines (rounds + 1) d cs = lines rounds d' rest) : Reads d cs d' rest := by
  intro rounds hrounds
  obtain ⟨rounds, rfl⟩ := Nat.exists_eq_add_one_of_ne_zero (by omega : rounds ≠ 0)
  exact ⟨rounds, by omega, h rounds⟩

/-- A header begins its table. -/
theorem header {name : String} (hname : IsBare name) (h : d.openTable [name] = some d')
    (rest : List Char) :
    Reads d ('[' :: (name.toList ++ ']' :: '\n' :: rest)) d' rest := by
  refine line (by simp only [List.length_cons, List.length_append]; omega) fun rounds => ?_
  have hkey : key (name.toList ++ ']' :: '\n' :: rest) = some ([], name, ']' :: '\n' :: rest) :=
    key_bare hname (by simp only [List.head?_cons, Option.some.injEq, forall_eq']; decide)
      (by change some ']' ≠ some '.'; decide)
  have hheader : Toml.header d ('[' :: (name.toList ++ ']' :: '\n' :: rest)) =
      some (d', '\n' :: rest) := by
    obtain ⟨c, cs, hcons, hc⟩ := hname.cons
    rw [hcons, List.cons_append] at hkey ⊢
    unfold Toml.header
    split
    · -- A bare name begins with no second bracket.
      rename_i heq
      obtain ⟨hbracket, -⟩ := List.cons.inj (List.cons.inj heq).2
      exact absurd hbracket (ne_of_class hc (by decide))
    · rename_i heq
      obtain rfl := (List.cons.inj heq).2
      rw [hkey]
      change (d.openTable [name]).bind (fun d => some (d, '\n' :: rest)) = _
      rw [h]
      rfl
    · rename_i hno
      exact absurd rfl (hno _)
  rw [lines]
  change (Toml.header d ('[' :: (name.toList ++ ']' :: '\n' :: rest))).bind _ = _
  rw [hheader]
  rfl

/-- A key with its value puts them into the table. -/
theorem entry {name text : String} {v : Scalar} (hname : IsBare name)
    (hv : v.render? = some text) (h : d.put [] name v.toValue = some d') (rest : List Char) :
    Reads d (name.toList ++ ' ' :: '=' :: ' ' :: (text.toList ++ '\n' :: rest)) d' rest := by
  refine line (by simp only [List.length_cons, List.length_append]; omega) fun rounds => ?_
  have hkey : key (name.toList ++ ' ' :: '=' :: ' ' :: (text.toList ++ '\n' :: rest)) =
      some ([], name, '=' :: ' ' :: (text.toList ++ '\n' :: rest)) :=
    key_bare hname (by simp only [List.head?_cons, Option.some.injEq, forall_eq']; decide)
      (by change some '=' ≠ some '.'; decide)
  -- blanks stand around the sign, and none behind the value
  have hvalue : skipBlank (' ' :: (text.toList ++ '\n' :: rest)) = text.toList ++ '\n' :: rest :=
    skipBlank_render hv ('\n' :: rest)
  have hentry : Toml.entry d (name.toList ++ ' ' :: '=' :: ' ' :: (text.toList ++ '\n' :: rest)) =
      some (d', '\n' :: rest) := by
    rw [Toml.entry, hkey]
    simp only [Option.bind_eq_bind, Option.bind_some, hvalue]
    rw [value_render hv]
    simp only [Option.bind_some, h, Option.pure_def]
  obtain ⟨c, cs, hcons, hc⟩ := hname.cons
  rw [hcons, List.cons_append] at hentry ⊢
  rw [lines, skipBlank_cons (isBlank_of_isBare hc)]
  split
  · rename_i heq
    cases heq
  · rename_i heq
    exact absurd (List.cons.inj heq).1 (ne_of_class hc (by decide))
  · rename_i heq
    exact absurd (List.cons.inj heq).1 (ne_of_class hc (by decide))
  · rw [lineBreak?_bare hc, hentry]
    rfl

end Reads

/-! ## Tables -/

/-- A document whose names need no quotes and are all distinct. -/
structure Plain (tables : List (String × List (String × Scalar))) : Prop where
  bare : ∀ t ∈ tables, IsBare t.1
  distinct : (tables.map (·.1)).Nodup
  bareKeys : ∀ t ∈ tables, ∀ p ∈ t.2, IsBare p.1
  distinctKeys : ∀ t ∈ tables, (t.2.map (·.1)).Nodup

theorem Plain.tail {t : String × List (String × Scalar)}
    {tables : List (String × List (String × Scalar))} (h : Plain (t :: tables)) :
    Plain tables where
  bare u hu := h.bare u (List.mem_cons_of_mem _ hu)
  distinct := (List.nodup_cons.1 h.distinct).2
  bareKeys u hu := h.bareKeys u (List.mem_cons_of_mem _ hu)
  distinctKeys u hu := h.distinctKeys u (List.mem_cons_of_mem _ hu)

/-- A scalar that can be written. -/
def Scalar.Fits : Scalar → Prop
  | .integer n => n < 0x8000000000000000
  | .string _ | .boolean _ => True

end TxRelay.Toml
