/-
  Written whole numbers read back.

  A number is written in decimal digits, without a zero in front of others, and its line ends behind
  it.  The reader has many forms of numbers and tries them one after the other.

  1. **Decimal digits.**  Digits that were written are read as the number again
     (`decimal_written`); the first of them is no zero, unless it is the only one.

  2. **Dates and times.**  Such a text could begin a date or a time.  Each of these wants a mark
     behind a fixed number of digits, and behind the digits of a number there is the end of its line
     (`char_written`).

  3. **Numbers.**  It could also begin a number with a point or an exponent, and again the character
     that makes it one is not there (`float_written`).  So what is left is a whole number, and it
     fits into 64 bits with a sign (`integer_written`).

  The crux is the line break.  No form of a number goes on with it, so every reader that is tried
  first fails at the same place, behind the last digit.
-/
import TxRelay.Proofs.Toml.Text
import TxRelay.Toml.Number

namespace TxRelay.Toml.Number

/-! ## Decimal digits -/

/-- A whole number as it is written, with the rest of the text behind the end of its line. -/
def written (n : Nat) (rest : List Char) : List Char := Nat.toDigits 10 n ++ '\n' :: rest

theorem toDigits_isDigit {n : Nat} {c : Char} (h : c ∈ Nat.toDigits 10 n) : c.isDigit = true :=
  Nat.isDigit_of_mem_toDigits (by decide) (by decide) h

/-- Only the number 0 begins with a zero. -/
theorem head_toDigits {n : Nat} (hn : n ≠ 0) : (Nat.toDigits 10 n).head? ≠ some '0' := by
  induction n using Nat.strongRecOn with
  | ind n ih =>
    by_cases hsmall : n < 10
    · have hdigit : ∀ n < 10, n ≠ 0 → [n.digitChar].head? ≠ some '0' := by decide
      rw [Nat.toDigits_of_lt_base hsmall]
      exact hdigit n hsmall hn
    · have hfirst := ih (n / 10) (by omega) (by omega)
      have hsome : (Nat.toDigits 10 (n / 10)).head?.isSome := by
        rw [List.isSome_head?]
        exact Nat.toDigits_ne_nil
      rw [Nat.toDigits_of_base_le (by decide) (by omega), List.head?_append,
        Option.or_of_isSome hsome]
      exact hfirst

/-- The first character of a written number is a digit, and none follows if it is a zero. -/
theorem written_cons (n : Nat) (rest : List Char) :
    ∃ c cs, written n rest = c :: cs ∧ c.isDigit = true ∧
      (c = '0' → n = 0 ∧ cs = '\n' :: rest) := by
  by_cases hn : n = 0
  · subst hn
    exact ⟨'0', '\n' :: rest, rfl, by decide, fun _ => ⟨rfl, rfl⟩⟩
  · have hhead := head_toDigits hn
    have hdigit := @toDigits_isDigit n
    unfold written
    cases hds : Nat.toDigits 10 n with
    | nil => exact absurd hds Nat.toDigits_ne_nil
    | cons c cs =>
      rw [hds] at hhead hdigit
      refine ⟨c, cs ++ '\n' :: rest, rfl, hdigit (List.mem_cons_self ..), ?_⟩
      rintro rfl
      exact absurd rfl hhead

/-- The characters between two others are those whose numbers are. -/
theorem le_iff_toNat {c d : Char} : c ≤ d ↔ c.toNat ≤ d.toNat := by
  rw [Char.le_def]
  exact UInt32.le_iff_toNat_le

/-- A decimal digit is read as its value. -/
theorem digit?_of_isDigit {c : Char} (h : c.isDigit = true) :
    digit? 10 c = some (c.toNat - '0'.toNat) := by
  have hrange := Char.isDigit_iff_toNat.1 h
  have hdigit : '0' ≤ c ∧ c ≤ '9' := ⟨le_iff_toNat.2 hrange.1, le_iff_toNat.2 hrange.2⟩
  have hzero : '0'.toNat = 48 := rfl
  have hnine : '9'.toNat = 57 := rfl
  unfold digit?
  rw [if_pos hdigit, if_pos (by omega), hzero]

/-- What is read as a decimal digit is one. -/
theorem isDigit_of_digit? {c : Char} {d : Nat} (h : digit? 10 c = some d) : c.isDigit = true := by
  rw [Char.isDigit_iff_toNat]
  by_cases hdigit : '0' ≤ c ∧ c ≤ '9'
  · exact ⟨le_iff_toNat.1 hdigit.1, le_iff_toNat.1 hdigit.2⟩
  · -- Letters stand for ten and more.
    unfold digit? at h
    dsimp only at h
    rw [if_neg hdigit, if_neg] at h
    · cases h
    · split
      · rename_i hlower
        have hletter : 'a'.toNat ≤ c.toNat := le_iff_toNat.1 hlower.1
        have hnumber : 'a'.toNat = 97 := rfl
        omega
      · split
        · rename_i hupper
          have hletter : 'A'.toNat ≤ c.toNat := le_iff_toNat.1 hupper.1
          have hnumber : 'A'.toNat = 65 := rfl
          omega
        · exact Nat.lt_irrefl 10

theorem moreDigits_cons {c : Char} (cs : List Char) (h : c.isDigit = true) :
    moreDigits 10 (c :: cs) =
      (moreDigits 10 cs).map fun r => ((c.toNat - '0'.toNat) :: r.1, r.2) := by
  have hunder : c ≠ '_' := ne_of_class h (by decide)
  rw [moreDigits.eq_def]
  split
  · rename_i heq
    cases heq
  · rename_i heq
    exact absurd (List.cons.inj heq).1 hunder
  · rename_i heq
    obtain ⟨rfl, rfl⟩ := List.cons.inj heq
    simp only [if_neg hunder, digit?_of_isDigit h]

/-- Digits are read up to the end of the line. -/
theorem moreDigits_append {cs : List Char} (h : ∀ c ∈ cs, c.isDigit = true) (rest : List Char) :
    moreDigits 10 (cs ++ '\n' :: rest) =
      some (cs.map fun c => c.toNat - '0'.toNat, '\n' :: rest) := by
  induction cs with
  | nil => rfl
  | cons c cs ih =>
    have hmore := ih fun d hd => h d (List.mem_cons_of_mem _ hd)
    rw [List.cons_append, moreDigits_cons _ (h c (List.mem_cons_self ..)), hmore]
    rfl

/-- The digits of a number have its value. -/
theorem value_toDigits (n : Nat) :
    value 10 ((Nat.toDigits 10 n).map fun c => c.toNat - '0'.toNat) = n := by
  have hspelled := @Nat.ofDigitChars_ten_toDigits n
  rw [Nat.ofDigitChars_eq_foldl] at hspelled
  rw [value, List.foldl_map]
  simpa only [Nat.mul_comm] using hspelled

/-- The digits of a written number spell it. -/
theorem decimal_written (n : Nat) (rest : List Char) :
    ∃ ds, decimal (written n rest) = some (ds, '\n' :: rest) ∧ value 10 ds = n := by
  refine ⟨_, ?_, value_toDigits n⟩
  have hall := moreDigits_append (fun c hc => @toDigits_isDigit n c hc) rest
  obtain ⟨c, cs, hcons, hdigit, hzero⟩ := written_cons n rest
  unfold decimal
  split
  · rename_i tail heq
    rw [hcons] at heq
    obtain ⟨rfl, rfl⟩ := List.cons.inj heq
    obtain ⟨rfl, rfl⟩ := hzero rfl
    rfl
  · -- `digits` differs from `moreDigits` only in that it wants a digit first.
    change moreDigits 10 (written n rest) = _ at hall
    rw [← hall, hcons, digits, moreDigits_cons cs hdigit, digit?_of_isDigit hdigit]

/-! ## Dates and times -/

theorem isDigit_of_mapM {cs : List Char} {ds : List Nat} (h : cs.mapM (digit? 10) = some ds) :
    ∀ c ∈ cs, c.isDigit = true := by
  induction cs generalizing ds with
  | nil => simp
  | cons c cs ih =>
    rw [List.mapM_cons] at h
    obtain ⟨d, hd, h⟩ := Option.bind_eq_some_iff.1 h
    obtain ⟨ds', hds, -⟩ := Option.bind_eq_some_iff.1 h
    intro e he
    obtain rfl | he := List.mem_cons.1 he
    · exact isDigit_of_digit? hd
    · exact ih hds e he

/-- Behind so many digits of a written number there is another digit, or the line ends. -/
theorem fixed_written {n count v : Nat} {rest tail : List Char}
    (h : fixed count (written n rest) = some (v, tail)) :
    ∃ c cs, tail = c :: cs ∧ (c.isDigit = true ∨ c = '\n') := by
  obtain ⟨ds, hds, h⟩ := Option.bind_eq_some_iff.1 h
  have hdigits := isDigit_of_mapM hds
  obtain rfl : (written n rest).drop count = tail := by
    split at h
    · exact congrArg Prod.snd (Option.some.inj h)
    · cases h
  have hshort : count ≤ (Nat.toDigits 10 n).length := by
    rcases Nat.lt_or_ge (Nat.toDigits 10 n).length count with hlong | hshort
    · -- The line break would be among the digits.
      have hbreak : '\n' ∈ (written n rest).take count := by
        rw [written, List.take_append]
        obtain ⟨k, hk⟩ := Nat.exists_eq_add_of_lt hlong
        rw [hk, Nat.add_assoc, Nat.add_sub_cancel_left, List.take_succ_cons]
        exact List.mem_append_right _ (List.mem_cons_self ..)
      exact absurd (hdigits _ hbreak) (by decide)
    · exact hshort
  rw [written, List.drop_append_of_le_length hshort]
  cases hdrop : (Nat.toDigits 10 n).drop count with
  | nil => exact ⟨'\n', rest, rfl, .inr rfl⟩
  | cons c cs =>
    have hmem : c ∈ (Nat.toDigits 10 n).drop count := by
      rw [hdrop]
      exact List.mem_cons_self ..
    exact ⟨c, _, rfl, .inl (toDigits_isDigit (List.mem_of_mem_drop hmem))⟩

/-- Behind digits that are a part of the number comes no mark of a date or a time. -/
theorem char_written {n count v : Nat} {rest tail : List Char}
    (h : fixed count (written n rest) = some (v, tail)) {c : Char} (hdigit : c.isDigit = false)
    (hbreak : c ≠ '\n') : Text.mark c tail = none := by
  obtain ⟨d, cs, rfl, hd⟩ := fixed_written h
  refine if_neg ?_
  rintro rfl
  obtain hd | hd := hd
  · rw [hdigit] at hd
    cases hd
  · exact hbreak hd

/-- A number is no date, -/
theorem date_written (n : Nat) (rest : List Char) : date (written n rest) = none := by
  unfold date
  cases h : fixed 4 (written n rest) with
  | none => rfl
  | some r =>
    have hdash := char_written h (c := '-') (by decide) (by decide)
    simp only [Option.bind_eq_bind, Option.bind_some, hdash, Option.bind_none]

/-- no time -/
theorem time_written (n : Nat) (rest : List Char) : time (written n rest) = none := by
  unfold time hourMinute
  cases h : fixed 2 (written n rest) with
  | none => rfl
  | some r =>
    have hcolon := char_written h (c := ':') (by decide) (by decide)
    simp only [Option.bind_eq_bind, Option.bind_some, hcolon, Option.bind_none]

/-- and not both. -/
theorem datetime_written (n : Nat) (rest : List Char) : datetime (written n rest) = none := by
  rw [datetime, date_written, time_written]

/-! ## Numbers -/

theorem sign_digit {c : Char} (cs : List Char) (h : c.isDigit = true) :
    sign (c :: cs) = (false, c :: cs) := by
  unfold sign
  split
  · rename_i heq
    exact absurd (List.cons.inj heq).1 (ne_of_class h (by decide))
  · rename_i heq
    exact absurd (List.cons.inj heq).1 (ne_of_class h (by decide))
  · rfl

theorem sign_written (n : Nat) (rest : List Char) :
    sign (written n rest) = (false, written n rest) := by
  obtain ⟨c, cs, hcons, hdigit, -⟩ := written_cons n rest
  rw [hcons, sign_digit cs hdigit]

/-- Without a point and an exponent a number is whole. -/
theorem float_written (n : Nat) (rest : List Char) : float (written n rest) = none := by
  obtain ⟨c, cs, hcons, hdigit, -⟩ := written_cons n rest
  unfold float
  rw [sign_written]
  dsimp only
  split
  · rename_i heq
    exact absurd (List.cons.inj (hcons.symm.trans heq)).1 (ne_of_class hdigit (by decide))
  · rename_i heq
    exact absurd (List.cons.inj (hcons.symm.trans heq)).1 (ne_of_class hdigit (by decide))
  · obtain ⟨ds, hds, -⟩ := decimal_written n rest
    rw [hds]
    change (if (('\n' :: rest).length = ('\n' :: rest).length) then _ else _) = _
    rw [if_pos rfl]
    rfl

theorem fits_natCast {n : Nat} (hn : n < 0x8000000000000000) : fits (n : Int) = true := by
  simp only [fits, Bool.and_eq_true, decide_eq_true_eq]
  omega

/-- Without a sign and a letter for its base a whole number is decimal. -/
theorem integer_decimal {cs rest : List Char} {ds : List Nat}
    (hbase : ∀ b tail, cs = '0' :: b :: tail → b = '\n') (hsign : sign cs = (false, cs))
    (hds : decimal cs = some (ds, rest)) :
    integer cs =
      if fits (value 10 ds) then some (.ofInt (value 10 ds), rest) else none := by
  unfold integer
  split
  · exact absurd (hbase _ _ rfl) (by decide)
  · exact absurd (hbase _ _ rfl) (by decide)
  · exact absurd (hbase _ _ rfl) (by decide)
  · rw [hsign]
    dsimp only
    rw [hds, Option.map_some, Option.bind_eq_bind, Option.bind_some]
    dsimp only
    rw [if_neg Bool.false_ne_true, Option.pure_def]

/-- A number that fits is read as itself. -/
theorem integer_written {n : Nat} (hn : n < 0x8000000000000000) (rest : List Char) :
    integer (written n rest) = some (.ofInt n, '\n' :: rest) := by
  obtain ⟨ds, hds, hvalue⟩ := decimal_written n rest
  obtain ⟨c, cs, hcons, -, hzero⟩ := written_cons n rest
  have hbase : ∀ b tail, written n rest = '0' :: b :: tail → b = '\n' := by
    intro b tail heq
    obtain ⟨rfl, rfl⟩ := List.cons.inj (hcons.symm.trans heq)
    exact (List.cons.inj (hzero rfl).2).1
  rw [integer_decimal hbase (sign_written n rest) hds, hvalue, if_pos (fits_natCast hn)]

/-- **A written number reads back.** -/
theorem read_written {n : Nat} (hn : n < 0x8000000000000000) (rest : List Char) :
    read (written n rest) = some (.integer (.ofInt n), '\n' :: rest) := by
  rw [read, datetime_written, float_written, integer_written hn]
  rfl

end TxRelay.Toml.Number
