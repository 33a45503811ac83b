/-
  Which texts spell bytes in hexadecimal digits.

  The reader works on the bytes of the text, and a text may hold any characters.  What one wants to
  know is about characters: so many digits, of either case, with a mark in front or without.

  1. **The bytes of a text.**  A character below 128 is one byte, its own number (`encode_low`), and
     every byte of any other character is 128 or more (`encode_high`).  So a text begins with such a
     character exactly if its bytes begin with its number (`encode_eq_cons`), and the mark is the
     same in both (`stripMark_encode`).

  2. **Digits.**  A digit counts the same as a character and as a byte (`byteValue?_digit`), and a
     character with a digit among its bytes is that digit (`isDigit_of_value?`).

  3. **Pairs.**  Pairs of digits are read, and the bytes spell the number that the digits spell
     (`pairs_digits`); what is read in pairs is digits only (`digits_of_pairs`).

  4. **Whole texts.**  `decodeChunk_ok` and `decodeChunk_digits` say together: a text spells `n`
     bytes exactly if, without one `0x` in front, it is `2 n` digits of either case, and the bytes
     and the digits spell the same number.

  The crux is `isDigit_of_value?`.  From bytes that are digits one has to come back to characters,
  and a byte does not know which character it is part of; but a digit is below 128, and so it is no
  part of a longer one.
-/
import TxRelay.Hex
import TxRelay.Proofs.Config.Load

namespace TxRelay

/-! ## The bytes of a text -/

namespace Bytes

/-- The bytes of some characters. -/
def encode (cs : List Char) : Bytes := cs.flatMap String.utf8EncodeChar

theorem ofString_eq (s : String) : ofString s = encode s.toList := by
  have hbytes : s.toUTF8 = s.toList.utf8Encode := String.utf8Encode_toList.symm
  rw [ofString, hbytes, toList_eq, List.utf8Encode]
  simp [encode]

theorem encode_cons (c : Char) (cs : List Char) :
    encode (c :: cs) = String.utf8EncodeChar c ++ encode cs := rfl

/-- A character below 128 is one byte. -/
theorem encode_low {c : Char} (h : c.toNat < 128) :
    String.utf8EncodeChar c = [UInt8.ofNat c.toNat] := by
  have hval : c.val.toNat ≤ 127 := Nat.le_of_lt_succ h
  rw [String.utf8EncodeChar.eq_1, if_pos hval]
  rfl

/-- Every byte of another character is 128 or more. -/
theorem encode_high {c : Char} (h : 128 ≤ c.toNat) :
    ∀ b ∈ String.utf8EncodeChar c, 128 ≤ b.toNat := by
  have hval : ¬ c.val.toNat ≤ 127 := Nat.not_le.mpr h
  -- each of the two, three or four bytes has its highest bit set
  have hhigh : ∀ n m : Nat, 128 ≤ m → m < 256 → n < 256 - m →
      128 ≤ (UInt8.ofNat (n + m)).toNat := by
    intro n m hlow hm hn
    rw [UInt8.toNat_ofNat', Nat.mod_eq_of_lt (by omega)]
    omega
  rw [String.utf8EncodeChar.eq_1, if_neg hval]
  split
  · simp only [List.forall_mem_cons, List.not_mem_nil, false_implies, implies_true, and_true]
    exact ⟨hhigh _ _ (by omega) (by omega) (by omega), hhigh _ _ (by omega) (by omega) (by omega)⟩
  · split
    · simp only [List.forall_mem_cons, List.not_mem_nil, false_implies, implies_true, and_true]
      exact ⟨hhigh _ _ (by omega) (by omega) (by omega),
        hhigh _ _ (by omega) (by omega) (by omega), hhigh _ _ (by omega) (by omega) (by omega)⟩
    · simp only [List.forall_mem_cons, List.not_mem_nil, false_implies, implies_true, and_true]
      exact ⟨hhigh _ _ (by omega) (by omega) (by omega),
        hhigh _ _ (by omega) (by omega) (by omega), hhigh _ _ (by omega) (by omega) (by omega),
        hhigh _ _ (by omega) (by omega) (by omega)⟩

/-- A text begins with a character below 128 exactly if its bytes begin with that byte. -/
theorem encode_eq_cons {cs : List Char} {c : Char} {rest : Bytes} (hc : c.toNat < 128) :
    encode cs = UInt8.ofNat c.toNat :: rest ↔ ∃ ds, cs = c :: ds ∧ encode ds = rest := by
  constructor
  · intro h
    cases cs with
    | nil => cases h
    | cons d ds =>
      rw [encode_cons] at h
      by_cases hd : d.toNat < 128
      · rw [encode_low hd] at h
        obtain ⟨hbyte, hrest⟩ := List.cons.inj h
        have hsame : d.toNat = c.toNat := by
          have hnat := congrArg UInt8.toNat hbyte
          rw [UInt8.toNat_ofNat', UInt8.toNat_ofNat'] at hnat
          omega
        obtain rfl := Char.toNat_inj.mp hsame
        exact ⟨ds, rfl, hrest⟩
      · -- the first byte of `d` is too high
        cases hbytes : String.utf8EncodeChar d with
        | nil => exact absurd hbytes String.utf8EncodeChar_ne_nil
        | cons b bs =>
          have hb := encode_high (Nat.not_lt.mp hd) b (by rw [hbytes]; exact List.mem_cons_self)
          rw [hbytes] at h
          rw [(List.cons.inj h).1, UInt8.toNat_ofNat'] at hb
          omega
  · rintro ⟨ds, rfl, hrest⟩
    rw [encode_cons, encode_low hc, hrest]
    rfl

end Bytes

/-! ## Digits -/

namespace Hex

/-- The characters without one `0x` in front. -/
def dropMark : List Char → List Char
  | '0' :: 'x' :: rest => rest
  | cs => cs

/-- A hexadecimal digit of either case. -/
def IsDigit (c : Char) : Prop :=
  ('0' ≤ c ∧ c ≤ '9') ∨ ('A' ≤ c ∧ c ≤ 'F') ∨ ('a' ≤ c ∧ c ≤ 'f')

instance (c : Char) : Decidable (IsDigit c) := inferInstanceAs (Decidable (_ ∨ _ ∨ _))

theorem isDigit_of_all {cs : List Char} (h : (cs.all fun c => IsDigit c) = true) :
    ∀ c ∈ cs, IsDigit c := by
  intro c hc
  exact of_decide_eq_true (List.all_eq_true.mp h c hc)

/-- What a digit counts. -/
def digitValue (c : Char) : Nat :=
  if c ≤ '9' then c.toNat - 48 else if c ≤ 'F' then c.toNat - 55 else c.toNat - 87

/-- The number that digits spell. -/
def number (ds : List Char) : Nat := ds.foldl (fun n c => n * 16 + digitValue c) 0

/-- A digit by its number. -/
theorem isDigit_iff {c : Char} : IsDigit c ↔
    (48 ≤ c.toNat ∧ c.toNat ≤ 57) ∨ (65 ≤ c.toNat ∧ c.toNat ≤ 70) ∨
      (97 ≤ c.toNat ∧ c.toNat ≤ 102) := Iff.rfl

theorem IsDigit.low {c : Char} (h : IsDigit c) : c.toNat < 128 := by
  rw [isDigit_iff] at h
  omega

theorem digitValue_eq (c : Char) : digitValue c =
    if c.toNat ≤ 57 then c.toNat - 48 else if c.toNat ≤ 70 then c.toNat - 55 else c.toNat - 87 :=
  rfl

theorem digitValue_lt {c : Char} (h : IsDigit c) : digitValue c < 16 := by
  rw [isDigit_iff] at h
  rw [digitValue_eq]
  split
  · omega
  · split <;> omega

/-- What the reader makes of a byte. -/
theorem byteValue?_eq (b : UInt8) : Text.byteValue? b =
    if 48 ≤ b.toNat ∧ b.toNat ≤ 57 then some (b - 0x30)
    else if 65 ≤ b.toNat ∧ b.toNat ≤ 70 then some (b - 0x37)
    else if 97 ≤ b.toNat ∧ b.toNat ≤ 102 then some (b - 0x57)
    else none := rfl

/-- A digit counts the same as a byte. -/
theorem byteValue?_digit {c : Char} (h : IsDigit c) :
    Text.byteValue? (UInt8.ofNat c.toNat) = some (UInt8.ofNat (digitValue c)) := by
  have hbyte : (UInt8.ofNat c.toNat).toNat = c.toNat := by
    rw [UInt8.toNat_ofNat', Nat.mod_eq_of_lt]
    have hlow := h.low
    omega
  have hsub : ∀ k : Nat, k ≤ c.toNat → k < 128 →
      UInt8.ofNat c.toNat - UInt8.ofNat k = UInt8.ofNat (c.toNat - k) := by
    intro k hk hsmall
    rw [UInt8.ofNat_sub hk]
  -- digits, capitals and small letters, each counted from its first
  rcases isDigit_iff.mp h with hten | hupper | hlower
  · rw [byteValue?_eq, hbyte, if_pos hten, digitValue_eq, if_pos hten.2]
    exact congrArg some (hsub 48 hten.1 (by decide))
  · rw [byteValue?_eq, hbyte, if_neg (by omega), if_pos hupper, digitValue_eq, if_neg (by omega),
      if_pos hupper.2]
    exact congrArg some (hsub 55 (by omega) (by decide))
  · rw [byteValue?_eq, hbyte, if_neg (by omega), if_neg (by omega), if_pos hlower, digitValue_eq,
      if_neg (by omega), if_neg (by omega)]
    exact congrArg some (hsub 87 (by omega) (by decide))

/-- A character with a digit among its bytes is that digit. -/
theorem isDigit_of_value? {c : Char} {b : UInt8} (hb : b ∈ String.utf8EncodeChar c)
    (h : (Text.byteValue? b).isSome = true) : IsDigit c := by
  by_cases hlow : c.toNat < 128
  · rw [Bytes.encode_low hlow] at hb
    obtain rfl := List.mem_singleton.mp hb
    have hbyte : (UInt8.ofNat c.toNat).toNat = c.toNat := by
      rw [UInt8.toNat_ofNat', Nat.mod_eq_of_lt (by omega)]
    rw [byteValue?_eq, hbyte] at h
    rw [isDigit_iff]
    split at h
    · rename_i hten
      exact .inl hten
    · split at h
      · rename_i hupper
        exact .inr (.inl hupper)
      · split at h
        · rename_i hlower
          exact .inr (.inr hlower)
        · cases h
  · -- the bytes of any other character are above all digits
    have hhigh := Bytes.encode_high (Nat.not_lt.mp hlow) b hb
    rw [byteValue?_eq, if_neg (by omega), if_neg (by omega), if_neg (by omega)] at h
    cases h

theorem encode_digits {ds : List Char} (h : ∀ c ∈ ds, IsDigit c) :
    Bytes.encode ds = ds.map fun c => UInt8.ofNat c.toNat := by
  induction ds with
  | nil => rfl
  | cons c ds ih =>
    rw [List.forall_mem_cons] at h
    rw [Bytes.encode_cons, Bytes.encode_low h.1.low, ih h.2]
    rfl

/-- The mark is the same in the text and in its bytes. -/
theorem stripMark_encode (cs : List Char) :
    stripMark (Bytes.encode cs) = Bytes.encode (dropMark cs) := by
  have hzero : ('0' : Char).toNat < 128 := by decide
  have hx : ('x' : Char).toNat < 128 := by decide
  unfold stripMark
  split
  · rename_i rest heq
    obtain ⟨ds, rfl, hds⟩ := (Bytes.encode_eq_cons (c := '0') hzero).mp heq
    obtain ⟨es, rfl, hes⟩ := (Bytes.encode_eq_cons (c := 'x') hx).mp hds
    exact hes.symm
  · rename_i hother
    unfold dropMark
    split
    · rename_i rest
      refine absurd ?_ (hother (Bytes.encode rest))
      rw [Bytes.encode_cons, Bytes.encode_cons, Bytes.encode_low hzero, Bytes.encode_low hx]
      rfl
    · rfl

/-! ## Pairs of digits -/

/-- Pairs of digits are read, and the bytes spell the number that the digits spell. -/
theorem pairs_digits {k : Nat} {ds : List Char} (hlength : ds.length = 2 * k)
    (h : ∀ c ∈ ds, IsDigit c) (index : Nat) :
    ∃ bs, pairs index (ds.map fun c => UInt8.ofNat c.toNat) = .ok bs ∧ bs.length = k ∧
      ∀ n, bs.foldl (fun n b => n * 256 + b.toNat) n =
        ds.foldl (fun n c => n * 16 + digitValue c) n := by
  induction k generalizing ds index with
  | zero =>
    obtain rfl := List.eq_nil_of_length_eq_zero hlength
    exact ⟨[], rfl, rfl, fun n => rfl⟩
  | succ k ih =>
    match ds, hlength with
    | a :: b :: ds, hlength =>
      rw [List.forall_mem_cons, List.forall_mem_cons] at h
      obtain ⟨ha, hb, hds⟩ := h
      have hrest : ds.length = 2 * k := by
        simp only [List.length_cons] at hlength
        omega
      obtain ⟨bs, hread, hcount, hsame⟩ := ih hrest hds (index + 2)
      have hx := digitValue_lt ha
      have hy := digitValue_lt hb
      -- two digits fit into a byte
      have hbyte : (UInt8.ofNat (digitValue a) * 16 + UInt8.ofNat (digitValue b)).toNat =
          digitValue a * 16 + digitValue b := by
        have h16 : (16 : UInt8).toNat = 16 := rfl
        rw [UInt8.toNat_add, UInt8.toNat_mul, UInt8.toNat_ofNat', UInt8.toNat_ofNat', h16]
        omega
      refine ⟨(UInt8.ofNat (digitValue a) * 16 + UInt8.ofNat (digitValue b)) :: bs, ?_,
        by rw [List.length_cons, hcount], ?_⟩
      · rw [List.map_cons, List.map_cons, pairs, byteValue?_digit ha, byteValue?_digit hb]
        dsimp only
        rw [hread]
        rfl
      · intro n
        rw [List.foldl_cons, hbyte, hsame, List.foldl_cons, List.foldl_cons]
        congr 1
        omega

/-- What is read in pairs is digits only. -/
theorem digits_of_pairs {index : Nat} {digits bs : Bytes} (heven : digits.length % 2 = 0)
    (h : pairs index digits = .ok bs) : ∀ b ∈ digits, (Text.byteValue? b).isSome = true := by
  fun_induction pairs index digits generalizing bs with
  | case1 index a b rest x y hy hx ih =>
    simp only [List.length_cons] at heven
    cases hrest : pairs (index + 2) rest with
    | error e =>
      rw [hrest] at h
      cases h
    | ok bs' =>
      rw [List.forall_mem_cons, List.forall_mem_cons]
      exact ⟨by rw [hx]; rfl, by rw [hy]; rfl, ih (by omega) hrest⟩
  | case2 => cases h
  | case3 => cases h
  | case4 digits index hshort =>
    match digits, heven, hshort with
    | [], _, _ => exact nofun
    -- an odd byte at the end cannot be
    | [b], heven, _ => cases heven
    | a :: b :: rest, _, hshort => exact (hshort a b rest rfl).elim

/-! ## Whole texts -/

/-- A text of as many digits as the bytes need spells them. -/
theorem decodeChunk_digits {n : Nat} {s : String} (hlength : (dropMark s.toList).length = 2 * n)
    (h : ∀ c ∈ dropMark s.toList, IsDigit c) :
    ∃ bs, decodeChunk n s = .ok bs ∧ Bytes.toNat bs.val = number (dropMark s.toList) := by
  obtain ⟨bs, hread, hcount, hsame⟩ := pairs_digits hlength h 0
  have hbytes : stripMark (Bytes.ofString s) =
      (dropMark s.toList).map fun c => UInt8.ofNat c.toNat := by
    rw [Bytes.ofString_eq, stripMark_encode, encode_digits h]
  refine ⟨⟨bs, hcount⟩, ?_, hsame 0⟩
  unfold decodeChunk
  rw [hbytes]
  simp only [List.length_map, hlength, hread]
  rw [if_neg (by omega), if_neg (by omega), dif_pos hcount]

/-- Only such a text spells bytes. -/
theorem decodeChunk_ok {n : Nat} {s : String} {bs : Chunk n} (h : decodeChunk n s = .ok bs) :
    (dropMark s.toList).length = 2 * n ∧ ∀ c ∈ dropMark s.toList, IsDigit c := by
  unfold decodeChunk at h
  rw [Bytes.ofString_eq, stripMark_encode] at h
  dsimp only at h
  split at h
  · cases h
  · rename_i heven
    split at h
    · cases h
    · rename_i hcount
      split at h
      · cases h
      · rename_i read hread
        have hdigits := digits_of_pairs (by omega) hread
        -- the bytes are digits, so the characters are
        have hall : ∀ c ∈ dropMark s.toList, IsDigit c := by
          intro c hc
          cases hbytes : String.utf8EncodeChar c with
          | nil => exact absurd hbytes String.utf8EncodeChar_ne_nil
          | cons b rest =>
            have hb : b ∈ String.utf8EncodeChar c := by
              rw [hbytes]
              exact List.mem_cons_self
            exact isDigit_of_value? hb (hdigits b (List.mem_flatMap.mpr ⟨c, hc, hb⟩))
        rw [encode_digits hall, List.length_map] at hcount
        exact ⟨by omega, hall⟩

end Hex

end TxRelay
