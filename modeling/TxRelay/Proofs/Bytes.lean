/-
  Numbers and the bytes that spell them.

  `ofNat` writes the shortest big-endian form of a number and `toNat` reads any.  A reader who
  accepts one spelling of a number only asks three things of what was written: that it is read back,
  that it is no longer than it must be, and that it does not begin with a zero byte.

  1. **Forms of a fixed width.**  The writer puts the last byte first in front of what it has,
     `pushDigits`.  That is turned round once: a form of `k + 1` bytes is the form of `n / 256` in
     `k` bytes and the byte of `n` behind it (`ofNatWidth_succ`).  The reader goes from the front,
     and takes the last byte last as well (`toNat_snoc`); so both are cut in the same place, and a
     number that fits is read back by induction on the width (`toNat_ofNatWidth`).

  2. **The shortest width.**  `width` is counted in bits by the binary logarithm.  A number fits
     into so many bytes (`lt_pow_width`), and into no fewer (`pow_width_le`, `width_le`).

  3. **The three answers.**  `toNat_ofNat`, `length_ofNat_le` and `head?_ofNat_ne`.

  The crux is the first byte.  It is the number over the largest power of 256 that is not above it
  (`head?_ofNatWidth`), so that it is no zero is that the width is the shortest: `pow_width_le`
  again.
-/
import Mathlib.Algebra.Group.Nat.Defs
import TxRelay.Bytes

namespace TxRelay.Bytes

/-! ## Forms of a fixed width -/

theorem pushDigits_append (k n : Nat) (tail more : Bytes) :
    pushDigits k n (tail ++ more) = pushDigits k n tail ++ more := by
  induction k generalizing n tail with
  | zero => rfl
  | succ k ih => exact ih (n / 256) (UInt8.ofNat n :: tail)

/-- One byte more is the byte of the number itself, behind the form of what is above it. -/
theorem ofNatWidth_succ (k n : Nat) :
    ofNatWidth (k + 1) n = ofNatWidth k (n / 256) ++ [UInt8.ofNat n] :=
  pushDigits_append k (n / 256) [] [UInt8.ofNat n]

theorem length_ofNatWidth (k n : Nat) : (ofNatWidth k n).length = k := by
  induction k generalizing n with
  | zero => rfl
  | succ k ih =>
    rw [ofNatWidth_succ, List.length_append, ih]
    rfl

theorem toNat_snoc (bs : Bytes) (b : UInt8) : toNat (bs ++ [b]) = toNat bs * 256 + b.toNat := by
  unfold toNat
  rw [List.foldl_append]
  rfl

/-- A number that fits is read back from its form. -/
theorem toNat_ofNatWidth {k n : Nat} (fits : n < 256 ^ k) : toNat (ofNatWidth k n) = n := by
  induction k generalizing n with
  | zero =>
    have hzero : n = 0 := by simpa using fits
    rw [hzero]
    rfl
  | succ k ih =>
    have habove : n / 256 < 256 ^ k := by
      apply Nat.div_lt_of_lt_mul
      rw [Nat.mul_comm, ← Nat.pow_succ]
      exact fits
    have hlast : (UInt8.ofNat n).toNat = n % 256 := UInt8.toNat_ofNat'
    rw [ofNatWidth_succ, toNat_snoc, ih habove, hlast]
    omega

/-- The first byte of a form of more than no bytes. -/
theorem head?_ofNatWidth (k n : Nat) :
    (ofNatWidth (k + 1) n).head? = some (UInt8.ofNat (n / 256 ^ k)) := by
  induction k generalizing n with
  | zero => simp [ofNatWidth, pushDigits]
  | succ k ih =>
    have hdiv : n / 256 / 256 ^ k = n / 256 ^ (k + 1) := by
      rw [Nat.div_div_eq_div_mul, Nat.pow_succ, Nat.mul_comm]
    rw [ofNatWidth_succ, List.head?_append, ih, hdiv]
    rfl

/-! ## Shortest forms -/

theorem width_pos {n : Nat} (hn : n ≠ 0) : width n = Nat.log2 n / 8 + 1 := if_neg hn

/-- A number fits into as many bytes as its shortest form has. -/
theorem lt_pow_width (n : Nat) : n < 256 ^ width n := by
  by_cases hn : n = 0
  · subst hn
    exact Nat.one_pos
  · have hlog : Nat.log2 n < 8 * (Nat.log2 n / 8 + 1) := by omega
    have hpow := (Nat.log2_lt hn).mp hlog
    rw [width_pos hn, show 256 = 2 ^ 8 from rfl, ← Nat.pow_mul]
    exact hpow

/-- Fewer bytes than the shortest form has are not enough. -/
theorem pow_width_le {n : Nat} (hn : n ≠ 0) : 256 ^ (width n - 1) ≤ n := by
  have hlog : 2 ^ (8 * (Nat.log2 n / 8)) ≤ 2 ^ Nat.log2 n :=
    Nat.pow_le_pow_right (by decide) (by omega)
  have hself : 2 ^ Nat.log2 n ≤ n := Nat.log2_self_le hn
  rw [width_pos hn, Nat.add_sub_cancel, show 256 = 2 ^ 8 from rfl, ← Nat.pow_mul]
  exact Nat.le_trans hlog hself

/-- The shortest form of a number is no longer than any other that it fits into. -/
theorem width_le {k n : Nat} (fits : n < 256 ^ k) : width n ≤ k := by
  by_cases hn : n = 0
  · subst hn
    exact Nat.zero_le k
  · have hbelow : 256 ^ (width n - 1) < 256 ^ k := Nat.lt_of_le_of_lt (pow_width_le hn) fits
    have hlt := (Nat.pow_lt_pow_iff_right (by decide)).mp hbelow
    omega

theorem length_ofNat (n : Nat) : (ofNat n).length = width n := length_ofNatWidth _ _

/-- What was written is read back. -/
theorem toNat_ofNat (n : Nat) : toNat (ofNat n) = n := toNat_ofNatWidth (lt_pow_width n)

theorem length_ofNat_le {k n : Nat} (fits : n < 256 ^ k) : (ofNat n).length ≤ k := by
  rw [length_ofNat]
  exact width_le fits

/-- A written number does not begin with a zero byte. -/
theorem head?_ofNat_ne (n : Nat) : (ofNat n).head? ≠ some 0 := by
  by_cases hn : n = 0
  · subst hn
    exact nofun
  · have hwidth : width n = width n - 1 + 1 := by
      rw [width_pos hn]
      omega
    have hlow := pow_width_le hn
    have hhigh := lt_pow_width n
    -- the first byte is the number over the largest power that is not above it
    have hpos : 0 < n / 256 ^ (width n - 1) := Nat.div_pos hlow (Nat.pow_pos (by decide))
    have hbyte : n / 256 ^ (width n - 1) < 256 := by
      apply Nat.div_lt_of_lt_mul
      rw [← Nat.pow_succ]
      rwa [hwidth] at hhigh
    unfold ofNat
    rw [hwidth, head?_ofNatWidth]
    intro hzero
    have hsame := congrArg UInt8.toNat (Option.some.inj hzero)
    rw [UInt8.toNat_ofNat', Nat.mod_eq_of_lt (by omega)] at hsame
    have hnone : (0 : UInt8).toNat = 0 := rfl
    omega

end TxRelay.Bytes
