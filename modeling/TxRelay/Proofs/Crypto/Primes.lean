/-
  The two numbers of the curve are prime, and so division modulo them is division in a field.

  The inverse of the model is a power, `a ^ (m - 2)` modulo `m`, which is an inverse only if `m` is
  prime.  Both numbers have 256 bits, so no search for divisors shows that.

  1. **Powers.**  The model's power, formed bit by bit with every product reduced, is the power in
     the ring modulo `m` (`cast_powMod`, by induction on the bits).

  2. **Certificates.**  A number `m` is prime if some number has order `m - 1` modulo `m`.  That is
     checked by powers: the one to `m - 1` is 1, and none to `(m - 1) / q` is, for the primes `q`
     that `m - 1` is made of.  A `Certificate` lists them, `Certificate.holds` checks it, and
     `Certificate.sound` says that the check is enough.

  3. **Chains.**  The primes in a certificate are smaller and have certificates of their own before
     it, until trial division shows them: `allHold` checks a list against what is known, and
     `prime_of_allHold` goes through it, each number known to those behind it.

  4. **Inverses.**  So `inverse` is the inverse of the field (`cast_inverse`).

  The crux is `Certificate.sound`, and in it the step from the factors of a list to all primes that
  divide `m - 1`: a prime that divides a product divides one of the factors, and that one is prime
  itself.

  The evaluations use the model's own powers, twenty certificates in all; the kernel does them with
  its numbers.
-/
import Mathlib.NumberTheory.LucasPrimality
import Mathlib.FieldTheory.Finite.Basic
import Mathlib.Tactic.NormNum.Prime
import TxRelay.Crypto.Secp256k1

namespace TxRelay.Secp256k1

/-! ## Powers -/

/-- A power is the power in the ring modulo `m`, if the exponent has so many bits at most. -/
theorem cast_powMod {m bits b e : Nat} (fits : e < 2 ^ bits) :
    (powMod m bits b e : ZMod m) = (b : ZMod m) ^ e := by
  induction bits generalizing b e with
  | zero =>
    obtain rfl : e = 0 := by simpa using fits
    rw [powMod, ZMod.natCast_mod, Nat.cast_one, pow_zero]
  | succ bits ih =>
    have hhalf : e / 2 < 2 ^ bits := by
      rw [pow_succ] at fits
      omega
    -- half of the power, of the square
    have hrest : (powMod m bits (b * b % m) (e / 2) : ZMod m) = (b : ZMod m) ^ (2 * (e / 2)) := by
      rw [ih hhalf, ZMod.natCast_mod, Nat.cast_mul, ← sq, ← pow_mul]
    unfold powMod
    show ((if e % 2 = 1 then _ else _ : Nat) : ZMod m) = _
    split
    · rename_i hodd
      rw [ZMod.natCast_mod, Nat.cast_mul, hrest, ← pow_succ']
      congr 1
      omega
    · rename_i heven
      rw [hrest]
      congr 1
      omega

theorem powMod_lt {m : Nat} (hm : 0 < m) (bits b e : Nat) : powMod m bits b e < m := by
  induction bits generalizing b e with
  | zero => exact Nat.mod_lt _ hm
  | succ bits ih =>
    unfold powMod
    show (if e % 2 = 1 then _ else _) < m
    split
    · exact Nat.mod_lt _ hm
    · exact ih _ _

/-! ## Certificates -/

/-- What shows that a number is prime: a number of the order `prime - 1`, and the prime factors of
    `prime - 1`, each as often as it divides. -/
structure Certificate where
  prime : Nat
  generator : Nat
  factors : List Nat

/-- The certificate holds if the known numbers are prime. -/
def Certificate.holds (known : List Nat) (c : Certificate) : Bool :=
  2 ≤ c.prime ∧ c.prime < 2 ^ 256 ∧ c.factors.prod = c.prime - 1 ∧
    powMod c.prime 256 c.generator (c.prime - 1) = 1 ∧
    ∀ q ∈ c.factors, q ∈ known ∧ powMod c.prime 256 c.generator ((c.prime - 1) / q) ≠ 1

/-- Each certificate holds on the numbers before it. -/
def allHold : (known : List Nat) → List Certificate → Bool
  | _, [] => true
  | known, c :: cs => c.holds known && allHold (c.prime :: known) cs

theorem cast_eq_one_iff {m a : Nat} (two_le : 2 ≤ m) (lt : a < m) : (a : ZMod m) = 1 ↔ a = 1 := by
  rw [← Nat.cast_one, ZMod.natCast_eq_natCast_iff', Nat.mod_eq_of_lt lt, Nat.mod_eq_of_lt two_le]

theorem Certificate.sound {known : List Nat} {c : Certificate} (hknown : ∀ q ∈ known, q.Prime)
    (h : c.holds known = true) : c.prime.Prime := by
  obtain ⟨htwo, hbits, hprod, hone, hfactors⟩ := of_decide_eq_true h
  -- A power modulo the number is 1 in the ring exactly if it is the number 1.
  have hpow : ∀ e ≤ c.prime - 1,
      (c.generator : ZMod c.prime) ^ e = 1 ↔ powMod c.prime 256 c.generator e = 1 := by
    intro e he
    rw [← cast_powMod (show e < 2 ^ 256 by omega)]
    exact cast_eq_one_iff htwo (powMod_lt (by omega) 256 _ _)
  refine lucas_primality c.prime c.generator ((hpow _ le_rfl).mpr hone) ?_
  intro q hq hdvd
  rw [← hprod] at hdvd
  obtain ⟨f, hf, hqf⟩ := (Prime.dvd_prod_iff hq.prime).mp hdvd
  obtain ⟨hfknown, hne⟩ := hfactors f hf
  obtain rfl := (Nat.prime_dvd_prime_iff_eq hq (hknown f hfknown)).mp hqf
  exact fun h => hne ((hpow _ (Nat.div_le_self _ _)).mp h)

theorem prime_of_allHold {known : List Nat} {cs : List Certificate} (hknown : ∀ q ∈ known, q.Prime)
    (h : allHold known cs = true) : ∀ c ∈ cs, c.prime.Prime := by
  induction cs generalizing known with
  | nil => simp
  | cons c cs ih =>
    obtain ⟨hc, hcs⟩ := Bool.and_eq_true_iff.mp h
    have hprime : c.prime.Prime := c.sound hknown hc
    have hknown' : ∀ q ∈ c.prime :: known, q.Prime := List.forall_mem_cons.mpr ⟨hprime, hknown⟩
    exact List.forall_mem_cons.mpr ⟨hprime, ih hknown' hcs⟩

/-- The primes that trial division shows. -/
def smallPrimes : List Nat :=
  [2, 3, 5, 7, 11, 17, 29, 31, 41, 53, 59, 97, 109, 149, 293, 461, 631, 797, 971, 1373, 1627, 1871,
    2011, 2621, 2657, 4051, 4423, 5323, 7723, 9349, 13441, 16699, 20113, 24809, 28181, 41201, 85831,
    96557, 120233, 305873]

/-- The primes that the sizes of field and group rest on, and these two last. -/
def certificates : List Certificate := [
  ⟨1206781, 10, [2, 2, 3, 5, 20113]⟩,
  ⟨1627771, 3, [2, 3, 5, 29, 1871]⟩,
  ⟨4681609, 23, [2, 2, 2, 3, 97, 2011]⟩,
  ⟨7240687, 3, [2, 3, 1206781]⟩,
  ⟨13331831, 13, [2, 5, 971, 1373]⟩,
  ⟨44706919, 6, [2, 3, 797, 9349]⟩,
  ⟨107590001, 3, [2, 2, 2, 2, 5, 5, 5, 5, 7, 29, 53]⟩,
  ⟨545358713, 5, [2, 2, 2, 41, 59, 28181]⟩,
  ⟨173378833005251801, 6, [2, 2, 2, 5, 5, 2621, 24809, 13331831]⟩,
  ⟨22149492674086928081353, 5, [2, 2, 2, 3, 5323, 173378833005251801]⟩,
  ⟨132896956044521568488119, 6, [2, 3, 22149492674086928081353]⟩,
  ⟨255515944373312847190720520512484175977, 3,
    [2, 2, 2, 7, 7, 11, 1627, 2657, 4423, 41201, 96557, 7240687, 107590001]⟩,
  ⟨205115282021455665897114700593932402728804164701536103180137503955397371, 10,
    [2, 3, 5, 29, 29, 31, 7723, 132896956044521568488119,
      255515944373312847190720520512484175977]⟩,
  ⟨107361793816595537, 3, [2, 2, 2, 2, 16699, 85831, 4681609]⟩,
  ⟨174723607534414371449, 3, [2, 2, 2, 17, 59, 4051, 120233, 44706919]⟩,
  ⟨297159362677, 2, [2, 2, 3, 3, 11, 461, 1627771]⟩,
  ⟨29047611873442575647497758179, 2, [2, 293, 305873, 545358713, 297159362677]⟩,
  ⟨341948486974166000522343609283189, 2, [2, 2, 3, 3, 3, 109, 29047611873442575647497758179]⟩,
  ⟨p, 3, [2, 3, 7, 13441,
    205115282021455665897114700593932402728804164701536103180137503955397371]⟩,
  ⟨n, 7, [2, 2, 2, 2, 2, 2, 3, 149, 631, 107361793816595537, 174723607534414371449,
    341948486974166000522343609283189]⟩]

theorem prime_of_mem_smallPrimes : ∀ q ∈ smallPrimes, q.Prime := by
  unfold smallPrimes
  simp only [List.forall_mem_cons]
  norm_num

theorem prime_of_mem_certificates : ∀ m ∈ certificates.map Certificate.prime, m.Prime := by
  intro m hm
  obtain ⟨c, hc, rfl⟩ := List.mem_map.mp hm
  exact prime_of_allHold prime_of_mem_smallPrimes (by decide +kernel) c hc

/-- The size of the field is prime. -/
theorem prime_p : p.Prime := prime_of_mem_certificates p (by decide +kernel)

/-- The order of the base point is prime. -/
theorem prime_n : n.Prime := prime_of_mem_certificates n (by decide +kernel)

instance : Fact p.Prime := ⟨prime_p⟩

instance : Fact n.Prime := ⟨prime_n⟩

/-! ## Inverses -/

/-- The inverse modulo a prime is the inverse in the field. -/
theorem cast_inverse {m : Nat} [Fact m.Prime] (two_lt : 2 < m) (fits : m < 2 ^ 256) (a : Nat) :
    (inverse m a : ZMod m) = (a : ZMod m)⁻¹ := by
  rw [inverse, cast_powMod (by omega), ZMod.natCast_mod]
  by_cases hzero : (a : ZMod m) = 0
  · rw [hzero, inv_zero]
    exact zero_pow (by omega)
  · -- The power to `m - 1` is 1.
    have hfermat : (a : ZMod m) ^ (m - 2) * a = 1 := by
      rw [← pow_succ, show m - 2 + 1 = m - 1 by omega]
      exact ZMod.pow_card_sub_one_eq_one hzero
    exact eq_inv_of_mul_eq_one_left hfermat

theorem cast_inverse_p (a : Nat) : (inverse p a : ZMod p) = (a : ZMod p)⁻¹ :=
  cast_inverse (by decide) (by decide) a

theorem cast_inverse_n (a : Nat) : (inverse n a : ZMod n) = (a : ZMod n)⁻¹ :=
  cast_inverse (by decide) (by decide) a

end TxRelay.Secp256k1
