/-
  Points as numbers are points of the curve.

  The model's points are pairs of numbers below `p`, and its sum and multiple are the formulas of
  the textbook, done in numbers.  Nothing about such pairs says that the sum is associative.  The
  elliptic curve y² = x³ + 7 over the field of size `p` is known to be a group, so the numbers are
  carried over to it, once, and everything else is said about the group.

  1. **Numbers and field elements.**  `sub` and the products of the model stay below `p`, and each
     is the least number that stands for what the field makes of it (`sub_eq_val`, `cast_sub`).

  2. **The sum.**  `ofCurve` writes a point of the curve by the least numbers for its coordinates;
     it loses nothing (`ofCurve_injective`).  The chord and the tangent both end in `alongLine`, so
     one lemma about a line with a given slope does for both (`alongLine_eq`), and the sum of the
     numbers is the sum of the group (`add_ofCurve`).

  3. **The multiple.**  Forming a multiple bit by bit is the multiple of the group
     (`mulBits_ofCurve`, by induction on the bits, `mul_ofCurve`).

  4. **The base point.**  It has the prime order `n` (`addOrderOf_generator`), which one evaluation
     shows, `mul_order_base`; so multiples of it are equal exactly if their factors are equal modulo
     `n` (`nsmul_generator_eq_iff`).

  5. **The way back.**  From an x-coordinate and a parity the point is found again (`lift_ofCurve`).

  The crux is `add_ofCurve`.  The model looks at numbers to tell the cases apart, equal
  x-coordinates and a sum of y-coordinates that `p` divides, and the group looks at field elements.
  That the two ask the same is `ZMod.val_injective` for the one and `hopposite` for the other.
-/
import Mathlib.AlgebraicGeometry.EllipticCurve.Affine.Point
import Mathlib.GroupTheory.OrderOfElement
import Mathlib.Tactic.LinearCombination
import TxRelay.Proofs.Crypto.Primes

namespace TxRelay.Secp256k1

open WeierstrassCurve

/-- The curve over the field. -/
def curve : Affine (ZMod p) := ⟨0, 0, 0, 0, 7⟩

theorem val_natCast {a : Nat} (h : a < p) : (a : ZMod p).val = a := ZMod.val_natCast_of_lt h

theorem equation_iff {x y : ZMod p} : curve.Equation x y ↔ y ^ 2 = x ^ 3 + 7 := by
  rw [Affine.equation_iff]
  simp [curve]

theorem Δ_ne_zero : curve.Δ ≠ 0 := by
  have hΔ : curve.Δ = -(21168 : Nat) := by
    simp only [curve, WeierstrassCurve.Δ, WeierstrassCurve.b₂, WeierstrassCurve.b₄,
      WeierstrassCurve.b₆, WeierstrassCurve.b₈]
    push_cast
    ring
  rw [hΔ, neg_ne_zero, Ne, ZMod.natCast_eq_zero_iff]
  exact fun h => absurd (Nat.le_of_dvd (by decide) h) (by decide)

/-- Every point of the curve is regular. -/
theorem nonsingular_iff {x y : ZMod p} : curve.Nonsingular x y ↔ y ^ 2 = x ^ 3 + 7 := by
  rw [← equation_iff]
  exact (Affine.equation_iff_nonsingular_of_Δ_ne_zero Δ_ne_zero).symm

/-- The equation of the curve by numbers. -/
theorem nonsingular_natCast {x y : Nat} :
    curve.Nonsingular (x : ZMod p) y ↔ y * y % p = (x * x * x + 7) % p := by
  have hleft : ((y * y : Nat) : ZMod p) = (y : ZMod p) ^ 2 := by
    push_cast
    ring
  have hright : ((x * x * x + 7 : Nat) : ZMod p) = (x : ZMod p) ^ 3 + 7 := by
    push_cast
    ring
  rw [nonsingular_iff, ← hleft, ← hright, ZMod.natCast_eq_natCast_iff']

theorem negY_eq (x y : ZMod p) : curve.negY x y = -y := by
  simp [Affine.negY, curve]

/-! ## Field elements as numbers -/

/-- The difference of two numbers is the least number that stands for the difference. -/
theorem sub_eq_val (a b : Nat) : sub a b = ((a : ZMod p) - b).val := by
  have hb : b % p ≤ a + p := (Nat.mod_lt b (by decide)).le.trans (Nat.le_add_left p a)
  have hcast : (sub a b : ZMod p) = (a : ZMod p) - b := by
    rw [sub, ZMod.natCast_mod, Nat.cast_sub hb, Nat.cast_add, ZMod.natCast_self, add_zero,
      ZMod.natCast_mod]
  have hlt : sub a b < p := Nat.mod_lt _ (by decide)
  rw [← hcast, val_natCast hlt]

theorem cast_sub (a b : Nat) : (sub a b : ZMod p) = (a : ZMod p) - b := by
  rw [sub_eq_val, ZMod.natCast_zmod_val]

/-- Opposite numbers of the field have different parities, 0 apart. -/
theorem val_neg_odd {y : ZMod p} (hy : y ≠ 0) : (-y).val % 2 = 1 ↔ ¬ y.val % 2 = 1 := by
  have hodd : p % 2 = 1 := by decide
  have hlt : y.val < p := ZMod.val_lt y
  rw [ZMod.neg_val, if_neg hy]
  omega

/-! ## Points -/

namespace Point

/-- A point of the curve by the least numbers for its coordinates. -/
def ofCurve : curve.Point → Point
  | .zero => .zero
  | .some x y _ => .affine x.val y.val

theorem ofCurve_zero : ofCurve 0 = .zero := rfl

theorem ofCurve_some {x y : ZMod p} (h : curve.Nonsingular x y) :
    ofCurve (.some x y h) = .affine x.val y.val := rfl

theorem ofCurve_injective : Function.Injective ofCurve := by
  rintro (_ | ⟨x, y, h⟩) (_ | ⟨x', y', h'⟩) heq
  · rfl
  · cases heq
  · cases heq
  · obtain ⟨hx, hy⟩ := Point.affine.inj heq
    obtain rfl := ZMod.val_injective p hx
    obtain rfl := ZMod.val_injective p hy
    rfl

/-- The third point on a line, mirrored, by numbers and in the field. -/
theorem alongLine_eq {slope : Nat} {ℓ : ZMod p} (hslope : (slope : ZMod p) = ℓ)
    (x₁ y₁ x₂ : ZMod p) :
    alongLine slope x₁.val y₁.val x₂.val =
      .affine (curve.addX x₁ x₂ ℓ).val (curve.addY x₁ x₂ y₁ ℓ).val := by
  have hx : sub (sub (slope * slope) x₁.val) x₂.val = (curve.addX x₁ x₂ ℓ).val := by
    rw [sub_eq_val, cast_sub, Nat.cast_mul, hslope, ZMod.natCast_zmod_val, ZMod.natCast_zmod_val]
    congr 1
    simp only [Affine.addX, curve]
    ring
  unfold alongLine
  show Point.affine (sub (sub (slope * slope) x₁.val) x₂.val)
    (sub (slope * sub x₁.val (sub (sub (slope * slope) x₁.val) x₂.val)) y₁.val) = _
  rw [hx]
  congr 1
  rw [sub_eq_val, Nat.cast_mul, cast_sub, hslope, ZMod.natCast_zmod_val, ZMod.natCast_zmod_val,
    ZMod.natCast_zmod_val]
  congr 1
  simp only [Affine.addY, Affine.negAddY, negY_eq]
  ring

/-- **The sum of points is the sum on the curve.** -/
theorem add_ofCurve (P Q : curve.Point) : add (ofCurve P) (ofCurve Q) = ofCurve (P + Q) := by
  rcases P with _ | ⟨x₁, y₁, h₁⟩
  · exact congrArg ofCurve (zero_add Q).symm
  rcases Q with _ | ⟨x₂, y₂, h₂⟩
  · exact congrArg ofCurve (add_zero (.some x₁ y₁ h₁)).symm
  show (if x₁.val = x₂.val then
      if (y₁.val + y₂.val) % p = 0 then zero
      else alongLine (3 * x₁.val * x₁.val % p * inverse p (2 * y₁.val) % p) x₁.val y₁.val x₂.val
    else alongLine (sub y₂.val y₁.val * inverse p (sub x₂.val x₁.val) % p) x₁.val y₁.val x₂.val) = _
  by_cases hx : x₁ = x₂
  · subst hx
    rw [if_pos rfl]
    -- The sum of the y-coordinates is 0 exactly for opposite points.
    have hopposite : (y₁.val + y₂.val) % p = 0 ↔ y₁ = curve.negY x₁ y₂ := by
      rw [negY_eq, ← Nat.dvd_iff_mod_eq_zero, ← ZMod.natCast_eq_zero_iff, Nat.cast_add,
        ZMod.natCast_zmod_val, ZMod.natCast_zmod_val]
      exact add_eq_zero_iff_eq_neg
    by_cases hy : y₁ = curve.negY x₁ y₂
    · rw [if_pos (hopposite.mpr hy), Affine.Point.add_of_Y_eq rfl hy]
      rfl
    · rw [if_neg (mt hopposite.mp hy), Affine.Point.add_of_Y_ne hy]
      obtain rfl : y₁ = y₂ := Affine.Y_eq_of_Y_ne h₁.1 h₂.1 rfl hy
      refine alongLine_eq ?_ x₁ y₁ x₁
      rw [Affine.slope_of_Y_ne rfl hy, negY_eq, ZMod.natCast_mod, Nat.cast_mul,
        ZMod.natCast_mod, cast_inverse_p]
      push_cast
      simp only [ZMod.natCast_zmod_val, curve]
      rw [div_eq_mul_inv]
      ring_nf
  · have hval : x₁.val ≠ x₂.val := fun h => hx (ZMod.val_injective p h)
    rw [if_neg hval, Affine.Point.add_of_X_ne hx]
    refine alongLine_eq ?_ x₁ y₁ x₂
    rw [Affine.slope_of_X_ne hx, ZMod.natCast_mod, Nat.cast_mul, cast_inverse_p,
      cast_sub, cast_sub]
    simp only [ZMod.natCast_zmod_val]
    rw [← neg_sub x₁ x₂, ← neg_sub y₁ y₂, inv_neg, neg_mul_neg, div_eq_mul_inv]

theorem mulBits_ofCurve {bits k : Nat} (fits : k < 2 ^ bits) (P : curve.Point) :
    mulBits bits k (ofCurve P) = ofCurve (k • P) := by
  induction bits generalizing k P with
  | zero =>
    obtain rfl : k = 0 := by simpa using fits
    rw [zero_nsmul]
    rfl
  | succ bits ih =>
    have hhalf : k / 2 < 2 ^ bits := by
      rw [pow_succ] at fits
      omega
    -- half of the multiple, of the doubled point
    have hrest : mulBits bits (k / 2) (add (ofCurve P) (ofCurve P)) =
        ofCurve ((2 * (k / 2)) • P) := by
      rw [add_ofCurve, ih hhalf, ← two_nsmul, ← mul_nsmul]
    show (if k % 2 = 1 then add (ofCurve P) (mulBits bits (k / 2) (add (ofCurve P) (ofCurve P)))
      else mulBits bits (k / 2) (add (ofCurve P) (ofCurve P))) = _
    rw [hrest]
    split
    · rename_i hodd
      rw [add_ofCurve, ← succ_nsmul']
      congr 2
      omega
    · rename_i heven
      congr 2
      omega

/-- **Multiples of points are multiples on the curve.** -/
theorem mul_ofCurve (k : Nat) (P : curve.Point) : mul k (ofCurve P) = ofCurve (k • P) := by
  unfold mul
  refine mulBits_ofCurve ?_ P
  split
  · rename_i hzero
    rw [hzero]
    exact Nat.one_pos
  · exact Nat.lt_log2_self

/-! ## The base point -/

/-- The base point on the curve. -/
def generator : curve.Point :=
  .some
    (0x79be667ef9dcbbac55a06295ce870b07029bfcdb2dce28d959f2815b16f81798 : Nat)
    (0x483ada7726a3c4655da4fbfc0e1108a8fd17b448a68554199c47d08ffb10d4b8 : Nat)
    (nonsingular_natCast.mpr (by decide +kernel))

theorem ofCurve_generator : ofCurve generator = base := by
  unfold generator base
  rw [ofCurve_some, val_natCast (by decide), val_natCast (by decide)]

theorem mul_base (k : Nat) : mul k base = ofCurve (k • generator) := by
  rw [← ofCurve_generator, mul_ofCurve]

theorem mul_order_base : mul n base = .zero := by decide +kernel

/-- **The base point has the order `n`.** -/
theorem addOrderOf_generator : addOrderOf generator = n := by
  refine addOrderOf_eq_prime ?_ ?_
  · apply ofCurve_injective
    rw [← mul_base, mul_order_base, ofCurve_zero]
  · exact Affine.Point.some_ne_zero _

/-- Multiples of the base point are equal exactly if their factors are in the field of size `n`. -/
theorem nsmul_generator_eq_iff {j k : Nat} :
    j • generator = k • generator ↔ (j : ZMod n) = k := by
  rw [nsmul_eq_nsmul_iff_modEq, addOrderOf_generator, ZMod.natCast_eq_natCast_iff]

/-! ## Points of an x-coordinate -/

/-- **A point is found again** from its x-coordinate and the parity of its y-coordinate. -/
theorem lift_ofCurve {x y : ZMod p} (h : curve.Nonsingular x y) :
    lift? x.val (decide (y.val % 2 = 1)) = some (ofCurve (.some x y h)) := by
  let square := (x.val * x.val * x.val + 7) % p
  let root := powMod p 256 square ((p + 1) / 4)
  have hsquare : (square : ZMod p) = y ^ 2 := by
    rw [ZMod.natCast_mod, nonsingular_iff.mp h]
    push_cast
    rw [ZMod.natCast_zmod_val]
    ring
  have hroot : root = ((root : Nat) : ZMod p).val :=
    (val_natCast (powMod_lt (by decide) 256 square _)).symm
  -- The power is a root, as `y ^ p = y`.
  have hrootsq : (root : ZMod p) ^ 2 = y ^ 2 := by
    rw [cast_powMod (by decide), hsquare, ← pow_mul, ← pow_mul,
      show 2 * ((p + 1) / 4 * 2) = p + 1 by decide, pow_succ, ZMod.pow_card, sq]
  have hfound : root * root % p = square := by
    have hlt : square < p := Nat.mod_lt _ (by decide)
    rw [← Nat.mod_eq_of_lt hlt, ← ZMod.natCast_eq_natCast_iff', hsquare, Nat.cast_mul, ← sq,
      hrootsq]
  show (if x.val < p ∧ root * root % p = square then
      some (affine x.val
        (if decide (root % 2 = 1) = decide (y.val % 2 = 1) then root else sub 0 root))
    else none) = some (affine x.val y.val)
  rw [if_pos ⟨ZMod.val_lt x, hfound⟩]
  refine congrArg (fun v => some (affine x.val v)) ?_
  have heither : (root : ZMod p) = y ∨ ((root : ZMod p) = -y ∧ y ≠ 0) := by
    rcases sq_eq_sq_iff_eq_or_eq_neg.mp hrootsq with heq | hneg
    · exact .inl heq
    · by_cases hy : y = 0
      · left
        rw [hneg, hy, neg_zero]
      · exact .inr ⟨hneg, hy⟩
  rcases heither with heq | ⟨hneg, hy⟩
  · have hval : root = y.val := by rw [hroot, heq]
    rw [if_pos (by rw [hval]), hval]
  · have hparity : ¬ decide (root % 2 = 1) = decide (y.val % 2 = 1) := by
      rw [decide_eq_decide, hroot, hneg, val_neg_odd hy]
      exact not_iff_self
    rw [if_neg hparity, sub_eq_val, hneg, Nat.cast_zero, zero_sub, neg_neg]

end Point

end TxRelay.Secp256k1
