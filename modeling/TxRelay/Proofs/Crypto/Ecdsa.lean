/-
  A signature and the key it comes from.

      nonce     the first of sixteen numbers that the generator draws which lies in `1 … n - 1` and
                gives numbers `r` and `s` that are not 0
      equation  `s k = z + r d` in the field of size `n`, for the digest `z`, the key `d` and a
                number `k`: the nonce, or, where `s` was too high, its opposite
      parity    of the y-coordinate of the point `k G`

  Whoever knows the parity finds `k G` again from `r`, unless its x-coordinate is `n` or more, and
  then the equation gives `d G = r⁻¹ (s (k G) - z G)`.

  1. **One nonce.**  A nonce in range has a point that is not the neutral one (`exists_point`) and
     not its own opposite (`y_ne_zero`).  `signWith?_some` says what it makes: `r`, a low `s`, and a
     number that is `TiedBy` the equation and the parity.

  2. **Recovery.**  From a signature that is tied to the key the key's point is recovered
     (`recover?_of_tiedBy`).

  3. **The search.**  The signature is what the first number makes that is taken (`sign?_eq`), so
     what is known of one nonce is known of every signature (`sign?_recovers`).

  4. **A nonce is found.**  A number in range is refused only if `r` or `s` is 0, and that leaves
     four x-coordinates for its point (`abscissa_of_refused`).  Numbers that are neither equal nor
     opposite have points of different x-coordinates (`abscissa_ne`).  So among five such numbers
     one is taken (`exists_taken`).  That the generator draws five such is no fact of arithmetic;
     `Ample` is its name.

  The crux of recovery is the choice of the low `s`.  Where `n - s` is taken in place of `s`, the
  equation holds for the opposite nonce, whose point has the same x-coordinate and the other parity;
  so the parity is turned with it, and the two cases of `signWith?_some` meet in one `TiedBy`.
-/
import Mathlib.Data.List.Perm.Subperm
import TxRelay.Crypto.Ecdsa
import TxRelay.Proofs.Crypto.Curve

namespace TxRelay.Ecdsa

open Secp256k1 WeierstrassCurve

/-! ## Nonces and their points -/

/-- The point of a nonce is not the neutral one. -/
theorem exists_point {nonce : Nat} (pos : 0 < nonce) (lt : nonce < n) :
    ∃ x y h, nonce • Point.generator = .some x y h := by
  rcases hpoint : nonce • Point.generator with _ | ⟨x, y, h⟩
  · have hzero : (nonce : ZMod n) = (0 : Nat) := by
      rw [← Point.nsmul_generator_eq_iff, hpoint, zero_nsmul]
      rfl
    rw [ZMod.natCast_eq_natCast_iff', Nat.mod_eq_of_lt lt, Nat.zero_mod] at hzero
    omega
  · exact ⟨x, y, h, rfl⟩

/-- The opposite number gives the opposite point. -/
theorem nsmul_opposite {nonce : Nat} (lt : nonce < n) :
    (n - nonce) • Point.generator = -(nonce • Point.generator) := by
  have hsum : (n - nonce) • Point.generator + nonce • Point.generator = 0 := by
    rw [← add_nsmul, Nat.sub_add_cancel lt.le, ← Point.addOrderOf_generator]
    exact addOrderOf_nsmul_eq_zero _
  exact eq_neg_of_add_eq_zero_left hsum

theorem cast_ne_zero {nonce : Nat} (pos : 0 < nonce) (lt : nonce < n) : (nonce : ZMod n) ≠ 0 := by
  rw [Ne, ZMod.natCast_eq_zero_iff]
  exact Nat.not_dvd_of_pos_of_lt pos lt

theorem cast_opposite {a : Nat} (lt : a < n) : ((n - a : Nat) : ZMod n) = -a := by
  rw [Nat.cast_sub lt.le, ZMod.natCast_self, zero_sub]

/-- No point of a nonce is its own opposite. -/
theorem y_ne_zero {nonce : Nat} (pos : 0 < nonce) (lt : nonce < n) {x y : ZMod p}
    {h : curve.Nonsingular x y} (hpoint : nonce • Point.generator = .some x y h) : y ≠ 0 := by
  intro hy
  have hself : (n - nonce) • Point.generator = nonce • Point.generator := by
    rw [nsmul_opposite lt, hpoint, Affine.Point.neg_some, Affine.Point.some.injEq, negY_eq, hy,
      neg_zero]
    exact ⟨rfl, rfl⟩
  rw [Point.nsmul_generator_eq_iff, cast_opposite lt, ZMod.neg_eq_self_iff] at hself
  rcases hself with hzero | htwice
  · exact cast_ne_zero pos lt hzero
  · -- The order is odd.
    have hodd : n % 2 = 1 := by decide
    omega

/-! ## What a nonce makes -/

/-- The signature is tied to the key and the digest by a nonce whose point has the x-coordinate. -/
structure TiedBy (secret digest : Nat) (σ : Signature) (x : ZMod p) (nonce : Nat) : Prop where
  equation : (σ.s : ZMod n) * nonce = digest + σ.r * secret
  point : ∃ y h, nonce • Point.generator = .some x y h ∧ σ.odd = decide (y.val % 2 = 1)

/-- The number `s` of a nonce whose point has the x-coordinate, before the lower one is chosen. -/
def rawS (secret digest nonce : Nat) (x : ZMod p) : Nat :=
  inverse n nonce * ((digest + x.val % n * secret) % n) % n

theorem signWith?_eq {secret digest nonce : Nat} {x y : ZMod p} {h : curve.Nonsingular x y}
    (hpoint : nonce • Point.generator = .some x y h) :
    signWith? secret digest nonce =
      if x.val % n = 0 ∨ rawS secret digest nonce x = 0 then none
      else if rawS secret digest nonce x ≤ n / 2 then
        some ⟨x.val % n, rawS secret digest nonce x, y.val % 2 = 1⟩
      else some ⟨x.val % n, n - rawS secret digest nonce x, y.val % 2 = 0⟩ := by
  unfold signWith?
  rw [Point.mul_base, hpoint]
  rfl

/-- The equation that `s` solves. -/
theorem rawS_mul {secret digest nonce : Nat} (pos : 0 < nonce) (lt : nonce < n) (x : ZMod p) :
    (rawS secret digest nonce x : ZMod n) * nonce = digest + (x.val % n : Nat) * secret := by
  have hne := cast_ne_zero pos lt
  rw [rawS, ZMod.natCast_mod, Nat.cast_mul, cast_inverse_n, ZMod.natCast_mod, mul_right_comm,
    inv_mul_cancel₀ hne, one_mul, Nat.cast_add, Nat.cast_mul]

theorem rawS_lt (secret digest nonce : Nat) (x : ZMod p) : rawS secret digest nonce x < n :=
  Nat.mod_lt _ (by decide)

/-- **What a nonce makes**: `r` from the x-coordinate, a low `s`, and the equation for the nonce
    or its opposite, with the parity that belongs to it. -/
theorem signWith?_some {secret digest nonce : Nat} {σ : Signature} (pos : 0 < nonce)
    (lt : nonce < n) (h : signWith? secret digest nonce = some σ) :
    ∃ x y hxy, nonce • Point.generator = .some x y hxy ∧ σ.r = x.val % n ∧ 0 < σ.r ∧ 0 < σ.s ∧
      σ.s ≤ n / 2 ∧ ∃ k, TiedBy secret digest σ x k := by
  obtain ⟨x, y, hxy, hpoint⟩ := exists_point pos lt
  refine ⟨x, y, hxy, hpoint, ?_⟩
  have hlt := rawS_lt secret digest nonce x
  have hequation : (rawS secret digest nonce x : ZMod n) * nonce =
      digest + (x.val % n : Nat) * secret := rawS_mul pos lt x
  rw [signWith?_eq hpoint] at h
  split at h
  · cases h
  · rename_i hnonzero
    -- neither number is 0; what is left is whether `s` is low
    obtain ⟨hr, hs⟩ := not_or.mp hnonzero
    split at h
    · rename_i hlow
      obtain rfl := Option.some.inj h
      exact ⟨rfl, Nat.pos_of_ne_zero hr, Nat.pos_of_ne_zero hs, hlow, nonce,
        hequation, y, hxy, hpoint, rfl⟩
    · rename_i hhigh
      obtain rfl := Option.some.inj h
      -- the opposite of `s` goes with the opposite of the nonce, whose point has the other parity
      refine ⟨rfl, Nat.pos_of_ne_zero hr, Nat.sub_pos_of_lt hlt, ?_, n - nonce, ?_, -y, ?_⟩
      · show n - rawS secret digest nonce x ≤ n / 2
        have hodd : n % 2 = 1 := by decide
        omega
      · show ((n - rawS secret digest nonce x : Nat) : ZMod n) * (n - nonce : Nat) = _
        rw [cast_opposite hlt, cast_opposite lt, neg_mul_neg, hequation]
      · have hneg : curve.Nonsingular x (-y) := by
          rw [← negY_eq x y, Affine.nonsingular_neg]
          exact hxy
        refine ⟨hneg, ?_, ?_⟩
        · rw [nsmul_opposite lt, hpoint, Affine.Point.neg_some, Affine.Point.some.injEq]
          exact ⟨rfl, negY_eq x y⟩
        · show decide (y.val % 2 = 0) = decide ((-y).val % 2 = 1)
          rw [decide_eq_decide, val_neg_odd (y_ne_zero pos lt hpoint)]
          omega

/-! ## Recovery -/

/-- **The key is recovered** from a signature that is tied to it, if `r` is the x-coordinate. -/
theorem recover?_of_tiedBy {secret nonce : Nat} {digest : Bytes} {σ : Signature} {x : ZMod p}
    (tied : TiedBy secret (Bytes.toNat digest % n) σ x nonce) (hr : σ.r = x.val) (pos : 0 < σ.r)
    (lt : σ.r < n) : recover? digest σ = some (Point.mul secret Point.base) := by
  obtain ⟨y, h, hpoint, hodd⟩ := tied.point
  have hlift : Point.lift? σ.r σ.odd = some (Point.ofCurve (nonce • Point.generator)) := by
    rw [hr, hodd, Point.lift_ofCurve h, hpoint]
  let z := Bytes.toNat digest % n
  have hz : z ≤ n := (Nat.mod_lt _ (by decide)).le
  -- In the field of size `n`: r⁻¹ (s k - z) = d.
  have hkey : ((nonce * (inverse n σ.r * σ.s % n) + inverse n σ.r * (n - z) % n : Nat) : ZMod n) =
      secret := by
    have hequation : (σ.s : ZMod n) * nonce = z + σ.r * secret := tied.equation
    rw [Nat.cast_add, Nat.cast_mul, ZMod.natCast_mod, ZMod.natCast_mod, Nat.cast_mul, Nat.cast_mul,
      cast_inverse_n, Nat.cast_sub hz, ZMod.natCast_self]
    calc (nonce : ZMod n) * ((σ.r : ZMod n)⁻¹ * σ.s) + (σ.r : ZMod n)⁻¹ * (0 - z)
        = (σ.r : ZMod n)⁻¹ * (σ.s * nonce - z) := by ring
      _ = (σ.r : ZMod n)⁻¹ * σ.r * secret := by rw [hequation]; ring
      _ = secret := by rw [inv_mul_cancel₀ (cast_ne_zero pos lt), one_mul]
  unfold recover?
  rw [hlift]
  show some (Point.add
    (Point.mul (inverse n σ.r * σ.s % n) (Point.ofCurve (nonce • Point.generator)))
    (Point.mul (inverse n σ.r * (n - z) % n) Point.base)) = _
  rw [Point.mul_ofCurve, Point.mul_base, Point.add_ofCurve, Point.mul_base, ← mul_nsmul,
    ← add_nsmul, Point.nsmul_generator_eq_iff.mpr hkey]

/-! ## The search for a nonce -/

/-- The numbers that a generator draws. -/
def Generator.draws : (count : Nat) → Generator → List Nat
  | 0, _ => []
  | count + 1, g => g.next.1 :: draws count g.next.2.again

/-- A number that lies in `1 … n - 1`. -/
def InRange (nonce : Nat) : Prop := 0 < nonce ∧ nonce < n

instance (nonce : Nat) : Decidable (InRange nonce) := inferInstanceAs (Decidable (_ ∧ _))

/-- The number is taken as nonce for the key and the digest. -/
def taken (secret digest nonce : Nat) : Bool :=
  InRange nonce && (signWith? secret digest nonce).isSome

/-- The numbers that are drawn for the key and the digest. -/
def draws (secret : Nat) (digest : Bytes) : List Nat :=
  Generator.draws 16 (Generator.seed secret (Bytes.toNat digest % n))

/-- The nonce of a signature: the first number drawn that is taken. -/
def nonce? (secret : Nat) (digest : Bytes) : Option Nat :=
  (draws secret digest).find? (taken secret (Bytes.toNat digest % n))

/-- One draw: what the number makes, or else what the next ones make. -/
theorem signFrom_succ (count secret digest : Nat) (g : Generator) :
    signFrom (count + 1) secret digest g =
      (if InRange g.next.1 then signWith? secret digest g.next.1 else none).or
        (signFrom count secret digest g.next.2.again) := by
  show _ = (if 0 < g.next.1 ∧ g.next.1 < n then signWith? secret digest g.next.1 else none).or _
  simp only [signFrom]
  cases (if 0 < g.next.1 ∧ g.next.1 < n then signWith? secret digest g.next.1 else none) with
  | some σ => rfl
  | none => rfl

theorem signFrom_eq (count secret digest : Nat) (g : Generator) :
    signFrom count secret digest g =
      ((Generator.draws count g).find? (taken secret digest)).bind (signWith? secret digest) := by
  induction count generalizing g with
  | zero => rfl
  | succ count ih =>
    rw [signFrom_succ, ih, Generator.draws, List.find?_cons]
    by_cases hrange : InRange g.next.1
    · rw [if_pos hrange]
      have htaken : taken secret digest g.next.1 = (signWith? secret digest g.next.1).isSome := by
        rw [taken, decide_eq_true hrange, Bool.true_and]
      rw [htaken]
      cases hmade : signWith? secret digest g.next.1 with
      | some σ => exact hmade.symm
      | none => rfl
    · have hrefused : taken secret digest g.next.1 = false := by
        rw [taken, decide_eq_false hrange, Bool.false_and]
      rw [if_neg hrange, hrefused]
      rfl

/-- A signature is what its nonce makes. -/
theorem sign?_eq (secret : Nat) (digest : Bytes) :
    sign? secret digest =
      (nonce? secret digest).bind (signWith? secret (Bytes.toNat digest % n)) :=
  signFrom_eq 16 secret _ _

theorem inRange_of_taken {secret digest nonce : Nat} (h : taken secret digest nonce = true) :
    InRange nonce :=
  of_decide_eq_true (Bool.and_eq_true_iff.mp h).1

/-! ## A nonce is found -/

/-- The x-coordinate of the point of a nonce. -/
def abscissa (nonce : Nat) : Nat :=
  match Point.mul nonce Point.base with
  | .zero => 0
  | .affine x _ => x

theorem abscissa_eq {nonce : Nat} {x y : ZMod p} {h : curve.Nonsingular x y}
    (hpoint : nonce • Point.generator = .some x y h) : abscissa nonce = x.val := by
  rw [abscissa, Point.mul_base, hpoint]
  rfl

/-- Two numbers that are neither equal nor opposite have points of different x-coordinates. -/
def Apart (j k : Nat) : Prop := j ≠ k ∧ j + k ≠ n

instance (j k : Nat) : Decidable (Apart j k) := inferInstanceAs (Decidable (_ ∧ _))

theorem abscissa_ne {j k : Nat} (hj : InRange j) (hk : InRange k) (apart : Apart j k) :
    abscissa j ≠ abscissa k := by
  obtain ⟨x, y, h, hpoint⟩ := exists_point hj.1 hj.2
  obtain ⟨x', y', h', hpoint'⟩ := exists_point hk.1 hk.2
  rw [abscissa_eq hpoint, abscissa_eq hpoint']
  intro hval
  have heither : Affine.Point.some x y h = .some x' y' h' ∨
      Affine.Point.some x y h = -.some x' y' h' :=
    Affine.Point.X_eq_iff.mp (ZMod.val_injective p hval)
  rw [← hpoint, ← hpoint', ← nsmul_opposite hk.2, Point.nsmul_generator_eq_iff,
    Point.nsmul_generator_eq_iff, ZMod.natCast_eq_natCast_iff', ZMod.natCast_eq_natCast_iff',
    Nat.mod_eq_of_lt hj.2, Nat.mod_eq_of_lt hk.2,
    Nat.mod_eq_of_lt (Nat.sub_lt (by decide) hk.1)] at heither
  obtain ⟨hne, hsum⟩ := apart
  obtain ⟨-, hlt⟩ := hk
  rcases heither with heq | hopposite
  · exact hne heq
  · omega

/-- The value that `r` has where `s` is 0. -/
def forbidden (secret digest : Nat) : Nat := (-(digest : ZMod n) / secret).val

/-- A number in range is refused for its x-coordinate only, and there are four such. -/
theorem abscissa_of_refused {secret digest nonce : Nat} (hsecret : InRange secret)
    (hrange : InRange nonce) (h : taken secret digest nonce = false) :
    abscissa nonce ∈ [0, n, forbidden secret digest, forbidden secret digest + n] := by
  obtain ⟨x, y, hxy, hpoint⟩ := exists_point hrange.1 hrange.2
  have hnone : signWith? secret digest nonce = none := by
    rw [taken, decide_eq_true hrange, Bool.true_and] at h
    exact Option.not_isSome_iff_eq_none.mp (by rw [h]; exact Bool.false_ne_true)
  have hr : x.val % n = 0 ∨ x.val % n = forbidden secret digest := by
    rw [signWith?_eq hpoint] at hnone
    by_cases hzero : x.val % n = 0 ∨ rawS secret digest nonce x = 0
    · rcases hzero with hr | hs
      · exact .inl hr
      · right
        have hequation : (rawS secret digest nonce x : ZMod n) * nonce =
            digest + (x.val % n : Nat) * secret := rawS_mul hrange.1 hrange.2 x
        rw [hs, Nat.cast_zero, zero_mul] at hequation
        have hvalue : -(digest : ZMod n) / secret = (x.val % n : Nat) := by
          rw [div_eq_iff (cast_ne_zero hsecret.1 hsecret.2)]
          linear_combination hequation
        rw [forbidden, hvalue, ZMod.val_natCast_of_lt (Nat.mod_lt _ (by decide))]
    · rw [if_neg hzero] at hnone
      split at hnone
      · cases hnone
      · cases hnone
  -- An x-coordinate is below `2 n`.
  have hlt : x.val < n + n := (ZMod.val_lt x).trans (by decide)
  have heither : x.val = x.val % n ∨ x.val = x.val % n + n := by
    rcases Nat.lt_or_ge x.val n with hsmall | hlarge
    · exact .inl (Nat.mod_eq_of_lt hsmall).symm
    · right
      rw [Nat.mod_eq_sub_mod hlarge, Nat.mod_eq_of_lt (Nat.sub_lt_left_of_lt_add hlarge hlt)]
      exact (Nat.sub_add_cancel hlarge).symm
  rw [abscissa_eq hpoint]
  simp only [List.mem_cons, List.not_mem_nil, or_false]
  omega

/-- Five of the numbers are in range and pairwise apart. -/
def Ample (drawn : List Nat) : Prop :=
  ∃ ks ⊆ drawn, 5 ≤ ks.length ∧ (∀ k ∈ ks, InRange k) ∧ ks.Pairwise Apart

/-- **A nonce is found** among ample numbers: no more than four x-coordinates are refused. -/
theorem exists_taken {secret : Nat} (hsecret : InRange secret) (digest : Nat) {drawn : List Nat}
    (h : Ample drawn) : ∃ k ∈ drawn, taken secret digest k = true := by
  obtain ⟨ks, hsub, hlength, hrange, hapart⟩ := h
  by_contra hnone
  have hrefused : ∀ k ∈ ks, taken secret digest k = false := by
    intro k hk
    exact Bool.eq_false_iff.mpr fun htaken => hnone ⟨k, hsub hk, htaken⟩
  have hnodup : (ks.map abscissa).Nodup := by
    refine List.pairwise_map.mpr (hapart.imp_of_mem ?_)
    intro j k hj hk hjk
    exact abscissa_ne (hrange j hj) (hrange k hk) hjk
  have hfour : ks.map abscissa ⊆ [0, n, forbidden secret digest, forbidden secret digest + n] := by
    intro a ha
    obtain ⟨k, hk, rfl⟩ := List.mem_map.mp ha
    exact abscissa_of_refused hsecret (hrange k hk) (hrefused k hk)
  have hle : (ks.map abscissa).length ≤ 4 := (hnodup.subperm hfour).length_le
  rw [List.length_map] at hle
  omega

/-- **A signature is made** if the numbers drawn are ample. -/
theorem exists_sign? {secret : Nat} (hsecret : InRange secret) {digest : Bytes}
    (h : Ample (draws secret digest)) : ∃ σ, sign? secret digest = some σ := by
  obtain ⟨k, hk, htaken⟩ := exists_taken hsecret (Bytes.toNat digest % n) h
  rw [sign?_eq]
  cases hfound : nonce? secret digest with
  | none => exact absurd htaken (List.find?_eq_none.mp hfound k hk)
  | some nonce =>
    have hnonce : taken secret (Bytes.toNat digest % n) nonce = true := List.find?_some hfound
    exact Option.isSome_iff_exists.mp (Bool.and_eq_true_iff.mp hnonce).2

/-- **Every signature recovers its key**, unless the x-coordinate of its nonce's point is too
    high to be written as `r`. -/
theorem sign?_recovers {secret : Nat} {digest : Bytes} {σ : Signature}
    (h : sign? secret digest = some σ) :
    0 < σ.r ∧ σ.r < n ∧ 0 < σ.s ∧ σ.s ≤ n / 2 ∧
      ∃ k x y, nonce? secret digest = some k ∧ Point.mul k Point.base = .affine x y ∧
        σ.r = x % n ∧ (x < n → recover? digest σ = some (Point.mul secret Point.base)) := by
  rw [sign?_eq] at h
  obtain ⟨k, hk, hmade⟩ := Option.bind_eq_some_iff.mp h
  obtain ⟨hpos, hlt⟩ := inRange_of_taken (List.find?_some hk)
  obtain ⟨x, y, hxy, hpoint, hr, hrpos, hspos, hslow, k', htied⟩ := signWith?_some hpos hlt hmade
  have hrlt : σ.r < n := by
    rw [hr]
    exact Nat.mod_lt _ (by decide)
  refine ⟨hrpos, hrlt, hspos, hslow, k, x.val, y.val, hk, ?_, hr, ?_⟩
  · rw [Point.mul_base, hpoint]
    rfl
  · intro hlow
    rw [Nat.mod_eq_of_lt hlow] at hr
    exact recover?_of_tiedBy htied hr hrpos hrlt

end TxRelay.Ecdsa
