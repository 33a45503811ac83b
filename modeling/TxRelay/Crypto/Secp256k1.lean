/-
  The curve y² = x³ + 7 over the prime field of secp256k1.

  Field elements are natural numbers below `p`.  Points are added by the chord and tangent rule;
  multiples are formed bit by bit.  The multiples of the base point form a group of the prime
  order `n`.
-/

namespace TxRelay.Secp256k1

/-- The size of the field. -/
def p : Nat := 0xfffffffffffffffffffffffffffffffffffffffffffffffffffffffefffffc2f

/-- The order of the base point. -/
def n : Nat := 0xfffffffffffffffffffffffffffffffebaaedce6af48a03bbfd25e8cd0364141

/-- `b ^ e` modulo `m`, by the lowest `bits` bits of `e`. -/
def powMod (m : Nat) : (bits : Nat) → (b e : Nat) → Nat
  | 0, _, _ => 1 % m
  | k + 1, b, e =>
    let rest := powMod m k (b * b % m) (e / 2)
    if e % 2 = 1 then b * rest % m else rest

/-- The inverse modulo a prime of at most 256 bits. -/
def inverse (m a : Nat) : Nat := powMod m 256 (a % m) (m - 2)

/-- The difference of two field elements. -/
def sub (a b : Nat) : Nat := (a + p - b % p) % p

/-- A point: the neutral one, or a pair of coordinates. -/
inductive Point where
  | zero
  | affine (x y : Nat)
deriving DecidableEq, Repr

namespace Point

/-- The base point. -/
def base : Point :=
  .affine 0x79be667ef9dcbbac55a06295ce870b07029bfcdb2dce28d959f2815b16f81798
    0x483ada7726a3c4655da4fbfc0e1108a8fd17b448a68554199c47d08ffb10d4b8

/-- The third point on the line of the given slope, mirrored. -/
def alongLine (slope x₁ y₁ x₂ : Nat) : Point :=
  let x := sub (sub (slope * slope) x₁) x₂
  .affine x (sub (slope * sub x₁ x) y₁)

/-- The sum of two points. -/
def add : Point → Point → Point
  | zero, q => q
  | q, zero => q
  | affine x₁ y₁, affine x₂ y₂ =>
    if x₁ = x₂ then
      if (y₁ + y₂) % p = 0 then zero
      else alongLine (3 * x₁ * x₁ % p * inverse p (2 * y₁) % p) x₁ y₁ x₂
    else alongLine (sub y₂ y₁ * inverse p (sub x₂ x₁) % p) x₁ y₁ x₂

/-- The multiple of a point by the number of the lowest `bits` bits of `k`. -/
def mulBits : (bits : Nat) → (k : Nat) → Point → Point
  | 0, _, _ => zero
  | bits + 1, k, q =>
    let rest := mulBits bits (k / 2) (add q q)
    if k % 2 = 1 then add q rest else rest

/-- The multiple of a point. -/
def mul (k : Nat) (q : Point) : Point := mulBits (if k = 0 then 0 else Nat.log2 k + 1) k q

/-- The point of an x-coordinate whose y-coordinate is odd or even as told. -/
def lift? (x : Nat) (odd : Bool) : Option Point :=
  let square := (x * x * x + 7) % p
  let y := powMod p 256 square ((p + 1) / 4)
  if x < p ∧ y * y % p = square then
    some (.affine x (if decide (y % 2 = 1) = odd then y else sub 0 y))
  else none

end Point

end TxRelay.Secp256k1
