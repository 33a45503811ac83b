/-
  Decimal fractions and the binary numbers nearest to them.

  A decimal number is rounded to the nearest binary number of 53 significant bits, and that is
  written with the fewest digits that round back to it.  All of it is exact arithmetic on natural
  numbers.
-/

namespace TxRelay.Decimal

/-- A positive fraction. -/
structure Ratio where
  num : Nat
  den : Nat
deriving DecidableEq, Repr

namespace Ratio

/-- `n · base ^ e`. -/
def scaled (base n : Nat) (e : Int) : Ratio :=
  if 0 ≤ e then ⟨n * Nat.pow base e.toNat, 1⟩ else ⟨n, Nat.pow base (-e).toNat⟩

/-- Is `x` at most `y`? -/
def le (x y : Ratio) : Bool := x.num * y.den ≤ y.num * x.den

/-- Is `x` below `y`? -/
def lt (x y : Ratio) : Bool := x.num * y.den < y.num * x.den

/-- The quotient as a fraction. -/
def div (x y : Ratio) : Ratio := ⟨x.num * y.den, x.den * y.num⟩

/-- The whole part. -/
def floor (x : Ratio) : Nat := x.num / x.den

/-- The nearest whole number; a half goes to the even neighbour. -/
def round (x : Ratio) : Nat :=
  let n := x.floor
  let rest := 2 * (x.num % x.den)
  if rest < x.den then n else if x.den < rest then n + 1 else n + n % 2

end Ratio

/-- A binary number: `significand · 2 ^ exponent`. -/
structure Binary where
  significand : Nat
  exponent : Int
deriving DecidableEq, Repr

/-- The least exponent. -/
def leastExponent : Int := -1074

/-- The nearest binary number, if it is below `2 ^ 1024`. -/
def nearest (x : Ratio) : Option Binary :=
  let size : Int := (Nat.log2 x.num : Int) - Nat.log2 x.den
  let low := max (size - 53) leastExponent
  let wide := (x.div (Ratio.scaled 2 1 low)).floor ≥ Nat.pow 2 53
  let e := if wide then low + 1 else low
  let s := (x.div (Ratio.scaled 2 1 e)).round
  if Ratio.le (Ratio.scaled 2 1 1024) (Ratio.scaled 2 s e) then none else some ⟨s, e⟩

/-- Where the numbers that round to `b` begin. -/
def lowEnd (b : Binary) : Ratio :=
  if b.significand = Nat.pow 2 52 ∧ leastExponent < b.exponent then
    Ratio.scaled 2 (4 * b.significand - 1) (b.exponent - 2)
  else Ratio.scaled 2 (2 * b.significand - 1) (b.exponent - 1)

/-- Where they end. -/
def highEnd (b : Binary) : Ratio := Ratio.scaled 2 (2 * b.significand + 1) (b.exponent - 1)

/-- Does a fraction round to `b`?  The ends do if the significand is even. -/
def roundsTo (b : Binary) (x : Ratio) : Bool :=
  if b.significand % 2 = 0 then (lowEnd b).le x && x.le (highEnd b)
  else (lowEnd b).lt x && x.lt (highEnd b)

/-- The greatest `k` with `10 ^ k ≤ x`, looked for from above. -/
def magnitude : (rounds : Nat) → (k : Int) → Ratio → Int
  | 0, k, _ => k
  | rounds + 1, k, x => if (Ratio.scaled 10 1 k).le x then k else magnitude rounds (k - 1) x

/-- The number on the grid of `10 ^ e` that is nearest to `x`, of its two neighbours that round
    to `b`. -/
def onGrid (b : Binary) (x : Ratio) (e : Int) : Option Nat :=
  let q := x.div (Ratio.scaled 10 1 e)
  let below := q.floor
  let lowIn := roundsTo b (Ratio.scaled 10 below e)
  let highIn := roundsTo b (Ratio.scaled 10 (below + 1) e)
  if lowIn && highIn then some (if q.round = below then below else below + 1)
  else if lowIn then some below
  else if highIn then some (below + 1)
  else none

/-- The fewest digits, from `digits` on, and the power of ten that goes with them. -/
def fewest : (rounds : Nat) → (digits : Nat) → (k : Int) → Binary → Ratio → Nat × Int
  | 0, digits, k, _, x => ((x.div (Ratio.scaled 10 1 (k - digits + 1))).round, k - digits + 1)
  | rounds + 1, digits, k, b, x =>
    let e := k - digits + 1
    match onGrid b x e with
    | some n => (n, e)
    | none => fewest rounds (digits + 1) k b x

/-- The same number without zeros at the end of its digits. -/
def withoutZeros : (rounds : Nat) → Nat × Int → Nat × Int
  | 0, d => d
  | rounds + 1, (n, e) => if n % 10 = 0 then withoutZeros rounds (n / 10, e + 1) else (n, e)

/-- The shortest decimal number that rounds to a binary number other than 0: digits and power of
    ten. -/
def shortest (b : Binary) : Nat × Int :=
  let x := Ratio.scaled 2 b.significand b.exponent
  withoutZeros 17 (fewest 17 1 (magnitude 640 309 x) b x)

/-- A number without an exponent and with a decimal point. -/
def positional (digits : Nat) (e : Int) : String :=
  let ds := Nat.toDigits 10 digits
  if 0 ≤ e then String.ofList (ds ++ List.replicate e.toNat '0') ++ ".0"
  else
    let places := (-e).toNat
    let ds := List.replicate (places + 1 - ds.length) '0' ++ ds
    String.ofList (ds.take (ds.length - places)) ++ "." ++
      String.ofList (ds.drop (ds.length - places))

/-- The written form of `mantissa · 10 ^ exponent` after rounding; there is none from `2 ^ 1024`
    on. -/
def render? (mantissa : Nat) (exponent : Int) : Option String :=
  let size : Int := (Nat.toDigits 10 mantissa).length + exponent
  if mantissa = 0 ∨ size < -400 then some "0.0"
  else if 400 < size then none
  else
    (nearest (Ratio.scaled 10 mantissa exponent)).map fun b =>
      if b.significand = 0 then "0.0"
      else
        let (n, e) := shortest b
        positional n e

end TxRelay.Decimal
