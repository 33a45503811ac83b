/-
  Punycode: labels of any script in ASCII letters, digits and hyphens.

  The ASCII characters of a label come first, then a hyphen, then one number for each other
  character, by which that character is inserted.  Insertions go by rising code point, and for one
  code point from left to right.  So with `size` characters in place the next insertion, of the
  code point `p` at the index `i`, has the number `p * (size + 1) + i`, and what is written is its
  distance from the least number that could come next.

  A distance is written in digits from 0 to 35, the least significant first.  A digit below a
  threshold is the last one; the thresholds depend on the place of the digit and on a bias, which
  follows the size of the distances written so far.
-/

namespace TxRelay.Url.Punycode

/-! ## Digits -/

/-- Is `c` an ASCII character? -/
def isAscii (c : Char) : Bool := c.toNat < 0x80

/-- The digit of value `n < 36`. -/
def digit (n : Nat) : Char := if n < 26 then Char.ofNat (97 + n) else Char.ofNat (22 + n)

/-- The value of a digit; letters may have either case. -/
def digit? (c : Char) : Option Nat :=
  if 'a' ≤ c ∧ c ≤ 'z' then some (c.toNat - 97)
  else if 'A' ≤ c ∧ c ≤ 'Z' then some (c.toNat - 65)
  else if '0' ≤ c ∧ c ≤ '9' then some (c.toNat - 22)
  else none

/-- The threshold of the digit at `place`, which counts 36, 72 and so on. -/
def threshold (bias place : Nat) : Nat :=
  if place ≤ bias then 1 else if bias + 26 ≤ place then 26 else place - bias

theorem one_le_threshold (bias place : Nat) : 1 ≤ threshold bias place := by
  unfold threshold; split
  · omega
  · split <;> omega

/-- Divide a distance by 35 until it is small, with 36 added to `bias` each time. -/
def settle (distance bias : Nat) : Nat :=
  if 455 < distance then settle (distance / 35) (bias + 36)
  else bias + 36 * distance / (distance + 38)
termination_by distance
decreasing_by omega

/-- The bias after a distance was written that brought the label to `size` characters. -/
def bias (distance size : Nat) (first : Bool) : Nat :=
  let d := if first then distance / 700 else distance / 2
  settle (d + d / size) 0

/-- The bias before the first distance. -/
def initialBias : Nat := 72

/-- The least code point that is inserted. -/
def initialPoint : Nat := 0x80

/-! ## Writing -/

/-- The digits of a distance from `place` on. -/
def digits (bias place distance : Nat) : List Char :=
  let t := threshold bias place
  if distance < t then [digit distance]
  else
    digit (t + (distance - t) % (36 - t)) :: digits bias (place + 36) ((distance - t) / (36 - t))
termination_by distance
decreasing_by
  have h1 := one_le_threshold bias place
  have h2 := Nat.div_le_self (distance - threshold bias place) (36 - threshold bias place)
  omega

/-- The insertions that make a label out of its ASCII characters: the code point of each, and the
    index among the characters then in place. -/
def insertions (cs : List Char) : List (Nat × Nat) :=
  let others := (cs.zipIdx.filter fun p => !isAscii p.1).mergeSort fun p q => p.1 ≤ q.1
  others.map fun (c, i) => (c.toNat, ((cs.take i).filter (· ≤ c)).length)

/-- How far the writing has come: how many characters are in place, the point and index that the
    next insertion has at least, and the bias. -/
structure Progress where
  size : Nat
  point : Nat
  index : Nat
  bias : Nat

/-- Write insertions. -/
def encodeFrom (s : Progress) (first : Bool) : List (Nat × Nat) → List Char
  | [] => []
  | (point, index) :: rest =>
    let distance := point * (s.size + 1) + index - (s.point * (s.size + 1) + s.index)
    digits s.bias 36 distance ++
      encodeFrom ⟨s.size + 1, point, index + 1, bias distance (s.size + 1) first⟩ false rest

/-- A label in ASCII. -/
def encode (cs : List Char) : List Char :=
  let basic := cs.filter isAscii
  (if basic = [] then [] else basic ++ ['-']) ++
    encodeFrom ⟨basic.length, initialPoint, 0, initialBias⟩ true (insertions cs)

/-! ## Reading -/

/-- Numbers have 32 bits. -/
def limit : Nat := UInt32.size

/-- How far the reading has come: the characters in place, the point, index and bias as in
    writing, and of the distance being read the place and weight of its next digit. -/
structure Reading where
  label : List Char
  point : Nat
  index : Nat
  bias : Nat
  distance : Nat
  place : Nat
  weight : Nat

/-- Insert the character at the distance read. -/
def Reading.insert (r : Reading) : Option Reading :=
  let size := r.label.length + 1
  let number := r.index + r.distance
  let point := r.point + number / size
  if point.isValidChar then
    some
      { label := r.label.insertIdx (number % size) (Char.ofNat point)
        point
        index := number % size + 1
        bias := Punycode.bias r.distance size (r.index = 0)
        distance := 0
        place := 36
        weight := 1 }
  else none

/-- Read one digit. -/
def Reading.step (r : Reading) (c : Char) : Option Reading := do
  let d ← digit? c
  let distance := r.distance + d * r.weight
  let t := threshold r.bias r.place
  if limit ≤ d * r.weight ∨ limit ≤ r.index + distance then none
  else if d < t then ({ r with distance := distance } : Reading).insert
  else if limit ≤ r.weight * (36 - t) then none
  else some { r with distance := distance, place := r.place + 36, weight := r.weight * (36 - t) }

/-- The ASCII characters and the digits after the last hyphen.  A hyphen in front of everything
    sets nothing apart. -/
def split (cs : List Char) : List Char × List Char :=
  match (cs.reverse.dropWhile (· ≠ '-')).drop 1 with
  | [] => ([], cs)
  | basic => (basic.reverse, (cs.reverse.takeWhile (· ≠ '-')).reverse)

/-- The label that a text in ASCII spells. -/
def decode (cs : List Char) : Option (List Char) := do
  let (basic, ds) := split cs
  guard (basic.all isAscii)
  let r ← ds.foldlM Reading.step ⟨basic, initialPoint, 0, initialBias, 0, 36, 1⟩
  if r.place = 36 then some r.label else none

example : split "ab-c-d".toList = ("ab-c".toList, ['d']) := by decide

end TxRelay.Url.Punycode
