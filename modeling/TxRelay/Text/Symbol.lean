/-
  Digits and marks.

  Many texts of this library are read and written character by character: addresses, numbers,
  settings, payloads, keys.  What a single character means in them is the same everywhere, so it
  stands here once:

    hexadecimal   `lowerDigit` and `upperDigit` write a value below 16, `hexValue?` reads a
                  character of either case, and `byteValue?` a byte of the text;
    decimal       `decimal` is the number that digits spell, `unsigned?` reads one that fits
                  64 bits and may have a plus sign in front;
    marks         `mark` reads one given character and gives back what follows it.

  The readers of numbers do not ask whether the characters are digits: their callers have looked,
  and say in their own words what else they refuse.
-/

namespace TxRelay.Text

/-! ## Hexadecimal digits -/

/-- The lower-case digit of `n < 16`. -/
def lowerDigit (n : Nat) : Char :=
  if n < 10 then Char.ofNat (48 + n) else Char.ofNat (87 + n)

/-- The upper-case digit of `n < 16`. -/
def upperDigit (n : Nat) : Char :=
  if n < 10 then Char.ofNat (48 + n) else Char.ofNat (55 + n)

/-- The value of a digit of either case. -/
def hexValue? (c : Char) : Option Nat :=
  if '0' ≤ c ∧ c ≤ '9' then some (c.toNat - 48)
  else if 'a' ≤ c ∧ c ≤ 'f' then some (c.toNat - 87)
  else if 'A' ≤ c ∧ c ≤ 'F' then some (c.toNat - 55)
  else none

/-- The value of a byte that is a digit of either case. -/
def byteValue? (b : UInt8) : Option UInt8 :=
  if 0x30 ≤ b ∧ b ≤ 0x39 then some (b - 0x30)
  else if 0x41 ≤ b ∧ b ≤ 0x46 then some (b - 0x37)
  else if 0x61 ≤ b ∧ b ≤ 0x66 then some (b - 0x57)
  else none

/-! ## Decimal numbers -/

/-- The number that decimal digits spell. -/
def decimal (ds : List Char) : Nat := ds.foldl (fun n c => n * 10 + (c.toNat - 48)) 0

/-- A decimal number of 64 bits; a plus sign may stand in front. -/
def unsigned? (s : String) : Option Nat :=
  let ds : List Char := match s.toList with
    | '+' :: ds => ds
    | ds => ds
  if ds ≠ [] ∧ ds.all Char.isDigit ∧ decimal ds < UInt64.size then some (decimal ds) else none

/-! ## Marks -/

/-- A given character, and what follows it. -/
def mark (c : Char) : List Char → Option (List Char)
  | [] => none
  | d :: cs => if d = c then some cs else none

end TxRelay.Text
