/-
  Accounts by their addresses.

  An address is written as `0x` and forty hexadecimal digits.  The case of a letter is a
  checksum: it is upper if the digit at the same place in the hash of the lower-case text is 8 or
  more.
-/
import TxRelay.Hex
import TxRelay.Crypto.Keccak

namespace TxRelay

/-- The hexadecimal digits of bytes as numbers. -/
def Bytes.nibbles (bs : Bytes) : List Nat :=
  bs.flatMap fun b => [b.toNat / 16, b.toNat % 16]

namespace Address

/-- The written form in lower case. -/
def lowerCase (a : Address) : String := Hex.encode0x a.val

/-- The written form with its checksum. -/
def checksummed (a : Address) : String :=
  let digits := (Hex.encode a.val).toList
  let marks := Bytes.nibbles (Keccak.hash (Bytes.ofString (Hex.encode a.val)))
  "0x" ++ String.ofList (List.zipWith (fun c m => if 8 ≤ m then c.toUpper else c) digits marks)

/-- The last 20 bytes of a hash. -/
def ofHash (h : Bytes) : Address := Bytes.chunk 20 (Bytes.toNat h)

end Address

end TxRelay
