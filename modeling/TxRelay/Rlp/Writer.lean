/-
  Writing recursive-length-prefix (RLP) items: the one spelling that the reader accepts.
-/
import TxRelay.Bytes

namespace TxRelay.Rlp

/-- The header of a string or list whose content has `n` bytes: one byte below 56, else the
    length itself in as few bytes as possible behind a byte that counts them. -/
def writeHeader (isList : Bool) (n : Nat) : Bytes :=
  let base := if isList then 0xc0 else 0x80
  if n < 56 then [UInt8.ofNat (base + n)]
  else
    let digits := Bytes.ofNat n
    UInt8.ofNat (base + 55 + digits.length) :: digits

/-- A string: a single byte below 0x80 stands for itself. -/
def writeString (bs : Bytes) : Bytes :=
  match bs with
  | [b] => if b < 0x80 then [b] else writeHeader false 1 ++ [b]
  | _ => writeHeader false bs.length ++ bs

/-- A number, without leading zeros; 0 is the empty string. -/
def writeNat (n : Nat) : Bytes := writeString (Bytes.ofNat n)

/-- A yes-or-no field: the number 0 or 1. -/
def writeBool (b : Bool) : Bytes := writeNat b.toNat

/-- A list of written items. -/
def writeList (items : List Bytes) : Bytes :=
  let content := items.flatten
  writeHeader true content.length ++ content

example : writeNat 0 = [0x80] := by decide
example : writeNat 0x0400 = [0x82, 4, 0] := by decide
example : writeList [writeNat 1, writeString []] = [0xc2, 1, 0x80] := by decide

end TxRelay.Rlp
