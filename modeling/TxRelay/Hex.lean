/-
  Bytes as hexadecimal digits.

  Writing uses lower-case digits.  Reading takes either case and one `0x` in front.  It works on
  the bytes of the text, so a fault is placed by byte, and the faulty byte is shown as the
  character of that number.
-/
import TxRelay.Bytes
import TxRelay.Text.Quoted
import TxRelay.Text.Symbol

namespace TxRelay.Hex

/-- Why a text does not spell bytes. -/
inductive Error where
  | oddLength
  /-- The bytes wanted have another number. -/
  | invalidLength
  | invalidCharacter (byte : UInt8) (index : Nat)
deriving DecidableEq, Repr

/-- The wording of an error. -/
def Error.message : Error → String
  | .oddLength => "odd number of digits"
  | .invalidLength => "invalid string length"
  | .invalidCharacter b i =>
    "invalid character " ++ Text.quotedChar (Char.ofNat b.toNat) ++ " at position " ++ toString i

/-- The error as developers see it. -/
def Error.debugForm : Error → String
  | .oddLength => "OddLength"
  | .invalidLength => "InvalidStringLength"
  | .invalidCharacter b i =>
    "InvalidHexCharacter \x7b c: " ++ Text.quotedChar (Char.ofNat b.toNat) ++ ", index: " ++
      toString i ++ " \x7d"

/-! ## Writing -/

/-- Two digits for each byte. -/
def encode (bs : Bytes) : String :=
  String.ofList (bs.flatMap fun b =>
    [Text.lowerDigit (b.toNat / 16), Text.lowerDigit (b.toNat % 16)])

/-- The digits with `0x` in front. -/
def encode0x (bs : Bytes) : String := "0x" ++ encode bs

/-! ## Reading -/

/-- One `0x` less in front. -/
def stripMark : Bytes → Bytes
  | 0x30 :: 0x78 :: rest => rest
  | bs => bs

/-- The bytes that pairs of digits spell; `index` is where the text stands in the whole. -/
def pairs : (index : Nat) → Bytes → Except Error Bytes
  | index, a :: b :: rest =>
    match Text.byteValue? a, Text.byteValue? b with
    | some x, some y => (pairs (index + 2) rest).map ((x * 16 + y) :: ·)
    | none, _ => .error (.invalidCharacter a index)
    | some _, none => .error (.invalidCharacter b (index + 1))
  | _, _ => .ok []

/-- The bytes that a text spells. -/
def decode (s : String) : Except Error Bytes :=
  let digits := stripMark (Bytes.ofString s)
  if digits.length % 2 ≠ 0 then .error .oddLength else pairs 0 digits

/-- The `n` bytes that a text spells. -/
def decodeChunk (n : Nat) (s : String) : Except Error (Chunk n) :=
  let digits := stripMark (Bytes.ofString s)
  if digits.length % 2 ≠ 0 then .error .oddLength
  else if digits.length ≠ 2 * n then .error .invalidLength
  else
    match pairs 0 digits with
    | .error e => .error e
    | .ok bs => if h : bs.length = n then .ok ⟨bs, h⟩ else .error .invalidLength

end TxRelay.Hex
