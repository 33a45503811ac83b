/-
  Percent-encoding.

  A character outside ASCII is always encoded, byte by byte of its UTF-8 form; which ASCII
  characters are encoded depends on the part of the address.  The sets below are nested: each
  part encodes what the ones before it encode, and a little more.
-/
import TxRelay.Bytes
import TxRelay.Text.Symbol

namespace TxRelay.Url.Percent

/-- `%XX`. -/
def encodeByte (b : UInt8) : List Char :=
  ['%', Text.upperDigit (b.toNat / 16), Text.upperDigit (b.toNat % 16)]

/-- Encode every character outside ASCII and every ASCII character that `special` names. -/
def encode (special : Char → Bool) (cs : List Char) : List Char :=
  cs.flatMap fun c =>
    if 0x7f < c.toNat ∨ special c then (String.utf8EncodeChar c).flatMap encodeByte else [c]

/-- Undo the encoding; a percent sign without two digits stands for itself. -/
def decode : Bytes → Bytes
  | [] => []
  | 0x25 :: a :: b :: rest =>
    match Text.byteValue? a, Text.byteValue? b with
    | some x, some y => (x * 16 + y) :: decode rest
    | _, _ => 0x25 :: decode (a :: b :: rest)
  | c :: rest => c :: decode rest

/-! ## What each part encodes -/

/-- Control characters. -/
def controls (c : Char) : Bool := c.toNat < 0x20 ∨ c.toNat = 0x7f

/-- What a fragment encodes. -/
def fragment (c : Char) : Bool := controls c || [' ', '"', '<', '>', '\x60'].contains c

/-- What a query of a web address encodes. -/
def query (c : Char) : Bool := controls c || [' ', '"', '#', '<', '>', '\x27'].contains c

/-- What a path segment encodes. -/
def path (c : Char) : Bool := fragment c || ['#', '?', '\x7b', '\x7d'].contains c

/-- What a user name or password encodes. -/
def userinfo (c : Char) : Bool :=
  path c || ['/', ':', ';', '=', '@', '[', '\\', ']', '^', '|'].contains c

example : encode query "a b".toList = "a%20b".toList := by decide

end TxRelay.Url.Percent
