/-
  Names that nobody else gives: universally unique identifiers made of random bytes.

  Six of the 128 bits say that the name is one of these; the others are random.  The bytes are
  written in groups of 4, 2, 2, 2 and 6, with hyphens between.
-/
import TxRelay.Hex

namespace TxRelay.Text.Uuid

/-- The bytes with the six fixed bits set. -/
def marked (bs : Bytes) : Bytes :=
  bs.mapIdx fun i b =>
    if i = 6 then b &&& 0x0f ||| 0x40 else if i = 8 then b &&& 0x3f ||| 0x80 else b

/-- The sizes of the groups of bytes. -/
def groups : List Nat := [4, 2, 2, 2, 6]

/-- Bytes in groups of the given sizes. -/
def grouped : (sizes : List Nat) → Bytes → List Bytes
  | [], _ => []
  | n :: sizes, bs => bs.take n :: grouped sizes (bs.drop n)

/-- The name that random bytes give. -/
def ofRandom (bs : Chunk 16) : String :=
  "-".intercalate ((grouped groups (marked bs.val)).map Hex.encode)

end TxRelay.Text.Uuid
