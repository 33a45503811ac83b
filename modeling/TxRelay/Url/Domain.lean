/-
  Domains.

  The bytes of a domain are text, which is mapped character by character, brought to its normal
  form and split at its dots; each label must be valid, and goes into its form in ASCII.
-/
import TxRelay.Bytes
import TxRelay.Url.Label

namespace TxRelay.Url.Domain

/-- Characters that no domain may hold. -/
def forbidden (c : Char) : Bool :=
  c.toNat ≤ 0x20 || c.toNat = 0x7f ||
    ['#', '%', '/', ':', '<', '>', '?', '@', '[', '\\', ']', '^', '|'].contains c

/-- The labels of a domain as they are spelled in its own script. -/
def labels? (cs : List Char) : Option (List (List Char)) := do
  let cs ← (HostMapping.text cs).map Unicode.Normal.form
  if cs.any forbidden then none else (cs.splitOn '.').mapM Label.spelled?

/-- Are the labels those of a domain? -/
def areValid (labels : List (List Char)) : Bool :=
  labels.all Label.isValid &&
    (!labels.any (·.any Label.isRightToLeft) || labels.all Label.keepsDirection)

/-- The form of a domain that goes on the wire. -/
def toAscii (bs : Bytes) : Option (List Char) := do
  let s ← String.fromUTF8? (ByteArray.mk bs.toArray)
  let labels ← (labels? s.toList).filter areValid
  return ['.'].intercalate (labels.map Label.asciiForm)

end TxRelay.Url.Domain
