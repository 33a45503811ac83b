/-
  Quoted text, the form in which values are shown to developers.

  A string stands between double quotes and a character between single ones.  Its own kind of
  quote and the backslash are escaped, line breaks and the like get their short names, and
  whatever cannot be seen on its own is written by its number.
-/
import TxRelay.Unicode.Hidden

namespace TxRelay.Text

/-- The character by its number: `\u` and the hexadecimal digits in braces. -/
def numbered (c : Char) : List Char :=
  ['\\', 'u', '\x7b'] ++ Nat.toDigits 16 c.toNat ++ ['\x7d']

/-- One character between quotes of the kind `quote`. -/
def escaped (quote c : Char) : List Char :=
  match c with
  | '\x00' => ['\\', '0']
  | '\t' => ['\\', 't']
  | '\x0d' => ['\\', 'r']
  | '\n' => ['\\', 'n']
  | '\\' => ['\\', '\\']
  | c =>
    if c = quote then ['\\', c]
    else if Unicode.isHidden c then numbered c
    else [c]

/-- A string between double quotes. -/
def quoted (s : String) : String :=
  String.ofList ('"' :: (s.toList.flatMap (escaped '"')) ++ ['"'])

/-- A character between single quotes. -/
def quotedChar (c : Char) : String :=
  String.ofList ('\x27' :: (escaped '\x27' c) ++ ['\x27'])

example : escaped '"' '\x27' = ['\x27'] := by decide

end TxRelay.Text
