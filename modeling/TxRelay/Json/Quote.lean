/-
  Writing JSON strings.

  A quote and a backslash are escaped, and so is every character below U+0020: five of them by a
  letter, the others by `\u` and four lower-case hexadecimal digits.  Everything else stands for
  itself, so a written string never holds a line break.
-/
import TxRelay.Text.Symbol

namespace TxRelay.Json

/-- One character inside a written string. -/
def escape (c : Char) : List Char :=
  match c with
  | '"' => ['\\', '"']
  | '\\' => ['\\', '\\']
  | '\n' => ['\\', 'n']
  | '\t' => ['\\', 't']
  | '\x0d' => ['\\', 'r']
  | '\x08' => ['\\', 'b']
  | '\x0c' => ['\\', 'f']
  | c =>
    if c.toNat < 0x20 then
      ['\\', 'u', '0', '0', Text.lowerDigit (c.toNat / 16), Text.lowerDigit (c.toNat % 16)]
    else [c]

/-- A written string, quotes included. -/
def quote (s : String) : List Char :=
  '"' :: s.toList.flatMap escape ++ ['"']

example : String.ofList (quote "a\"\n") = "\"a\\\"\\n\"" := by decide

end TxRelay.Json
