/-
  Writing TOML.

  A string is written in the plainest form that fits: between double quotes if nothing in it
  needs an escape, else between single quotes if that needs none, else between three of one kind
  of quote, and with escapes only where no form can do without.  A text of several lines starts
  on a line of its own.
-/
import TxRelay.Text.Symbol

namespace TxRelay.Toml

/-! ## Strings -/

/-- How a string is quoted. -/
inductive Style where
  | basic
  | literal
  | multilineBasic
  | multilineLiteral
deriving DecidableEq, Repr

/-- The longest run of a character. -/
def longestRun (q : Char) (cs : List Char) : Nat :=
  let rec go : List Char → (run longest : Nat) → Nat
    | [], run, longest => max run longest
    | c :: cs, run, longest =>
      if c = q then go cs (run + 1) longest else go cs 0 (max run longest)
  go cs 0 0

/-- Characters that only an escape can hold; tab and line break are none of them. -/
def needsEscape (c : Char) : Bool :=
  (c.toNat < 0x20 && c ≠ '\t' && c ≠ '\n') || c.toNat = 0x7f

/-- The style of a text. -/
def styleOf (cs : List Char) : Style :=
  let escapes := cs.any needsEscape
  let backslash := cs.contains '\\'
  let lines := cs.contains '\n'
  let doubles := longestRun '"' cs
  let singles := longestRun '\x27' cs
  if !escapes && !backslash && doubles = 0 && !lines then .basic
  else if !escapes && singles = 0 && !lines then .literal
  else if !escapes && !backslash && doubles ≤ 2 then .multilineBasic
  else if !escapes && singles ≤ 2 then .multilineLiteral
  else if lines then .multilineBasic
  else .basic

/-- A character by its four-digit number. -/
def numbered (c : Char) : List Char :=
  ['\\', 'u', '0', '0', Text.upperDigit (c.toNat / 16), Text.upperDigit (c.toNat % 16)]

/-- Text between double quotes.  At most `limit` double quotes may stand in a row; `run` of them
    stand just before. -/
def escaped (multiline : Bool) (limit : Nat) : (run : Nat) → List Char → List Char
  | _, [] => []
  | run, c :: cs =>
    match c with
    | '"' =>
      -- three in a row would end a text of several lines, one ends any other
      if limit < run + 1 then '\\' :: '"' :: escaped multiline limit 0 cs
      else '"' :: escaped multiline limit (run + 1) cs
    | '\\' => '\\' :: '\\' :: escaped multiline limit 0 cs
    | '\x08' => '\\' :: 'b' :: escaped multiline limit 0 cs
    | '\t' => '\\' :: 't' :: escaped multiline limit 0 cs
    | '\x0c' => '\\' :: 'f' :: escaped multiline limit 0 cs
    | '\x0d' => '\\' :: 'r' :: escaped multiline limit 0 cs
    | '\n' => (if multiline then ['\n'] else ['\\', 'n']) ++ escaped multiline limit 0 cs
    | c =>
      (if c.toNat < 0x20 || c.toNat = 0x7f then numbered c else [c]) ++
        escaped multiline limit 0 cs

/-- A written string. -/
def quote (s : String) : String :=
  let cs := s.toList
  let start := if cs.contains '\n' then "\n" else ""
  match styleOf cs with
  | .basic => "\"" ++ String.ofList (escaped false 0 0 cs) ++ "\""
  | .literal => "'" ++ s ++ "'"
  | .multilineBasic => "\"\"\"" ++ start ++ String.ofList (escaped true 2 0 cs) ++ "\"\"\""
  | .multilineLiteral => "'''" ++ start ++ s ++ "'''"

/-! ## Tables -/

/-- A scalar value. -/
inductive Scalar where
  | string (s : String)
  | integer (n : Nat)
  | boolean (b : Bool)
deriving DecidableEq, Repr

/-- A written scalar; integers must fit 64 bits with a sign. -/
def Scalar.render? : Scalar → Option String
  | string s => some (quote s)
  | integer n => if n < 0x8000000000000000 then some (toString n) else none
  | boolean b => some (if b then "true" else "false")

/-- A table: its header and its values by key, a line each. -/
def renderTable? (name : String) (values : List (String × Scalar)) : Option String := do
  let lines ← values.mapM fun (key, value) =>
    value.render?.map fun text => key ++ " = " ++ text ++ "\n"
  return "[" ++ name ++ "]\n" ++ String.join lines

/-- Tables with an empty line between them. -/
def render? (tables : List (String × List (String × Scalar))) : Option String := do
  let texts ← tables.mapM fun (name, values) => renderTable? name values
  return "\n".intercalate texts

end TxRelay.Toml
