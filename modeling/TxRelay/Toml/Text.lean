/-
  TOML strings.

  A string stands between quotes of one kind or between three of them; only between double quotes
  has the backslash a meaning, and only between three quotes may the string have line breaks.

  Every reader takes the characters that are left and gives back what it read and the rest.
-/
import TxRelay.Text.Symbol

namespace TxRelay.Toml.Text

/-- Characters that a comment or a string may hold as they are. -/
def isPlain (c : Char) : Bool := c = '\t' || (0x20 ≤ c.toNat && c.toNat ≠ 0x7f)

/-- The character whose number the next digits spell. -/
def numbered (digits : Nat) (cs : List Char) : Option (Char × List Char) := do
  let ds := cs.take digits
  if ds.length < digits then none
  let n ← ds.foldlM (fun n c => (Text.hexValue? c).map (n * 16 + ·)) 0
  if h : n.isValidChar then return (Char.ofNatAux n h, cs.drop digits) else none

/-- The character of an escape, its backslash already read. -/
def escape : List Char → Option (Char × List Char)
  | 'b' :: cs => some ('\x08', cs)
  | 't' :: cs => some ('\t', cs)
  | 'n' :: cs => some ('\n', cs)
  | 'f' :: cs => some ('\x0c', cs)
  | 'r' :: cs => some ('\x0d', cs)
  | '"' :: cs => some ('"', cs)
  | '\\' :: cs => some ('\\', cs)
  | 'u' :: cs => numbered 4 cs
  | 'U' :: cs => numbered 8 cs
  | _ => none

/-- Space or tab. -/
def isBlank (c : Char) : Bool := c = ' ' || c = '\t'

/-- After the backslash at the end of a line: blanks and line breaks are skipped. -/
def skipBreaks : (rounds : Nat) → List Char → List Char
  | 0, cs => cs
  | _ + 1, [] => []
  | rounds + 1, '\n' :: cs => skipBreaks rounds cs
  | rounds + 1, '\x0d' :: '\n' :: cs => skipBreaks rounds cs
  | rounds + 1, c :: cs => if isBlank c then skipBreaks rounds cs else c :: cs

/-- What follows a backslash that ends its line. -/
def lineEnd? (cs : List Char) : Option (List Char) :=
  match cs.dropWhile isBlank with
  | '\n' :: rest => some (skipBreaks rest.length rest)
  | '\x0d' :: '\n' :: rest => some (skipBreaks rest.length rest)
  | _ => none

/-- A string on one line between quotes of the kind `q`; every round takes a character. -/
def oneLine (q : Char) : (rounds : Nat) → List Char → Option (List Char × List Char)
  | 0, _ => none
  | _ + 1, [] => none
  | rounds + 1, c :: cs =>
    if c = q then some ([], cs)
    else if c = '\\' ∧ q = '"' then do
      let (d, cs) ← escape cs
      let (s, cs) ← oneLine q rounds cs
      return (d :: s, cs)
    else if isPlain c then (oneLine q rounds cs).map fun r => (c :: r.1, r.2)
    else none

/-- A run of quotes inside a string between three of them: the quotes that belong to the string,
    and whether the string ends. -/
def quoteRun (n : Nat) : Nat × Bool :=
  if n < 3 then (n, false) else (min (n - 3) 2, true)

/-- A string between three quotes of the kind `q`; every round takes a character. -/
def multiline (q : Char) : (rounds : Nat) → List Char → Option (List Char × List Char)
  | 0, _ => none
  | _ + 1, [] => none
  | rounds + 1, c :: cs =>
    if c = q then
      let run := 1 + (cs.takeWhile (· = q)).length
      let (inside, ends) := quoteRun run
      if ends then some (List.replicate inside q, cs.drop (inside + 2))
      else
        (multiline q rounds (cs.drop (run - 1))).map fun r => (List.replicate inside q ++ r.1, r.2)
    else if c = '\n' then (multiline q rounds cs).map fun r => ('\n' :: r.1, r.2)
    else if c = '\x0d' then
      match cs with
      | '\n' :: cs => (multiline q rounds cs).map fun r => ('\n' :: r.1, r.2)
      | _ => none
    else if c = '\\' ∧ q = '"' then
      match lineEnd? cs with
      | some cs => multiline q rounds cs
      | none => do
        let (d, cs) ← escape cs
        let (s, cs) ← multiline q rounds cs
        return (d :: s, cs)
    else if isPlain c then (multiline q rounds cs).map fun r => (c :: r.1, r.2)
    else none

/-- A line break right after the opening quotes does not count. -/
def dropBreak : List Char → List Char
  | '\n' :: cs => cs
  | '\x0d' :: '\n' :: cs => cs
  | cs => cs

/-- A string on one line, its quote included. -/
def short (cs : List Char) : Option (String × List Char) :=
  match cs with
  | q :: cs =>
    if q = '"' ∨ q = '\x27' then
      (oneLine q (cs.length + 1) cs).map fun r => (String.ofList r.1, r.2)
    else none
  | [] => none

/-- A string, its quotes included. -/
def read (cs : List Char) : Option (String × List Char) :=
  match cs with
  | a :: b :: c :: rest =>
    if (a = '"' ∨ a = '\x27') ∧ b = a ∧ c = a then
      let body := dropBreak rest
      (multiline a (body.length + 1) body).map fun r => (String.ofList r.1, r.2)
    else short cs
  | _ => short cs

end TxRelay.Toml.Text
