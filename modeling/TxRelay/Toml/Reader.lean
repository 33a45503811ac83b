/-
  Reading TOML.

  A document is a sequence of lines: blank ones, comments, headers and keys with their values.
  Arrays may go over several lines, tables in braces may not.  A text that is no document has no
  value at all, whatever the reason.

  Every reader takes the characters that are left and gives back what it read and the rest.

  1. **Keys** have parts between dots; the last one is what is set, the others name tables.

  2. **Values** are read by their first character.  Arrays and tables hold values, so `value`,
     `items` and `pairs` call each other.  Two numbers bound them: `rounds` is more than any text of
     that length can need, and `depth` refuses what is nested deeper than the language's reader
     allows.

  3. **Lines** change a `Draft`, which keeps the table under the last header apart until the next
     one.

  4. **Documents.**  `parse` reads all lines and closes the draft.
-/
import TxRelay.Toml.Document
import TxRelay.Toml.Number
import TxRelay.Toml.Text

namespace TxRelay.Toml

/-! ## Blanks, comments and line ends -/

/-- Skip spaces and tabs. -/
def skipBlank (cs : List Char) : List Char := cs.dropWhile Text.isBlank

/-- A comment up to the end of its line. -/
def comment (cs : List Char) : List Char := cs.dropWhile Text.isPlain

/-- A line break. -/
def lineBreak? : List Char → Option (List Char)
  | '\n' :: cs => some cs
  | '\x0d' :: '\n' :: cs => some cs
  | _ => none

/-- Blanks and a comment up to the end of the line or of the text. -/
def restOfLine? (cs : List Char) : Option (List Char) :=
  let cs := match skipBlank cs with
    | '#' :: rest => comment rest
    | cs => cs
  if cs.isEmpty then some [] else lineBreak? cs

/-- Skip blanks, comments and line breaks between the items of an array. -/
def skipLines : (rounds : Nat) → List Char → Option (List Char)
  | 0, cs => some cs
  | rounds + 1, cs =>
    match skipBlank cs with
    | '#' :: rest => (lineBreak? (comment rest)).bind (skipLines rounds)
    | cs =>
      match lineBreak? cs with
      | some rest => skipLines rounds rest
      | none => some cs

/-! ## Keys -/

/-- A character of a bare key. -/
def isBare (c : Char) : Bool := c.isAlphanum || c = '_' || c = '-'

/-- One part of a key. -/
def keyPart (cs : List Char) : Option (String × List Char) :=
  match cs with
  | [] => none
  | c :: _ =>
    if isBare c then some (String.ofList (cs.takeWhile isBare), cs.dropWhile isBare)
    else Text.short cs

/-- The parts of a key between dots; every round takes a character. -/
def keyParts : (rounds : Nat) → List Char → Option (List String × List Char)
  | 0, _ => none
  | rounds + 1, cs => do
    let (part, cs) ← keyPart (skipBlank cs)
    match skipBlank cs with
    | '.' :: cs =>
      let (parts, cs) ← keyParts rounds cs
      return (part :: parts, cs)
    | cs => return ([part], cs)

/-- How deep values and keys may go. -/
def depthLimit : Nat := 80

/-- A key: the tables it names, and its last part. -/
def key (cs : List Char) : Option (List String × String × List Char) := do
  let (parts, cs) ← keyParts (cs.length + 1) cs
  if depthLimit ≤ parts.length then none
  let last ← parts.getLast?
  return (parts.dropLast, last, cs)

/-! ## Values -/

/-- A given word. -/
def word (w : List Char) (cs : List Char) : Option (List Char) :=
  if cs.take w.length = w then some (cs.drop w.length) else none

mutual

/-- A value that holds values `depth` levels deep; every round takes a character. -/
def value : (rounds depth : Nat) → List Char → Option (Value × List Char)
  | 0, _, _ => none
  | rounds + 1, depth, cs =>
    match cs with
    | [] => none
    | '"' :: _ => (Text.read cs).map fun r => (.string r.1, r.2)
    | '\x27' :: _ => (Text.read cs).map fun r => (.string r.1, r.2)
    | 't' :: _ => (word "true".toList cs).map fun rest => (.boolean true, rest)
    | 'f' :: _ => (word "false".toList cs).map fun rest => (.boolean false, rest)
    | '[' :: cs =>
      match depth with
      | 0 => none
      | depth + 1 => (items rounds depth cs).map fun r => (.array r.1, r.2)
    | '\x7b' :: cs =>
      match depth with
      | 0 => none
      | depth + 1 =>
        match skipBlank cs with
        | '\x7d' :: cs => some (.table .inline [], cs)
        | cs => (pairs rounds depth [] cs).map fun r => (.table .inline r.1, r.2)
    | cs => Number.read cs

/-- The items of an array up to its closing bracket. -/
def items : (rounds depth : Nat) → List Char → Option (List Value × List Char)
  | 0, _, _ => none
  | rounds + 1, depth, cs =>
    match skipLines cs.length cs with
    | none => none
    | some (']' :: cs) => some ([], cs)
    | some cs =>
      match value rounds depth cs with
      | none => none
      | some (v, cs) =>
        match skipLines cs.length cs with
        | some (',' :: cs) => (items rounds depth cs).map fun r => (v :: r.1, r.2)
        | some (']' :: cs) => some ([v], cs)
        | _ => none

/-- The entries of a table in braces up to its closing brace. -/
def pairs : (rounds depth : Nat) → Entries → List Char → Option (Entries × List Char)
  | 0, _, _, _ => none
  | rounds + 1, depth, es, cs =>
    match key cs with
    | some (path, last, '=' :: cs) =>
      match value rounds depth (skipBlank cs) with
      | none => none
      | some (v, cs) =>
        match putDotted path last v es with
        | none => none
        | some es =>
          match skipBlank cs with
          | ',' :: cs => pairs rounds depth es cs
          | '\x7d' :: cs => some (es, cs)
          | _ => none
    | _ => none

end

/-! ## Lines -/

/-- A header, its brackets included. -/
def header (d : Draft) (cs : List Char) : Option (Draft × List Char) :=
  match cs with
  | '[' :: '[' :: cs => do
    match ← key cs with
    | (path, last, ']' :: ']' :: cs) => return (← d.openRepeated (path ++ [last]), cs)
    | _ => none
  | '[' :: cs => do
    match ← key cs with
    | (path, last, ']' :: cs) => return (← d.openTable (path ++ [last]), cs)
    | _ => none
  | _ => none

/-- A key and its value. -/
def entry (d : Draft) (cs : List Char) : Option (Draft × List Char) := do
  match ← key cs with
  | (path, last, '=' :: cs) =>
    let cs := skipBlank cs
    -- each value, comma and bracket takes a character, and a value takes two rounds at most
    let (v, cs) ← value (2 * cs.length + 2) (depthLimit - 1) cs
    return (← d.put path last v, cs)
  | _ => none

/-- The lines from here on; every round takes a line. -/
def lines : (rounds : Nat) → Draft → List Char → Option Draft
  | 0, d, _ => some d
  | rounds + 1, d, cs =>
    match skipBlank cs with
    | [] => some d
    | '#' :: rest => (restOfLine? ('#' :: rest)).bind (lines rounds d)
    | '[' :: rest => do
      let (d, cs) ← header d ('[' :: rest)
      lines rounds d (← restOfLine? cs)
    | cs =>
      match lineBreak? cs with
      | some rest => lines rounds d rest
      | none => do
        let (d, cs) ← entry d cs
        lines rounds d (← restOfLine? cs)

/-- The document that a text is; a byte order mark in front does not count. -/
def parse (s : String) : Option Entries := do
  let cs := match s.toList with
    | '\ufeff' :: cs => cs
    | cs => cs
  let d ← lines (cs.length + 1) {} cs
  d.close

end TxRelay.Toml
