/-
  Reading JSON from left to right.

  Every reader takes the characters that are left and gives back what it found and the rest.  It
  stops at the first fault, and a fault is one of three kinds: the text ends too early, it is not
  JSON, or it is JSON of another shape than wanted.  A value that nobody wants is skipped: it has
  to be well formed, but its strings may hold lone surrogates and its numbers may be of any size.
-/
import TxRelay.Text.Symbol

namespace TxRelay.Json

/-- The kind of a fault. -/
inductive Fault where
  /-- The text ends too early. -/
  | truncated
  /-- The text is not JSON. -/
  | malformed
  /-- The text is JSON of another shape. -/
  | mismatch
deriving DecidableEq, Repr

/-! ## Blanks and words -/

/-- Space, tab and line breaks. -/
def isBlank (c : Char) : Bool := c = ' ' || c = '\n' || c = '\t' || c = '\x0d'

/-- Drop blanks. -/
def skipBlank (cs : List Char) : List Char := cs.dropWhile isBlank

/-- The rest of a word whose first letter is known. -/
def word : (letters : List Char) → List Char → Except Fault (Unit × List Char)
  | [], cs => .ok ((), cs)
  | _ :: _, [] => .error .truncated
  | l :: ls, c :: cs => if l = c then word ls cs else .error .malformed

/-! ## Strings -/

/-- The number of the four digits after `\u`.  Fewer than four bytes up to the end of the text
    mean that it ends too early, whatever they are. -/
def fourHex (cs : List Char) : Except Fault (Nat × List Char) :=
  if (cs.take 4).foldl (fun n c => n + c.utf8Size) 0 < 4 then .error .truncated
  else
    match cs with
    | a :: b :: c :: d :: rest =>
      match Text.hexValue? a, Text.hexValue? b, Text.hexValue? c, Text.hexValue? d with
      | some a, some b, some c, some d => .ok (((a * 16 + b) * 16 + c) * 16 + d, rest)
      | _, _, _, _ => .error .malformed
    | _ => .error .malformed

/-- Is `n` the first half of a surrogate pair? -/
def isHigh (n : Nat) : Bool := 0xd800 ≤ n && n < 0xdc00

/-- Is `n` the second half of a surrogate pair? -/
def isLow (n : Nat) : Bool := 0xdc00 ≤ n && n < 0xe000

/-- The character that `\u` escapes spell, the first `\u` already read: two halves of a pair
    must stand together. -/
def unicodeEscape (cs : List Char) : Except Fault (Char × List Char) := do
  let (n, cs) ← fourHex cs
  if isLow n then throw .malformed
  if isHigh n then
    match cs with
    | [] => throw .truncated
    | '\\' :: [] => throw .truncated
    | '\\' :: 'u' :: cs =>
      let (m, cs) ← fourHex cs
      if isLow m then pure (Char.ofNat (0x10000 + (n - 0xd800) * 0x400 + (m - 0xdc00)), cs)
      else throw .malformed
    | _ => throw .malformed
  else pure (Char.ofNat n, cs)

/-- The character of an escape by a letter. -/
def letterEscape? (c : Char) : Option Char :=
  match c with
  | '"' => some '"'
  | '\\' => some '\\'
  | '/' => some '/'
  | 'b' => some '\x08'
  | 'f' => some '\x0c'
  | 'n' => some '\n'
  | 'r' => some '\x0d'
  | 't' => some '\t'
  | _ => none

/-- The escape after a backslash. -/
def escapeSequence (cs : List Char) : Except Fault (Char × List Char) :=
  match cs with
  | [] => .error .truncated
  | 'u' :: cs => unicodeEscape cs
  | c :: cs =>
    match letterEscape? c with
    | some d => .ok (d, cs)
    | none => .error .malformed

/-- The characters of a string up to its closing quote; every round takes a character. -/
def stringFor : (rounds : Nat) → List Char → Except Fault (List Char × List Char)
  | 0, _ => .error .truncated
  | _ + 1, [] => .error .truncated
  | _ + 1, '"' :: cs => .ok ([], cs)
  | rounds + 1, '\\' :: cs => do
    let (c, cs) ← escapeSequence cs
    let (s, cs) ← stringFor rounds cs
    pure (c :: s, cs)
  | rounds + 1, c :: cs =>
    if c.toNat < 0x20 then .error .malformed
    else do
      let (s, cs) ← stringFor rounds cs
      pure (c :: s, cs)

/-- A string, its opening quote already read. -/
def stringBody (cs : List Char) : Except Fault (String × List Char) := do
  let (s, cs) ← stringFor (cs.length + 1) cs
  pure (String.ofList s, cs)

/-- Skip a string, its opening quote already read. -/
def skipStringFor : (rounds : Nat) → List Char → Except Fault (Unit × List Char)
  | 0, _ => .error .truncated
  | _ + 1, [] => .error .truncated
  | _ + 1, '"' :: cs => .ok ((), cs)
  | _ + 1, '\\' :: [] => .error .truncated
  | rounds + 1, '\\' :: 'u' :: cs => do
    let (_, cs) ← fourHex cs
    skipStringFor rounds cs
  | rounds + 1, '\\' :: c :: cs =>
    if (letterEscape? c).isSome then skipStringFor rounds cs else .error .malformed
  | rounds + 1, c :: cs =>
    if c.toNat < 0x20 then .error .malformed else skipStringFor rounds cs

/-- Skip a string, its opening quote already read. -/
def skipString (cs : List Char) : Except Fault (Unit × List Char) :=
  skipStringFor (cs.length + 1) cs

/-! ## Numbers -/

/-- A number in its parts: the digits before and after the point, and the exponent. -/
structure Numeral where
  negative : Bool
  whole : List Char
  fraction : Option (List Char)
  /-- The exponent's sign and digits. -/
  exponent : Option (Bool × List Char)
deriving DecidableEq, Repr

/-- Digits that must be there; `atEnd` is the fault if the text ends instead. -/
def digits (atEnd : Fault) (cs : List Char) : Except Fault (List Char × List Char) :=
  match cs.takeWhile Char.isDigit with
  | [] => .error (if cs.isEmpty then atEnd else .malformed)
  | ds => .ok (ds, cs.dropWhile Char.isDigit)

/-- The digits before the point: no zero stands in front of other digits. -/
def wholePart (atEnd : Fault) (cs : List Char) : Except Fault (List Char × List Char) := do
  let (ds, rest) ← digits atEnd cs
  if ds.head? = some '0' ∧ 1 < ds.length then throw .malformed
  pure (ds, rest)

/-- A number, its sign already read.  `atEnd` is the fault if the text ends inside. -/
def numeral (atEnd : Fault) (negative : Bool) (cs : List Char) :
    Except Fault (Numeral × List Char) := do
  let (whole, cs) ← wholePart atEnd cs
  let (fraction, cs) ← match cs with
    | '.' :: rest => do
      let (ds, rest) ← digits atEnd rest
      pure (some ds, rest)
    | _ => pure (none, cs)
  match cs with
  | 'e' :: rest | 'E' :: rest =>
    let (minus, rest) := match rest with
      | '-' :: rest => (true, rest)
      | '+' :: rest => (false, rest)
      | _ => (false, rest)
    let (ds, rest) ← digits atEnd rest
    pure (⟨negative, whole, fraction, some (minus, ds)⟩, rest)
  | _ => pure (⟨negative, whole, fraction, none⟩, cs)

namespace Numeral

/-- Is it written without point and exponent? -/
def isWhole (n : Numeral) : Bool := n.fraction.isNone && n.exponent.isNone

/-- Its digits as one number, and the power of ten that goes with them. -/
def scaled (n : Numeral) : Nat × Int :=
  let fraction := n.fraction.getD []
  let e : Int := match n.exponent with
    | none => 0
    | some (minus, ds) => if minus then -(Text.decimal ds : Int) else Text.decimal ds
  (Text.decimal (n.whole ++ fraction), e - fraction.length)

/-- Is it at least as large as half a step above the largest double?  `1.5 · 10^400` is found
    too large by its count of digits, without computing the power. -/
def isTooLarge (n : Numeral) : Bool :=
  let (m, e) := n.scaled
  if m = 0 then false
  else
    let size : Int := (Nat.toDigits 10 m).length + e
    if size ≤ 308 then false
    else if 309 < size then true
    else
      let limit := Nat.pow 2 1024 - Nat.pow 2 970
      if 0 ≤ e then limit ≤ m * Nat.pow 10 e.toNat else limit * Nat.pow 10 (-e).toNat ≤ m

end Numeral

/-! ## Skipping values -/

mutual

/-- Skip one value; every round takes a character. -/
def skipValueFor : (rounds : Nat) → List Char → Except Fault (Unit × List Char)
  | 0, _ => .error .truncated
  | rounds + 1, cs =>
    match skipBlank cs with
    | [] => .error .truncated
    | 'n' :: cs => word ['u', 'l', 'l'] cs
    | 't' :: cs => word ['r', 'u', 'e'] cs
    | 'f' :: cs => word ['a', 'l', 's', 'e'] cs
    | '"' :: cs => skipString cs
    | '[' :: cs =>
      match skipBlank cs with
      | [] => .error .truncated
      | ']' :: cs => .ok ((), cs)
      | cs => skipItemsFor rounds cs
    | '\x7b' :: cs =>
      match skipBlank cs with
      | [] => .error .truncated
      | '\x7d' :: cs => .ok ((), cs)
      | cs => skipMembersFor rounds cs
    | '-' :: cs => (numeral .malformed true cs).map fun r => ((), r.2)
    | c :: cs =>
      if c.isDigit then (numeral .malformed false (c :: cs)).map fun r => ((), r.2)
      else .error .malformed

/-- Skip the values of an array up to its closing bracket. -/
def skipItemsFor : (rounds : Nat) → List Char → Except Fault (Unit × List Char)
  | 0, _ => .error .truncated
  | rounds + 1, cs =>
    match skipValueFor rounds cs with
    | .error e => .error e
    | .ok (_, cs) =>
      match skipBlank cs with
      | [] => .error .truncated
      | ',' :: cs => skipItemsFor rounds cs
      | ']' :: cs => .ok ((), cs)
      | _ => .error .malformed

/-- Skip the members of an object up to its closing brace. -/
def skipMembersFor : (rounds : Nat) → List Char → Except Fault (Unit × List Char)
  | 0, _ => .error .truncated
  | rounds + 1, cs =>
    match skipBlank cs with
    | [] => .error .truncated
    | '"' :: cs =>
      match skipString cs with
      | .error e => .error e
      | .ok (_, cs) =>
        match skipBlank cs with
        | [] => .error .truncated
        | ':' :: cs =>
          match skipValueFor rounds cs with
          | .error e => .error e
          | .ok (_, cs) =>
            match skipBlank cs with
            | [] => .error .truncated
            | ',' :: cs => skipMembersFor rounds cs
            | '\x7d' :: cs => .ok ((), cs)
            | _ => .error .malformed
        | _ => .error .malformed
    | _ => .error .malformed

end

/-- Skip one value. -/
def skipValue (cs : List Char) : Except Fault (Unit × List Char) :=
  skipValueFor (2 * cs.length + 2) cs

/-- The fault of finding some other value than the one wanted.  The value's first part is read,
    and a fault in it comes first. -/
def unwanted (cs : List Char) : Fault :=
  let after {α : Type} : Except Fault (α × List Char) → Fault
    | .ok _ => .mismatch
    | .error e => e
  let number (negative : Bool) (cs : List Char) : Fault :=
    match numeral .truncated negative cs with
    | .ok (n, _) => if n.isTooLarge then .malformed else .mismatch
    | .error e => e
  match cs with
  | [] => .truncated
  | 'n' :: cs => after (word ['u', 'l', 'l'] cs)
  | 't' :: cs => after (word ['r', 'u', 'e'] cs)
  | 'f' :: cs => after (word ['a', 'l', 's', 'e'] cs)
  | '"' :: cs => after (stringBody cs)
  | '[' :: _ => .mismatch
  | '\x7b' :: _ => .mismatch
  | '-' :: cs => number true cs
  | c :: cs => if c.isDigit then number false (c :: cs) else .malformed

/-! ## Wanted values -/

/-- A string value. -/
def stringValue (cs : List Char) : Except Fault (String × List Char) :=
  match skipBlank cs with
  | '"' :: cs => stringBody cs
  | cs => .error (unwanted cs)

/-- `true` or `false`. -/
def boolValue (cs : List Char) : Except Fault (Bool × List Char) :=
  match skipBlank cs with
  | 't' :: cs => (word ['r', 'u', 'e'] cs).map fun r => (true, r.2)
  | 'f' :: cs => (word ['a', 'l', 's', 'e'] cs).map fun r => (false, r.2)
  | cs => .error (unwanted cs)

/-- Only blanks may be left. -/
def finish {α : Type} (r : Except Fault (α × List Char)) : Except Fault α :=
  match r with
  | .error e => .error e
  | .ok (a, cs) => if (skipBlank cs).isEmpty then .ok a else .error .malformed

end TxRelay.Json
