/-
  JSON values.

  Numbers keep the form in which they are written and objects the order of their members, so a
  value that was read is written again as it was, blanks aside.
-/
import TxRelay.Json.Quote
import TxRelay.Json.Read

namespace TxRelay.Json

/-- A JSON value. -/
inductive Value where
  | null
  | bool (b : Bool)
  | number (n : Numeral)
  | string (s : String)
  | array (items : List Value)
  | object (members : List (String × Value))

/-! ## Writing -/

/-- A written number. -/
def Numeral.render (n : Numeral) : List Char :=
  (if n.negative then ['-'] else []) ++ n.whole ++
    (match n.fraction with | none => [] | some ds => '.' :: ds) ++
    (match n.exponent with
      | none => []
      | some (minus, ds) => 'e' :: (if minus then ['-'] else []) ++ ds)

namespace Value

mutual

/-- The value without blanks. -/
def render : Value → List Char
  | null => "null".toList
  | bool b => if b then "true".toList else "false".toList
  | number n => n.render
  | string s => quote s
  | array items => '[' :: renderItems items ++ [']']
  | object members => '\x7b' :: renderMembers members ++ ['\x7d']

/-- Values between commas. -/
def renderItems : List Value → List Char
  | [] => []
  | [v] => render v
  | v :: vs => render v ++ ',' :: renderItems vs

/-- Members between commas. -/
def renderMembers : List (String × Value) → List Char
  | [] => []
  | [(k, v)] => quote k ++ ':' :: render v
  | (k, v) :: ms => quote k ++ ':' :: render v ++ ',' :: renderMembers ms

end

/-- The value as text. -/
def toText (v : Value) : String := String.ofList v.render

/-- The member of an object. -/
def member? (v : Value) (name : String) : Option Value :=
  match v with
  | object members => (members.find? (·.1 = name)).map (·.2)
  | _ => none

/-! ## Reading -/

mutual

/-- One value; every round takes a character. -/
def readFor : (rounds : Nat) → List Char → Except Fault (Value × List Char)
  | 0, _ => .error .truncated
  | rounds + 1, cs =>
    match skipBlank cs with
    | [] => .error .truncated
    | 'n' :: cs => (word ['u', 'l', 'l'] cs).map fun r => (null, r.2)
    | 't' :: cs => (word ['r', 'u', 'e'] cs).map fun r => (bool true, r.2)
    | 'f' :: cs => (word ['a', 'l', 's', 'e'] cs).map fun r => (bool false, r.2)
    | '"' :: cs => (stringBody cs).map fun r => (string r.1, r.2)
    | '[' :: cs =>
      match skipBlank cs with
      | ']' :: cs => .ok (array [], cs)
      | cs => (readItemsFor rounds cs).map fun r => (array r.1, r.2)
    | '\x7b' :: cs =>
      match skipBlank cs with
      | '\x7d' :: cs => .ok (object [], cs)
      | cs => (readMembersFor rounds cs).map fun r => (object r.1, r.2)
    | '-' :: cs => (numeral .truncated true cs).map fun r => (number r.1, r.2)
    | c :: cs =>
      if c.isDigit then (numeral .truncated false (c :: cs)).map fun r => (number r.1, r.2)
      else .error .malformed

/-- The values of an array up to its closing bracket. -/
def readItemsFor : (rounds : Nat) → List Char → Except Fault (List Value × List Char)
  | 0, _ => .error .truncated
  | rounds + 1, cs =>
    match readFor rounds cs with
    | .error e => .error e
    | .ok (v, cs) =>
      match skipBlank cs with
      | [] => .error .truncated
      | ',' :: cs => (readItemsFor rounds cs).map fun r => (v :: r.1, r.2)
      | ']' :: cs => .ok ([v], cs)
      | _ => .error .malformed

/-- The members of an object up to its closing brace. -/
def readMembersFor : (rounds : Nat) → List Char → Except Fault (List (String × Value) × List Char)
  | 0, _ => .error .truncated
  | rounds + 1, cs =>
    match skipBlank cs with
    | [] => .error .truncated
    | '"' :: cs =>
      match stringBody cs with
      | .error e => .error e
      | .ok (k, cs) =>
        match skipBlank cs with
        | [] => .error .truncated
        | ':' :: cs =>
          match readFor rounds cs with
          | .error e => .error e
          | .ok (v, cs) =>
            match skipBlank cs with
            | [] => .error .truncated
            | ',' :: cs => (readMembersFor rounds cs).map fun r => ((k, v) :: r.1, r.2)
            | '\x7d' :: cs => .ok ([(k, v)], cs)
            | _ => .error .malformed
        | _ => .error .malformed
    | _ => .error .malformed

end

/-- The value that a text is. -/
def ofText (s : String) : Except Fault Value :=
  finish (readFor (2 * s.length + 2) s.toList)

end Value

end TxRelay.Json
