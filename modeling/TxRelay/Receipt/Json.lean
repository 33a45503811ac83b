/-
  Receipts as JSON objects.

  A receipt is written with its four members in a fixed order and without blanks.  It is read
  with the members in any order; other members are skipped, and a member that occurs twice or not
  at all is a fault.  An array of the four values in order is read as well.
-/
import TxRelay.Receipt
import TxRelay.Json.Quote
import TxRelay.Json.Read

namespace TxRelay.Receipt

open Json

/-! ## Writing -/

/-- The members of a receipt. -/
inductive Member where
  | transactionHash
  | success
  | message
  | jobId
deriving DecidableEq, Repr

/-- The name of a member. -/
def Member.name : Member → String
  | transactionHash => "transaction_hash"
  | success => "success"
  | message => "message"
  | jobId => "job_id"

/-- The member of a name. -/
def Member.ofName? : String → Option Member
  | "transaction_hash" => some transactionHash
  | "success" => some success
  | "message" => some message
  | "job_id" => some jobId
  | _ => none

/-- A written truth value. -/
def writeBool (b : Bool) : List Char := if b then "true".toList else "false".toList

/-- The written value of a member. -/
def writeValue (r : Receipt) : Member → List Char
  | .transactionHash => quote r.transactionHash
  | .success => writeBool r.success
  | .message => quote r.message
  | .jobId => quote r.jobId.text

/-- One written member. -/
def writeMember (r : Receipt) (m : Member) : List Char :=
  quote m.name ++ ':' :: r.writeValue m

/-- The receipt as one line of JSON. -/
def toJson (r : Receipt) : String :=
  String.ofList ('\x7b' :: List.intercalate [',']
    ([Member.transactionHash, .success, .message, .jobId].map r.writeMember) ++ ['\x7d'])

/-! ## Reading -/

/-- The members read so far. -/
structure Draft where
  transactionHash : Option String := none
  success : Option Bool := none
  message : Option String := none
  jobId : Option String := none
deriving DecidableEq, Repr

/-- Is the member there already? -/
def Draft.has (d : Draft) : Member → Bool
  | .transactionHash => d.transactionHash.isSome
  | .success => d.success.isSome
  | .message => d.message.isSome
  | .jobId => d.jobId.isSome

/-- Read the value of a member into the draft. -/
def Draft.read (d : Draft) (m : Member) (cs : List Char) : Except Fault (Draft × List Char) :=
  match m with
  | .transactionHash => (stringValue cs).map fun r => ({ d with transactionHash := some r.1 }, r.2)
  | .success => (boolValue cs).map fun r => ({ d with success := some r.1 }, r.2)
  | .message => (stringValue cs).map fun r => ({ d with message := some r.1 }, r.2)
  | .jobId => (stringValue cs).map fun r => ({ d with jobId := some r.1 }, r.2)

/-- The receipt, if no member is missing. -/
def Draft.receipt (d : Draft) : Except Fault Receipt :=
  match d with
  | ⟨some hash, some success, some message, some jobId⟩ => .ok ⟨hash, success, message, ⟨jobId⟩⟩
  | _ => .error .mismatch

/-- The colon after a member's name. -/
def colon (cs : List Char) : Except Fault (Unit × List Char) :=
  match skipBlank cs with
  | ':' :: cs => .ok ((), cs)
  | [] => .error .truncated
  | _ => .error .malformed

/-- One member, its opening quote already read: a second one of a name is a fault before its
    value is looked at. -/
def member (d : Draft) (cs : List Char) : Except Fault (Draft × List Char) := do
  let (name, cs) ← stringBody cs
  match Member.ofName? name with
  | some m =>
    if d.has m then throw .mismatch
    let (_, cs) ← colon cs
    d.read m cs
  | none =>
    let (_, cs) ← colon cs
    let (_, cs) ← skipValue cs
    pure (d, cs)

/-- The members after the first, up to the closing brace; every round takes a character. -/
def moreMembersFor : (rounds : Nat) → Draft → List Char → Except Fault (Draft × List Char)
  | 0, _, _ => .error .truncated
  | rounds + 1, d, cs =>
    match skipBlank cs with
    | [] => .error .truncated
    | '\x7d' :: cs => .ok (d, cs)
    | ',' :: cs =>
      match skipBlank cs with
      | [] => .error .truncated
      | '"' :: cs => do
        let (d, cs) ← member d cs
        moreMembersFor rounds d cs
      | _ => .error .malformed
    | _ => .error .malformed

/-- An object, its opening brace already read.  A missing member is found at the closing
    brace. -/
def object (cs : List Char) : Except Fault (Receipt × List Char) := do
  let (d, cs) ← match skipBlank cs with
    | [] => throw .truncated
    | '\x7d' :: cs => pure (({} : Draft), cs)
    | '"' :: cs => do
      let (d, cs) ← member {} cs
      moreMembersFor (cs.length + 1) d cs
    | _ => throw .malformed
  pure (← d.receipt, cs)

/-- The next of the values of an array: the first stands at once, the others after a comma. -/
def nextValue (first : Bool) (cs : List Char) : Except Fault (Unit × List Char) :=
  match skipBlank cs with
  | [] => .error .truncated
  | ']' :: _ => .error .mismatch
  | c :: cs =>
    if first then .ok ((), c :: cs)
    else if c = ',' then
      match skipBlank cs with
      | [] => .error .truncated
      | ']' :: _ => .error .malformed
      | cs => .ok ((), cs)
    else .error .malformed

/-- An array of the four values, its opening bracket already read. -/
def array (cs : List Char) : Except Fault (Receipt × List Char) := do
  let (_, cs) ← nextValue true cs
  let (hash, cs) ← stringValue cs
  let (_, cs) ← nextValue false cs
  let (success, cs) ← boolValue cs
  let (_, cs) ← nextValue false cs
  let (message, cs) ← stringValue cs
  let (_, cs) ← nextValue false cs
  let (jobId, cs) ← stringValue cs
  match skipBlank cs with
  | ']' :: cs => pure (⟨hash, success, message, ⟨jobId⟩⟩, cs)
  | [] => throw .truncated
  | _ => throw .malformed

/-- Read a receipt; nothing but blanks may stand around it. -/
def ofJson (s : String) : Except Fault Receipt :=
  finish <|
    match skipBlank s.toList with
    | '\x7b' :: cs => object cs
    | '[' :: cs => array cs
    | cs => .error (unwanted cs)

end TxRelay.Receipt
