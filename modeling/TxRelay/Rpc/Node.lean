/-
  Nodes and what is asked of them.

  A node is a function: what it replies may depend on every question asked before, to it or to
  any other node.  Nothing else is known about nodes, so whatever holds here holds for slow,
  broken and lying ones.
-/
import TxRelay.Bytes
import TxRelay.Hex
import TxRelay.Account
import TxRelay.Url
import TxRelay.Json.Value

namespace TxRelay.Rpc

/-- A question to a node. -/
inductive Question where
  /-- Take this transaction. -/
  | send (rawTx : Bytes)
  /-- What became of the transaction of this hash? -/
  | receipt (hash : Hash)
  /-- How much does this account hold? -/
  | balance (account : Address)
deriving DecidableEq, Repr

/-- The method that asks the question. -/
def Question.method : Question → String
  | send _ => "eth_sendRawTransaction"
  | receipt _ => "eth_getTransactionReceipt"
  | balance _ => "eth_getBalance"

/-- The parameters of the method. -/
def Question.params : Question → List String
  | send rawTx => [Hex.encode0x rawTx]
  | receipt hash => [Hex.encode0x hash.val]
  | balance account => [account.lowerCase, "latest"]

/-- A question asked at an address. -/
structure Call where
  url : Url.Web
  question : Question
deriving DecidableEq, Repr

/-- An error that a node reports. -/
structure Failure where
  code : Int
  message : String
  /-- More about the error, as JSON text. -/
  data : Option String
deriving DecidableEq, Repr

/-- What comes back. -/
inductive Reply where
  /-- The answer. -/
  | result (value : Json.Value)
  /-- The node reports an error. -/
  | failure (f : Failure)
  /-- Something came back that is no answer; the text says what. -/
  | unusable (text : String)
  /-- The node cannot be reached, or closes the connection. -/
  | unreachable
  /-- Nothing comes back. -/
  | silence

/-- A node: the calls made before, oldest first, and the call. -/
abbrev Node := (before : List Call) → Call → Reply

/-- A node that cannot be reached. -/
def Node.unreachable : Node := fun _ _ => .unreachable

/-! ## Replies from HTTP -/

/-- The error object of a response. -/
def Failure.ofValue (v : Json.Value) : Failure :=
  let code : Int := match v.member? "code" with
    | some (.number n) => (if n.negative then -1 else 1) * (Text.decimal n.whole : Int)
    | _ => 0
  let message := match v.member? "message" with
    | some (.string s) => s
    | _ => ""
  ⟨code, message, (v.member? "data").map Json.Value.toText⟩

/-- The reply in the body of a response. -/
def Reply.ofBody (body : String) : Reply :=
  match Json.Value.ofText body with
  | .ok (.array _) => .unusable "received batch response from single request"
  | .ok v =>
    match v.member? "error", v.member? "result" with
    | some e, _ => .failure (.ofValue e)
    | none, some r => .result r
    | none, none => .unusable ("deserialization error: missing field \x60result\x60\n" ++ body)
  | .error _ => .unusable ("deserialization error: expected value\n" ++ body)

/-- The reply in a response with a status. -/
def Reply.ofHttp (status : Nat) (body : String) : Reply :=
  if 200 ≤ status ∧ status < 300 then ofBody body
  else
    .unusable ("HTTP error " ++ toString status ++ " with " ++
      (if body.isEmpty then "empty body" else "body: " ++ body))

end TxRelay.Rpc
