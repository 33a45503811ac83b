/-
  A network of nodes.

  Requests go to the address that the caller's endpoint spells.  The address is remembered under the
  text of the endpoint, and looked up before the text is read again.  A broadcast sends the
  transaction and then asks for its receipt until one is there.  Once a node has answered with a
  hash, the broadcast never fails: the transaction is mined, or it is pending for a reason.

  1. **Asking.**  `ask` puts one question to the node and hears its reply, or that there is none.
     Every question is written down, and those that were answered once more.  A limit of 0 seconds
     leaves no time for any answer; the question for a receipt has no limit of its own.

  2. **Reading.**  An answer is read by what was asked (`balanceOf`, `hashOf`, `receiptOf`), and
     what cannot be read is a fault like any other, with the text of the answer in it.

  3. **Balances** are one question.

  4. **Broadcasts.**  After the hash the receipt is asked for so many times as the time for it
     allows, twice at once and then four times a second.  The first of these answers only counts if
     it is a fault.  `Rpc.Moment` takes a broadcast apart into its questions.
-/
import TxRelay.Endpoint
import TxRelay.Network.StandIn
import TxRelay.Rpc.Answer

namespace TxRelay.Rpc

/-- The network: its limits in seconds, and what was done with it. -/
structure Network where
  node : Node
  rpcTimeout : UInt64
  receiptTimeout : UInt64
  /-- The endpoints used so far and their addresses, oldest first. -/
  cached : List (String × Url.Web) := []
  /-- The calls made so far, oldest first. -/
  calls : List Call := []
  /-- Those of them that were answered. -/
  answered : List Call := []

namespace Network

/-! ## Asking -/

/-- Why a question got no answer. -/
inductive Fault where
  | timeout
  | failed (text : String)
deriving DecidableEq, Repr

/-- The address that a request goes to: the one that is remembered, or the one that the endpoint
    spells, which is remembered from then on. -/
def resolve (n : Network) (endpoint : String) : Except NetworkError (Url.Web × Network) :=
  match n.cached.lookup endpoint with
  | some url => .ok (url, n)
  | none =>
    match Endpoint.resolve endpoint with
    | .error e => .error e
    | .ok url => .ok (url, { n with cached := n.cached ++ [(endpoint, url)] })

/-- Is a part of an address readable text? -/
def isText (cs : List Char) : Bool :=
  (String.fromUTF8? ⟨(Url.Percent.decode (Bytes.ofString (String.ofList cs))).toArray⟩).isSome

/-- The address as requests show it: user name and password are sent apart. -/
def shownUrl (url : Url.Web) : String :=
  let isPlain := isText url.user.username && isText (url.user.password.getD [])
  let url := if isPlain then { url with user := ⟨[], none⟩ } else url
  url.render

/-- The error that a node reports, in words. -/
def failureText (f : Failure) : String :=
  "server returned an error response: error code " ++ toString f.code ++ ": " ++ f.message ++
    (match f.data with | none => "" | some d => ", data: " ++ d)

/-- Is the time for an answer to this question limited? -/
def isLimited : Question → Bool
  | .receipt _ => false
  | _ => true

/-- What is heard of a reply in no time at all: only that there is no connection. -/
def heardAtOnce : Reply → Reply
  | .unreachable => .unreachable
  | _ => .silence

/-- Ask one question.  A limit of 0 seconds leaves no time for any answer. -/
def ask (n : Network) (url : Url.Web) (q : Question) : Except Fault Json.Value × Network :=
  let call : Call := ⟨url, q⟩
  let reply := n.node n.calls call
  let reply := if n.rpcTimeout = 0 ∧ isLimited q then heardAtOnce reply else reply
  let n := { n with calls := n.calls ++ [call] }
  let heard := { n with answered := n.answered ++ [call] }
  match reply with
  | .result v => (.ok v, heard)
  | .failure f => (.error (.failed (failureText f)), heard)
  | .unusable text => (.error (.failed text), heard)
  | .unreachable => (.error (.failed ("error sending request for url (" ++ shownUrl url ++ ")")), n)
  | .silence => (.error .timeout, n)

/-- Read an answer. -/
def decoded {α : Type} (read : Json.Value → Except String α) :
    Except Fault Json.Value → Except Fault α
  | .error e => .error e
  | .ok v =>
    match read v with
    | .ok a => .ok a
    | .error text => .error (.failed text)

/-- The network error for a question without answer. -/
def errorOf (n : Network) : Fault → NetworkError
  | .timeout => .timeout n.rpcTimeout
  | .failed text => .rpc text

/-! ## Balances -/

/-- The balance of an account. -/
def balance (n : Network) (account : Address) (endpoint : String) :
    Except NetworkError Nat × Network :=
  match n.resolve endpoint with
  | .error e => (.error e, n)
  | .ok (url, n) =>
    let (answer, n) := n.ask url (.balance account)
    match decoded balanceOf answer with
    | .ok wei => (.ok wei, n)
    | .error e => (.error (n.errorOf e), n)

/-! ## Broadcasts -/

/-- Why no receipt came in time. -/
def unconfirmed : String := "transaction was not confirmed within the timeout"

/-- Ask for the receipt so many times, the first of which only counts if it fails. -/
def awaitReceipt : (rounds : Nat) → (first : Bool) → Network → Url.Web → Hash →
    Except String MinedTx × Network
  | 0, _, n, _, _ => (.error unconfirmed, n)
  | rounds + 1, first, n, url, hash =>
    let (answer, n) := n.ask url (.receipt hash)
    match decoded receiptOf answer with
    | .error .timeout => (.error unconfirmed, n)
    | .error (.failed text) => (.error text, n)
    | .ok none => awaitReceipt rounds false n url hash
    | .ok (some tx) => if first then awaitReceipt rounds false n url hash else (.ok tx, n)

/-- How often a receipt is asked for: twice at once, then four times a second. -/
def receiptRounds (n : Network) : Nat := 2 + 4 * n.receiptTimeout.toNat

/-- Broadcast a transaction and wait for its receipt. -/
def broadcast (n : Network) (rawTx : Bytes) (endpoint : String) : BroadcastResult × Network :=
  match n.resolve endpoint with
  | .error e => (.error e, n)
  | .ok (url, n) =>
    let (answer, n) := n.ask url (.send rawTx)
    match decoded hashOf answer with
    | .error e => (.error (n.errorOf e), n)
    | .ok hash =>
      match awaitReceipt n.receiptRounds true n url hash with
      | (.ok tx, n) => (.ok (.mined tx), n)
      | (.error reason, n) => (.ok (.pending (Hex.encode0x hash.val) reason), n)

/-- How many endpoints were used so far. -/
def cachedEndpoints (n : Network) : Nat := n.cached.length

/-- The calls that are reported: transactions sent and balances asked for. -/
def reported (n : Network) : List Call :=
  n.answered.filter fun c =>
    match c.question with
    | .receipt _ => false
    | _ => true

/-- The network as developers see it. -/
def debugForm (n : Network) : String :=
  "RpcNetwork \x7b endpoints: " ++ toString n.cachedEndpoints ++ ", rpc_timeout_secs: " ++
    toString n.rpcTimeout.toNat ++ ", receipt_timeout_secs: " ++
    toString n.receiptTimeout.toNat ++ " \x7d"

end Network

end TxRelay.Rpc
