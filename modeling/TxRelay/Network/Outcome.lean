/-
  What a network collaborator answers.

  The relay talks to the chain through three questions: may this payload be queued, what became
  of this transaction, and how much does this account hold.  This file has the answers; who
  gives them is not its business.
-/
import TxRelay.Bytes
import TxRelay.Text.Quoted

namespace TxRelay

/-- Why the network could not do what it was asked. -/
inductive NetworkError where
  /-- The request failed. -/
  | rpc (message : String)
  /-- No answer came within so many seconds. -/
  | timeout (secs : UInt64)
  /-- The endpoint is no address of a node. -/
  | invalidEndpoint (endpoint reason : String)
  /-- The payload is no signed transaction. -/
  | invalidPayload (message : String)
  /-- A private key or signature is at fault. -/
  | wallet (message : String)
deriving DecidableEq, Repr

namespace NetworkError

/-- The wording of an error. -/
def message : NetworkError → String
  | rpc m => "RPC error: " ++ m
  | timeout secs => "RPC timeout after " ++ toString secs.toNat ++ " seconds"
  | invalidEndpoint endpoint reason => "Invalid RPC endpoint '" ++ endpoint ++ "': " ++ reason
  | invalidPayload m => "Invalid transaction payload: " ++ m
  | wallet m => "Wallet error: " ++ m

/-- The error as developers see it. -/
def debugForm : NetworkError → String
  | rpc m => "Rpc(" ++ Text.quoted m ++ ")"
  | timeout secs => "Timeout(" ++ toString secs.toNat ++ ")"
  | invalidEndpoint endpoint reason =>
    "InvalidEndpoint \x7b endpoint: " ++ Text.quoted endpoint ++ ", reason: " ++
      Text.quoted reason ++ " \x7d"
  | invalidPayload m => "InvalidPayload(" ++ Text.quoted m ++ ")"
  | wallet m => "Wallet(" ++ Text.quoted m ++ ")"

end NetworkError

/-- The network's check of a payload. -/
abbrev Validate := Bytes → Except NetworkError Unit

/-- A mined transaction. -/
structure MinedTx where
  hash : String
  success : Bool
  block : Option UInt64
  gasUsed : UInt64
deriving DecidableEq, Repr

/-- What became of a transaction that a node took. -/
inductive Outcome where
  | mined (tx : MinedTx)
  /-- The node has the transaction, but its receipt did not come. -/
  | pending (hash reason : String)
deriving DecidableEq, Repr

/-- The hash of the transaction. -/
def Outcome.hash : Outcome → String
  | mined tx => tx.hash
  | pending hash _ => hash

/-- The end of a broadcast. -/
abbrev BroadcastResult := Except NetworkError Outcome

end TxRelay
