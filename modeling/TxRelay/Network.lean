/-
  The network behind a client: nodes that are asked, or a stand-in that is told its answers.
-/
import TxRelay.Network.StandIn
import TxRelay.Rpc.Network

namespace TxRelay

/-- A network. -/
inductive Network where
  | standIn (n : StandIn)
  | nodes (n : Rpc.Network)

namespace Network

/-- The check of a payload. -/
def validate : Network → Validate
  | standIn n => n.validate
  | nodes _ => validateEnvelope

/-- The answer to a question about a balance. -/
def balance (n : Network) (q : BalanceQuery) : Except NetworkError Nat × Network :=
  match n with
  | standIn s => (StandIn.balance q, standIn s)
  | nodes r => let (answer, r) := r.balance q.account q.endpoint; (answer, nodes r)

/-- The end of a broadcast, if the network gives it by itself. -/
def broadcast? (n : Network) (rawTx : Bytes) (endpoint : String) :
    Option (BroadcastResult × Network) :=
  match n with
  | standIn _ => none
  | nodes r => let (outcome, r) := r.broadcast rawTx endpoint; some (outcome, nodes r)

/-- The calls that nodes answered. -/
def reported : Network → List Rpc.Call
  | standIn _ => []
  | nodes r => r.reported

end Network

end TxRelay
