/-
  A network that is told what to say.

  It refuses the payloads on its list and, if it is strict, everything that is no signed
  transaction.  Broadcasts wait until their end is told.  A question about a balance is answered
  by the reply that comes with it.
-/
import TxRelay.Account
import TxRelay.Network.Outcome
import TxRelay.Transaction.Decode

namespace TxRelay

/-- The check of a payload by a network of nodes: it has to be one whole signed transaction. -/
def validateEnvelope (rawTx : Bytes) : Except NetworkError Unit :=
  match Envelope.ofBytes rawTx with
  | .ok _ => .ok ()
  | .error e => .error (.invalidPayload e.message)

/-- What a network that is told its answers was told about payloads. -/
structure StandIn where
  refusals : List (Bytes × NetworkError) := []
  strict : Bool := false
deriving DecidableEq, Repr

/-- A question about an account's balance, and the reply it should get. -/
structure BalanceQuery where
  account : Address
  endpoint : String
  reply : Option (Except NetworkError Nat)

namespace StandIn

/-- The check of a payload. -/
def validate (n : StandIn) (rawTx : Bytes) : Except NetworkError Unit :=
  match n.refusals.find? (·.1 = rawTx) with
  | some (_, e) => .error e
  | none => if n.strict then validateEnvelope rawTx else .ok ()

/-- The answer to a question about a balance. -/
def balance (q : BalanceQuery) : Except NetworkError Nat :=
  q.reply.getD
    (.error (.rpc ("no script for " ++ q.account.checksummed ++ " at " ++ q.endpoint)))

end StandIn

end TxRelay
