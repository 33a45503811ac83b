/-
  Jobs and their receipts.

  A caller names each submission; the name comes back in the one receipt that the accepted
  submission gets.  Names need not be unique.
-/
import TxRelay.Network.Outcome

namespace TxRelay

/-- A caller's name for a submission. -/
structure JobId where
  text : String
deriving DecidableEq, Repr

/-- The record of a finished job. -/
structure Receipt where
  /-- Empty if no node took the transaction. -/
  transactionHash : String
  success : Bool
  /-- Empty on success. -/
  message : String
  jobId : JobId
deriving DecidableEq, Repr

namespace Receipt

/-- The receipt of a job whose broadcast ended so. -/
def ofOutcome (jobId : JobId) : BroadcastResult → Receipt
  | .ok (.mined tx) =>
    if tx.success then ⟨tx.hash, true, "", jobId⟩
    else ⟨tx.hash, false, "transaction reverted", jobId⟩
  | .ok (.pending hash reason) => ⟨hash, false, "transaction pending: " ++ reason, jobId⟩
  | .error e => ⟨"", false, e.message, jobId⟩

end Receipt

end TxRelay
