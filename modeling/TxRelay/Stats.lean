/-
  Counting jobs.

  Four counters of 64 bits follow a job's way: submitted or rejected, completed, delivered.
  Beside them stand the published metrics, which count the same events under labels.  A metric
  that was never touched is not published.
-/

namespace TxRelay

/-- Why a submission was refused, as published. -/
inductive RejectReason where
  | endpoint
  | payload
  | request
deriving DecidableEq, Repr

/-- The label of a reason. -/
def RejectReason.label : RejectReason → String
  | endpoint => "endpoint"
  | payload => "payload"
  | request => "request"

/-- The job counters. -/
structure Stats where
  submitted : UInt64 := 0
  rejected : UInt64 := 0
  completed : UInt64 := 0
  delivered : UInt64 := 0
deriving DecidableEq, Repr

namespace Stats

/-- Accepted jobs that still wait for the network. -/
def inFlight (s : Stats) : UInt64 :=
  if s.completed ≤ s.submitted then s.submitted - s.completed else 0

/-- The counters as developers see them. -/
def debugForm (s : Stats) : String :=
  "StatsSnapshot \x7b submitted: " ++ toString s.submitted.toNat ++ ", rejected: " ++
    toString s.rejected.toNat ++ ", completed: " ++ toString s.completed.toNat ++
    ", delivered: " ++ toString s.delivered.toNat ++ " \x7d"

end Stats

/-- The published metrics.  A counter at 0 was never touched; the gauge is `none` until it is
    first set. -/
structure Metrics where
  submitted : UInt64 := 0
  rejectedEndpoint : UInt64 := 0
  rejectedPayload : UInt64 := 0
  rejectedRequest : UInt64 := 0
  succeeded : UInt64 := 0
  failed : UInt64 := 0
  inFlight : Option UInt64 := none
  callbackPanics : UInt64 := 0
deriving DecidableEq, Repr

namespace Metrics

/-- Count a rejection. -/
def countRejected (m : Metrics) : RejectReason → Metrics
  | .endpoint => { m with rejectedEndpoint := m.rejectedEndpoint + 1 }
  | .payload => { m with rejectedPayload := m.rejectedPayload + 1 }
  | .request => { m with rejectedRequest := m.rejectedRequest + 1 }

/-- Count a receipt. -/
def countReceipt (m : Metrics) (success : Bool) : Metrics :=
  if success then { m with succeeded := m.succeeded + 1 } else { m with failed := m.failed + 1 }

/-- Count a callback that panicked. -/
def countPanic (m : Metrics) : Metrics :=
  { m with callbackPanics := m.callbackPanics + 1 }

theorem inFlight_countRejected (m : Metrics) (reason : RejectReason) :
    (m.countRejected reason).inFlight = m.inFlight := by
  cases reason <;> rfl

theorem inFlight_countReceipt (m : Metrics) (success : Bool) :
    (m.countReceipt success).inFlight = m.inFlight := by
  cases success <;> rfl

/-- The metrics that were touched, by name. -/
def published (m : Metrics) : List (String × Nat) :=
  let counters : List (String × UInt64) :=
    [("relay_jobs_submitted_total", m.submitted),
      ("relay_jobs_rejected_total\x7breason=endpoint\x7d", m.rejectedEndpoint),
      ("relay_jobs_rejected_total\x7breason=payload\x7d", m.rejectedPayload),
      ("relay_jobs_rejected_total\x7breason=request\x7d", m.rejectedRequest),
      ("relay_receipts_total\x7boutcome=success\x7d", m.succeeded),
      ("relay_receipts_total\x7boutcome=failure\x7d", m.failed),
      ("relay_callback_panics_total", m.callbackPanics)]
  let gauge := match m.inFlight with
    | none => []
    | some n => [("relay_jobs_in_flight", n.toNat)]
  gauge ++ (counters.filter fun c => c.2 ≠ 0).map fun c => (c.1, c.2.toNat)

end Metrics

/-- Counters and metrics together: each event moves both. -/
structure Tally where
  stats : Stats := {}
  metrics : Metrics := {}
deriving DecidableEq, Repr

namespace Tally

/-- Publish how many jobs are in flight now. -/
def setGauge (t : Tally) : Tally :=
  { t with metrics := { t.metrics with inFlight := some t.stats.inFlight } }

/-- A job was accepted. -/
def submitted (t : Tally) : Tally :=
  setGauge
    { stats := { t.stats with submitted := t.stats.submitted + 1 },
      metrics := { t.metrics with submitted := t.metrics.submitted + 1 } }

/-- A submission was refused. -/
def rejected (t : Tally) (reason : RejectReason) : Tally :=
  { stats := { t.stats with rejected := t.stats.rejected + 1 },
    metrics := t.metrics.countRejected reason }

/-- A job got its receipt. -/
def completed (t : Tally) (success : Bool) : Tally :=
  setGauge
    { stats := { t.stats with completed := t.stats.completed + 1 },
      metrics := t.metrics.countReceipt success }

/-- A receipt was handed over. -/
def delivered (t : Tally) : Tally :=
  { t with stats := { t.stats with delivered := t.stats.delivered + 1 } }

/-- A callback panicked. -/
def panicked (t : Tally) : Tally :=
  { t with metrics := t.metrics.countPanic }

end Tally

example : (({} : Tally).submitted.completed true).stats.inFlight = 0 := by decide

end TxRelay
