/-
  Handing receipts to a callback.

  A callback that panics is contained: the receipt counts as handed over, the panic is counted,
  and nothing else changes.
-/
import TxRelay.Receipt
import TxRelay.Stats

namespace TxRelay.Callback

/-- Hand one receipt to a callback that panics where `panics` says so: did it return normally? -/
def deliver (panics : Receipt → Bool) (r : Receipt) (m : Metrics) : Bool × Metrics :=
  if panics r then (false, m.countPanic) else (true, m)

/-- Hand over receipts one after the other. -/
def deliverAll (panics : Receipt → Bool) : List Receipt → Metrics → List Bool × Metrics
  | [], m => ([], m)
  | r :: rs, m =>
    let (ok, m) := deliver panics r m
    let (oks, m) := deliverAll panics rs m
    (ok :: oks, m)

/-- A callback as developers see it: what it does stays hidden. -/
def debugForm : String := "CallbackSink \x7b .. \x7d"

end TxRelay.Callback
