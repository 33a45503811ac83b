/-
  A client at work, step by step.

  Calls are made from outside at any time, and by the callback while it runs.  Broadcasts end in any
  order.  In between, the loop goes its rounds: a round looks at the orders, polls, and begins the
  callback that is set; the callback then makes its calls one after the other, and returns or
  panics.  A moment is the client between two of these steps.

  What the client does by itself, without a call from outside and without news from outside, is what
  `Happens`; a moment at which nothing of the kind can happen is settled.

  What happened is written down in a log, and the log alone tells which receipts were handed over,
  which were due, and who was told what.

  1. **The log.**  `delivered` is read off the callbacks that began, `completed` off the acceptances
     and the ends of broadcasts, `lastSet` off the calls that set a callback.  None of them looks at
     the client.

  2. **Rounds are whole.**  From the look at the orders to the beginning of the callback a round is
     one step here, so no call comes in between.  In the program one may: the look at the orders,
     the look at the engine, the poll and the load of the callback are four steps of the loop's
     thread, and `Client.Threads` takes them one by one.  A round that nobody disturbs comes to the
     same there (`Threads.round_alone`).

  3. **Rounds that are disturbed** obey later.  An order that comes after the look at the orders,
     and the end of the client after the look at the engine, are seen in the next round only, so one
     callback may begin after the call of `stop` or `destroy` has returned (`Threads.LastRound`).
     Order and routing do not turn on this: what was polled is handed over before the next poll, by
     the loop that polled it, to the callback that is set when it is loaded.

  So what is claimed of moments is order and routing, answers, counters and logs; what turns on a
  round's steps is claimed of `Client.Threads`.
-/
import TxRelay.Client
import TxRelay.Log

namespace TxRelay.Client

/-! ## The log -/

/-- What happens in the life of a client. -/
inductive Event where
  /-- A call, from outside or from a callback, and its answer.  A call of `run` answers when it
      takes the loop. -/
  | called (call : ClientCall) (answer : ClientAnswer)
  /-- The broadcast of the job with this number ended so. -/
  | ended (job : Nat) (outcome : BroadcastResult)
  /-- A callback began, with this receipt. -/
  | began (callback : Callback) (r : Receipt)
  /-- A loop ended. -/
  | loopEnded (result : Except ClientError Unit)

namespace Event

@[simp] def queued? : Event → Option JobId
  | called (.broadcast _ _ jobId) .queued => some jobId
  | _ => none

@[simp] def ending? : Event → Option (Nat × BroadcastResult)
  | ended job outcome => some (job, outcome)
  | _ => none

@[simp] def delivered? : Event → Option Receipt
  | began _ r => some r
  | _ => none

@[simp] def set? : Event → Option Callback
  | called (.setCallback tag calls panics) .set => some ⟨tag, calls, panics⟩
  | _ => none

/-- A loop was taken. -/
@[simp] def Claims : Event → Prop
  | called .start .started => True
  | called .run .nothing => True
  | _ => False

@[simp] def Destroys : Event → Prop
  | called .destroy _ => True
  | _ => False

end Event

/-- The names of the accepted jobs, in order of acceptance: the job of number `n` is the `n`-th. -/
def queuedJobs (log : List Event) : List JobId := log.filterMap Event.queued?

/-- The ends of broadcasts, in the order in which they came. -/
def endings (log : List Event) : List (Nat × BroadcastResult) := log.filterMap Event.ending?

/-- The receipt that is due for the end of a broadcast. -/
def due (jobs : List JobId) (ending : Nat × BroadcastResult) : Option Receipt :=
  jobs[ending.1]?.map fun jobId => Receipt.ofOutcome jobId ending.2

/-- The receipts of the accepted jobs, in order of completion. -/
def completed (log : List Event) : List Receipt := (endings log).filterMap (due (queuedJobs log))

/-- The receipts that were handed to callbacks, over all loops and all callbacks. -/
def delivered (log : List Event) : List Receipt := log.filterMap Event.delivered?

/-- The callback that was set last. -/
def lastSet (log : List Event) : Option Callback := (log.filterMap Event.set?).getLast?

/-- A call of `start` or `run` took a loop. -/
def Claimed (log : List Event) : Prop := ∃ event ∈ log, event.Claims

/-- `destroy` was called. -/
def DestroyCalled (log : List Event) : Prop := ∃ event ∈ log, event.Destroys

section

variable (log : List Event) (event : Event)

@[simp] theorem queuedJobs_snoc :
    queuedJobs (log ++ [event]) = queuedJobs log ++ event.queued?.toList :=
  Log.filterMap_snoc _ log event

@[simp] theorem endings_snoc :
    endings (log ++ [event]) = endings log ++ event.ending?.toList :=
  Log.filterMap_snoc _ log event

@[simp] theorem delivered_snoc :
    delivered (log ++ [event]) = delivered log ++ event.delivered?.toList :=
  Log.filterMap_snoc _ log event

@[simp] theorem lastSet_snoc : lastSet (log ++ [event]) = event.set?.or (lastSet log) := by
  rw [lastSet, Log.filterMap_snoc]
  cases event.set? with
  | none => simp [lastSet]
  | some callback => simp

@[simp] theorem claimed_snoc : Claimed (log ++ [event]) ↔ Claimed log ∨ event.Claims := by
  simp [Claimed, or_and_right, exists_or]

@[simp] theorem destroyCalled_snoc :
    DestroyCalled (log ++ [event]) ↔ DestroyCalled log ∨ event.Destroys := by
  simp [DestroyCalled, or_and_right, exists_or]

end

/-! ## Moments -/

/-- A callback that runs: the calls that it has still to make, and whether it panics then. -/
structure Busy where
  calls : List ClientCall
  panics : Bool

/-- A client between two steps. -/
structure Moment where
  client : Client
  /-- The callback that the loop waits for. -/
  busy : Option Busy := none
  log : List Event := []

namespace Moment

/-- Write down what happened. -/
@[simp] def note (m : Moment) (event : Event) : Moment := { m with log := m.log ++ [event] }

/-- Make a call. -/
def make (m : Moment) (call : ClientCall) : Moment :=
  { m with client := (m.client.perform call).2 }.note
    (.called call (m.client.perform call).1)

/-- The loop waits for a callback that got this receipt. -/
def begin (m : Moment) (callback : Callback) (r : Receipt) : Moment :=
  { m with busy := some ⟨callback.calls r.jobId, callback.panics r.jobId⟩ }.note
    (.began callback r)

/-- The broadcast of the job with this number ends. -/
def hear (m : Moment) (network : Network) (job : Nat) (outcome : BroadcastResult) : Moment :=
  { m with
    client :=
      { m.client with network := network, engine := (m.client.engine.finish job outcome).2 } }.note
    (.ended job outcome)

/-- A new client. -/
def initial (config : Config) (network : Network) : Moment := { client := .new config network }

end Moment

/-- A panic is counted. -/
def afterwards (c : Client) (panics : Bool) : Client :=
  if panics then { c with engine := { c.engine with tally := c.engine.tally.panicked } } else c

/-- What happens without a call or news from outside. -/
inductive Happens : Moment → Moment → Prop where
  /-- A round of the loop takes a receipt, and the callback that is set begins. -/
  -- a round needs `busy` to be `none`: the loop and its callback take turns
  | begin {m : Moment} {r : Receipt} {c : Client} {callback : Callback} (free : m.busy = none)
      (runs : m.client.isRunning = true) (round : m.client.round = (.takes r, c))
      (set : c.callback = some callback) :
      Happens m ({ m with client := c }.begin callback r)
  /-- A round of the loop takes a receipt, but no callback is set. -/
  | drop {m : Moment} {r : Receipt} {c : Client} (free : m.busy = none)
      (runs : m.client.isRunning = true) (round : m.client.round = (.takes r, c))
      (unset : c.callback = none) : Happens m { m with client := c }
  /-- The loop ends instead of a round. -/
  | stop {m : Moment} {result : Except ClientError Unit} {c : Client} (free : m.busy = none)
      (runs : m.client.isRunning = true) (round : m.client.round = (.ends result, c)) :
      Happens m ({ m with client := c }.note (.loopEnded result))
  /-- The callback makes its next call. -/
  | call {m : Moment} {call : ClientCall} {rest : List ClientCall} {panics : Bool}
      (busy : m.busy = some ⟨call :: rest, panics⟩) :
      Happens m ({ m with busy := some ⟨rest, panics⟩ }.make call)
  /-- The callback is over. -/
  | return {m : Moment} {panics : Bool} (busy : m.busy = some ⟨[], panics⟩) :
      Happens m { m with client := m.client.afterwards panics, busy := none }
  /-- The network ends the oldest broadcast by itself. -/
  | hear {m : Moment} {job : Job} {rest : List Job} {outcome : BroadcastResult}
      {network : Network} (head : m.client.engine.broadcasting = job :: rest)
      (answer : m.client.network.broadcast? job.request.rawTx job.request.endpoint =
        some (outcome, network)) :
      Happens m (m.hear network job.number outcome)

/-- One step. -/
inductive Step : Moment → Moment → Prop where
  | happens {m m' : Moment} (next : Happens m m') : Step m m'
  /-- A call from outside. -/
  | call {m : Moment} (call : ClientCall) : Step m (m.make call)
  /-- News from outside: a broadcast ended. -/
  | finish {m : Moment} {job : Nat} {outcome : BroadcastResult}
      (goes : (m.client.engine.finish job outcome).1 = true) :
      Step m (m.hear m.client.network job outcome)

/-- The moments that a new client can come to. -/
inductive Reachable (config : Config) (network : Network) : Moment → Prop where
  | initial : Reachable config network (.initial config network)
  | step {m m' : Moment} (before : Reachable config network m) (next : Step m m') :
      Reachable config network m'

/-- Everything that can happen has happened. -/
def Moment.Settled (m : Moment) : Prop := ∀ m', ¬ Happens m m'

end TxRelay.Client
