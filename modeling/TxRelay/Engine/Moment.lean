/-
  An engine at work, step by step.

  Callers submit and poll, the dispatcher hands each request to a task of its own, the tasks call
  the network and queue receipts.  All of them take their steps in any order, and any number of
  blocking polls wait at the same time.  A moment is the engine between two steps:

      submit ──▶ queue ──▶ task, not begun ──▶ task, broadcasting ──▶ receipts ──▶ a poll

  1. **The steps** are the parts of which the engine's operations are made: an operation does them
     one after the other until nothing is left to do, a moment stands between any two of them.  So a
     job that was dispatched may not have called the network yet (`Moment.spawned`), and a receipt
     may wait although polls do.

  2. **Polls.**  Which of the polls that wait takes a receipt is left open, and so is when the time
     of one is over.  A poll whose time is over takes nothing.

  3. **The end.**  `destroy` only moves the phase.  What follows is taken by the parties, each when
     it learns of it: the dispatcher ends and its queue is dropped, tasks are abandoned, polls are
     woken.  Until then they may take what steps they could take before.

  4. **The log.**  What happened is written down, and the log alone says which requests were
     accepted, what the network was asked and answered, and what polls returned.

  Queues are first in, first out and lose nothing; that is what is assumed of them, and all that is.
-/
import TxRelay.Engine
import TxRelay.Log

namespace TxRelay.Engine

/-! ## The log -/

/-- What happens in the life of an engine. -/
inductive Event where
  | started
  | accepted (job : Job)
  | refused (r : Request) (e : EngineError)
  /-- The network is called for a job: this payload goes to this endpoint. -/
  | called (job : Nat) (rawTx : Bytes) (endpoint : String)
  /-- The broadcast of a job ended so, and its receipt was queued. -/
  | answered (job : Job) (outcome : BroadcastResult)
  /-- A poll ended. -/
  | polled (result : PollResult)
  | destroyed

namespace Event

@[simp] def job? : Event → Option Job
  | accepted job => some job
  | _ => none

@[simp] def call? : Event → Option (Nat × Bytes × String)
  | called job rawTx endpoint => some (job, rawTx, endpoint)
  | _ => none

@[simp] def answer? : Event → Option (Job × BroadcastResult)
  | answered job outcome => some (job, outcome)
  | _ => none

@[simp] def receipt? : Event → Option Receipt
  | polled (.ok (.ready r)) => some r
  | _ => none

end Event

/-- The accepted requests, in order of acceptance. -/
def acceptedJobs (log : List Event) : List Job := log.filterMap Event.job?

/-- The calls of the network: the job's number, payload and endpoint. -/
def calls (log : List Event) : List (Nat × Bytes × String) := log.filterMap Event.call?

/-- The ends of broadcasts, in the order in which they came. -/
def answers (log : List Event) : List (Job × BroadcastResult) := log.filterMap Event.answer?

/-- The receipts that polls returned, in the order in which they were taken. -/
def returned (log : List Event) : List Receipt := log.filterMap Event.receipt?

section

variable (log : List Event) (event : Event)

@[simp] theorem acceptedJobs_snoc :
    acceptedJobs (log ++ [event]) = acceptedJobs log ++ event.job?.toList :=
  Log.filterMap_snoc _ log event

@[simp] theorem calls_snoc : calls (log ++ [event]) = calls log ++ event.call?.toList :=
  Log.filterMap_snoc _ log event

@[simp] theorem answers_snoc : answers (log ++ [event]) = answers log ++ event.answer?.toList :=
  Log.filterMap_snoc _ log event

@[simp] theorem returned_snoc :
    returned (log ++ [event]) = returned log ++ event.receipt?.toList :=
  Log.filterMap_snoc _ log event

end

/-- The call of the network that a job asks for. -/
def callOf (job : Job) : Nat × Bytes × String :=
  (job.number, job.request.rawTx, job.request.endpoint)

/-- The receipt that a job gets for the end of its broadcast. -/
def receiptOf (answer : Job × BroadcastResult) : Receipt :=
  Receipt.ofOutcome answer.1.request.jobId answer.2

/-! ## Moments -/

/-- An engine between two steps. -/
structure Moment where
  engine : Engine
  /-- The dispatcher runs. -/
  dispatching : Bool := false
  /-- Jobs that have a task of their own, which has not called the network yet. -/
  spawned : List Job := []
  log : List Event := []

namespace Moment

/-- The jobs that are held by a task. -/
def tasks (m : Moment) : List Job := m.spawned ++ m.engine.broadcasting

/-- Nobody destroyed the engine yet. -/
def Live (m : Moment) : Prop := m.engine.phase ≠ .destroyed

/-- Write down what happened. -/
@[simp] def note (m : Moment) (event : Event) : Moment := { m with log := m.log ++ [event] }

/-- The poll at this place ends. -/
def endPoll (m : Moment) (i : Nat) (result : PollResult) : Moment :=
  { m with engine := { m.engine with pollers := m.engine.pollers.set i (.ended result) } }.note
    (.polled result)

/-- A new engine. -/
def initial (pollInterval : UInt64) : Moment := { engine := { pollInterval := pollInterval } }

end Moment

/-- One step of one of the parties.  The steps that a destroyed engine allows besides are those
    by which its parties end. -/
inductive Step (validate : Validate) : Moment → Moment → Prop where
  /-- A submission that passes the checks is sent. -/
  | submit {m : Moment} {r : Request} (live : m.Live) (ok : check validate r = .ok ()) :
      Step validate m
        ({ m with engine := m.engine.enqueue r }.note (.accepted ⟨m.engine.accepted, r⟩))
  | refuse {m : Moment} {r : Request} {e : EngineError} (live : m.Live)
      (bad : check validate r = .error e) :
      Step validate m
        ({ m with
            engine := { m.engine with tally := m.engine.tally.rejected (rejectReason e) } }.note
          (.refused r e))
  /-- The engine begins to work and spawns the dispatcher. -/
  | start {m : Moment} (fresh : m.engine.phase = .created) :
      Step validate m
        ({ m with
            engine := { m.engine with phase := .working }, dispatching := true }.note .started)
  /-- The dispatcher receives a request and spawns a task for it. -/
  | receive {m : Moment} {job : Job} {rest : List Job} (runs : m.dispatching = true)
      (head : m.engine.queue = job :: rest) :
      Step validate m
        { m with engine := { m.engine with queue := rest }, spawned := m.spawned ++ [job] }
  /-- A task calls the network. -/
  | call {m : Moment} {job : Job} (held : job ∈ m.spawned) :
      Step validate m
        ({ m with
            engine := { m.engine with broadcasting := m.engine.broadcasting ++ [job] }
            spawned := m.spawned.erase job }.note
          (.called job.number job.request.rawTx job.request.endpoint))
  /-- The network answers, and the task queues the receipt. -/
  | answer {m : Moment} {job : Job} {outcome : BroadcastResult}
      (held : job ∈ m.engine.broadcasting) :
      Step validate m
        ({ m with engine := m.engine.complete job outcome }.note (.answered job outcome))
  /-- A poll that does not wait finds something. -/
  | find {m : Moment} {result : PollResult} {e : Engine} (live : m.Live)
      (found : m.engine.receive? = some (result, e)) :
      Step validate m ({ m with engine := e }.note (.polled result))
  /-- A poll that does not wait finds nothing, or others are at the receipts. -/
  | miss {m : Moment} (live : m.Live) : Step validate m (m.note (.polled (.ok .notReady)))
  /-- A blocking poll begins. -/
  | await {m : Moment} :
      Step validate m
        { m with engine := { m.engine with pollers := m.engine.pollers ++ [.waiting] } }
  /-- A blocking poll finds something. -/
  | take {m : Moment} {i : Nat} {result : PollResult} {e : Engine}
      (waits : m.engine.pollers[i]? = some .waiting)
      (found : m.engine.receive? = some (result, e)) :
      Step validate m ({ m with engine := e }.endPoll i result)
  /-- The time of a blocking poll is over. -/
  | expire {m : Moment} {i : Nat} (waits : m.engine.pollers[i]? = some .waiting) :
      Step validate m (m.endPoll i (.ok .notReady))
  /-- The caller of a blocking poll goes on with its result. -/
  | leave {m : Moment} {i : Nat} {result : PollResult}
      (ended : m.engine.pollers[i]? = some (.ended result)) :
      Step validate m { m with engine := { m.engine with pollers := m.engine.pollers.eraseIdx i } }
  | destroy {m : Moment} (live : m.Live) :
      Step validate m ({ m with engine := { m.engine with phase := .destroyed } }.note .destroyed)
  /-- The dispatcher of a destroyed engine ends, and nobody reads its queue any more. -/
  | stop {m : Moment} (gone : ¬ m.Live) :
      Step validate m { m with engine := { m.engine with queue := [] }, dispatching := false }
  /-- A task of a destroyed engine ends without a receipt. -/
  | abandon {m : Moment} {job : Job} (gone : ¬ m.Live) :
      Step validate m
        { m with
          engine := { m.engine with broadcasting := m.engine.broadcasting.erase job }
          spawned := m.spawned.erase job }
  /-- A blocking poll learns that the engine is gone. -/
  | wake {m : Moment} {i : Nat} (gone : ¬ m.Live)
      (waits : m.engine.pollers[i]? = some .waiting) :
      Step validate m (m.endPoll i (.error .destroyed))

/-- The moments that a new engine can come to. -/
inductive Reachable (validate : Validate) (pollInterval : UInt64) : Moment → Prop where
  | initial : Reachable validate pollInterval (.initial pollInterval)
  | step {m m' : Moment} (before : Reachable validate pollInterval m)
      (next : Step validate m m') : Reachable validate pollInterval m'

end TxRelay.Engine
