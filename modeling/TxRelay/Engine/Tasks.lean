/-
  The tasks of an engine, poll by poll.

  The dispatcher and the task of each job wait in a select with two branches: the shutdown signal,
  and their work.  When a select is polled, it polls one branch and, if that was pending, the other.
  A branch that is ready ends the select and the other branch is dropped.

      dispatcher   signal → it ends    · request → it spawns a task and selects anew
      task         signal → it ends    · broadcast → it queues the receipt and ends

  1. **Chance.**  Which branch comes first is left to chance unless a select is biased.  `Step`
     takes the branches that may come first as a parameter, `opening`: both for the program, the
     signal alone for the program as it would be with biased selects.

  2. **The first poll of a broadcast** is the call of the network, so a task may call it without a
     look at the signal.

  3. **The signal.**  A select's wait for it is one of `Shutdown`, subscribed to when it is first
     polled and dropped with the select.

  4. **Callers.**  Between any two polls callers take their steps.  `submit` looks at the state and
     sends its request later; the call that starts the engine takes the receiver of requests, moves
     the state and spawns the dispatcher; `destroy` moves the state, sets the flag and sends the
     signal (`Closing`).

  What is left out is what is modelled in other places: polls of receipts, the counters' own steps,
  several calls of one kind at once.
-/
import TxRelay.Engine.Moment
import TxRelay.Shutdown

namespace TxRelay.Engine

/-! ## Selects -/

/-- The branches of a select. -/
inductive Branch where
  | signal
  | work
deriving DecidableEq, Repr

def Branch.other : Branch → Branch
  | .signal => .work
  | .work => .signal

/-- How far the poll of a select has come: which branch it polls now. -/
inductive Look where
  /-- It is not being polled. -/
  | rest
  | first (b : Branch)
  /-- The other branch was pending. -/
  | second (b : Branch)
deriving DecidableEq, Repr

/-- The branch that is being polled. -/
def Look.branch? : Look → Option Branch
  | .rest => none
  | .first b | .second b => some b

/-- The branch that was polled is pending. -/
def Look.onward : Look → Look
  | .first b => .second b.other
  | .rest | .second _ => .rest

/-- A select with its wait for the signal. -/
structure Select where
  wait : Nat
  look : Look := .rest
deriving DecidableEq, Repr

/-- A poll of a select goes on: it begins with a branch, or the signal is not there. -/
inductive Select.Polls (opening : Branch → Prop) (shutdown : Shutdown) :
    Select → Shutdown → Select → Prop where
  | turn {wait : Nat} {b : Branch} (opens : opening b) :
      Polls opening shutdown ⟨wait, .rest⟩ shutdown ⟨wait, .first b⟩
  | unheard {select : Select} (looks : select.look.branch? = some .signal)
      (pending : (shutdown.poll select.wait).1 = .pending) :
      Polls opening shutdown select (shutdown.poll select.wait).2
        { select with look := select.look.onward }

/-- The select looks at the signal and finds it. -/
structure Select.Hears (select : Select) (shutdown : Shutdown) : Prop where
  looks : select.look.branch? = some .signal
  ready : (shutdown.poll select.wait).1 = .ready

/-! ## Tasks -/

/-- The dispatcher, which owns the receiver of requests. -/
inductive Dispatcher where
  /-- The receiver lies in its slot. -/
  | absent
  /-- A call that starts the engine has taken the receiver. -/
  | taken
  /-- The engine works, and the dispatcher is spawned next. -/
  | due
  | selecting (select : Select)
  /-- The receiver is gone with all that was in it. -/
  | ended

/-- The task of a job. -/
structure JobTask where
  job : Job
  select : Select
  /-- It has called the network. -/
  begun : Bool := false

/-- How far the call that destroys the engine has come. -/
inductive Closing where
  | before
  | swapped
  | flagged
  | returned
deriving DecidableEq, Repr

/-- An engine with its tasks, between two polls. -/
structure Tasks where
  engine : Engine
  shutdown : Shutdown := {}
  /-- Requests that passed the checks and are sent next. -/
  submitting : List Request := []
  dispatcher : Dispatcher := .absent
  jobs : List JobTask := []
  closing : Closing := .before
  log : List Event := []

namespace Tasks

/-- Write down what happened. -/
@[simp] def note (s : Tasks) (event : Event) : Tasks := { s with log := s.log ++ [event] }

/-- A new engine. -/
def initial (pollInterval : UInt64) : Tasks := { engine := { pollInterval := pollInterval } }

/-- One step.  The polls of selects begin with the branches that `opening` names: with both if
    chance decides, with the signal if the selects are biased. -/
inductive Step (validate : Validate) (opening : Branch → Prop) : Tasks → Tasks → Prop where
  /-- A submission finds the engine alive and passes the checks. -/
  | pass {s : Tasks} {r : Request} (live : s.engine.phase ≠ .destroyed)
      (ok : check validate r = .ok ()) :
      Step validate opening s { s with submitting := s.submitting ++ [r] }
  | refuse {s : Tasks} {r : Request} {e : EngineError} (live : s.engine.phase ≠ .destroyed)
      (bad : check validate r = .error e) :
      Step validate opening s
        ({ s with
            engine := { s.engine with tally := s.engine.tally.rejected (rejectReason e) } }.note
          (.refused r e))
  | send {s : Tasks} {before after : List Request} {r : Request}
      (held : s.submitting = before ++ r :: after) (receives : s.dispatcher ≠ .ended) :
      Step validate opening s
        ({ s with engine := s.engine.enqueue r, submitting := before ++ after }.note
          (.accepted ⟨s.engine.accepted, r⟩))
  /-- Nobody receives any more. -/
  | bounce {s : Tasks} {before after : List Request} {r : Request}
      (held : s.submitting = before ++ r :: after) (gone : s.dispatcher = .ended) :
      Step validate opening s
        ({ s with submitting := before ++ after }.note (.refused r .destroyed))
  /-- A call that starts the engine takes the receiver. -/
  | take {s : Tasks} (there : s.dispatcher = .absent) :
      Step validate opening s { s with dispatcher := .taken }
  | start {s : Tasks} (has : s.dispatcher = .taken) (fresh : s.engine.phase = .created) :
      Step validate opening s
        ({ s with engine := { s.engine with phase := .working }, dispatcher := .due }.note
          .started)
  /-- The engine was destroyed in between, and the call drops the receiver. -/
  | startLate {s : Tasks} (has : s.dispatcher = .taken) (late : s.engine.phase ≠ .created) :
      Step validate opening s
        { s with engine := { s.engine with queue := [] }, dispatcher := .ended }
  | spawn {s : Tasks} (due : s.dispatcher = .due) :
      Step validate opening s
        { s with
          shutdown := s.shutdown.wait.2, dispatcher := .selecting ⟨s.shutdown.wait.1, .rest⟩ }
  | dispatcherPolls {s : Tasks} {select select' : Select} {shutdown : Shutdown}
      (selects : s.dispatcher = .selecting select)
      (polls : select.Polls opening s.shutdown shutdown select') :
      Step validate opening s { s with shutdown := shutdown, dispatcher := .selecting select' }
  /-- No request is there. -/
  | idle {s : Tasks} {select : Select} (selects : s.dispatcher = .selecting select)
      (looks : select.look.branch? = some .work) (empty : s.engine.queue = []) :
      Step validate opening s
        { s with dispatcher := .selecting { select with look := select.look.onward } }
  /-- The dispatcher receives a request, spawns its task and selects anew. -/
  | receive {s : Tasks} {select : Select} {job : Job} {rest : List Job}
      (selects : s.dispatcher = .selecting select) (looks : select.look.branch? = some .work)
      (head : s.engine.queue = job :: rest) :
      Step validate opening s
        (let own := (s.shutdown.cancel select.wait).2.wait
         let next := own.2.wait
         { s with
            engine := { s.engine with queue := rest }
            shutdown := next.2
            dispatcher := .selecting ⟨next.1, .rest⟩
            jobs := s.jobs ++ [⟨job, ⟨own.1, .rest⟩, false⟩] })
  /-- The dispatcher gets the signal and ends. -/
  | quit {s : Tasks} {select : Select} (selects : s.dispatcher = .selecting select)
      (hears : select.Hears s.shutdown) :
      Step validate opening s
        { s with
          engine := { s.engine with queue := [] }
          shutdown := (s.shutdown.poll select.wait).2
          dispatcher := .ended }
  | taskPolls {s : Tasks} {before after : List JobTask} {task : JobTask} {select' : Select}
      {shutdown : Shutdown} (held : s.jobs = before ++ task :: after)
      (polls : task.select.Polls opening s.shutdown shutdown select') :
      Step validate opening s
        { s with
          shutdown := shutdown, jobs := before ++ { task with select := select' } :: after }
  /-- A task calls the network. -/
  | call {s : Tasks} {before after : List JobTask} {task : JobTask}
      (held : s.jobs = before ++ task :: after) (looks : task.select.look.branch? = some .work)
      (first : task.begun = false) :
      Step validate opening s
        ({ s with
            engine := { s.engine with broadcasting := s.engine.broadcasting ++ [task.job] }
            jobs := before ++ { task with begun := true } :: after }.note
          (.called task.job.number task.job.request.rawTx task.job.request.endpoint))
  /-- The network has not answered. -/
  | wait {s : Tasks} {before after : List JobTask} {task : JobTask}
      (held : s.jobs = before ++ task :: after) (looks : task.select.look.branch? = some .work)
      (begun : task.begun = true) :
      Step validate opening s
        { s with
          jobs := before ++
            { task with select := { task.select with look := task.select.look.onward } } :: after }
  /-- The network answers, and the task queues the receipt and ends. -/
  | answer {s : Tasks} {before after : List JobTask} {task : JobTask}
      {outcome : BroadcastResult} (held : s.jobs = before ++ task :: after)
      (looks : task.select.look.branch? = some .work) (begun : task.begun = true) :
      Step validate opening s
        ({ s with
            engine := s.engine.complete task.job outcome
            shutdown := (s.shutdown.cancel task.select.wait).2
            jobs := before ++ after }.note
          (.answered task.job outcome))
  /-- A task gets the signal and ends without a receipt. -/
  | abandon {s : Tasks} {before after : List JobTask} {task : JobTask}
      (held : s.jobs = before ++ task :: after) (hears : task.select.Hears s.shutdown) :
      Step validate opening s
        { s with
          engine := { s.engine with broadcasting := s.engine.broadcasting.erase task.job }
          shutdown := (s.shutdown.poll task.select.wait).2
          jobs := before ++ after }
  /-- `destroy` moves the state. -/
  | swap {s : Tasks} (live : s.engine.phase ≠ .destroyed) :
      Step validate opening s
        { s with engine := { s.engine with phase := .destroyed }, closing := .swapped }
  | flag {s : Tasks} (swapped : s.closing = .swapped) :
      Step validate opening s
        { s with shutdown := { s.shutdown with triggered := true }, closing := .flagged }
  /-- `destroy` sends the signal and returns. -/
  | signal {s : Tasks} (flagged : s.closing = .flagged) :
      Step validate opening s
        ({ s with
            shutdown := { s.shutdown with channel := s.shutdown.channel.send }
            closing := .returned }.note
          .destroyed)

/-- What a new engine and its tasks can come to: the selects are not biased. -/
inductive Reachable (validate : Validate) (pollInterval : UInt64) : Tasks → Prop where
  | initial : Reachable validate pollInterval (.initial pollInterval)
  | step {s s' : Tasks} (before : Reachable validate pollInterval s)
      (next : Step validate (fun _ => True) s s') : Reachable validate pollInterval s'

end Tasks

end TxRelay.Engine
