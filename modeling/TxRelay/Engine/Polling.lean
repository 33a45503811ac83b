/-
  A blocking poll, poll by poll of its select.

  A call looks at the state, and is refused if the engine is destroyed.  Then it waits in a select
  with two branches, the shutdown signal and its work:

      signal → the engine is gone
      work   → the lock of the receipts and, with it, the oldest receipt
             · pending, if others have the lock or no receipt is there
             · given up, if that is so when the time is over

  1. **The lock.**  Whoever began to wait first has the lock, and the others queue for it.

  2. **The time** may be over at any moment; with an interval of no length it is over from the
     beginning.  It is looked at behind the receipts, so that a receipt that is there is taken even
     then.

  3. **The signal** is a branch like the other, and chance decides which is polled first.  So when a
     receipt is there and the engine is destroyed, either may be the answer.

  What others do to the engine meanwhile is left to `Engine.Moment`: here nobody else touches it,
  and what is compared is one poll with `pollBlocking`.
-/
import TxRelay.Engine.Tasks

namespace TxRelay.Engine

/-- How far a blocking poll has come. -/
inductive PollStage where
  | called
  | selecting (select : Select)
  | returned (result : PollResult)

/-- A blocking poll and its engine, which nobody else touches meanwhile. -/
structure Polling where
  engine : Engine
  shutdown : Shutdown
  stage : PollStage := .called
  /-- The time is over. -/
  late : Bool := false

namespace Polling

/-- What the work of a poll finds: nothing, if others have the lock. -/
def work? (p : Polling) : Option (PollResult × Engine) :=
  if p.engine.someoneWaits then none else p.engine.receive?

/-- The select looks at its work. -/
structure Works (p : Polling) (select : Select) : Prop where
  selects : p.stage = .selecting select
  looks : select.look.branch? = some .work

/-- The work is done, and the wait for the signal is dropped. -/
def leave (p : Polling) (select : Select) (result : PollResult) : Polling :=
  { p with shutdown := (p.shutdown.cancel select.wait).2, stage := .returned result }

/-- One step.  The polls of the select begin with either branch. -/
inductive Step : Polling → Polling → Prop where
  /-- The engine is destroyed already. -/
  | refuse {p : Polling} (called : p.stage = .called) (gone : p.engine.phase = .destroyed) :
      Step p { p with stage := .returned (.error .destroyed) }
  | select {p : Polling} (called : p.stage = .called) (live : p.engine.phase ≠ .destroyed) :
      Step p
        { p with shutdown := p.shutdown.wait.2, stage := .selecting ⟨p.shutdown.wait.1, .rest⟩ }
  | polls {p : Polling} {select select' : Select} {shutdown : Shutdown}
      (selects : p.stage = .selecting select)
      (polls : select.Polls (fun _ => True) p.shutdown shutdown select') :
      Step p { p with shutdown := shutdown, stage := .selecting select' }
  /-- The engine is destroyed meanwhile. -/
  | hear {p : Polling} {select : Select} (selects : p.stage = .selecting select)
      (hears : select.Hears p.shutdown) :
      Step p
        { p with
          shutdown := (p.shutdown.poll select.wait).2
          stage := .returned (.error .destroyed) }
  | take {p : Polling} {select : Select} {result : PollResult} {e : Engine}
      (works : p.Works select) (found : p.work? = some (result, e)) :
      Step p { p.leave select result with engine := e }
  /-- The work is pending. -/
  | wait {p : Polling} {select : Select} (works : p.Works select) (nothing : p.work? = none)
      (early : p.late = false) :
      Step p { p with stage := .selecting { select with look := select.look.onward } }
  | giveUp {p : Polling} {select : Select} (works : p.Works select) (nothing : p.work? = none)
      (late : p.late = true) : Step p (p.leave select (.ok .notReady))
  | expire {p : Polling} (runs : ∀ result, p.stage ≠ .returned result) (early : p.late = false) :
      Step p { p with late := true }

end Polling

end TxRelay.Engine
