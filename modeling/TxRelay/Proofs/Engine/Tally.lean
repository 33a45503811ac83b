/-
  Nothing that an engine does looks at its counters.

  The engine counts what happens, and no operation but the one that shows the counters reads them.
  Two results rest on that.  A refused call differs from a call that was never made in the counters
  alone, so the rest of a session must not notice it; and a run whose callbacks panic differs from
  one whose callbacks do not in the count of panics alone.  Both compare two engines that differ in
  their counters, and both would otherwise go through every operation twice.

  1. **The change.**  `Tally.Edit f g` says which changes `f` of the counters are meant: those that
     may be made before an event is counted or after it, with the same outcome, and that do `g` to
     the counters that are asked for.  Counting a refusal is such a change, and so is setting the
     count of panics; setting the count of accepted jobs is not.

  2. **The operations.**  `mapTally f` makes the change in an engine.  For each operation there is
     one equation: with the counters changed, the engine gives the same answer, and is afterwards
     what it would have been, with the counters changed in the same way.  The operations that count
     nothing need no property of `f`; the others use the field of `Edit` that belongs to the event
     which they count.  An operation that is made of others has its equation from theirs.

  3. **Sessions.**  `perform_mapTally` puts the equations together, one case for each operation of a
     session, and `session_mapTally` is the induction over the operations.

  The crux is where the change stands.  It is pushed outwards through one operation at a time, so
  that no equation ever compares two counters, and the induction carries nothing but the engine.
-/
import TxRelay.Engine.Session

namespace TxRelay

/-- A change of the counters that may be made before an event is counted or after it; `g` is what
    it does to the counters that are asked for. -/
structure Tally.Edit (f : Tally → Tally) (g : Stats → Stats) : Prop where
  stats : ∀ t, (f t).stats = g t.stats
  submitted : ∀ t : Tally, (f t).submitted = f t.submitted
  rejected : ∀ (t : Tally) reason, (f t).rejected reason = f (t.rejected reason)
  completed : ∀ (t : Tally) success, (f t).completed success = f (t.completed success)
  delivered : ∀ t : Tally, (f t).delivered = f t.delivered

namespace Engine

/-- The engine with its counters changed. -/
def mapTally (f : Tally → Tally) (e : Engine) : Engine := { e with tally := f e.tally }

variable {f : Tally → Tally} {g : Stats → Stats} {e : Engine}

/-- Handing jobs to tasks counts nothing. -/
theorem dispatch_mapTally : (e.mapTally f).dispatch = e.dispatch.mapTally f := by
  obtain ⟨interval, phase, accepted, queue, broadcasting, receipts, pollers, sender, tally⟩ := e
  cases phase <;> rfl

/-- Neither does the change to `Working`, whether it is made or refused. -/
theorem startWorking_mapTally :
    (e.mapTally f).startWorking = (e.startWorking.1, e.startWorking.2.mapTally f) := by
  obtain ⟨interval, phase, accepted, queue, broadcasting, receipts, pollers, sender, tally⟩ := e
  cases phase <;> rfl

/-- Nor the end of the engine. -/
theorem destroy_mapTally : (e.mapTally f).destroy = (e.destroy.1, e.destroy.2.mapTally f) := by
  obtain ⟨interval, phase, accepted, queue, broadcasting, receipts, pollers, sender, tally⟩ := e
  cases phase <;> rfl

/-- A poll whose time is over ends the same way. -/
theorem expire_mapTally (i : Nat) : (e.mapTally f).expire i = (e.expire i).mapTally f := by
  have hpollers : (e.mapTally f).pollers = e.pollers := rfl
  unfold expire
  rw [hpollers]
  split <;> rfl

/-- The poll that is waited for has the same result. -/
theorem joinPoll_mapTally : (e.mapTally f).joinPoll = (e.joinPoll.1, e.joinPoll.2.mapTally f) := by
  have hpollers : (e.mapTally f).pollers = e.pollers := rfl
  unfold joinPoll
  rw [hpollers]
  split <;> rfl

section

variable (edit : Tally.Edit f g)
include edit

/-- A submission counts an accepted or a refused request, and decides between them by the phase and
    the check, which do not look at the counters. -/
theorem submit_mapTally (validate : Validate) (r : Request) :
    submit validate r (e.mapTally f) =
      ((submit validate r e).1, (submit validate r e).2.mapTally f) := by
  have hphase : (e.mapTally f).phase = e.phase := rfl
  have henqueue : (e.mapTally f).enqueue r = (e.enqueue r).mapTally f := by
    simp only [enqueue, mapTally, edit.submitted]
  have haccept : (e.mapTally f).accept r = (e.accept r).mapTally f := by
    rw [accept, henqueue, dispatch_mapTally, accept]
  unfold submit
  rw [hphase]
  cases e.phase with
  -- a destroyed engine refuses before it checks anything, and counts nothing
  | destroyed => rfl
  | _ =>
    cases check validate r with
    | ok _ => exact congrArg (Prod.mk _) haccept
    | error err =>
      have hrejected := edit.rejected e.tally (rejectReason err)
      simp only [mapTally, hrejected]

/-- Taking a receipt counts a delivery. -/
theorem receive?_mapTally :
    (e.mapTally f).receive? = e.receive?.map fun p => (p.1, p.2.mapTally f) := by
  have hreceipts : (e.mapTally f).receipts = e.receipts := rfl
  have hopen : (e.mapTally f).receiptsOpen = e.receiptsOpen := rfl
  have hdelivered := edit.delivered e.tally
  unfold receive?
  rw [hreceipts, hopen]
  cases e.receipts with
  | nil =>
    dsimp only
    split <;> rfl
  | cons r rest => simp only [mapTally, hdelivered, Option.map_some]

/-- A poll that waits is served from the same receipts. -/
theorem handOver_mapTally : (e.mapTally f).handOver = e.handOver.mapTally f := by
  have hwaits : (e.mapTally f).someoneWaits = e.someoneWaits := rfl
  unfold handOver
  rw [hwaits, receive?_mapTally edit]
  cases e.someoneWaits with
  | false => rfl
  | true => cases e.receive? <;> rfl

/-- The end of a broadcast counts a completion, and then serves a poll that waits. -/
theorem finish_mapTally (number : Nat) (outcome : BroadcastResult) :
    (e.mapTally f).finish number outcome =
      ((e.finish number outcome).1, (e.finish number outcome).2.mapTally f) := by
  have hbroadcasting : (e.mapTally f).broadcasting = e.broadcasting := rfl
  unfold finish
  rw [hbroadcasting]
  cases e.broadcasting.find? (·.number = number) with
  | none => rfl
  | some job =>
    have hcomplete : (e.mapTally f).complete job outcome = (e.complete job outcome).mapTally f := by
      simp only [complete, mapTally, edit.completed]
    simp only [hcomplete, handOver_mapTally edit]

/-- A blocking poll begins in the same way: it is refused, or joins those that wait. -/
theorem spawnPoll_mapTally : (e.mapTally f).spawnPoll = e.spawnPoll.mapTally f := by
  have hphase : (e.mapTally f).phase = e.phase := rfl
  unfold spawnPoll
  rw [hphase]
  split
  · rfl
  · -- the new poll stands behind the others before anybody is served
    exact handOver_mapTally (e := { e with pollers := e.pollers ++ [.waiting] }) edit

/-- Whether its time is over at once depends on the interval and on its place among the polls. -/
theorem spawnTimedPoll_mapTally :
    (e.mapTally f).spawnTimedPoll = e.spawnTimedPoll.mapTally f := by
  have hinterval : (e.mapTally f).pollInterval = e.pollInterval := rfl
  have hpollers : (e.mapTally f).pollers = e.pollers := rfl
  unfold spawnTimedPoll
  simp only [spawnPoll_mapTally edit, hinterval, hpollers, expire_mapTally]
  split <;> rfl

/-- A blocking poll on this thread is one that begins, waits and ends. -/
theorem pollBlocking_mapTally :
    (e.mapTally f).pollBlocking = (e.pollBlocking.1, e.pollBlocking.2.mapTally f) := by
  unfold pollBlocking
  simp only [spawnPoll_mapTally edit, expire_mapTally]
  rfl

/-- A poll that does not wait takes what is there, unless another poll is at the receipts. -/
theorem pollNonblocking_mapTally :
    (e.mapTally f).pollNonblocking = (e.pollNonblocking.1, e.pollNonblocking.2.mapTally f) := by
  have hphase : (e.mapTally f).phase = e.phase := rfl
  have hwaits : (e.mapTally f).someoneWaits = e.someoneWaits := rfl
  unfold pollNonblocking
  rw [hphase, hwaits, receive?_mapTally edit]
  split
  · rfl
  · split
    · rfl
    · cases e.receive? <;> rfl

/-! ## Sessions -/

/-- The step with the counters changed: only what shows the counters looks different. -/
def Entry.mapTally (f : Tally → Tally) (x : Entry) : Entry where
  op := x.op
  answer :=
    match x.op with
    | .debug => .text (x.engine.mapTally f).debugForm
    | _ => x.answer
  engine := x.engine.mapTally f

/-- One operation of a session, whichever it is. -/
theorem perform_mapTally (network : StandIn) (op : Op) :
    Entry.perform network (e.mapTally f) op = (Entry.perform network e op).mapTally f := by
  cases op with
  | startWorking =>
    simp only [Entry.perform, Entry.mapTally, step, startWorking_mapTally]
    rcases e.startWorking with ⟨result, e'⟩
    cases result <;> rfl
  | submit r =>
    simp only [Entry.perform, Entry.mapTally, step, submit_mapTally edit]
    rcases submit network.validate r e with ⟨result, e'⟩
    cases result <;> rfl
  | pollBlocking => simp only [Entry.perform, Entry.mapTally, step, pollBlocking_mapTally edit]
  | pollNonblocking =>
    simp only [Entry.perform, Entry.mapTally, step, pollNonblocking_mapTally edit]
  | spawnPoll => simp only [Entry.perform, Entry.mapTally, step, spawnTimedPoll_mapTally edit]
  | joinPoll =>
    simp only [Entry.perform, Entry.mapTally, step, joinPoll_mapTally]
    rcases e.joinPoll with ⟨result, e'⟩
    cases result <;> rfl
  | finish job outcome =>
    simp only [Entry.perform, Entry.mapTally, step, finish_mapTally edit]
  | balance q =>
    have hbalance :
        (e.mapTally f).balance (StandIn.balance q) = e.balance (StandIn.balance q) := rfl
    simp only [Entry.perform, Entry.mapTally, step, hbalance]
    cases e.balance (StandIn.balance q) <;> rfl
  | pollInterval => rfl
  | debug => rfl
  | destroy => simp only [Entry.perform, Entry.mapTally, step, destroy_mapTally]

/-- A whole session: the answers are the same but for the one that shows the counters. -/
theorem session_mapTally (network : StandIn) (ops : List Op) :
    session network (e.mapTally f) ops = (session network e ops).map (Entry.mapTally f) := by
  induction ops generalizing e with
  | nil => rfl
  | cons op ops ih =>
    have hperform := perform_mapTally (e := e) edit network op
    have hengine : (step network (e.mapTally f) op).2 = (step network e op).2.mapTally f :=
      congrArg Entry.engine hperform
    -- a session unfolds by its first operation
    have hcons (e : Engine) : session network e (op :: ops) =
        Entry.perform network e op :: session network (step network e op).2 ops := rfl
    rw [hcons, hcons, hperform, hengine, ih, List.map_cons]

end

end Engine

end TxRelay
