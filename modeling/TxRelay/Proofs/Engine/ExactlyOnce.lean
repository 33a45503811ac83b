/-
  Exactly one way for every accepted request.

  Submitters, the dispatcher, the tasks and the polls share two queues and a set of tasks, and take
  their steps in any order.  At each hand-over a request could get lost, be taken twice or be mixed
  up with another one of the same name: names are given by the callers, and two requests may have
  the same one.  What tells jobs apart is the number that each gets when it is accepted.

  1. **The ledger.**  As long as nobody destroyed the engine, the accepted jobs are a rearrangement
     of those in the queue, those held by a task and those that were answered (`Ledger.placed`,
     stated as a sum of counts so that `omega` can move a job from one side to the other); the
     network was called for the broadcasts that go on and for those that ended (`Ledger.called`);
     and the receipts that polls returned, followed by those that wait, are the receipts of the
     answers in their order (`Ledger.taken`).

  2. **One step.**  Each step moves one job or one receipt over one of the hand-overs, so each has
     one lemma: `Ledger.submit` from a caller into the queue, `Ledger.spawn` from the queue to a
     task, `Ledger.call` from a task to the network, `Ledger.answer` from the network to the
     receipts, `Ledger.receive` from the receipts to a poll.  All other steps leave alone what the
     ledger looks at (`Moment.books`).

  3. **What came before.**  A call of the network is made for an accepted job, and not before the
     engine was started; an answer is the answer to a call.  `Begun` keeps this beside the ledger,
     because a task that has not called yet must know that the engine was started when it was
     spawned.

  4. **Places.**  `Place` names the places at which a request can be.  All places together form one
     row of jobs (`Moment.row`), each kind of place a stretch of it.  By the ledger the row is a
     rearrangement of the accepted jobs, and by their numbers it has no job twice; so a job is at
     one place of the row, and `Moment.rank` reads this as one place of the engine.

  The crux is the sum in `Ledger.placed`: that the row has no job twice is not an invariant of its
  own, but follows at every moment from the numbers and the sum.
-/
import Mathlib.Data.List.Nodup
import Mathlib.Data.List.Perm.Basic
import TxRelay.Engine.Moment
import TxRelay.Log
import TxRelay.Proofs.Engine.Alone

namespace TxRelay.Engine

variable {validate : Validate} {pollInterval : UInt64} {m m' : Moment}

/-! ## The ledger -/

/-- The jobs whose broadcast ended, in the order of the answers. -/
def answeredJobs (log : List Event) : List Job := (answers log).map Prod.fst

/-- An answer adds its job at the end, and no other event does. -/
@[simp] theorem answeredJobs_snoc (log : List Event) (event : Event) :
    answeredJobs (log ++ [event]) = answeredJobs log ++ (event.answer?.map Prod.fst).toList := by
  rw [answeredJobs, answers_snoc, List.map_append]
  cases event.answer? <;> rfl

/-- What the log says about the jobs, against where they are. -/
structure Ledger (m : Moment) : Prop where
  /-- Accepted jobs are numbered in their order. -/
  numbered : (acceptedJobs m.log).map Job.number = List.range m.engine.accepted
  /-- No accepted job is lost or doubled. -/
  placed : ∀ job, (acceptedJobs m.log).count job =
    m.engine.queue.count job + m.spawned.count job + m.engine.broadcasting.count job +
      (answeredJobs m.log).count job
  /-- The network was called for the broadcasts that go on and for those that ended. -/
  called : (calls m.log).Perm ((m.engine.broadcasting ++ answeredJobs m.log).map callOf)
  /-- Receipts are taken in the order in which they came. -/
  taken : returned m.log ++ m.engine.receipts = (answers m.log).map receiptOf

/-- What the polls find is the oldest receipt, and nothing else of the engine changes but its
    counters. -/
theorem receive?_some {e e' : Engine} {result : PollResult}
    (h : e.receive? = some (result, e')) :
    (∃ r rest, e.receipts = r :: rest ∧ result = .ok (.ready r) ∧
      e' = { e with receipts := rest, tally := e.tally.delivered }) ∨
    (e.receipts = [] ∧ e.receiptsOpen = false ∧ result = .error .disconnected ∧ e' = e) := by
  unfold receive? at h
  split at h
  · rename_i r rest hreceipts
    obtain ⟨rfl, rfl⟩ := Prod.mk.inj (Option.some.inj h)
    exact Or.inl ⟨r, rest, hreceipts, rfl, rfl⟩
  · rename_i hreceipts
    split at h
    · cases h
    · rename_i hopen
      obtain ⟨rfl, rfl⟩ := Prod.mk.inj (Option.some.inj h)
      exact Or.inr ⟨hreceipts, by simpa using hopen, rfl, rfl⟩

/-- A new engine has accepted nothing and owes nothing. -/
theorem Ledger.initial : Ledger (.initial pollInterval) where
  numbered := rfl
  placed := fun _ => rfl
  called := List.Perm.refl _
  taken := rfl

/-- All that the ledger looks at. -/
def Moment.books (m : Moment) :=
  ((m.engine.accepted, m.engine.queue, m.spawned, m.engine.broadcasting, m.engine.receipts),
    (acceptedJobs m.log, calls m.log, answers m.log, returned m.log))

/-- The ledger looks at the books only. -/
theorem Ledger.congr (h : Ledger m) (hbooks : m'.books = m.books) : Ledger m' := by
  simp only [Moment.books, Prod.mk.injEq] at hbooks
  obtain ⟨⟨hn, hq, hs, hb, hr⟩, hacc, hcalls, hans, hret⟩ := hbooks
  constructor
  · rw [hacc, hn]; exact h.numbered
  · rw [hacc, hq, hs, hb, answeredJobs, hans]; exact h.placed
  · rw [hcalls, hb, answeredJobs, hans]; exact h.called
  · rw [hret, hr, hans]; exact h.taken

/-- A poll that ends without a receipt is no business of the ledger. -/
theorem Ledger.endPoll {i : Nat} {result : PollResult} (hresult : ∀ r, result ≠ .ok (.ready r))
    (h : Ledger m) : Ledger (m.endPoll i result) := by
  cases result with
  | error e => exact h.congr (by simp [Moment.books, Moment.endPoll])
  | ok outcome =>
    cases outcome with
    | ready r => exact absurd rfl (hresult r)
    | notReady => exact h.congr (by simp [Moment.books, Moment.endPoll])

/-- Taking from the receipts keeps the ledger: the receipt that is taken was the oldest. -/
theorem Ledger.receive {result : PollResult} {e : Engine} (h : Ledger m)
    (found : m.engine.receive? = some (result, e)) :
    Ledger ({ m with engine := e }.note (.polled result)) := by
  rcases receive?_some found with ⟨r, rest, hreceipts, rfl, rfl⟩ | ⟨-, -, rfl, rfl⟩
  · have htaken : returned m.log ++ r :: rest = (answers m.log).map receiptOf := by
      rw [← hreceipts]; exact h.taken
    exact ⟨by simpa using h.numbered, by simpa using h.placed, by simpa using h.called,
      by simpa using htaken⟩
  · exact h.congr (by simp [Moment.books])

/-! ## The hand-overs -/

/-- A request that is accepted gets the next number and goes to the end of the queue. -/
theorem Ledger.submit {r : Request} (h : Ledger m) :
    Ledger ({ m with engine := m.engine.enqueue r }.note (.accepted ⟨m.engine.accepted, r⟩)) := by
  constructor
  · -- the number is the count of those accepted so far
    simp [enqueue, h.numbered, List.range_succ]
  · intro job
    have hjob := h.placed job
    simp only [Moment.note, enqueue, acceptedJobs_snoc, Event.job?, answeredJobs_snoc,
      Event.answer?, Option.map_none, Option.toList_none, Option.toList_some, List.append_nil,
      List.count_append]
    omega
  · simpa [enqueue] using h.called
  · simpa [enqueue] using h.taken

/-- The first of the queue gets a task of its own. -/
theorem Ledger.spawn {job : Job} {rest : List Job} (h : Ledger m)
    (head : m.engine.queue = job :: rest) :
    Ledger { m with engine := { m.engine with queue := rest }, spawned := m.spawned ++ [job] } := by
  refine ⟨h.numbered, fun other => ?_, h.called, h.taken⟩
  have hother := h.placed other
  rw [head, ← List.singleton_append, List.count_append] at hother
  simp only [List.count_append]
  omega

/-- A task that has not called calls the network: its job is among the broadcasts now, and the call
    is the one that the job asks for. -/
theorem Ledger.call {job : Job} (h : Ledger m) (held : job ∈ m.spawned) :
    Ledger ({ m with
        engine := { m.engine with broadcasting := m.engine.broadcasting ++ [job] }
        spawned := m.spawned.erase job }.note
      (.called job.number job.request.rawTx job.request.endpoint)) := by
  have hheld := List.perm_cons_erase held
  constructor
  · simpa using h.numbered
  · intro other
    have hother := h.placed other
    rw [hheld.count_eq, ← List.singleton_append, List.count_append] at hother
    simp only [Moment.note, acceptedJobs_snoc, Event.job?, answeredJobs_snoc, Event.answer?,
      Option.map_none, Option.toList_none, List.append_nil, List.count_append]
    omega
  · -- the call of this job moves from the end of the log to the broadcasts
    have hcalled := h.called.append_right [callOf job]
    rw [← List.map_singleton, ← List.map_append, List.append_assoc] at hcalled
    simpa [callOf] using hcalled.trans
      (List.Perm.map callOf (List.perm_append_comm.append_left m.engine.broadcasting))
  · simpa using h.taken

/-- A broadcast that goes on ends: the job is among the answered, its receipt behind all others. -/
theorem Ledger.answer {job : Job} {outcome : BroadcastResult} (h : Ledger m)
    (held : job ∈ m.engine.broadcasting) :
    Ledger ({ m with engine := m.engine.complete job outcome }.note (.answered job outcome)) := by
  have hheld := List.perm_cons_erase held
  constructor
  · simpa [complete] using h.numbered
  · intro other
    have hother := h.placed other
    rw [hheld.count_eq, ← List.singleton_append, List.count_append] at hother
    simp only [Moment.note, complete, acceptedJobs_snoc, Event.job?, answeredJobs_snoc,
      Event.answer?, Option.map_some, Option.toList_none, Option.toList_some, List.append_nil,
      List.count_append]
    omega
  · -- the job moves from those under way to those answered, and was called once before and after
    have hmoved : (m.engine.broadcasting ++ answeredJobs m.log).Perm
        (m.engine.broadcasting.erase job ++ (answeredJobs m.log ++ [job])) := by
      refine (hheld.append_right _).trans ?_
      rw [List.cons_append, ← List.append_assoc]
      exact (List.perm_append_singleton _ _).symm
    simpa [complete] using h.called.trans (hmoved.map callOf)
  · have htaken := congrArg (· ++ [receiptOf (job, outcome)]) h.taken
    simpa [complete, receiptOf] using htaken

/-! ## One step, and all moments of a live engine -/

/-- An engine that lives after a step lived before it. -/
theorem Step.live (next : Step validate m m') (live : m'.Live) : m.Live := by
  cases next with
  | submit h _ => exact h
  | refuse h _ => exact h
  -- an engine that is started was new
  | start h => exact fun hgone => by rw [h] at hgone; cases hgone
  | receive => exact live
  | call => exact live
  | answer => exact live
  | find h _ => exact h
  | miss h => exact h
  | await => exact live
  | take _ found =>
    rcases receive?_some found with ⟨_, _, _, _, rfl⟩ | ⟨_, _, _, rfl⟩
    · exact live
    · exact live
  | expire => exact live
  | leave => exact live
  | destroy h => exact h
  | stop => exact live
  | abandon => exact live
  | wake => exact live

/-- Each step of a live engine keeps the ledger. -/
theorem Ledger.step (h : Ledger m) (next : Step validate m m') (live : m'.Live) : Ledger m' := by
  cases next with
  | submit _ _ => exact h.submit
  | refuse _ _ => exact h.congr (by simp [Moment.books])
  | start _ => exact h.congr (by simp [Moment.books])
  | receive _ head => exact h.spawn head
  | call held => exact h.call held
  | answer held => exact h.answer held
  | find _ found => exact h.receive found
  | miss _ => exact h.congr (by simp [Moment.books])
  | await => exact h.congr rfl
  | take _ found => exact (h.receive found).congr rfl
  | expire _ => exact h.endPoll (fun r => by simp)
  | leave _ => exact h.congr rfl
  | destroy _ => exact absurd rfl live
  | stop gone => exact absurd live gone
  | abandon gone => exact absurd live gone
  | wake gone _ => exact absurd live gone

/-- The ledger is kept at every moment of a live engine. -/
theorem Reachable.ledger (h : Reachable validate pollInterval m) : m.Live → Ledger m := by
  induction h with
  | initial => exact fun _ => Ledger.initial
  | step _ next ih => exact fun live => (ih (next.live live)).step next live

/-! ## What must have happened before -/

/-- The network is called for accepted jobs of an engine that was started, and it answers its
    calls. -/
def Authorized (before : List Event) : Event → Prop
  | .called job rawTx endpoint =>
    .started ∈ before ∧ ∃ accepted ∈ acceptedJobs before, callOf accepted = (job, rawTx, endpoint)
  | .answered job _ => callOf job ∈ calls before
  | _ => True

/-- Whoever hands jobs on does so since the engine was started. -/
structure Begun (m : Moment) : Prop where
  dispatched : m.dispatching = true → .started ∈ m.log
  spawned : m.spawned ≠ [] → .started ∈ m.log
  authorized : Log.Each Authorized m.log

/-- A new engine has nobody who hands jobs on. -/
theorem Begun.initial : Begun (.initial pollInterval) where
  dispatched := by simp [Moment.initial]
  spawned := by simp [Moment.initial]
  authorized := Log.Each.nil

/-- A step that writes down something harmless, if anything. -/
theorem Begun.note {event : Event} (h : Begun m) (hevent : Authorized m.log event) :
    Begun (m.note event) where
  dispatched := fun hd => List.mem_append_left _ (h.dispatched hd)
  spawned := fun hs => List.mem_append_left _ (h.spawned hs)
  authorized := h.authorized.snoc hevent

/-- A task holds an accepted job, since the sum counts what it holds. -/
theorem Ledger.mem_accepted {job : Job} (h : Ledger m) (held : job ∈ m.spawned) :
    job ∈ acceptedJobs m.log := by
  have hjob := h.placed job
  have hheld := List.count_pos_iff.mpr held
  exact List.count_pos_iff.mp (by omega)

/-- A broadcast goes on because the network was called for it. -/
theorem Ledger.mem_calls {job : Job} (h : Ledger m) (held : job ∈ m.engine.broadcasting) :
    callOf job ∈ calls m.log :=
  h.called.mem_iff.mpr (List.mem_map_of_mem (List.mem_append_left _ held))

/-- What hands jobs on does so since the start: the dispatcher is spawned by it, and a task gets its
    job from the dispatcher. -/
theorem Begun.step (h : Begun m) (ledger : Ledger m) (next : Step validate m m') : Begun m' := by
  cases next with
  | submit _ _ => exact Begun.note ⟨h.dispatched, h.spawned, h.authorized⟩ trivial
  | refuse _ _ => exact Begun.note ⟨h.dispatched, h.spawned, h.authorized⟩ trivial
  | start _ =>
    exact ⟨fun _ => by simp, fun _ => by simp, h.authorized.snoc trivial⟩
  -- the task gets its job from a dispatcher that runs, so the engine was started
  | receive runs _ => exact ⟨h.dispatched, fun _ => h.dispatched runs, h.authorized⟩
  | @call job held =>
    have hstarted := h.spawned (List.ne_nil_of_mem held)
    refine ⟨fun _ => by simp [hstarted], fun _ => by simp [hstarted], h.authorized.snoc ?_⟩
    exact ⟨hstarted, job, ledger.mem_accepted held, rfl⟩
  | answer held =>
    exact Begun.note ⟨h.dispatched, h.spawned, h.authorized⟩ (ledger.mem_calls held)
  | find _ _ => exact Begun.note ⟨h.dispatched, h.spawned, h.authorized⟩ trivial
  | miss _ => exact h.note trivial
  | await => exact ⟨h.dispatched, h.spawned, h.authorized⟩
  | take _ _ => exact Begun.note ⟨h.dispatched, h.spawned, h.authorized⟩ trivial
  | expire _ => exact Begun.note ⟨h.dispatched, h.spawned, h.authorized⟩ trivial
  | leave _ => exact ⟨h.dispatched, h.spawned, h.authorized⟩
  | destroy _ => exact Begun.note ⟨h.dispatched, h.spawned, h.authorized⟩ trivial
  | stop _ => exact ⟨fun hd => by simp at hd, h.spawned, h.authorized⟩
  | abandon _ =>
    refine ⟨h.dispatched, fun hs => h.spawned ?_, h.authorized⟩
    rintro hnil
    simp [hnil] at hs
  | wake _ _ => exact Begun.note ⟨h.dispatched, h.spawned, h.authorized⟩ trivial

/-- At every moment of a live engine, whatever hands jobs on was started. -/
theorem Reachable.begun (h : Reachable validate pollInterval m) : m.Live → Begun m := by
  induction h with
  | initial => exact fun _ => Begun.initial
  | step before next ih =>
    intro live
    have hlive := next.live live
    exact (ih hlive).step (before.ledger hlive) next

/-! ## Places -/

/-- Where an accepted request can be. -/
inductive Place where
  /-- At this place of the queue. -/
  | queue (i : Nat)
  /-- Held by this task. -/
  | task (i : Nat)
  /-- Its receipt waits at this place. -/
  | receipts (i : Nat)
  /-- Its receipt was returned by this one of the polls that returned a receipt. -/
  | poll (i : Nat)

/-- The request of a job is at this place.  A receipt belongs to the job whose broadcast ended
    when the receipt was queued; the receipts that polls returned were queued before those that
    wait. -/
def Moment.Holds (m : Moment) (job : Job) : Place → Prop
  | .queue i => m.engine.queue[i]? = some job
  | .task i => m.tasks[i]? = some job
  | .receipts i => ∃ outcome,
      (answers m.log)[(returned m.log).length + i]? = some (job, outcome) ∧
      m.engine.receipts[i]? = some (receiptOf (job, outcome))
  | .poll i => ∃ outcome,
      (answers m.log)[i]? = some (job, outcome) ∧
      (returned m.log)[i]? = some (receiptOf (job, outcome))

/-- All jobs that are somewhere, in a row. -/
def Moment.row (m : Moment) : List Job := m.engine.queue ++ (m.tasks ++ answeredJobs m.log)

/-- The place in the row. -/
def Moment.rank (m : Moment) : Place → Nat
  | .queue i => i
  | .task i => m.engine.queue.length + i
  | .poll i => m.engine.queue.length + (m.tasks.length + i)
  | .receipts i => m.engine.queue.length + (m.tasks.length + ((returned m.log).length + i))

/-- The row is a rearrangement of the accepted jobs. -/
theorem Ledger.perm_row (h : Ledger m) : (acceptedJobs m.log).Perm m.row := by
  rw [List.perm_iff_count]
  intro job
  have hjob := h.placed job
  simp only [Moment.row, Moment.tasks, List.count_append]
  omega

/-- Accepted jobs are told apart by their numbers. -/
theorem Ledger.nodup_accepted (h : Ledger m) : (acceptedJobs m.log).Nodup := by
  have hnumbers : ((acceptedJobs m.log).map Job.number).Nodup := by
    rw [h.numbered]; exact List.nodup_range
  exact List.Nodup.of_map _ hnumbers

/-- So no job is at two places of the row. -/
theorem Ledger.nodup_row (h : Ledger m) : m.row.Nodup :=
  h.perm_row.nodup_iff.mp h.nodup_accepted

/-- The row has the job of a place at the place's rank. -/
theorem Moment.Holds.getElem?_row {job : Job} {place : Place} (holds : m.Holds job place) :
    m.row[m.rank place]? = some job := by
  cases place with
  | queue i =>
    have hi : m.engine.queue[i]? = some job := holds
    have hlt := (List.getElem?_eq_some_iff.mp hi).1
    rw [Moment.row, Moment.rank, List.getElem?_append_left hlt]
    exact hi
  | task i =>
    have hi : m.tasks[i]? = some job := holds
    have hlt := (List.getElem?_eq_some_iff.mp hi).1
    rw [Moment.row, Moment.rank, List.getElem?_append_right (Nat.le_add_right _ _),
      Nat.add_sub_cancel_left, List.getElem?_append_left hlt]
    exact hi
  -- behind the queue and the tasks
  | receipts i =>
    obtain ⟨outcome, hi, -⟩ := holds
    rw [Moment.row, Moment.rank, List.getElem?_append_right (Nat.le_add_right _ _),
      Nat.add_sub_cancel_left, List.getElem?_append_right (Nat.le_add_right _ _),
      Nat.add_sub_cancel_left, answeredJobs, List.getElem?_map, hi]
    rfl
  | poll i =>
    obtain ⟨outcome, hi, -⟩ := holds
    rw [Moment.row, Moment.rank, List.getElem?_append_right (Nat.le_add_right _ _),
      Nat.add_sub_cancel_left, List.getElem?_append_right (Nat.le_add_right _ _),
      Nat.add_sub_cancel_left, answeredJobs, List.getElem?_map, hi]
    rfl

/-- A place that holds a job lies in its own stretch of the row. -/
theorem Moment.Holds.bound {job : Job} {place : Place} (holds : m.Holds job place) :
    match place with
    | .queue i => i < m.engine.queue.length
    | .task i => i < m.tasks.length
    | .receipts i => i < m.engine.receipts.length
    | .poll i => i < (returned m.log).length := by
  cases place with
  | queue i => exact (List.getElem?_eq_some_iff.mp holds).1
  | task i => exact (List.getElem?_eq_some_iff.mp holds).1
  | receipts i =>
    obtain ⟨outcome, -, hi⟩ := holds
    exact (List.getElem?_eq_some_iff.mp hi).1
  | poll i =>
    obtain ⟨outcome, -, hi⟩ := holds
    exact (List.getElem?_eq_some_iff.mp hi).1

/-- Two places of the same rank that hold jobs are one place: the stretches of the row do not
    overlap. -/
theorem Moment.Holds.eq_of_rank {job job' : Job} {place place' : Place}
    (holds : m.Holds job place) (holds' : m.Holds job' place')
    (hrank : m.rank place = m.rank place') : place = place' := by
  have hbound := holds.bound
  have hbound' := holds'.bound
  -- a place of another kind lies in another stretch, and the bounds keep the stretches apart
  cases place <;> cases place' <;>
    simp only [Moment.rank] at hrank hbound hbound' <;>
    simp only [Place.queue.injEq, Place.task.injEq, Place.receipts.injEq, Place.poll.injEq,
      reduceCtorEq] <;>
    omega

/-- An accepted job is somewhere. -/
theorem Ledger.exists_place {job : Job} (h : Ledger m) (hjob : job ∈ acceptedJobs m.log) :
    ∃ place, m.Holds job place := by
  have hrow := h.perm_row.mem_iff.mp hjob
  simp only [Moment.row, List.mem_append] at hrow
  rcases hrow with hqueue | htask | hanswered
  · obtain ⟨i, hi⟩ := List.getElem?_of_mem hqueue
    exact ⟨.queue i, hi⟩
  · obtain ⟨i, hi⟩ := List.getElem?_of_mem htask
    exact ⟨.task i, hi⟩
  · obtain ⟨⟨job', outcome⟩, hanswer, rfl⟩ := List.mem_map.mp hanswered
    obtain ⟨k, hk⟩ := List.getElem?_of_mem hanswer
    have hreceipt : (returned m.log ++ m.engine.receipts)[k]? =
        some (receiptOf (job', outcome)) := by
      rw [h.taken, List.getElem?_map, hk]; rfl
    -- the polls returned the receipts of the first answers, those of the others wait
    rcases Nat.lt_or_ge k (returned m.log).length with hlt | hge
    · rw [List.getElem?_append_left hlt] at hreceipt
      exact ⟨.poll k, outcome, hk, hreceipt⟩
    · rw [List.getElem?_append_right hge] at hreceipt
      refine ⟨.receipts (k - (returned m.log).length), outcome, ?_, hreceipt⟩
      rwa [Nat.add_sub_cancel' hge]

/-- It is at one place only: two places that hold it have the same rank in a row without repetition.
    -/
theorem Ledger.existsUnique_place {job : Job} (h : Ledger m) (hjob : job ∈ acceptedJobs m.log) :
    ∃! place, m.Holds job place := by
  obtain ⟨place, holds⟩ := h.exists_place hjob
  refine ⟨place, holds, fun other hother => hother.eq_of_rank holds ?_⟩
  have hrow := hother.getElem?_row
  have hlt := (List.getElem?_eq_some_iff.mp hrow).1
  exact (List.getElem?_inj hlt h.nodup_row).mp (hrow.trans holds.getElem?_row.symm)

/-! ## Exactly once -/

/-- Numbers tell the jobs apart that the network was called for. -/
theorem Ledger.nodup_calls (h : Ledger m) : ((calls m.log).map Prod.fst).Nodup := by
  have hperm : ((calls m.log).map Prod.fst).Perm
      ((m.engine.broadcasting ++ answeredJobs m.log).map Job.number) := by
    have hcalled := h.called.map Prod.fst
    rw [List.map_map] at hcalled
    exact hcalled
  have hsub : (m.engine.broadcasting ++ answeredJobs m.log).Sublist m.row := by
    rw [Moment.row, Moment.tasks, List.append_assoc]
    exact ((List.sublist_append_right _ _)).trans (List.sublist_append_right _ _)
  have hnumbers : (m.row.map Job.number).Nodup := by
    rw [← (h.perm_row.map Job.number).nodup_iff, h.numbered]
    exact List.nodup_range
  exact hperm.nodup_iff.mpr (hnumbers.sublist (hsub.map Job.number))

/-- **Exactly-once processing.**  Whatever the order of the steps, while nobody destroyed the
    engine: each accepted request is at exactly one place; the network was called at most once
    for it, with its own payload and endpoint, and only after the engine was started; it was
    answered at most once, after its call; and the receipts that polls returned, followed by
    those that wait, are the receipts of the answers, each with its job's own name and outcome,
    in the order of the answers. -/
theorem exactly_once (h : Reachable validate pollInterval m) (live : m.Live) :
    (acceptedJobs m.log).map Job.number = List.range (acceptedJobs m.log).length ∧
    (∀ job ∈ acceptedJobs m.log, ∃! place, m.Holds job place) ∧
    ((calls m.log).map Prod.fst).Nodup ∧
    ((answers m.log).map Prod.fst).Nodup ∧
    Log.Each Authorized m.log ∧
    returned m.log ++ m.engine.receipts = (answers m.log).map receiptOf := by
  have ledger := h.ledger live
  have hlength := congrArg List.length ledger.numbered
  simp only [List.length_map, List.length_range] at hlength
  -- the answered jobs are a part of the row, so they have no job twice either
  refine ⟨?_, fun job hjob => ledger.existsUnique_place hjob, ledger.nodup_calls, ?_,
    (h.begun live).authorized, ledger.taken⟩
  · rw [hlength]; exact ledger.numbered
  · exact ledger.nodup_row.sublist
      ((List.sublist_append_right _ _).trans (List.sublist_append_right _ _))

/-- Two jobs of one name, one behind the other: the second was answered first, and its receipt
    waits while the first is still being broadcast. -/
def twinsWaiting : Moment :=
  let first : Request := ⟨[1], "http://[::1]:8545", ⟨"twin"⟩⟩
  let second : Request := ⟨[2], "http://[::1]:8545", ⟨"twin"⟩⟩
  let pending : BroadcastResult := .ok (.pending "0x02" "no receipt")
  { engine :=
      { pollInterval := 5, phase := .working, accepted := 2, broadcasting := [⟨0, first⟩]
        receipts := [receiptOf (⟨1, second⟩, pending)], pollers := [.waiting]
        tally := ((({} : Tally).submitted).submitted).completed false }
    dispatching := true
    log :=
      [.started, .accepted ⟨0, first⟩, .accepted ⟨1, second⟩,
        .called 1 [2] "http://[::1]:8545", .answered ⟨1, second⟩ pending,
        .called 0 [1] "http://[::1]:8545"] }

theorem twinsWaiting_reachable : Reachable (fun _ => .ok ()) 5 twinsWaiting := by
  let first : Request := ⟨[1], "http://[::1]:8545", ⟨"twin"⟩⟩
  let second : Request := ⟨[2], "http://[::1]:8545", ⟨"twin"⟩⟩
  have haddress : (Endpoint.parse "http://[::1]:8545").toBool = true := by decide +kernel
  have hcheck (payload : UInt8) :
      check (fun _ => .ok ()) ⟨[payload], "http://[::1]:8545", ⟨"twin"⟩⟩ = .ok () :=
    check_ok rfl haddress rfl
  have hstarted : Reachable (fun _ => .ok ()) 5 _ := Reachable.initial.step (.start rfl)
  have haccepted := (hstarted.step (@Step.submit _ _ first (by simp [Moment.Live]) (hcheck 1))).step
    (@Step.submit _ _ second (by simp [Moment.Live, enqueue]) (hcheck 2))
  have hspawned := (haccepted.step (.receive rfl rfl)).step (.receive rfl rfl)
  have hcalled := hspawned.step
    (@Step.call _ _ ⟨1, second⟩ (by simp [enqueue, Moment.initial]))
  have hanswered := hcalled.step
    (@Step.answer _ _ ⟨1, second⟩ (.ok (.pending "0x02" "no receipt")) (by simp))
  have hboth := hanswered.step (@Step.call _ _ ⟨0, first⟩ (by decide))
  exact hboth.step .await

/-- The poll that waited took that receipt. -/
def twins : Moment :=
  let second : Request := ⟨[2], "http://[::1]:8545", ⟨"twin"⟩⟩
  let receipt := receiptOf (⟨1, second⟩, .ok (.pending "0x02" "no receipt"))
  let engine :=
    { twinsWaiting.engine with receipts := [], tally := twinsWaiting.engine.tally.delivered }
  { twinsWaiting with engine := engine }.endPoll 0 (.ok (.ready receipt))

theorem twins_reachable : Reachable (fun _ => .ok ()) 5 twins :=
  twinsWaiting_reachable.step (.take rfl rfl)

/-- Two jobs of one name overtake each other, and each keeps its own receipt. -/
theorem exactly_once_twins :
    Reachable (fun _ => .ok ()) 5 twins ∧ twins.Live ∧
    (acceptedJobs twins.log).map Job.number = List.range (acceptedJobs twins.log).length ∧
    (∀ job ∈ acceptedJobs twins.log, ∃! place, twins.Holds job place) ∧
    ((calls twins.log).map Prod.fst).Nodup ∧
    ((answers twins.log).map Prod.fst).Nodup ∧
    Log.Each Authorized twins.log ∧
    returned twins.log ++ twins.engine.receipts = (answers twins.log).map receiptOf := by
  have live : twins.Live := by simp [Moment.Live, twins, twinsWaiting, Moment.endPoll]
  exact ⟨twins_reachable, live, exactly_once twins_reachable live⟩

end TxRelay.Engine
