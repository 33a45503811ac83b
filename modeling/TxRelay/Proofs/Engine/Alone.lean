/-
  An engine with one poller.

  A client's loop is the only one that polls its engine: no other poll waits, so every operation of
  the engine does one thing.  In general the end of a broadcast also serves a poll that waits, and a
  blocking poll is one among many; here both parts fall away.

  1. **Alone.**  `Alone` says that no poll of another thread is there and that the engine holds a
     sender of receipts, so that the receipts never run dry for good.  A new engine is so, and every
     operation that a client makes keeps it.

  2. **Keeps.**  Most operations leave the receipts, the number of accepted jobs and the polls as
     they are, and the jobs that have no receipt are the same, though some may have moved from the
     queue to the network.  `Keeps` says this once, so that what is proved of a client's jobs does
     not look at where they are.

  3. **What the others do.**  A submission adds one job to those without a receipt
     (`pending_accept`), the end of a broadcast takes one away (`pending_complete`), and a poll
     takes the oldest receipt (`pollBlocking_alone`).  `submit_live` and `finish_alone` list all
     that can come of the two, so that nobody unfolds them again.
-/
import Mathlib.Data.List.Perm.Basic
import TxRelay.Engine

namespace TxRelay.Engine

variable {e e' : Engine}

/-- The accepted jobs that have no receipt yet. -/
def pending (e : Engine) : List Job := e.queue ++ e.broadcasting

/-- No poll of another thread is there, and the engine holds a sender of receipts. -/
structure Alone (e : Engine) : Prop where
  pollers : e.pollers = []
  sender : e.ownSender = true

/-- Nothing was accepted, answered or taken, and nobody began to poll. -/
structure Keeps (e e' : Engine) : Prop where
  accepted : e'.accepted = e.accepted
  receipts : e'.receipts = e.receipts
  pollers : e'.pollers = e.pollers
  sender : e'.ownSender = e.ownSender
  pending : e'.pending.Perm e.pending

/-- What does nothing keeps everything. -/
theorem Keeps.refl : Keeps e e := ⟨rfl, rfl, rfl, rfl, List.Perm.refl _⟩

/-- Polls and the sender are among what is kept. -/
theorem Keeps.alone (h : Keeps e e') (alone : Alone e) : Alone e' where
  pollers := h.pollers.trans alone.pollers
  sender := h.sender.trans alone.sender

/-! ## Submitting -/

/-- Jobs that are handed to tasks move from the queue to the broadcasts, and stay without a receipt.
    -/
theorem keeps_dispatch : Keeps e e.dispatch := by
  unfold dispatch
  split
  · refine ⟨rfl, rfl, rfl, rfl, ?_⟩
    show ([] ++ (e.broadcasting ++ e.queue)).Perm (e.queue ++ e.broadcasting)
    rw [List.nil_append]
    exact List.perm_append_comm
  · exact Keeps.refl

/-- Handing jobs on is no step of the engine's life. -/
@[simp] theorem dispatch_phase : e.dispatch.phase = e.phase := by
  unfold dispatch
  split <;> rfl

/-- The engine begins to work: the jobs that were queued before it are handed on. -/
theorem keeps_startWorking : Keeps e e.startWorking.2 := by
  unfold startWorking
  split
  · have hworks : Keeps e { e with phase := .working } := ⟨rfl, rfl, rfl, rfl, List.Perm.refl _⟩
    have hdispatch : Keeps { e with phase := .working } (dispatch { e with phase := .working }) :=
      keeps_dispatch
    exact ⟨hdispatch.accepted, hdispatch.receipts, hdispatch.pollers, hdispatch.sender,
      hdispatch.pending.trans hworks.pending⟩
  · exact Keeps.refl
  · exact Keeps.refl

/-- A live engine works after it was told to. -/
theorem startWorking_live (live : e.phase ≠ .destroyed) :
    (∃ b, e.startWorking.1 = .ok b) ∧ e.startWorking.2.phase = .working := by
  unfold startWorking
  split
  · exact ⟨⟨true, rfl⟩, by simp⟩
  · rename_i hworks
    exact ⟨⟨false, rfl⟩, hworks⟩
  · rename_i hgone
    exact absurd hgone live

/-- What can come of a submission to a live engine. -/
theorem submit_live {validate : Validate} {r : Request} (live : e.phase ≠ .destroyed) :
    (∃ err, check validate r = .error err ∧
      submit validate r e =
        (.error err, { e with tally := e.tally.rejected (rejectReason err) })) ∨
    (check validate r = .ok () ∧ submit validate r e = (.ok (), e.accept r)) := by
  unfold submit
  split
  · rename_i hgone
    exact absurd hgone live
  · split
    · rename_i err hbad
      exact Or.inl ⟨err, hbad, rfl⟩
    · rename_i hok
      exact Or.inr ⟨hok, rfl⟩

/-- The checks refuse a request, they do not destroy anything. -/
theorem check_ne_destroyed {validate : Validate} {r : Request} :
    check validate r ≠ .error .destroyed := by
  unfold check
  split
  · simp
  · split
    · simp
    · split <;> simp

/-- A request passes that has a payload and an endpoint, if the network takes the payload. -/
theorem check_ok {validate : Validate} {r : Request} (payload : r.rawTx.isEmpty = false)
    (endpoint : (Endpoint.parse r.endpoint).toBool = true) (valid : validate r.rawTx = .ok ()) :
    check validate r = .ok () := by
  rw [check, payload, valid]
  cases hparse : Endpoint.parse r.endpoint with
  | error e =>
    rw [hparse] at endpoint
    cases endpoint
  | ok address => rfl

/-- A request that is accepted joins the jobs without a receipt. -/
theorem pending_accept {r : Request} :
    (e.accept r).pending.Perm (⟨e.accepted, r⟩ :: e.pending) := by
  have hkeeps : Keeps (e.enqueue r) (e.accept r) := keeps_dispatch
  refine hkeeps.pending.trans ?_
  show (e.queue ++ [Job.mk e.accepted r] ++ e.broadcasting).Perm _
  rw [List.append_assoc]
  exact List.perm_middle

/-- A submission begins no poll. -/
theorem Alone.submit (alone : Alone e) {validate : Validate} {r : Request} :
    Alone (submit validate r e).2 := by
  by_cases hgone : e.phase = .destroyed
  · rw [Engine.submit, hgone]
    exact alone
  · rcases @submit_live e validate r hgone with ⟨err, -, hsubmit⟩ | ⟨-, hsubmit⟩ <;> rw [hsubmit]
    · exact ⟨alone.pollers, alone.sender⟩
    · exact keeps_dispatch.alone ⟨alone.pollers, alone.sender⟩

/-! ## The end of a broadcast -/

/-- There is nobody to hand a receipt over to. -/
theorem handOver_alone (alone : Alone e) : e.handOver = e := by
  have hnobody : e.someoneWaits = false := by
    rw [someoneWaits, alone.pollers]
    rfl
  rw [handOver, hnobody]
  rfl

/-- The network answers for a job that it has, or nothing happens. -/
theorem finish_alone (alone : Alone e) (number : Nat) (outcome : BroadcastResult) :
    (∃ job ∈ e.broadcasting, job.number = number ∧
      e.finish number outcome = (true, e.complete job outcome)) ∨
    e.finish number outcome = (false, e) := by
  unfold finish
  split
  · exact Or.inr rfl
  · rename_i job hjob
    have hnumber : job.number = number := by simpa using List.find?_some hjob
    have halone : Alone (e.complete job outcome) := ⟨alone.pollers, alone.sender⟩
    rw [handOver_alone halone]
    exact Or.inl ⟨job, List.mem_of_find?_eq_some hjob, hnumber, rfl⟩

/-- The end of a broadcast begins no poll. -/
theorem Alone.finish (alone : Alone e) {number : Nat} {outcome : BroadcastResult} :
    Alone (e.finish number outcome).2 := by
  rcases finish_alone alone number outcome with ⟨job, -, -, hfinish⟩ | hfinish
  · rw [hfinish]
    exact ⟨alone.pollers, alone.sender⟩
  · rw [hfinish]
    exact alone

/-- The network answers for the oldest broadcast. -/
theorem finish_head (alone : Alone e) {job : Job} {rest : List Job} (outcome : BroadcastResult)
    (head : e.broadcasting = job :: rest) :
    e.finish job.number outcome = (true, e.complete job outcome) := by
  have halone : Alone (e.complete job outcome) := ⟨alone.pollers, alone.sender⟩
  have hfind : e.broadcasting.find? (·.number = job.number) = some job := by
    rw [head, List.find?_cons_of_pos (by simp)]
  rw [finish, hfind]
  show (true, handOver (e.complete job outcome)) = _
  rw [handOver_alone halone]

/-- A job that got its receipt leaves the jobs without one. -/
theorem pending_complete {job : Job} {outcome : BroadcastResult} (held : job ∈ e.broadcasting) :
    e.pending.Perm (job :: (e.complete job outcome).pending) := by
  refine ((List.perm_cons_erase held).append_left e.queue).trans ?_
  exact List.perm_middle

/-! ## Polling -/

/-- What a poll that has to wait leaves behind: nothing. -/
theorem pollBlocking_alone (alone : Alone e) :
    e.pollBlocking =
      if e.phase = .destroyed then (.error .destroyed, e)
      else
        match e.receipts with
        | [] => (.ok .notReady, e)
        | r :: rest =>
          (.ok (.ready r), { e with receipts := rest, tally := e.tally.delivered }) := by
  have hpollers := alone.pollers
  have hsender := alone.sender
  obtain ⟨interval, phase, accepted, queue, broadcasting, receipts, pollers, sender, tally⟩ := e
  subst hpollers
  subst hsender
  -- the poll is the only one, so its place is known and all of it can be computed
  cases phase <;> cases receipts <;> rfl

/-! ## The end -/

/-- An engine is destroyed after `destroy`, whatever it was before. -/
theorem destroy_phase : e.destroy.2.phase = .destroyed := by
  unfold destroy
  split
  · assumption
  · rfl

/-- A destroyed engine keeps its receipts and has nothing left to do. -/
theorem destroy_live (live : e.phase ≠ .destroyed) :
    e.destroy.2 = { e with phase := .destroyed, queue := [], broadcasting := [],
                           pollers := e.pollers.map Poller.wake } := by
  unfold destroy
  split
  · rename_i hgone
    exact absurd hgone live
  · rfl

/-- The end of the engine begins no poll. -/
theorem Alone.destroy (alone : Alone e) : Alone e.destroy.2 := by
  by_cases hgone : e.phase = .destroyed
  · rw [Engine.destroy, hgone]
    exact alone
  · rw [destroy_live hgone, alone.pollers]
    exact ⟨rfl, alone.sender⟩

end TxRelay.Engine
