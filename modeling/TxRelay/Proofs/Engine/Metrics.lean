/-
  What an engine counts.

  Three operations are counted on both sides: to accept a request, to refuse one, to complete a job.
  All others are quiet.  The books of an engine are kept by both kinds, and whatever an engine's
  owner does is made of them: a session here, a client in `TxRelay.Proofs.Client.Metrics`.

  1. **Quiet operations.**  They touch neither the counters that are shown nor the number of
     accepted jobs, and they may move jobs that have no receipt yet, or give them up, but never add
     one (`Quiet`).  Quiet steps one after the other are quiet, so each operation is put together
     from its parts.

  2. **The books.**  `Booked events e` says that the engine shows what the events add up to, that
     the refusals among them come from the checks, and that the jobs without a receipt are accepted
     ones whose broadcast did not end.  There is one lemma for each of the three operations that
     count.

  3. **Sessions.**  `Entry.counted?` reads off a step what it counted, by its operation and its
     answer.  `Booked.step` compares this with what the step did, and the induction over the session
     keeps the books after each step.

  The crux is that no more broadcasts end than jobs were accepted.  The counters themselves do not
  say so.  It is the number of the jobs without a receipt that carries it (`Booked.once`): a job is
  among them from its acceptance to its end, so a job that is accepted adds one on both sides, and
  one that ends moves from the one summand to the other.
-/
import TxRelay.Proofs.Engine.Session
import TxRelay.Proofs.Engine.Alone
import TxRelay.Proofs.Stats

namespace TxRelay.Engine

open Tally.Event (names endings)

variable {e e' : Engine} {events : List Tally.Event}

/-! ## Quiet operations -/

/-- Nothing was counted but deliveries and panics, and no job is new. -/
structure Quiet (e e' : Engine) : Prop where
  shown : e'.tally.shown = e.tally.shown
  accepted : e'.accepted = e.accepted
  pending : e'.pending.Subperm e.pending

/-- What does nothing is quiet. -/
theorem Quiet.refl : Quiet e e := ⟨rfl, rfl, List.Subperm.refl _⟩

/-- One quiet step after the other is quiet. -/
theorem Quiet.trans {e'' : Engine} (h : Quiet e e') (h' : Quiet e' e'') : Quiet e e'' :=
  ⟨h'.shown.trans h.shown, h'.accepted.trans h.accepted, h'.pending.trans h.pending⟩

/-- Handing jobs on is quiet: they are without a receipt before and after. -/
theorem quiet_dispatch : Quiet e e.dispatch := by
  refine ⟨?_, keeps_dispatch.accepted, keeps_dispatch.pending.subperm⟩
  unfold dispatch
  split <;> rfl

/-- So is the beginning of work. -/
theorem quiet_startWorking : Quiet e e.startWorking.2 := by
  refine ⟨?_, keeps_startWorking.accepted, keeps_startWorking.pending.subperm⟩
  unfold startWorking
  split
  · exact quiet_dispatch.shown
  · rfl
  · rfl

/-- What the receipts give is counted as delivered, if at all. -/
theorem quiet_receive {result : PollResult} (found : e.receive? = some (result, e')) :
    Quiet e e' := by
  rcases receive?_some found with ⟨r, rest, -, -, rfl⟩ | ⟨-, -, -, rfl⟩
  · exact ⟨rfl, rfl, List.Subperm.refl _⟩
  · exact Quiet.refl

/-- What only the polls notice is quiet. -/
theorem quiet_pollers (pollers : List Poller) : Quiet e { e with pollers := pollers } :=
  ⟨rfl, rfl, List.Subperm.refl _⟩

/-- A poll that waits is served; the delivery is not shown. -/
theorem quiet_handOver : Quiet e e.handOver := by
  unfold handOver
  split
  · split
    · exact Quiet.refl
    · rename_i result e' hfound
      exact (quiet_receive hfound).trans (quiet_pollers _)
  · exact Quiet.refl

theorem quiet_expire (i : Nat) : Quiet e (e.expire i) := by
  unfold expire
  split
  · exact quiet_pollers _
  · exact Quiet.refl

theorem quiet_spawnPoll : Quiet e e.spawnPoll := by
  unfold spawnPoll
  split
  · exact quiet_pollers _
  · exact (quiet_pollers _).trans quiet_handOver

theorem quiet_spawnTimedPoll : Quiet e e.spawnTimedPoll := by
  rcases spawnTimedPoll_cases e with hshort | hlong
  · rw [hshort]
    exact quiet_spawnPoll.trans (quiet_expire _)
  · rw [hlong]
    exact quiet_spawnPoll

/-- A blocking poll is made of parts that are quiet. -/
theorem quiet_pollBlocking : Quiet e e.pollBlocking.2 :=
  (quiet_spawnPoll.trans (quiet_expire _)).trans (quiet_pollers _)

/-- A poll that does not wait takes a receipt at most. -/
theorem quiet_pollNonblocking : Quiet e e.pollNonblocking.2 := by
  unfold pollNonblocking
  split
  · exact Quiet.refl
  · split
    · exact Quiet.refl
    · cases hfound : e.receive? with
      | none => exact Quiet.refl
      | some found => exact quiet_receive hfound

theorem quiet_joinPoll : Quiet e e.joinPoll.2 := by
  unfold joinPoll
  split
  · exact quiet_pollers _
  · exact Quiet.refl

/-- The jobs that have no receipt are given up. -/
theorem quiet_destroy : Quiet e e.destroy.2 := by
  by_cases hgone : e.phase = .destroyed
  · rw [Engine.destroy, hgone]
    exact Quiet.refl
  · rw [destroy_live hgone]
    exact ⟨rfl, rfl, List.nil_subperm⟩

/-! ## The books -/

/-- The engine shows what the events add up to, and its jobs without a receipt are accepted ones
    whose broadcast did not end. -/
structure Booked (events : List Tally.Event) (e : Engine) : Prop where
  shown : e.tally.shown = .ofEvents events
  fair : ∀ x ∈ events, x.Fair
  accepted : e.accepted = (names events).length
  held : ∀ job ∈ e.pending, job.number < (names events).length
  bounded : Tally.Event.Bounded events
  once : (endings events).length + e.pending.length ≤ (names events).length

/-- A new engine has counted no event. -/
theorem Booked.new {pollInterval : UInt64} : Booked [] { pollInterval := pollInterval } where
  shown := rfl
  fair := fun _ h => by cases h
  accepted := rfl
  held := fun _ h => by cases h
  bounded := fun _ h => by cases h
  once := Nat.le_refl 0

/-- A quiet step keeps the books. -/
theorem Booked.quiet (h : Booked events e) (quiet : Quiet e e') : Booked events e' where
  shown := quiet.shown.trans h.shown
  fair := h.fair
  accepted := quiet.accepted.trans h.accepted
  held := fun job hjob => h.held job (quiet.pending.subset hjob)
  bounded := h.bounded
  once := Nat.le_trans (Nat.add_le_add_left quiet.pending.length_le _) h.once

/-- A refusal comes from a check. -/
theorem fair_check {validate : Validate} {r : Request} {err : EngineError}
    (bad : check validate r = .error err) : (Tally.Event.refused err).Fair := by
  unfold check at bad
  split at bad
  · exact Or.inl ⟨_, (Except.error.inj bad).symm⟩
  · split at bad
    · exact Or.inr (Or.inl ⟨_, _, (Except.error.inj bad).symm⟩)
    · split at bad
      · exact Or.inr (Or.inr ⟨_, (Except.error.inj bad).symm⟩)
      · cases bad

/-- A refusal is counted on both sides, under the label of its check. -/
theorem Booked.refuse (h : Booked events e) {validate : Validate} {r : Request}
    {err : EngineError} (bad : check validate r = .error err) :
    Booked (events ++ [.refused err]) { e with tally := e.tally.rejected (rejectReason err) } where
  shown := by
    rw [Tally.ofEvents_snoc, ← h.shown]
    exact Tally.shown_count (.refused err)
  fair := List.forall_mem_append.mpr ⟨h.fair, List.forall_mem_singleton.mpr (fair_check bad)⟩
  accepted := by simpa using h.accepted
  held := by
    intro job hjob
    simpa using h.held job hjob
  bounded := by simpa [Tally.Event.Bounded] using h.bounded
  once := by
    simp only [Tally.Event.names_snoc, Tally.Event.name?, Tally.Event.endings_snoc,
      Tally.Event.ending?, Option.toList_none, List.append_nil]
    exact h.once

/-- An acceptance is counted, and its job is one without a receipt. -/
theorem Booked.accept (h : Booked events e) (r : Request) :
    Booked (events ++ [.accepted r.jobId]) (e.accept r) := by
  have hpending := @pending_accept e r
  have hquiet : Quiet (e.enqueue r) (e.accept r) := quiet_dispatch
  refine ⟨?shown, ?fair, ?accepted, ?held, ?bounded, ?once⟩
  case shown =>
    rw [Tally.ofEvents_snoc, ← h.shown]
    exact hquiet.shown
  case fair =>
    exact List.forall_mem_append.mpr ⟨h.fair, List.forall_mem_singleton.mpr trivial⟩
  case accepted =>
    rw [hquiet.accepted]
    simp [enqueue, h.accepted]
  case held =>
    intro job hjob
    simp only [Tally.Event.names_snoc, Tally.Event.name?, Option.toList_some, List.length_append,
      List.length_singleton]
    rcases List.mem_cons.mp (hpending.mem_iff.mp hjob) with rfl | hold
    · exact Nat.lt_succ_of_le (Nat.le_of_eq h.accepted)
    · exact Nat.lt_succ_of_lt (h.held job hold)
  case bounded =>
    intro ending hending
    have hlt := h.bounded ending (by simpa using hending)
    simp only [Tally.Event.names_snoc, List.length_append]
    omega
  case once =>
    -- both sides grow by the new job
    have hlength := hpending.length_eq
    have honce := h.once
    simp only [Tally.Event.names_snoc, Tally.Event.name?, Tally.Event.endings_snoc,
      Tally.Event.ending?, Option.toList_some, Option.toList_none, List.append_nil,
      List.length_append, List.length_cons, List.length_nil] at hlength ⊢
    omega

/-- An end is counted, as a success or a failure, and its job has a receipt now. -/
theorem Booked.complete (h : Booked events e) {job : Job} (held : job ∈ e.broadcasting)
    (outcome : BroadcastResult) :
    Booked (events ++ [.ended job.number outcome]) (e.complete job outcome) := by
  have hpending := @pending_complete e job outcome held
  refine ⟨?shown, ?fair, ?accepted, ?held, ?bounded, ?once⟩
  case shown =>
    rw [Tally.ofEvents_snoc, ← h.shown]
    show (e.tally.completed (Receipt.ofOutcome job.request.jobId outcome).success).shown = _
    rw [Tally.Event.success_ofOutcome]
    exact Tally.shown_count (.ended job.number outcome)
  case fair =>
    exact List.forall_mem_append.mpr ⟨h.fair, List.forall_mem_singleton.mpr trivial⟩
  case accepted => simpa [Engine.complete] using h.accepted
  case held =>
    intro other hother
    simpa using h.held other (hpending.mem_iff.mpr (List.mem_cons_of_mem _ hother))
  case bounded =>
    intro ending hending
    have hlt := h.held job (hpending.mem_iff.mpr List.mem_cons_self)
    simp only [Tally.Event.endings_snoc, Tally.Event.ending?, Option.toList_some,
      List.mem_append, List.mem_singleton] at hending
    rcases hending with hold | rfl
    · simpa using h.bounded ending hold
    · simpa using hlt
  case once =>
    -- the job is an end now, and no longer one without a receipt
    have hlength := hpending.length_eq
    have honce := h.once
    simp only [Tally.Event.names_snoc, Tally.Event.name?, Tally.Event.endings_snoc,
      Tally.Event.ending?, Option.toList_some, Option.toList_none, List.append_nil,
      List.length_append, List.length_cons, List.length_nil] at hlength ⊢
    omega

/-- The metrics of an engine whose books are kept, for fewer than 2^64 events. -/
theorem Booked.agrees (h : Booked events e) (short : events.length < UInt64.size) :
    Agrees events e.tally := by
  have hsound : Tally.Event.Sound events :=
    ⟨h.fair, h.bounded, Nat.le_trans (Nat.le_add_right _ _) h.once⟩
  exact agrees_ofEvents h.shown hsound short

/-! ## Sessions -/

/-- What a step of a session counts. -/
def Entry.counted? (x : Entry) : Option Tally.Event :=
  match x.op, x.answer with
  | .submit r, .queued => some (.accepted r.jobId)
  | .submit _, .failed .destroyed => none
  | .submit _, .failed err => some (.refused err)
  | .finish job outcome, .flag true => some (.ended job outcome)
  | _, _ => none

/-- What the steps of a session counted. -/
def countedBy (trail : List Entry) : List Tally.Event := trail.filterMap Entry.counted?

/-- The books after one more step. -/
def Entry.Books (x : Entry) (events : List Tally.Event) : Prop :=
  Booked (events ++ x.counted?.toList) x.engine

variable {network : StandIn}

/-- A step that counts nothing. -/
theorem Booked.silent {op : Op} {answer : Answer} (h : Booked events e) (quiet : Quiet e e')
    (counts : Entry.counted? ⟨op, answer, e'⟩ = none) :
    Entry.Books ⟨op, answer, e'⟩ events := by
  rw [Entry.Books, counts, Option.toList_none, List.append_nil]
  exact h.quiet quiet

/-- A submission is counted as its answer says. -/
theorem Booked.submit (h : Booked events e) (r : Request) :
    (Entry.perform network e (.submit r)).Books events := by
  by_cases hgone : e.phase = .destroyed
  · have hanswer : Entry.perform network e (.submit r) = ⟨.submit r, .failed .destroyed, e⟩ := by
      simp [Entry.perform, Engine.step, Engine.submit, hgone]
    rw [hanswer]
    exact h.silent .refl rfl
  · rcases submit_live hgone (r := r) with ⟨err, hbad, hsubmit⟩ | ⟨-, hsubmit⟩
    · have hanswer : Entry.perform network e (.submit r) = ⟨.submit r, .failed err,
          { e with tally := e.tally.rejected (rejectReason err) }⟩ := by
        simp only [Entry.perform, Engine.step]
        rw [hsubmit]
      have hcounted : Entry.counted? ⟨.submit r, .failed err,
          { e with tally := e.tally.rejected (rejectReason err) }⟩ = some (.refused err) := by
        -- the checks never refuse a request because the engine is gone, so every such refusal is
        -- counted
        cases err with
        | destroyed => exact absurd hbad check_ne_destroyed
        | _ => rfl
      rw [hanswer, Entry.Books, hcounted]
      exact h.refuse hbad
    · have hanswer : Entry.perform network e (.submit r) = ⟨.submit r, .queued, e.accept r⟩ := by
        simp only [Entry.perform, Engine.step]
        rw [hsubmit]
      rw [hanswer]
      exact h.accept r

/-- An end is counted if the network had the job. -/
theorem Booked.finish (h : Booked events e) (number : Nat) (outcome : BroadcastResult) :
    (Entry.perform network e (.finish number outcome)).Books events := by
  cases hfind : e.broadcasting.find? (·.number = number) with
  | none =>
    have hanswer : Entry.perform network e (.finish number outcome) =
        ⟨.finish number outcome, .flag false, e⟩ := by
      simp [Entry.perform, Engine.step, Engine.finish, hfind]
    rw [hanswer]
    exact h.silent .refl rfl
  | some job =>
    have held := List.mem_of_find?_eq_some hfind
    obtain rfl : job.number = number := by simpa using List.find?_some hfind
    have hanswer : Entry.perform network e (.finish job.number outcome) =
        ⟨.finish job.number outcome, .flag true, (e.complete job outcome).handOver⟩ := by
      simp [Entry.perform, Engine.step, Engine.finish, hfind]
    rw [hanswer]
    exact (h.complete held outcome).quiet quiet_handOver

/-- Each step of a session is counted as its operation and answer say. -/
theorem Booked.step (h : Booked events e) (network : StandIn) (op : Op) :
    (Entry.perform network e op).Books events := by
  cases op with
  | startWorking =>
    have hstarted := h.quiet quiet_startWorking
    unfold Entry.perform Engine.step
    dsimp only
    split <;> rename_i heq <;> rw [heq] at hstarted <;> exact hstarted.silent .refl rfl
  | submit r => exact h.submit r
  | pollBlocking =>
    refine h.silent quiet_pollBlocking ?_
    cases e.pollBlocking.1 <;> rfl
  | pollNonblocking =>
    refine h.silent quiet_pollNonblocking ?_
    cases e.pollNonblocking.1 <;> rfl
  | spawnPoll => exact h.silent quiet_spawnTimedPoll rfl
  | joinPoll =>
    have hjoined := h.quiet quiet_joinPoll
    unfold Entry.perform Engine.step
    dsimp only
    split <;> rename_i heq <;> rw [heq] at hjoined
    · rename_i result rest
      refine hjoined.silent .refl ?_
      cases result <;> rfl
    · exact hjoined.silent .refl rfl
  | finish number outcome => exact h.finish number outcome
  | balance q =>
    unfold Entry.perform Engine.step
    dsimp only
    split <;> exact h.silent .refl rfl
  | pollInterval => exact h.silent .refl rfl
  | debug => exact h.silent .refl rfl
  | destroy => exact h.silent quiet_destroy rfl

/-- The books of a session, as far as it has come. -/
def SessionBooks (trail : List Entry) (e : Engine) : Prop := Booked (countedBy trail) e

/-- The books of a session are kept by one more step. -/
theorem SessionBooks.step {trail : List Entry} (h : SessionBooks trail e) (network : StandIn)
    (op : Op) : SessionBooks (trail ++ [.perform network e op]) (Engine.step network e op).2 := by
  rw [SessionBooks, countedBy, Log.filterMap_snoc]
  exact Booked.step h network op

/-- The books after each step of a session. -/
theorem session_booked (network : StandIn) (pollInterval : UInt64) (ops : List Op) :
    Log.Each (fun before x => SessionBooks (before ++ [x]) x.engine)
      (session network { pollInterval := pollInterval } ops) := by
  have hnew : SessionBooks [] { pollInterval := pollInterval } := Booked.new
  exact session_each (fun _ _ op h => ⟨h.step network op, h.step network op⟩) hnew ops

/-- The metrics after each step of a session of fewer than 2^64 steps. -/
theorem session_agrees {network : StandIn} {pollInterval : UInt64} {ops : List Op}
    (short : ops.length < UInt64.size) :
    Log.Each (fun before x => Agrees (countedBy (before ++ [x])) x.engine.tally)
      (session network { pollInterval := pollInterval } ops) := by
  intro before x after hsplit
  have hlength := length_session network { pollInterval := pollInterval } ops
  rw [hsplit, List.length_append, List.length_cons] at hlength
  have hcounted : (countedBy (before ++ [x])).length ≤ (before ++ [x]).length :=
    List.length_filterMap_le _ _
  rw [List.length_append, List.length_singleton] at hcounted
  exact Booked.agrees (session_booked network pollInterval ops before x after hsplit) (by omega)

end TxRelay.Engine
