/-
  The counters of an engine.

  Four counters are moved by different operations, and each must say how often one thing was
  answered: requests taken, requests refused, broadcasts that ended, receipts returned.  What is
  in flight is the difference of two of them.

  1. **The answers.**  `Entry.accepts`, `refuses`, `ends` and `returns` read off a step's operation
     and answer whether it is one of the four things.  They do not look at the engine.

  2. **The books.**  `Kept accepted refused ended returned e` ties the counters of `e` to four
     numbers, and the numbers to the lists of the engine: a receipt that was not handed over waits
     among the receipts, a job that did not end is in the queue or at the network.  After the end of
     the engine the lists are empty and say nothing any more, so the two equations are asked of a
     live engine only; that the numbers are ordered is kept beside them, since it must hold for
     ever.

  3. **The operations.**  Each part of an operation has one lemma, which says which of the four
     numbers it adds to.  `Entry.Adds` then compares a whole step with its own answer: what the
     answer says is what the step added.

  4. **The run.**  `Books` takes the four numbers from the answers of the steps so far, and
     `session_books` is the induction over the session.

  The crux is the poll that waits: its receipt is counted when the poll gets it, and the answer
  comes later, when the poll is joined.  So the polls that have a receipt and were not joined yet
  stand between the counter and the answers (`served`): `Kept` counts `returned + served`, and the
  poll that is joined moves one from the second to the first.

  The counters are words of 64 bits.  `Kept` holds of them as they wrap; only the last step, from
  words back to numbers (`Books.accounted`), asks that the run has fewer than 2^64 steps, and one
  bound on the length is enough for all four numbers.
-/
import TxRelay.Proofs.Engine.Alone
import TxRelay.Proofs.Engine.Session

namespace TxRelay

/-- The poll has a receipt. -/
def Poller.served : Poller → Bool
  | .ended (.ok (.ready _)) => true
  | _ => false

namespace Engine

variable {e e' : Engine} {accepted refused ended returned : Nat}

/-! ## What the answers say -/

namespace Entry

/-- A request was taken. -/
def accepts (x : Entry) : Bool :=
  match x.op, x.answer with
  | .submit _, .queued => true
  | _, _ => false

/-- A request was refused by a live engine. -/
def refuses (x : Entry) : Bool :=
  match x.op, x.answer with
  | .submit _, .failed err => err ≠ .destroyed
  | _, _ => false

/-- A broadcast ended. -/
def ends (x : Entry) : Bool :=
  match x.op, x.answer with
  | .finish _ _, .flag true => true
  | _, _ => false

/-- A poll returned a receipt. -/
def returns (x : Entry) : Bool :=
  match x.answer with
  | .polled (.ready _) => true
  | _ => false

end Entry

/-! ## The books -/

/-- The polls of other threads that have a receipt and were not joined yet. -/
def served (e : Engine) : Nat := e.pollers.countP Poller.served

/-- The counters show these numbers, and the lists of the engine agree with them. -/
structure Kept (accepted refused ended returned : Nat) (e : Engine) : Prop where
  stats : e.tally.stats =
    ⟨.ofNat accepted, .ofNat refused, .ofNat ended, .ofNat (returned + e.served)⟩
  receipts : e.phase ≠ .destroyed → ended = returned + e.served + e.receipts.length
  unfinished : e.phase ≠ .destroyed → accepted = ended + (e.queue.length + e.broadcasting.length)
  ordered : returned + e.served ≤ ended ∧ ended ≤ accepted
  created : e.phase = .created → e.broadcasting = []
  working : e.phase = .working → e.queue = []
  gone : e.phase = .destroyed → e.broadcasting = []

/-- A new engine has counted nothing and has nothing to account for. -/
theorem Kept.new {pollInterval : UInt64} : Kept 0 0 0 0 { pollInterval := pollInterval } where
  stats := rfl
  receipts := fun _ => rfl
  unfinished := fun _ => rfl
  ordered := ⟨Nat.le_refl 0, Nat.le_refl 0⟩
  created := fun _ => rfl
  working := fun h => by cases h
  gone := fun _ => rfl

/-! ### Requests -/

/-- A refused request is counted, and touches no list. -/
theorem Kept.refuse (h : Kept accepted refused ended returned e) (reason : RejectReason) :
    Kept accepted (refused + 1) ended returned { e with tally := e.tally.rejected reason } where
  stats := by
    show { e.tally.stats with rejected := e.tally.stats.rejected + 1 } = _
    rw [h.stats, UInt64.ofNat_add refused 1]
    rfl
  receipts := h.receipts
  unfinished := h.unfinished
  ordered := h.ordered
  created := h.created
  working := h.working
  gone := h.gone

/-- An accepted request is counted, and is in the queue or at the network afterwards. -/
theorem Kept.accept (h : Kept accepted refused ended returned e) (live : e.phase ≠ .destroyed)
    (r : Request) : Kept (accepted + 1) refused ended returned (e.accept r) := by
  have hstats : (e.enqueue r).tally.stats = ⟨.ofNat (accepted + 1), .ofNat refused, .ofNat ended,
      .ofNat (returned + e.served)⟩ := by
    show { e.tally.stats with submitted := e.tally.stats.submitted + 1 } = _
    rw [h.stats, UInt64.ofNat_add accepted 1]
    rfl
  have hunfinished := h.unfinished live
  have hordered := h.ordered
  cases hphase : e.phase with
  | created =>
    have hsame : e.accept r = e.enqueue r := by simp [Engine.accept, dispatch, enqueue, hphase]
    rw [hsame]
    refine ⟨hstats, h.receipts, fun _ => ?_, ⟨hordered.1, by omega⟩, h.created, ?_, h.gone⟩
    · simp only [enqueue, List.length_append, List.length_singleton]
      omega
    · intro hworks
      exact absurd (hphase.symm.trans hworks) (by simp)
  | working =>
    -- nothing was queued, so the new job alone is handed to the network
    have hqueue := h.working hphase
    have hsame : e.accept r = { e.enqueue r with
        broadcasting := e.broadcasting ++ [⟨e.accepted, r⟩], queue := [] } := by
      simp [Engine.accept, dispatch, enqueue, hphase, hqueue]
    rw [hsame]
    refine ⟨hstats, h.receipts, fun _ => ?_, ⟨hordered.1, by omega⟩, ?_, fun _ => rfl, ?_⟩
    · rw [hqueue] at hunfinished
      simp only [List.length_append, List.length_singleton, List.length_nil] at hunfinished ⊢
      omega
    · intro hnew
      exact absurd (hphase.symm.trans hnew) (by simp)
    · intro hgone
      exact absurd (hphase.symm.trans hgone) (by simp)
  | destroyed => exact absurd hphase live

/-- The engine begins to work: the queued jobs are at the network, as many as they were. -/
theorem Kept.startWorking (h : Kept accepted refused ended returned e) :
    Kept accepted refused ended returned e.startWorking.2 := by
  cases hphase : e.phase with
  -- an engine that works already, or is gone, stays as it is
  | working => simpa only [Engine.startWorking, hphase] using h
  | destroyed => simpa only [Engine.startWorking, hphase] using h
  | created =>
    have live : e.phase ≠ .destroyed := by simp [hphase]
    have hsame : e.startWorking.2 =
        { e with phase := .working, broadcasting := e.broadcasting ++ e.queue, queue := [] } := by
      simp [Engine.startWorking, hphase, dispatch]
    rw [hsame]
    refine ⟨h.stats, fun _ => h.receipts live, fun _ => ?_, h.ordered, ?_, fun _ => rfl, ?_⟩
    · have hunfinished := h.unfinished live
      simp only [List.length_append, List.length_nil]
      omega
    · intro hnew
      cases hnew
    · intro hgone
      cases hgone

/-! ### Receipts and polls -/

/-- The polls change, and as many have a receipt or returned one as before. -/
theorem Kept.pollers (h : Kept accepted refused ended returned e) {pollers : List Poller}
    {returned' : Nat} (same : returned' + pollers.countP Poller.served = returned + e.served) :
    Kept accepted refused ended returned' { e with pollers := pollers } := by
  have hserved : returned' + served { e with pollers := pollers } = returned + e.served := same
  refine ⟨?_, ?_, h.unfinished, ?_, h.created, h.working, h.gone⟩
  · rw [hserved]
    exact h.stats
  · rw [hserved]
    exact h.receipts
  · rw [hserved]
    exact h.ordered

/-- Only a live engine has broadcasts. -/
theorem Kept.live (h : Kept accepted refused ended returned e) {job : Job}
    (held : job ∈ e.broadcasting) : e.phase ≠ .destroyed := by
  intro hgone
  rw [h.gone hgone] at held
  cases held

/-- A broadcast that ends is counted, leaves the network, and its receipt waits. -/
theorem Kept.complete (h : Kept accepted refused ended returned e) {job : Job}
    (held : job ∈ e.broadcasting) (outcome : BroadcastResult) :
    Kept accepted refused (ended + 1) returned (e.complete job outcome) := by
  have live := h.live held
  have hlength := List.length_erase_of_mem held
  have hpositive := List.length_pos_of_mem held
  have hunfinished := h.unfinished live
  have hreceipts := h.receipts live
  have hordered := h.ordered
  refine ⟨?_, fun _ => ?_, fun _ => ?_, ?_, ?_, h.working, ?_⟩
  · show { e.tally.stats with completed := e.tally.stats.completed + 1 } = _
    rw [h.stats, UInt64.ofNat_add ended 1]
    rfl
  · show ended + 1 = returned + e.served + (e.receipts ++ [_]).length
    rw [List.length_append, List.length_singleton]
    omega
  · show accepted = ended + 1 + (e.queue.length + (e.broadcasting.erase job).length)
    omega
  · show returned + e.served ≤ ended + 1 ∧ ended + 1 ≤ accepted
    omega
  · intro hnew
    rw [h.created hnew] at held
    cases held
  · intro hgone
    exact absurd hgone live

/-- A receipt is taken by a poll, which is counted among those that have one or returned one. -/
theorem Kept.take (h : Kept accepted refused ended returned e) (live : e.phase ≠ .destroyed)
    {r : Receipt} {rest : List Receipt} {pollers : List Poller} {returned' : Nat}
    (head : e.receipts = r :: rest)
    (one : returned' + pollers.countP Poller.served = returned + e.served + 1) :
    Kept accepted refused ended returned'
      { e with receipts := rest, tally := e.tally.delivered, pollers := pollers } := by
  have hreceipts := h.receipts live
  rw [head, List.length_cons] at hreceipts
  have hordered := h.ordered
  -- what leaves the receipts is with the polls, so their sum stays
  have hone : returned' + served { e with
      receipts := rest, tally := e.tally.delivered, pollers := pollers } =
      returned + e.served + 1 := one
  refine ⟨?_, fun _ => ?_, h.unfinished, ?_, h.created, h.working, h.gone⟩
  · show { e.tally.stats with delivered := e.tally.stats.delivered + 1 } = _
    rw [h.stats, hone, UInt64.ofNat_add (returned + e.served) 1]
    rfl
  · rw [hone]
    show ended = returned + e.served + 1 + rest.length
    omega
  · rw [hone]
    omega

/-- If a poll waits, then ending the first that waits gives one more poll a receipt, if it is
    given one. -/
theorem served_endFirst (result : PollResult) (pollers : List Poller)
    (waits : (pollers.any fun | .waiting => true | .ended _ => false) = true) :
    (endFirst result pollers).countP Poller.served =
      pollers.countP Poller.served + if (Poller.ended result).served then 1 else 0 := by
  induction pollers with
  | nil => simp at waits
  | cons poller rest ih =>
    cases poller with
    | waiting => simp [endFirst, List.countP_cons, Poller.served]
    | ended r =>
      have hrest := ih (by simpa using waits)
      rw [endFirst, List.countP_cons, List.countP_cons, hrest]
      omega

/-- A poll that waits is served: its receipt moves from the receipts to the polls that have one. -/
theorem Kept.handOver (h : Kept accepted refused ended returned e) (live : e.phase ≠ .destroyed) :
    Kept accepted refused ended returned e.handOver := by
  unfold Engine.handOver
  split
  · rename_i hwaits
    split
    · exact h
    · rename_i result e' hfound
      rcases receive?_some hfound with ⟨r, rest, hhead, rfl, rfl⟩ | ⟨-, -, rfl, rfl⟩
      · refine h.take live hhead ?_
        rw [served_endFirst _ _ hwaits]
        rfl
      · refine h.pollers ?_
        rw [served_endFirst _ _ hwaits]
        rfl
  · exact h

/-- A poll whose time is over gets no receipt. -/
theorem Kept.expire (h : Kept accepted refused ended returned e) (i : Nat) :
    Kept accepted refused ended returned (e.expire i) := by
  unfold Engine.expire
  split
  · rename_i hwaits
    obtain ⟨hi, hget⟩ := List.getElem?_eq_some_iff.mp hwaits
    refine h.pollers ?_
    -- neither the poll that waits nor the one that ended so has a receipt
    rw [List.countP_set hi, hget]
    simp [Poller.served, served]
  · exact h

/-- A poll that begins has no receipt yet, and may be served at once. -/
theorem Kept.spawnPoll (h : Kept accepted refused ended returned e) :
    Kept accepted refused ended returned e.spawnPoll := by
  unfold Engine.spawnPoll
  split
  · exact h.pollers (by simp [served, Poller.served])
  · rename_i hlive
    have hwaits : Kept accepted refused ended returned
        { e with pollers := e.pollers ++ [.waiting] } :=
      h.pollers (by simp [served, Poller.served])
    exact hwaits.handOver (fun hgone => hlive hgone)

/-- The caller of a poll that ended goes on with its result. -/
theorem Kept.leave (h : Kept accepted refused ended returned e) {i : Nat} {result : PollResult}
    (finished : e.pollers[i]? = some (.ended result)) :
    Kept accepted refused ended (returned + if (Poller.ended result).served then 1 else 0)
      { e with pollers := e.pollers.eraseIdx i } := by
  obtain ⟨hi, hget⟩ := List.getElem?_eq_some_iff.mp finished
  have hsplit : e.served = (e.pollers.eraseIdx i).countP Poller.served +
      if (Poller.ended result).served then 1 else 0 := by
    have hperm := (List.getElem_cons_eraseIdx_perm hi).countP_eq Poller.served
    rw [served, ← hperm, hget, List.countP_cons]
  refine h.pollers ?_
  rw [hsplit]
  omega

/-- The end of the engine counts nothing: who is woken gets no receipt, and the lists are not asked
    any more. -/
theorem Kept.destroy (h : Kept accepted refused ended returned e) :
    Kept accepted refused ended returned e.destroy.2 := by
  unfold Engine.destroy
  split
  · exact h
  · have hwoken : Kept accepted refused ended returned
        { e with pollers := e.pollers.map Poller.wake } := by
      -- a poll that is woken gets no receipt
      refine h.pollers (congrArg (returned + ·) ?_)
      rw [List.countP_map, served]
      refine List.countP_congr fun poller _ => ?_
      cases poller <;> simp [Poller.wake, Poller.served]
    exact ⟨hwoken.stats, fun live => absurd rfl live, fun live => absurd rfl live,
      hwoken.ordered, fun hnew => (by cases hnew), fun hworks => (by cases hworks), fun _ => rfl⟩

/-! ## Operations -/

/-- What a step adds to the four numbers. -/
def Entry.Adds (x : Entry) (accepted refused ended returned : Nat) : Prop :=
  Kept (accepted + x.accepts.toNat) (refused + x.refuses.toNat) (ended + x.ends.toNat)
    (returned + x.returns.toNat) x.engine

variable {network : StandIn}

/-- A step whose answer counts nothing. -/
theorem Kept.silent {op : Op} {answer : Answer} (h : Kept accepted refused ended returned e)
    (accepts : Entry.accepts ⟨op, answer, e⟩ = false)
    (refuses : Entry.refuses ⟨op, answer, e⟩ = false)
    (ends : Entry.ends ⟨op, answer, e⟩ = false)
    (returns : Entry.returns ⟨op, answer, e⟩ = false) :
    Entry.Adds ⟨op, answer, e⟩ accepted refused ended returned := by
  rw [Entry.Adds, accepts, refuses, ends, returns]
  exact h

/-- A poll that answers counts among the returned receipts if it has one. -/
theorem Kept.polled {op : Op} {result : PollResult} (isPoll : op = .pollBlocking ∨
      op = .pollNonblocking ∨ op = .joinPoll)
    (h : Kept accepted refused ended
      (returned + if (Poller.ended result).served then 1 else 0) e) :
    Entry.Adds ⟨op, .ofPoll result, e⟩ accepted refused ended returned := by
  have hreturns : (Entry.returns ⟨op, .ofPoll result, e⟩).toNat =
      if (Poller.ended result).served then 1 else 0 := by
    cases result with
    | error err => rfl
    | ok outcome => cases outcome <;> rfl
  have hothers : Entry.accepts ⟨op, .ofPoll result, e⟩ = false ∧
      Entry.refuses ⟨op, .ofPoll result, e⟩ = false ∧
      Entry.ends ⟨op, .ofPoll result, e⟩ = false := by
    rcases isPoll with rfl | rfl | rfl <;> exact ⟨rfl, rfl, rfl⟩
  obtain ⟨haccepts, hrefuses, hends⟩ := hothers
  rw [Entry.Adds, haccepts, hrefuses, hends, hreturns]
  exact h

/-- A submission adds to the accepted or to the refused, as its answer says; a destroyed engine
    counts neither. -/
theorem Kept.submit (h : Kept accepted refused ended returned e) (r : Request) :
    (Entry.perform network e (.submit r)).Adds accepted refused ended returned := by
  by_cases hgone : e.phase = .destroyed
  · have hanswer : Entry.perform network e (.submit r) = ⟨.submit r, .failed .destroyed, e⟩ := by
      simp [Entry.perform, Engine.step, Engine.submit, hgone]
    rw [hanswer]
    exact h.silent rfl rfl rfl rfl
  · rcases submit_live hgone (r := r) with ⟨err, hbad, hsubmit⟩ | ⟨-, hsubmit⟩
    · have hanswer : Entry.perform network e (.submit r) = ⟨.submit r, .failed err,
          { e with tally := e.tally.rejected (rejectReason err) }⟩ := by
        simp only [Entry.perform, Engine.step]
        rw [hsubmit]
      -- a check does not find the engine destroyed, so the refusal counts
      have hlive : err ≠ .destroyed := by
        rintro rfl
        exact check_ne_destroyed hbad
      rw [hanswer]
      have hrefuses : Entry.refuses ⟨.submit r, .failed err,
          { e with tally := e.tally.rejected (rejectReason err) }⟩ = true := decide_eq_true hlive
      rw [Entry.Adds, hrefuses]
      exact h.refuse _
    · have hanswer : Entry.perform network e (.submit r) = ⟨.submit r, .queued, e.accept r⟩ := by
        simp only [Entry.perform, Engine.step]
        rw [hsubmit]
      rw [hanswer]
      exact h.accept hgone r

/-- The end of a broadcast adds to those that ended, if the network had the job. -/
theorem Kept.finish (h : Kept accepted refused ended returned e) (number : Nat)
    (outcome : BroadcastResult) :
    (Entry.perform network e (.finish number outcome)).Adds accepted refused ended returned := by
  cases hfind : e.broadcasting.find? (·.number = number) with
  | none =>
    have hanswer : Entry.perform network e (.finish number outcome) =
        ⟨.finish number outcome, .flag false, e⟩ := by
      simp [Entry.perform, Engine.step, Engine.finish, hfind]
    rw [hanswer]
    exact h.silent rfl rfl rfl rfl
  | some job =>
    have held := List.mem_of_find?_eq_some hfind
    have hanswer : Entry.perform network e (.finish number outcome) =
        ⟨.finish number outcome, .flag true, (e.complete job outcome).handOver⟩ := by
      simp [Entry.perform, Engine.step, Engine.finish, hfind]
    rw [hanswer]
    exact (h.complete held outcome).handOver (h.live held)

/-- A blocking poll on this thread is joined at once, so it adds to the returned ones if it was
    served. -/
theorem Kept.pollBlocking (h : Kept accepted refused ended returned e) :
    (Entry.perform network e .pollBlocking).Adds accepted refused ended returned := by
  have hplace : e.pollers.length < e.spawnPoll.pollers.length := by
    rw [length_pollers_spawnPoll]
    omega
  obtain ⟨hlength, result, hended⟩ := ended_expire hplace
  have hleft := (h.spawnPoll.expire e.pollers.length).leave hended
  -- the poll is the last one, so that the others are those before it
  have hlast : (e.spawnPoll.expire e.pollers.length).pollers.length ≤ e.pollers.length + 1 :=
    Nat.le_of_eq (hlength.trans length_pollers_spawnPoll)
  rw [List.eraseIdx_eq_take_drop_succ, List.drop_eq_nil_of_le hlast, List.append_nil] at hleft
  have hanswer : Entry.perform network e .pollBlocking = ⟨.pollBlocking, .ofPoll result,
      { e.spawnPoll.expire e.pollers.length with
        pollers := (e.spawnPoll.expire e.pollers.length).pollers.take e.pollers.length }⟩ := by
    simp only [Entry.perform, Engine.step, Engine.pollBlocking, hended]
  rw [hanswer]
  exact hleft.polled (Or.inl rfl)

/-- A poll that does not wait adds to the returned ones if it finds a receipt. -/
theorem Kept.pollNonblocking (h : Kept accepted refused ended returned e) :
    (Entry.perform network e .pollNonblocking).Adds accepted refused ended returned := by
  show Entry.Adds ⟨.pollNonblocking, .ofPoll e.pollNonblocking.1, e.pollNonblocking.2⟩
    accepted refused ended returned
  unfold Engine.pollNonblocking
  split
  · exact h.silent rfl rfl rfl rfl
  · rename_i hlive
    split
    · exact h.silent rfl rfl rfl rfl
    · cases hfound : e.receive? with
      | none => exact h.silent rfl rfl rfl rfl
      | some found =>
        obtain ⟨result, e'⟩ := found
        -- a receipt was there, or the channel says that none will come
        refine Kept.polled (Or.inr (Or.inl rfl)) ?_
        rcases receive?_some hfound with ⟨r, rest, hhead, rfl, rfl⟩ | ⟨-, -, rfl, rfl⟩
        · refine h.take (fun hgone => hlive hgone) hhead ?_
          show returned + 1 + e.served = returned + e.served + 1
          omega
        · exact h

/-- A poll of another thread is joined: its receipt was counted before, and is returned now. -/
theorem Kept.joinPoll (h : Kept accepted refused ended returned e) :
    (Entry.perform network e .joinPoll).Adds accepted refused ended returned := by
  cases hpollers : e.pollers with
  | nil =>
    have hanswer : Entry.perform network e .joinPoll = ⟨.joinPoll, .nothing, e⟩ := by
      simp [Entry.perform, Engine.step, Engine.joinPoll, hpollers]
    rw [hanswer]
    exact h.silent rfl rfl rfl rfl
  | cons poller rest =>
    cases poller with
    | waiting =>
      have hanswer : Entry.perform network e .joinPoll = ⟨.joinPoll, .nothing, e⟩ := by
        simp [Entry.perform, Engine.step, Engine.joinPoll, hpollers]
      rw [hanswer]
      exact h.silent rfl rfl rfl rfl
    | ended result =>
      have hanswer : Entry.perform network e .joinPoll =
          ⟨.joinPoll, .ofPoll result, { e with pollers := rest }⟩ := by
        simp [Entry.perform, Engine.step, Engine.joinPoll, hpollers]
      -- the first poller is over, and its answer is the one that is given
      have hleft := @Kept.leave e _ _ _ _ h 0 result (by rw [hpollers]; rfl)
      rw [hpollers] at hleft
      rw [hanswer]
      exact Kept.polled (Or.inr (Or.inr rfl)) hleft

/-- Each step adds what its answer says. -/
theorem Kept.step (h : Kept accepted refused ended returned e) (network : StandIn) (op : Op) :
    (Entry.perform network e op).Adds accepted refused ended returned := by
  cases op with
  | startWorking =>
    have hstarted := h.startWorking
    unfold Entry.perform Engine.step
    dsimp only
    split <;> rename_i heq <;> rw [heq] at hstarted <;> exact hstarted.silent rfl rfl rfl rfl
  | submit r => exact h.submit r
  | pollBlocking => exact h.pollBlocking
  | pollNonblocking => exact h.pollNonblocking
  | spawnPoll =>
    show Entry.Adds ⟨.spawnPoll, .nothing, e.spawnTimedPoll⟩ accepted refused ended returned
    rcases spawnTimedPoll_cases e with hshort | hlong
    · rw [hshort]
      exact (h.spawnPoll.expire _).silent rfl rfl rfl rfl
    · rw [hlong]
      exact h.spawnPoll.silent rfl rfl rfl rfl
  | joinPoll => exact h.joinPoll
  | finish number outcome => exact h.finish number outcome
  | balance q =>
    unfold Entry.perform Engine.step
    dsimp only
    split <;> exact h.silent rfl rfl rfl rfl
  | pollInterval => exact h.silent rfl rfl rfl rfl
  | debug => exact h.silent rfl rfl rfl rfl
  | destroy => exact h.destroy.silent rfl rfl rfl rfl

/-! ## Runs -/

/-- The books of a run: the four numbers are those of the answers. -/
def Books (trail : List Entry) (e : Engine) : Prop :=
  Kept (trail.countP Entry.accepts) (trail.countP Entry.refuses) (trail.countP Entry.ends)
    (trail.countP Entry.returns) e

/-- One more step counts itself. -/
theorem countP_snoc (p : Entry → Bool) (trail : List Entry) (x : Entry) :
    (trail ++ [x]).countP p = trail.countP p + (p x).toNat := by
  rw [List.countP_append, List.countP_singleton]
  cases p x <;> rfl

/-- The books of a run are kept by one more step. -/
theorem Books.step {trail : List Entry} (h : Books trail e) (network : StandIn) (op : Op) :
    Books (trail ++ [.perform network e op]) (Engine.step network e op).2 := by
  have hadds := Kept.step h network op
  rw [Books, countP_snoc, countP_snoc, countP_snoc, countP_snoc]
  exact hadds

/-- The books after each step. -/
theorem session_books (network : StandIn) (pollInterval : UInt64) (ops : List Op) :
    Log.Each (fun before x => Books (before ++ [x]) x.engine)
      (session network { pollInterval := pollInterval } ops) := by
  have hnew : Books [] { pollInterval := pollInterval } := Kept.new
  exact session_each (fun _ _ op h => ⟨h.step network op, h.step network op⟩) hnew ops

/-- After this step the counters are what the answers so far add up to, and what the lists of the
    engine hold. -/
structure Accounted (before : List Entry) (x : Entry) : Prop where
  submitted : x.engine.tally.stats.submitted.toNat = (before ++ [x]).countP Entry.accepts
  rejected : x.engine.tally.stats.rejected.toNat = (before ++ [x]).countP Entry.refuses
  completed : x.engine.tally.stats.completed.toNat = (before ++ [x]).countP Entry.ends
  /-- A poll of another thread has returned its receipt before it is joined. -/
  delivered : x.engine.tally.stats.delivered.toNat =
    (before ++ [x]).countP Entry.returns + x.engine.served
  ordered : x.engine.tally.stats.delivered ≤ x.engine.tally.stats.completed ∧
    x.engine.tally.stats.completed ≤ x.engine.tally.stats.submitted
  inFlight : x.engine.tally.stats.inFlight =
    x.engine.tally.stats.submitted - x.engine.tally.stats.completed
  receipts : x.engine.phase ≠ .destroyed →
    x.engine.tally.stats.completed.toNat - x.engine.tally.stats.delivered.toNat =
      x.engine.receipts.length
  unfinished : x.engine.phase ≠ .destroyed →
    x.engine.tally.stats.inFlight.toNat = x.engine.queue.length + x.engine.broadcasting.length
  created : x.engine.phase = .created → x.engine.broadcasting = []
  working : x.engine.phase = .working → x.engine.queue = []

/-- Numbers below 2^64 are read off the counters as they are. -/
theorem Books.accounted {before : List Entry} {x : Entry} (h : Books (before ++ [x]) x.engine)
    (short : (before ++ [x]).length < UInt64.size) : Accounted before x := by
  have haccepted := List.countP_le_length (p := Entry.accepts) (l := before ++ [x])
  have hrefused := List.countP_le_length (p := Entry.refuses) (l := before ++ [x])
  obtain ⟨hreturned, hended⟩ := h.ordered
  -- each of the numbers counts some of the steps or is bounded by one that does
  have hreads {n : Nat} (hn : n ≤ (before ++ [x]).length) : (UInt64.ofNat n).toNat = n :=
    UInt64.toNat_ofNat_of_lt' (Nat.lt_of_le_of_lt hn short)
  have hsubmitted :
      x.engine.tally.stats.submitted.toNat = (before ++ [x]).countP Entry.accepts := by
    rw [h.stats]
    exact hreads haccepted
  have hrejected : x.engine.tally.stats.rejected.toNat = (before ++ [x]).countP Entry.refuses := by
    rw [h.stats]
    exact hreads hrefused
  have hcompleted : x.engine.tally.stats.completed.toNat = (before ++ [x]).countP Entry.ends := by
    rw [h.stats]
    exact hreads (by omega)
  have hdelivered : x.engine.tally.stats.delivered.toNat =
      (before ++ [x]).countP Entry.returns + x.engine.served := by
    rw [h.stats]
    exact hreads (by omega)
  have hbelow : x.engine.tally.stats.completed ≤ x.engine.tally.stats.submitted := by
    rw [UInt64.le_iff_toNat_le]
    omega
  have hinFlight : x.engine.tally.stats.inFlight =
      x.engine.tally.stats.submitted - x.engine.tally.stats.completed := if_pos hbelow
  refine ⟨hsubmitted, hrejected, hcompleted, hdelivered, ⟨?_, hbelow⟩, hinFlight, ?_, ?_,
    h.created, h.working⟩
  · rw [UInt64.le_iff_toNat_le]
    omega
  · intro live
    have hreceipts := h.receipts live
    omega
  · intro live
    have hunfinished := h.unfinished live
    rw [hinFlight, UInt64.toNat_sub_of_le _ _ hbelow]
    omega

/-- **The counters of an engine add up.** -/
theorem accounts_kept {network : StandIn} {pollInterval : UInt64} {ops : List Op}
    (short : ops.length < UInt64.size) :
    Log.Each Accounted (session network { pollInterval := pollInterval } ops) := by
  intro before x after hsplit
  have hlength := length_session network { pollInterval := pollInterval } ops
  rw [hsplit, List.length_append, List.length_cons] at hlength
  refine (session_books network pollInterval ops before x after hsplit).accounted ?_
  rw [List.length_append, List.length_singleton]
  omega

/-- A request that waits, one that is refused, one whose receipt goes to a poll on another thread,
    and one whose receipt is left behind by the end of the engine. -/
def busyDay : List Op :=
  let request (payload : Bytes) : Request := ⟨payload, "http://[::1]:8545", ⟨"job"⟩⟩
  let pending : BroadcastResult := .ok (.pending "0x02" "no receipt")
  [.submit (request [1]), .submit (request []), .startWorking, .spawnPoll, .submit (request [2]),
    .finish 1 pending, .finish 0 pending, .pollNonblocking, .submit (request [3]),
    .finish 2 pending, .submit (request [4]), .destroy, .submit (request [5]), .finish 3 pending,
    .joinPoll]

theorem accounts_kept_busyDay :
    busyDay.length < UInt64.size ∧
    Log.Each Accounted (session {} { pollInterval := longInterval } busyDay) ∧
    (session {} { pollInterval := longInterval } busyDay).map (·.engine.tally.stats) =
      [⟨1, 0, 0, 0⟩, ⟨1, 1, 0, 0⟩, ⟨1, 1, 0, 0⟩, ⟨1, 1, 0, 0⟩, ⟨2, 1, 0, 0⟩, ⟨2, 1, 1, 1⟩,
        ⟨2, 1, 2, 1⟩, ⟨2, 1, 2, 2⟩, ⟨3, 1, 2, 2⟩, ⟨3, 1, 3, 2⟩, ⟨4, 1, 3, 2⟩, ⟨4, 1, 3, 2⟩,
        ⟨4, 1, 3, 2⟩, ⟨4, 1, 3, 2⟩, ⟨4, 1, 3, 2⟩] :=
  ⟨by decide, accounts_kept (by decide), by decide +kernel⟩

end Engine

end TxRelay
