/-
  The blocking and the non-blocking poll.

  The one waits in a select for the signal, the lock of the receipts, and the end of its time; the
  other tries the lock and the receipts once.  When everything that can happen has happened, they
  agree: both find the oldest receipt, or that the engine is gone, or nothing, and leave the same
  engine behind.  So in a run the one may stand for the other (`run_replaced`).

  1. **What each finds.**  For both polls one equation in each of the three situations: the engine
     is gone, a receipt is there and nobody waits, or no receipt is there.  In the fourth, where
     others wait, only the non-blocking poll is over at once.

  2. **A settled engine.**  `Tidy` says that who waits, waits for a receipt that is not there, in an
     engine that may still get one.  So the fourth situation does not occur where a receipt is, and
     the two polls do the same (`Tidy.polls`).  Each operation keeps it; most of them add nobody who
     waits and no receipt (`Tidy.frame`).

  3. **Runs.**  `Tidy.run_replaced` is the induction over a run in which some blocking polls were
     replaced by non-blocking ones: the engines stay the same, so the invariant is needed of one run
     only.

  4. **Any moment.**  At moments that are not settled the polls need not agree, and `PollsAt` says
     what each finds there.  The blocking poll is taken apart once more, branch by branch of its
     select (`TxRelay.Proofs.Engine.Polling`).

  The crux is who gets a receipt that comes: the poll that has waited longest (`endFirst_split`),
  and nobody else waits for it (`Tidy.complete_waiting`).
-/
import TxRelay.Proofs.Engine.Lifecycle
import TxRelay.Proofs.Engine.Polling

namespace TxRelay.Engine

variable {e : Engine} {network : StandIn} {pollInterval : UInt64}

/-! ## Who waits -/

/-- Somebody waits if a poll among them does. -/
theorem someoneWaits_iff : e.someoneWaits = true ↔ Poller.waiting ∈ e.pollers := by
  rw [someoneWaits, List.any_eq_true]
  constructor
  · rintro ⟨poller, hmem, hwaits⟩
    cases poller with
    | waiting => exact hmem
    | ended result => cases hwaits
  · exact fun hmem => ⟨.waiting, hmem, rfl⟩

/-- The first poll that waits is the one behind those that have ended. -/
theorem endFirst_split {before after : List Poller} (ended : Poller.waiting ∉ before)
    (result : PollResult) :
    endFirst result (before ++ .waiting :: after) = before ++ .ended result :: after := by
  induction before with
  | nil => rfl
  | cons poller before ih =>
    rw [List.mem_cons, not_or] at ended
    cases poller with
    | waiting => exact absurd rfl ended.1
    | ended r => exact congrArg (.ended r :: ·) (ih ended.2)

/-- A settled engine: who waits, waits for a receipt that is not there, in an engine that may
    still get one. -/
structure Tidy (e : Engine) : Prop where
  sender : e.ownSender = true
  waits : e.someoneWaits = true → e.receipts = [] ∧ e.phase ≠ .destroyed

/-- As long as the engine keeps its sender, only a receipt can be received. -/
theorem receive?_eq (sender : e.ownSender = true) :
    e.receive? = e.receipts.head?.map fun r =>
      (.ok (.ready r), { e with receipts := e.receipts.tail, tally := e.tally.delivered }) := by
  unfold receive?
  cases e.receipts with
  | nil => simp [receiptsOpen, sender]
  | cons r rest => rfl

/-- A receipt goes to the poll that has waited longest. -/
theorem handOver_receipt {r : Receipt} {rest : List Receipt} (head : e.receipts = r :: rest)
    (waits : e.someoneWaits = true) :
    e.handOver =
      { e with
        receipts := rest
        pollers := endFirst (.ok (.ready r)) e.pollers
        tally := e.tally.delivered } := by
  simp [handOver, waits, receive?, head]

/-- Where nobody waits, a receipt waits behind the others. -/
theorem handOver_nobody (nobody : e.someoneWaits = false) : e.handOver = e := by
  simp [handOver, nobody]

/-- Where no receipt is there, nobody is served. -/
theorem handOver_nothing (sender : e.ownSender = true) (nothing : e.receipts = []) :
    e.handOver = e := by
  simp [handOver, receive?_eq sender, nothing]

/-! ## The two polls -/

/-- A poll waits if nothing is there. -/
theorem spawnPoll_nothing (sender : e.ownSender = true) (live : e.phase ≠ .destroyed)
    (nothing : e.receipts = []) :
    e.spawnPoll = { e with pollers := e.pollers ++ [.waiting] } := by
  unfold spawnPoll
  split
  · rename_i hgone
    exact absurd hgone live
  · exact handOver_nothing sender nothing

/-- A poll that nobody is before gets the oldest receipt. -/
theorem spawnPoll_receipt {r : Receipt} {rest : List Receipt} (live : e.phase ≠ .destroyed)
    (head : e.receipts = r :: rest) (nobody : e.someoneWaits = false) :
    e.spawnPoll =
      { e with
        receipts := rest
        pollers := e.pollers ++ [.ended (.ok (.ready r))]
        tally := e.tally.delivered } := by
  have hended : Poller.waiting ∉ e.pollers := by
    rw [← someoneWaits_iff, nobody]
    exact Bool.false_ne_true
  unfold spawnPoll
  split
  · rename_i hgone
    exact absurd hgone live
  · have hwaits : someoneWaits { e with pollers := e.pollers ++ [.waiting] } = true :=
      someoneWaits_iff.mpr (by simp)
    rw [handOver_receipt (e := { e with pollers := e.pollers ++ [.waiting] }) head hwaits]
    simp [endFirst_split hended]

/-- A blocking poll that finds nothing ends when its time is over. -/
theorem pollBlocking_nothing (sender : e.ownSender = true) (live : e.phase ≠ .destroyed)
    (nothing : e.receipts = []) : e.pollBlocking = (.ok .notReady, e) := by
  simp [pollBlocking, spawnPoll_nothing sender live nothing, Engine.expire]

/-- A blocking poll takes the oldest receipt, -/
theorem pollBlocking_receipt {r : Receipt} {rest : List Receipt} (live : e.phase ≠ .destroyed)
    (head : e.receipts = r :: rest) (nobody : e.someoneWaits = false) :
    e.pollBlocking =
      (.ok (.ready r), { e with receipts := rest, tally := e.tally.delivered }) := by
  simp [pollBlocking, spawnPoll_receipt live head nobody, Engine.expire]

/-- and so does one that does not wait. -/
theorem pollNonblocking_receipt {r : Receipt} {rest : List Receipt} (live : e.phase ≠ .destroyed)
    (head : e.receipts = r :: rest) (nobody : e.someoneWaits = false) :
    e.pollNonblocking =
      (.ok (.ready r), { e with receipts := rest, tally := e.tally.delivered }) := by
  simp [pollNonblocking_live live, nobody, receive?, head]

/-- A poll that does not wait finds nothing where nothing is. -/
theorem pollNonblocking_nothing (sender : e.ownSender = true) (live : e.phase ≠ .destroyed)
    (nothing : e.receipts = []) : e.pollNonblocking = (.ok .notReady, e) := by
  simp [pollNonblocking_live live, receive?_eq sender, nothing]

/-- Where a receipt is there, nobody waits. -/
theorem Tidy.nobody {r : Receipt} {rest : List Receipt} (h : Tidy e)
    (head : e.receipts = r :: rest) : e.someoneWaits = false := by
  cases hwaits : e.someoneWaits with
  | false => rfl
  | true => cases head.symm.trans (h.waits hwaits).1

/-- **In a settled engine the two polls do the same.** -/
theorem Tidy.polls (h : Tidy e) : e.pollBlocking = e.pollNonblocking := by
  by_cases hgone : e.phase = .destroyed
  · rw [pollBlocking_gone hgone, pollNonblocking_gone hgone]
  · cases hreceipts : e.receipts with
    | nil =>
      rw [pollBlocking_nothing h.sender hgone hreceipts,
        pollNonblocking_nothing h.sender hgone hreceipts]
    | cons r rest =>
      have hnobody := h.nobody hreceipts
      rw [pollBlocking_receipt hgone hreceipts hnobody,
        pollNonblocking_receipt hgone hreceipts hnobody]

/-! ## Settled engines -/

/-- Nobody waits in a new engine. -/
theorem Tidy.new : Tidy { pollInterval := pollInterval } := ⟨rfl, fun h => by cases h⟩

/-- An engine in which nobody waits who did not wait before, and into which no receipt came. -/
theorem Tidy.frame {e' : Engine} (h : Tidy e) (sender : e'.ownSender = e.ownSender)
    (waits : e'.someoneWaits = true → e.someoneWaits = true)
    (receipts : e.receipts = [] → e'.receipts = [])
    (phase : e.phase ≠ .destroyed → e'.phase ≠ .destroyed) : Tidy e' := by
  refine ⟨sender.trans h.sender, fun hwaits => ?_⟩
  obtain ⟨hnone, hlive⟩ := h.waits (waits hwaits)
  exact ⟨receipts hnone, phase hlive⟩

/-- What keeps polls and receipts keeps a settled engine. -/
theorem Tidy.keeps {e' : Engine} (h : Tidy e) (keeps : Keeps e e')
    (phase : e.phase ≠ .destroyed → e'.phase ≠ .destroyed) : Tidy e' := by
  have hwaits : e'.someoneWaits = e.someoneWaits := by rw [someoneWaits, keeps.pollers]; rfl
  exact h.frame keeps.sender (fun h => hwaits ▸ h) (fun h => keeps.receipts.trans h) phase

/-- The beginning of work serves nobody and brings no receipt. -/
theorem Tidy.startWorking (h : Tidy e) : Tidy e.startWorking.2 := by
  by_cases hgone : e.phase = .destroyed
  · have hsame : e.startWorking.2 = e := by simp [Engine.startWorking, hgone]
    rw [hsame]
    exact h
  · refine h.keeps keeps_startWorking fun _ => ?_
    rw [(startWorking_live hgone).2]
    intro hworking
    cases hworking

/-- Neither does a submission. -/
theorem Tidy.submit (h : Tidy e) (validate : Validate) (r : Request) :
    Tidy (Engine.submit validate r e).2 := by
  by_cases hgone : e.phase = .destroyed
  · have hsame : (Engine.submit validate r e).2 = e := by simp [Engine.submit, hgone]
    rw [hsame]
    exact h
  · rcases @submit_live e validate r hgone with ⟨err, -, hsubmit⟩ | ⟨-, hsubmit⟩
    · rw [hsubmit]
      exact h.frame rfl id id id
    · rw [hsubmit]
      have henqueued : Tidy (e.enqueue r) := h.frame rfl id id id
      exact henqueued.keeps keeps_dispatch fun live => dispatch_phase.symm ▸ live

/-- A poll that takes a receipt leaves fewer of them, and nobody waited. -/
theorem Tidy.pollNonblocking (h : Tidy e) : Tidy e.pollNonblocking.2 := by
  by_cases hgone : e.phase = .destroyed
  · rw [pollNonblocking_gone hgone]
    exact h
  · cases hreceipts : e.receipts with
    | nil =>
      rw [pollNonblocking_nothing h.sender hgone hreceipts]
      exact h
    | cons r rest =>
      rw [pollNonblocking_receipt hgone hreceipts (h.nobody hreceipts)]
      refine h.frame rfl id (fun hnone => ?_) id
      cases hreceipts.symm.trans hnone

/-- The poll at a place ends, and nobody else begins to wait. -/
theorem Tidy.expire (h : Tidy e) (i : Nat) : Tidy (e.expire i) := by
  unfold Engine.expire
  split
  · refine h.frame rfl (fun hwaits => ?_) id id
    rw [someoneWaits_iff] at hwaits ⊢
    rcases List.mem_or_eq_of_mem_set hwaits with hold | hnew
    · exact hold
    · cases hnew
  · exact h

/-- A poll that begins waits if nothing is there, and is served otherwise. -/
theorem Tidy.spawnPoll (h : Tidy e) : Tidy e.spawnPoll := by
  by_cases hgone : e.phase = .destroyed
  · have hspawn : e.spawnPoll =
        { e with pollers := e.pollers ++ [.ended (.error .destroyed)] } := by
      simp [Engine.spawnPoll, hgone]
    rw [hspawn]
    refine h.frame rfl (fun hwaits => ?_) id id
    rw [someoneWaits_iff] at hwaits ⊢
    simpa using hwaits
  · cases hreceipts : e.receipts with
    | nil =>
      rw [spawnPoll_nothing h.sender hgone hreceipts]
      -- the poll waits, and no receipt is there
      exact ⟨h.sender, fun _ => ⟨hreceipts, hgone⟩⟩
    | cons r rest =>
      have hnobody := h.nobody hreceipts
      rw [spawnPoll_receipt hgone hreceipts hnobody]
      refine h.frame rfl (fun hwaits => ?_) (fun hnone => ?_) id
      · rw [someoneWaits_iff] at hwaits ⊢
        simpa using hwaits
      · cases hreceipts.symm.trans hnone

/-- A poll that is joined waits no more. -/
theorem Tidy.joinPoll (h : Tidy e) : Tidy e.joinPoll.2 := by
  unfold Engine.joinPoll
  split
  · rename_i result rest hpollers
    refine h.frame rfl (fun hwaits => ?_) id id
    rw [someoneWaits_iff] at hwaits ⊢
    rw [hpollers]
    exact List.mem_cons_of_mem _ hwaits
  · exact h

/-- Where a poll waits, the receipt of a broadcast that ends goes to the one that has waited
    longest, and nothing else waits for it. -/
theorem Tidy.complete_waiting (h : Tidy e) (waits : e.someoneWaits = true) (job : Job)
    (outcome : BroadcastResult) :
    let completed := e.complete job outcome
    completed.handOver =
      { completed with
        receipts := []
        pollers := endFirst (.ok (.ready (receiptOf (job, outcome)))) e.pollers
        tally := completed.tally.delivered } := by
  intro completed
  have hreceipts : completed.receipts = [receiptOf (job, outcome)] := by
    show e.receipts ++ [_] = _
    rw [(h.waits waits).1]
    rfl
  exact handOver_receipt hreceipts waits

/-- The receipt of a broadcast that ends goes to who waits, or stays where nobody does. -/
theorem Tidy.finish (h : Tidy e) (number : Nat) (outcome : BroadcastResult) :
    Tidy (e.finish number outcome).2 := by
  unfold Engine.finish
  split
  · exact h
  · rename_i job hjob
    cases hwaits : e.someoneWaits with
    | true =>
      show Tidy (e.complete job outcome).handOver
      rw [h.complete_waiting hwaits job outcome]
      exact ⟨h.sender, fun _ => ⟨rfl, (h.waits hwaits).2⟩⟩
    | false =>
      have hnobody : (e.complete job outcome).someoneWaits = false := hwaits
      show Tidy (e.complete job outcome).handOver
      rw [handOver_nobody hnobody]
      refine ⟨h.sender, fun hsome => ?_⟩
      have hsome : e.someoneWaits = true := hsome
      cases hwaits.symm.trans hsome

/-- The end of the engine wakes all who wait. -/
theorem Tidy.destroy (h : Tidy e) : Tidy e.destroy.2 := by
  by_cases hgone : e.phase = .destroyed
  · have hsame : e.destroy.2 = e := by simp [Engine.destroy, hgone]
    rw [hsame]
    exact h
  · refine ⟨?_, fun hwaits => ?_⟩
    · rw [destroy_live hgone]
      exact h.sender
    · have hended := (Gone.destroy hgone).nobodyWaits
      exact absurd rfl (hended _ (someoneWaits_iff.mp hwaits))

/-- Every operation leaves a settled engine. -/
theorem Tidy.step (h : Tidy e) (network : StandIn) (op : Op) :
    Tidy (Engine.step network e op).2 := by
  cases op with
  | startWorking =>
    rw [step_startWorking]
    exact h.startWorking
  | submit r =>
    rw [step_submit]
    exact h.submit network.validate r
  | pollBlocking =>
    show Tidy e.pollBlocking.2
    rw [h.polls]
    exact h.pollNonblocking
  | pollNonblocking => exact h.pollNonblocking
  | spawnPoll =>
    show Tidy e.spawnTimedPoll
    rcases spawnTimedPoll_cases e with hshort | hlong
    · rw [hshort]
      exact h.spawnPoll.expire _
    · rw [hlong]
      exact h.spawnPoll
  | joinPoll =>
    rw [step_joinPoll]
    exact h.joinPoll
  | finish number outcome => exact h.finish number outcome
  | balance q =>
    rw [step_balance]
    exact h
  | pollInterval => exact h
  | debug => exact h
  | destroy => exact h.destroy

/-! ## Runs -/

/-- The engines that operations lead to. -/
inductive Reached (network : StandIn) (pollInterval : UInt64) : Engine → Prop where
  | new : Reached network pollInterval { pollInterval := pollInterval }
  | step {e : Engine} (before : Reached network pollInterval e) (op : Op) :
      Reached network pollInterval (Engine.step network e op).2

/-- They are engines at work. -/
theorem Reached.rests (h : Reached network pollInterval e) :
    Rests network.validate pollInterval e := by
  induction h with
  | new => exact .new
  | step before op ih => exact ih.step op

/-- An engine that operations lead to is settled. -/
theorem Reached.tidy (h : Reached network pollInterval e) : Tidy e := by
  induction h with
  | new => exact .new
  | step before op ih => exact ih.step network op

/-- The second operation is the first, or a non-blocking poll in the place of a blocking one. -/
def Replaced (op op' : Op) : Prop := op' = op ∨ op = .pollBlocking ∧ op' = .pollNonblocking

/-- An operation does what the one does that stands in its place. -/
theorem Tidy.replaced (h : Tidy e) {op op' : Op} (replaced : Replaced op op') :
    Engine.step network e op' = Engine.step network e op := by
  rcases replaced with rfl | ⟨rfl, rfl⟩
  · rfl
  · rw [Engine.step, Engine.step, h.polls]

/-- A run is the same with non-blocking polls in the place of blocking ones. -/
theorem Tidy.run_replaced (h : Tidy e) {ops ops' : List Op}
    (replaced : List.Forall₂ Replaced ops ops') : run network e ops' = run network e ops := by
  induction replaced generalizing e with
  | nil => rfl
  | cons hop hrest ih =>
    have hone := @Tidy.replaced e network h _ _ hop
    rw [run, run, hone, ih (h.step network _)]

/-! ## The polls of an engine at work -/

/-- No step takes the engine's own sender away. -/
theorem Step.sender {validate : Validate} {m m' : Moment} (next : Step validate m m')
    (sender : m.engine.ownSender = true) : m'.engine.ownSender = true := by
  have hreceive {result : PollResult} {e : Engine} (found : m.engine.receive? = some (result, e)) :
      e.ownSender = true := by
    rcases receive?_some found with ⟨r, rest, -, -, rfl⟩ | ⟨-, -, -, rfl⟩ <;> exact sender
  cases next with
  | find live found => exact hreceive found
  | take waits found =>
    have hsender := hreceive found
    exact hsender
  | _ => exact sender

/-- An engine at work keeps its sender of receipts. -/
theorem Reachable.sender {validate : Validate} {m : Moment}
    (h : Reachable validate pollInterval m) : m.engine.ownSender = true := by
  induction h with
  | initial => rfl
  | step _ next ih => exact next.sender ih

/-- What the two polls find at a moment, settled or not. -/
structure PollsAt (m : Moment) : Prop where
  gone : ¬ m.Live →
    m.engine.pollBlocking = (.error .destroyed, m.engine) ∧
    m.engine.pollNonblocking = (.error .destroyed, m.engine)
  /-- Both take the oldest receipt that no poll has taken. -/
  found : ∀ r rest, m.Live → m.engine.someoneWaits = false → m.engine.receipts = r :: rest →
    let after := { m.engine with receipts := rest, tally := m.engine.tally.delivered }
    m.engine.pollBlocking = (.ok (.ready r), after) ∧
    m.engine.pollNonblocking = (.ok (.ready r), after) ∧
    (answers m.log).map receiptOf = returned m.log ++ r :: rest
  nothing : m.Live → m.engine.receipts = [] →
    m.engine.pollBlocking = (.ok .notReady, m.engine) ∧
    m.engine.pollNonblocking = (.ok .notReady, m.engine)
  /-- Others are at the receipts. -/
  behind : m.Live → m.engine.someoneWaits = true →
    m.engine.pollNonblocking = (.ok .notReady, m.engine)
  /-- Branch by branch, the blocking poll comes to the same, and changes nothing before. -/
  select : ∀ shutdown p, Polling.Undisturbed m.engine shutdown →
    Polling.Path { engine := m.engine, shutdown := shutdown } p → Polling.Goes m.engine p

/-- What each poll finds at a moment. -/
theorem Reachable.polls {validate : Validate} {m : Moment}
    (h : Reachable validate pollInterval m) : PollsAt m where
  gone := by
    intro dead
    have hgone : m.engine.phase = .destroyed := Classical.not_not.mp dead
    exact ⟨pollBlocking_gone hgone, pollNonblocking_gone hgone⟩
  found := by
    intro r rest live nobody head
    have hledger := (h.ledger live).taken
    refine ⟨pollBlocking_receipt live head nobody, pollNonblocking_receipt live head nobody, ?_⟩
    rw [← hledger, head]
  nothing := by
    intro live nothing
    exact ⟨pollBlocking_nothing h.sender live nothing,
      pollNonblocking_nothing h.sender live nothing⟩
  behind := by
    intro live waits
    rw [pollNonblocking_live live, waits]
    rfl
  select := fun shutdown p quiet path => Polling.polling_agrees quiet path

/-- What holds of the polls of a settled engine. -/
structure Settled (e : Engine) : Prop where
  agree : e.pollBlocking = e.pollNonblocking
  /-- Nobody waits where a receipt is there. -/
  waits : e.someoneWaits = true → e.receipts = [] ∧ e.phase ≠ .destroyed
  /-- The receipt of the next broadcast that ends goes to the poll that has waited longest. -/
  served : ∀ number outcome job, e.someoneWaits = true →
    e.broadcasting.find? (·.number = number) = some job →
    ∃ before after, e.pollers = before ++ .waiting :: after ∧ Poller.waiting ∉ before ∧
      e.finish number outcome =
        (true,
          { e.complete job outcome with
            receipts := []
            pollers := before ++ .ended (.ok (.ready (receiptOf (job, outcome)))) :: after
            tally := (e.complete job outcome).tally.delivered })
  /-- A poll that waited alone gets what a poll gets that comes when the broadcast has ended. -/
  instead : ∀ number outcome job before after, e.pollers = before ++ .waiting :: after →
    Poller.waiting ∉ before ++ after → e.broadcasting.find? (·.number = number) = some job →
    let ended := ({ e with pollers := before ++ after }.finish number outcome).2
    ended.pollNonblocking.1 = .ok (.ready (receiptOf (job, outcome))) ∧
    (e.finish number outcome).2 =
      { ended.pollNonblocking.2 with
        pollers := before ++ .ended ended.pollNonblocking.1 :: after }

/-- What holds of the polls of a settled engine, from the invariant. -/
theorem Tidy.settled (h : Tidy e) : Settled e where
  agree := h.polls
  waits := h.waits
  served := by
    intro number outcome job waits held
    obtain ⟨before, after, hpollers, hended⟩ :=
      List.eq_append_cons_of_mem (someoneWaits_iff.mp waits)
    refine ⟨before, after, hpollers, hended, ?_⟩
    rw [Engine.finish, held]
    show (true, (e.complete job outcome).handOver) = _
    rw [h.complete_waiting waits job outcome, hpollers, endFirst_split hended]
  instead := by
    intro number outcome job before after hpollers others held
    let without : Engine := { e with pollers := before ++ after }
    have hwaits : e.someoneWaits = true := someoneWaits_iff.mpr (by simp [hpollers])
    obtain ⟨hnone, hlive⟩ := h.waits hwaits
    have hnobody : (without.complete job outcome).someoneWaits = false := by
      rw [← Bool.not_eq_true, someoneWaits_iff]
      exact others
    -- without the poller that waits, the receipt stays in the queue
    have hended : (without.finish number outcome).2 = without.complete job outcome := by
      have hheld : without.broadcasting.find? (·.number = number) = some job := held
      rw [Engine.finish, hheld]
      exact handOver_nobody hnobody
    have hreceipts : (without.complete job outcome).receipts = [receiptOf (job, outcome)] := by
      show e.receipts ++ [_] = _
      rw [hnone]
      rfl
    have hpoll := pollNonblocking_receipt (e := without.complete job outcome) hlive hreceipts
      hnobody
    -- with it, it is handed to the first one that waits
    have hfinish : (e.finish number outcome).2 = (e.complete job outcome).handOver := by
      rw [Engine.finish, held]
    rw [List.mem_append, not_or] at others
    show (without.finish number outcome).2.pollNonblocking.1 = _ ∧ _ =
      { (without.finish number outcome).2.pollNonblocking.2 with
        pollers :=
          before ++ Poller.ended (without.finish number outcome).2.pollNonblocking.1 :: after }
    rw [hended, hpoll, hfinish, h.complete_waiting hwaits job outcome, hpollers,
      endFirst_split others.1]
    exact ⟨rfl, rfl⟩

/-- **The two polls agree.**  At every moment, whatever the parties of the engine are about, both
    polls find the oldest receipt that no poll has taken, if one is there and nobody waits for
    it, or learn that the engine is gone, or find nothing and change nothing; while others wait,
    the non-blocking poll finds nothing.  How long the interval is, when it is over and which branch
    of the select comes first makes no difference (`PollsAt`).

    When everything that can happen has happened, the two are the same operation, nobody waits
    where a receipt is there, and the next receipt goes to the poll that has waited longest
    (`Settled`).  So a run is the same, in its answers and in its engines, with non-blocking polls
    in the place of blocking ones. -/
theorem polls_agree (pollInterval : UInt64) :
    (∀ validate m, Reachable validate pollInterval m → PollsAt m) ∧
    ∀ network e, Reached network pollInterval e →
      Settled e ∧
      (∃ m, Reachable network.validate pollInterval m ∧ m.engine = e) ∧
      ∀ ops ops', List.Forall₂ Replaced ops ops' → run network e ops' = run network e ops := by
  refine ⟨fun validate m h => h.polls,
    fun network e h => ⟨h.tidy.settled, ?_, fun ops ops' => h.tidy.run_replaced⟩⟩
  -- a settled engine is also one at work
  obtain ⟨m, hm, hengine, -⟩ := h.rests
  exact ⟨m, hm, hengine⟩

/-- A poll waits on another thread while two broadcasts end. -/
def awaited : List Op :=
  let request (payload : Bytes) (jobId : String) : Request :=
    ⟨payload, "http://[::1]:8545", ⟨jobId⟩⟩
  let pending : BroadcastResult := .ok (.pending "0x02" "no receipt")
  [.startWorking, .spawnPoll, .submit (request [1] "first"), .submit (request [2] "second"),
    .finish 1 pending, .finish 0 pending]

/-- It gets the receipt that comes first, and either poll the other one. -/
theorem polls_agree_awaited :
    let e : Engine := { pollInterval := longInterval }
    let receipt (jobId : String) : Receipt :=
      ⟨"0x02", false, "transaction pending: no receipt", ⟨jobId⟩⟩
    run {} e (awaited ++ [.pollNonblocking, .joinPoll]) =
      run {} e (awaited ++ [.pollBlocking, .joinPoll]) ∧
    (run {} e (awaited ++ [.pollBlocking, .joinPoll])).map Prod.fst =
      [.flag true, .nothing, .queued, .queued, .flag true, .flag true,
        .polled (.ready (receipt "first")), .polled (.ready (receipt "second"))] := by
  intro e receipt
  obtain ⟨-, -, hruns⟩ := (polls_agree longInterval).2 {} e .new
  refine ⟨hruns _ _ ?_, by decide +kernel⟩
  have hlast : List.Forall₂ Replaced [.pollBlocking, .joinPoll] [.pollNonblocking, .joinPoll] :=
    .cons (Or.inr ⟨rfl, rfl⟩) (.cons (Or.inl rfl) .nil)
  have hfirst : List.Forall₂ Replaced awaited awaited :=
    List.forall₂_same.mpr fun op _ => Or.inl rfl
  exact List.rel_append hfirst hlast

end TxRelay.Engine
