/-
  The life of an engine.

  An engine is created, works, and is destroyed, and no operation leads back.  The result of this
  module is about whole sessions and compares each step with all the steps before it: how the
  phases follow each other, which call is answered as the first of its kind, and what the end leaves
  behind for ever.

  1. **Phases.**  `Phase.after` says for each operation where it leads.  It reads the operation
     only, not the engine, so the order of the phases and the conditions for the two changes are
     facts about two small types, closed by cases.  `phase_step` is the one place where the
     operations themselves are opened for their phase.

  2. **A destroyed engine.**  What `destroy` leaves behind is `Gone`: no queue, no broadcasts, and
     nobody waits.  `Gone.step` says that a step from there changes nothing but the polls of other
     threads; so the answers of the guarded operations, the refusal of every end of a broadcast and
     the counters stay as they are, whatever comes.

  3. **Laws of a step.**  `Lawful` says how a step stands to those before it, and `Final` what it is
     like if the engine was asked to end before it.  They speak of operations, answers and engines
     that were shown, not of any state that the proof keeps.

  4. **What is known.**  `Lived` is the invariant of the induction: what must be known of the steps
     so far to judge the next one.  `Lived.lawful` derives the laws of a step from it, `Lived.step`
     carries it over the step, and `lifecycle` is the induction over the session.

  The crux is `Gone.step`.  Without it each law about what comes after the end would need an
  induction of its own.
-/
import TxRelay.Proofs.Engine.Alone
import TxRelay.Proofs.Engine.Session

namespace TxRelay

/-- How far an engine has come in its life. -/
def Phase.rank : Phase → Nat
  | .created => 0
  | .working => 1
  | .destroyed => 2

/-- The phase after an operation. -/
def Phase.after (phase : Phase) : Engine.Op → Phase
  | .startWorking => if phase = .created then .working else phase
  | .destroy => .destroyed
  | _ => phase

/-- No operation leads back. -/
theorem Phase.rank_after (phase : Phase) (op : Engine.Op) : phase.rank ≤ (phase.after op).rank := by
  cases op <;> cases phase <;> simp [Phase.after, Phase.rank]

/-- An engine is destroyed after an operation if it was before, or if the operation was its end. -/
theorem Phase.after_eq_destroyed {phase : Phase} {op : Engine.Op} :
    phase.after op = .destroyed ↔ phase = .destroyed ∨ op = .destroy := by
  cases op <;> cases phase <;> simp [Phase.after]

/-- A created engine begins to work by `startWorking` and by nothing else. -/
theorem Phase.after_eq_working {phase : Phase} {op : Engine.Op} (created : phase = .created) :
    phase.after op = .working ↔ op = .startWorking := by
  subst created
  cases op <;> simp [Phase.after]

namespace Engine

variable {e e' : Engine} {network : StandIn}

/-! ## Where an operation leads -/

/-- Serving a poll is no step of the engine's life. -/
theorem phase_handOver : e.handOver.phase = e.phase := by
  unfold handOver
  split
  · split
    · rfl
    · rename_i result e' hfound
      exact (receive?_frame hfound).2
  · rfl

/-- Nor is the end of a poll's time. -/
theorem phase_expire (i : Nat) : (e.expire i).phase = e.phase := by
  unfold expire
  split <;> rfl

/-- Nor a poll that begins. -/
theorem phase_spawnPoll : e.spawnPoll.phase = e.phase := by
  unfold spawnPoll
  split
  · rfl
  · exact phase_handOver

/-- A submission leaves the phase, whether it is accepted or refused. -/
theorem phase_submit (validate : Validate) (r : Request) :
    (submit validate r e).2.phase = e.phase := by
  by_cases hgone : e.phase = .destroyed
  · simp [submit, hgone]
  · rcases submit_live hgone (r := r) with ⟨err, -, hsubmit⟩ | ⟨-, hsubmit⟩
    · rw [hsubmit]
    · rw [hsubmit]
      exact dispatch_phase

/-- So does a poll that does not wait, -/
theorem phase_pollNonblocking : e.pollNonblocking.2.phase = e.phase := by
  unfold pollNonblocking
  split
  · rfl
  · split
    · rfl
    · cases hfound : e.receive? with
      | none => rfl
      | some found => exact (receive?_frame hfound).2

/-- and one that is waited for. -/
theorem phase_joinPoll : e.joinPoll.2.phase = e.phase := by
  unfold joinPoll
  split <;> rfl

/-- The end of a broadcast leaves the phase. -/
theorem phase_finish (number : Nat) (outcome : BroadcastResult) :
    (e.finish number outcome).2.phase = e.phase := by
  unfold finish
  split
  · rfl
  · exact phase_handOver

/-- Each operation leads where `Phase.after` says. -/
theorem phase_step (op : Op) : (step network e op).2.phase = e.phase.after op := by
  cases op with
  | startWorking => cases hphase : e.phase <;> simp [step, startWorking, Phase.after, hphase]
  | submit r =>
    rw [step_submit]
    exact phase_submit network.validate r
  | pollBlocking => exact (phase_expire _).trans phase_spawnPoll
  | pollNonblocking => exact phase_pollNonblocking
  | spawnPoll =>
    show e.spawnTimedPoll.phase = e.phase
    rcases spawnTimedPoll_cases e with hshort | hlong
    · rw [hshort]
      exact (phase_expire _).trans phase_spawnPoll
    · rw [hlong]
      exact phase_spawnPoll
  | joinPoll =>
    rw [step_joinPoll]
    exact phase_joinPoll
  | finish number outcome => exact phase_finish number outcome
  | balance q =>
    rw [step_balance]
    rfl
  | pollInterval => rfl
  | debug => rfl
  | destroy => exact destroy_phase

/-! ## A destroyed engine -/

/-- What the destruction of an engine leaves behind. -/
structure Gone (e : Engine) : Prop where
  phase : e.phase = .destroyed
  queue : e.queue = []
  broadcasting : e.broadcasting = []
  nobodyWaits : ∀ poller ∈ e.pollers, poller ≠ .waiting

/-- The operations that a destroyed engine refuses. -/
def Op.guarded : Op → Bool
  | .startWorking | .submit _ | .pollBlocking | .pollNonblocking | .balance _ => true
  | _ => false

/-- A poll that was woken waits no more. -/
theorem wake_ne_waiting (poller : Poller) : poller.wake ≠ .waiting := by
  cases poller <;> simp [Poller.wake]

/-- A live engine that is destroyed leaves nothing to do and nobody who waits. -/
theorem Gone.destroy (live : e.phase ≠ .destroyed) : Gone e.destroy.2 := by
  rw [destroy_live live]
  refine ⟨rfl, rfl, rfl, fun poller hpoller => ?_⟩
  obtain ⟨before, -, rfl⟩ := List.mem_map.mp hpoller
  exact wake_ne_waiting before

/-- A poll that begins now is over. -/
theorem spawnTimedPoll_gone (gone : e.phase = .destroyed) :
    e.spawnTimedPoll = { e with pollers := e.pollers ++ [.ended (.error .destroyed)] } := by
  simp [spawnTimedPoll, spawnPoll, expire, gone]

/-- A blocking poll of a destroyed engine fails, and leaves no poll behind. -/
theorem pollBlocking_gone (gone : e.phase = .destroyed) :
    e.pollBlocking = (.error .destroyed, e) := by
  simp [pollBlocking, spawnPoll, expire, gone]
  rw [← gone]

/-- The guarded operations fail on a destroyed engine, all in the same way. -/
theorem refuses_gone {op : Op} (gone : e.phase = .destroyed) (guarded : op.guarded = true) :
    (step network e op).1 = .failed .destroyed := by
  cases op with
  | startWorking => simp [step, startWorking, gone]
  | submit r => simp [step, submit, gone]
  | pollBlocking => simp [step, pollBlocking_gone gone, Answer.ofPoll]
  | pollNonblocking => simp [step, pollNonblocking, gone, Answer.ofPoll]
  | balance q => simp [step, balance, gone]
  | spawnPoll | joinPoll | finish | pollInterval | debug | destroy => cases guarded

/-- **A step of a destroyed engine** changes the polls of other threads and nothing else, and
    nobody waits. -/
theorem Gone.step (h : Gone e) (network : StandIn) (op : Op) :
    ∃ pollers, (Engine.step network e op).2 = { e with pollers := pollers } ∧
      ∀ poller ∈ pollers, poller ≠ .waiting := by
  have hgone := h.phase
  have unchanged {e' : Engine} (same : e' = e) : ∃ pollers, e' = { e with pollers := pollers } ∧
      ∀ poller ∈ pollers, poller ≠ .waiting := ⟨e.pollers, same, h.nobodyWaits⟩
  cases op with
  | startWorking => exact unchanged (by simp [Engine.step, Engine.startWorking, hgone])
  | submit r => exact unchanged (by simp [Engine.step, Engine.submit, hgone])
  | pollBlocking => exact unchanged (by simp [Engine.step, pollBlocking_gone hgone])
  | pollNonblocking => exact unchanged (by simp [Engine.step, Engine.pollNonblocking, hgone])
  -- a poll that is spawned ends at once
  | spawnPoll =>
    refine ⟨_, spawnTimedPoll_gone hgone, fun poller hpoller => ?_⟩
    rcases List.mem_append.mp hpoller with hold | hnew
    · exact h.nobodyWaits poller hold
    · rw [List.mem_singleton.mp hnew]
      simp
  | joinPoll =>
    unfold Engine.step Engine.joinPoll
    cases hpollers : e.pollers with
    | nil => exact unchanged rfl
    | cons poller rest =>
      have hended := h.nobodyWaits
      rw [hpollers] at hended
      cases poller with
      -- nobody waits in a destroyed engine
      | waiting => exact absurd rfl (hended .waiting (by simp))
      | ended result => exact ⟨rest, rfl, fun p hp => hended p (List.mem_cons_of_mem _ hp)⟩
  | finish number outcome =>
    exact unchanged (by simp [Engine.step, Engine.finish, h.broadcasting])
  | balance q => exact unchanged (by simp [Engine.step, Engine.balance, hgone])
  | pollInterval => exact unchanged rfl
  | debug => exact unchanged rfl
  | destroy => exact unchanged (by simp [Engine.step, Engine.destroy, hgone])

/-- No broadcast of a destroyed engine ends with a receipt. -/
theorem finish_gone (h : Gone e) (number : Nat) (outcome : BroadcastResult) :
    (Engine.step network e (.finish number outcome)).1 = .flag false := by
  simp [Engine.step, Engine.finish, h.broadcasting]

/-! ## Laws of a run -/

/-- The engine after these steps. -/
def lastEngine (fresh : Engine) (trail : List Entry) : Engine :=
  (trail.getLast?.map Entry.engine).getD fresh

/-- The step was the answer that work begins. -/
def Entry.starts (x : Entry) : Prop := x.op = .startWorking ∧ x.answer = .flag true

/-- The engine was asked to end. -/
def Ended (trail : List Entry) : Prop := ∃ y ∈ trail, y.op = .destroy

/-- What a step after the end of the engine is like. -/
structure Final (before : List Entry) (polls : List Poller) (x : Entry) : Prop where
  refused : x.op.guarded = true → x.answer = .failed .destroyed
  unfinished : ∀ number outcome, x.op = .finish number outcome → x.answer = .flag false
  /-- A poll that begins now learns that the engine is gone. -/
  late : x.op = .spawnPoll → x.engine.pollers = polls ++ [.ended (.error .destroyed)]
  counters : ∀ y ∈ before, y.op = .destroy → x.engine.tally = y.engine.tally

/-- How a step stands to those before it. -/
structure Lawful (fresh : Engine) (before : List Entry) (x : Entry) : Prop where
  forward : ∀ y ∈ before, y.engine.phase.rank ≤ x.engine.phase.rank
  starts : x.starts ↔ (lastEngine fresh before).phase = .created ∧ x.engine.phase = .working
  startsOnce : x.starts → ∀ y ∈ before, ¬ y.starts
  startedBefore : x.op = .startWorking →
    (x.answer = .flag false ↔ (lastEngine fresh before).phase = .working)
  destroysFirst : x.op = .destroy → (x.answer = .flag true ↔ ¬ Ended before)
  destroysLater : x.op = .destroy → (x.answer = .flag false ↔ Ended before)
  /-- A blocked poll returns when the engine is destroyed. -/
  wakes : x.op = .destroy →
    x.engine.pollers = (lastEngine fresh before).pollers.map Poller.wake ∧
      x.engine.tally = (lastEngine fresh before).tally
  ended : Ended (before ++ [x]) ↔ x.engine.phase = .destroyed
  gone : Ended (before ++ [x]) → Gone x.engine
  final : Ended before → Final before (lastEngine fresh before).pollers x

/-! ### What a run knows of its steps -/

/-- The last engine is that of the last step. -/
theorem lastEngine_snoc (fresh : Engine) (trail : List Entry) (x : Entry) :
    lastEngine fresh (trail ++ [x]) = x.engine := by
  rw [lastEngine, List.getLast?_concat]
  rfl

/-- The engine was asked to end before, or it is asked now. -/
theorem ended_snoc {trail : List Entry} {x : Entry} :
    Ended (trail ++ [x]) ↔ Ended trail ∨ x.op = .destroy := by
  simp [Ended, or_and_right, exists_or]

/-- What must be known of the steps before to judge the next one. -/
structure Lived (fresh : Engine) (trail : List Entry) (e : Engine) : Prop where
  last : lastEngine fresh trail = e
  forward : ∀ y ∈ trail, y.engine.phase.rank ≤ e.phase.rank
  waits : e.phase = .created → ∀ y ∈ trail, ¬ y.starts
  ended : Ended trail ↔ e.phase = .destroyed
  gone : e.phase = .destroyed → Gone e
  counters : ∀ y ∈ trail, y.op = .destroy → y.engine.tally = e.tally

/-- Nothing happened to a new engine. -/
theorem Lived.new (pollInterval : UInt64) :
    Lived { pollInterval := pollInterval } [] { pollInterval := pollInterval } where
  last := rfl
  forward := fun _ hy => by cases hy
  waits := fun _ _ hy => by cases hy
  ended := by simp [Ended]
  gone := fun h => by cases h
  counters := fun _ hy => by cases hy

/-! ### The next step -/

/-- The answer that work begins is given when it does. -/
theorem starts_perform {op : Op} :
    (Entry.perform network e op).starts ↔
      e.phase = .created ∧ (Entry.perform network e op).engine.phase = .working := by
  have hphase : (Entry.perform network e op).engine.phase = e.phase.after op := phase_step op
  rw [hphase]
  constructor
  · rintro ⟨hop, hanswer⟩
    obtain rfl : op = .startWorking := hop
    -- only a created engine answers so
    cases hcreated : e.phase with
    | created => exact ⟨rfl, rfl⟩
    | working | destroyed =>
      simp [Entry.perform, step, startWorking, hcreated] at hanswer
  · rintro ⟨hcreated, hworks⟩
    obtain rfl := (Phase.after_eq_working hcreated).mp hworks
    exact ⟨rfl, by simp [Entry.perform, step, startWorking, hcreated]⟩

/-- A destroyed engine stays destroyed, with nothing to do. -/
theorem Gone.perform (h : Gone e) (op : Op) : Gone (Entry.perform network e op).engine := by
  obtain ⟨pollers, hsame, hended⟩ := h.step network op
  show Gone (Engine.step network e op).2
  rw [hsame]
  exact ⟨h.phase, h.queue, h.broadcasting, hended⟩

/-- No counter of a destroyed engine moves. -/
theorem Gone.tally (h : Gone e) (op : Op) :
    (Entry.perform network e op).engine.tally = e.tally := by
  obtain ⟨pollers, hsame, -⟩ := h.step network op
  show (Engine.step network e op).2.tally = e.tally
  rw [hsame]

/-- Nobody is left to be woken. -/
theorem Gone.map_wake (h : Gone e) : e.pollers.map Poller.wake = e.pollers := by
  refine (List.map_congr_left fun poller hpoller => ?_).trans (List.map_id e.pollers)
  cases poller with
  | waiting => exact absurd rfl (h.nobodyWaits .waiting hpoller)
  | ended result => rfl

/-- A step of a destroyed engine is as `Final` says, given that the counters stood still since its
    end. -/
theorem Gone.final {trail : List Entry} (h : Gone e) (op : Op)
    (counters : ∀ y ∈ trail, y.op = .destroy → y.engine.tally = e.tally) :
    Final trail e.pollers (.perform network e op) where
  refused := fun guarded => refuses_gone h.phase guarded
  unfinished := by
    rintro number outcome hop
    obtain rfl : op = .finish number outcome := hop
    show (Engine.step network e (.finish number outcome)).1 = _
    exact finish_gone h number outcome
  late := by
    intro hop
    obtain rfl : op = .spawnPoll := hop
    show e.spawnTimedPoll.pollers = _
    rw [spawnTimedPoll_gone h.phase]
  counters := fun y hy hdestroy => (h.tally op).trans (counters y hy hdestroy).symm

/-- The first destruction wakes who waits, and no destruction counts anything. -/
theorem destroy_wakes (gone : e.phase = .destroyed → Gone e) :
    e.destroy.2.pollers = e.pollers.map Poller.wake ∧ e.destroy.2.tally = e.tally := by
  by_cases hgone : e.phase = .destroyed
  · have hsame : e.destroy.2 = e := by simp [Engine.destroy, hgone]
    rw [hsame]
    exact ⟨(gone hgone).map_wake.symm, rfl⟩
  · rw [destroy_live hgone]
    exact ⟨rfl, rfl⟩

/-- Destroying answers whether the engine was still there. -/
theorem answer_destroy :
    (step network e .destroy).1 = .flag (decide (e.phase ≠ .destroyed)) := by
  cases hphase : e.phase <;> simp [step, destroy, hphase]

/-- Starting answers that it changed nothing exactly if the engine works already. -/
theorem answer_startWorking_false :
    (step network e .startWorking).1 = .flag false ↔ e.phase = .working := by
  cases hphase : e.phase <;> simp [step, startWorking, hphase]

variable {fresh : Engine} {trail : List Entry}

/-- The engine is destroyed after a step if it was before or if the step asked for it. -/
theorem Lived.ended_perform (h : Lived fresh trail e) (op : Op) :
    Ended (trail ++ [.perform network e op]) ↔
      (Entry.perform network e op).engine.phase = .destroyed := by
  have hphase : (Entry.perform network e op).engine.phase = e.phase.after op := phase_step op
  rw [ended_snoc, h.ended, hphase, Phase.after_eq_destroyed]
  rfl

/-- Whoever destroyed the engine, this step or an earlier one, left nothing to do. -/
theorem Lived.gone_perform (h : Lived fresh trail e) (op : Op)
    (gone : (Entry.perform network e op).engine.phase = .destroyed) :
    Gone (Entry.perform network e op).engine := by
  by_cases hgone : e.phase = .destroyed
  · exact (h.gone hgone).perform op
  · -- the step itself was the destruction
    have hphase : (Entry.perform network e op).engine.phase = e.phase.after op := phase_step op
    rw [hphase, Phase.after_eq_destroyed] at gone
    obtain rfl := gone.resolve_left hgone
    exact Gone.destroy hgone

/-- From what is known of the steps before, the next step is lawful. -/
theorem Lived.lawful (h : Lived fresh trail e) (network : StandIn) (op : Op) :
    Lawful fresh trail (.perform network e op) := by
  have hphase : (Entry.perform network e op).engine.phase = e.phase.after op := phase_step op
  refine ⟨?_, ?_, ?_, ?_, ?_, ?_, ?_, h.ended_perform op, ?_, ?_⟩
  · intro y hy
    rw [hphase]
    exact Nat.le_trans (h.forward y hy) (Phase.rank_after e.phase op)
  · rw [h.last]
    exact starts_perform
  · intro hstarts
    exact h.waits (starts_perform.mp hstarts).1
  · intro hop
    obtain rfl : op = .startWorking := hop
    rw [h.last]
    exact answer_startWorking_false
  · intro hop
    obtain rfl : op = .destroy := hop
    rw [h.ended]
    show (Engine.step network e .destroy).1 = _ ↔ _
    rw [answer_destroy]
    simp
  · intro hop
    obtain rfl : op = .destroy := hop
    rw [h.ended]
    show (Engine.step network e .destroy).1 = _ ↔ _
    rw [answer_destroy]
    simp
  · intro hop
    obtain rfl : op = .destroy := hop
    rw [h.last]
    -- a second destruction finds nobody who waits, so that waking changes nothing
    exact destroy_wakes h.gone
  · intro hended
    exact h.gone_perform op ((h.ended_perform op).mp hended)
  · intro hended
    rw [h.last]
    exact (h.gone (h.ended.mp hended)).final op h.counters

/-- What is known of the steps so far is known after one more of them. -/
theorem Lived.step (h : Lived fresh trail e) (network : StandIn) (op : Op) :
    Lived fresh (trail ++ [.perform network e op]) (Engine.step network e op).2 := by
  have hlaw := h.lawful network op
  refine ⟨lastEngine_snoc fresh trail _, ?_, ?_, h.ended_perform op, h.gone_perform op, ?_⟩
  · intro y hy
    rcases List.mem_append.mp hy with hold | hnew
    · exact hlaw.forward y hold
    · rw [List.mem_singleton.mp hnew]
      exact Nat.le_refl _
  · intro hcreated y hy
    have hphase : (Engine.step network e op).2.phase = e.phase.after op := phase_step op
    rcases List.mem_append.mp hy with hold | hnew
    · -- an engine that is still created was so before, as ranks only grow
      refine h.waits ?_ y hold
      cases hbefore : e.phase with
      | created => rfl
      | working | destroyed =>
        have hrank := Phase.rank_after e.phase op
        rw [← hphase, hcreated, hbefore] at hrank
        cases hrank
    · rw [List.mem_singleton.mp hnew]
      intro hstarts
      have hworks := (starts_perform.mp hstarts).2
      exact absurd (hworks.symm.trans hcreated) (by simp)
  · intro y hy hdestroy
    rcases List.mem_append.mp hy with hold | hnew
    · have hgone := h.gone (h.ended.mp ⟨y, hold, hdestroy⟩)
      exact (h.counters y hold hdestroy).trans (hgone.tally op).symm
    · rw [List.mem_singleton.mp hnew]
      rfl

/-- **The life of an engine**, in every run. -/
theorem lifecycle (network : StandIn) (pollInterval : UInt64) (ops : List Op) :
    Log.Each (Lawful { pollInterval := pollInterval })
      (session network { pollInterval := pollInterval } ops) :=
  session_each (fun _ _ op h => ⟨h.lawful network op, h.step network op⟩)
    (Lived.new pollInterval) ops

end Engine

end TxRelay
