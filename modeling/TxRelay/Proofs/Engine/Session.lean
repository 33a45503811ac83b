/-
  The engine of a session is an engine at work.

  A session performs one operation after the other, and the engine settles in between: the
  dispatcher and the tasks have done all that they can, and polls that wait were served.  What is
  proved of an engine whose parties take their steps in any order (`Reachable`) must therefore hold
  of every engine in a session; this is where the two meet.

  1. **Rests.**  An engine rests if it is that of a moment which steps lead to, at which no task is
     about to begin and the dispatcher runs exactly while the engine works.  The moment has a log of
     its own, which the session does not see; nothing is claimed of it.

  2. **Parts of operations.**  Each part of an operation takes one resting engine to another one, by
     a path of steps: `Rests.dispatchOne` is two of them, the dispatcher that spawns a task and the
     task that calls; `Rests.handOver` is one poll that takes a receipt; `Rests.wake` is one poll
     that learns of the end.  What an operation does to a whole list is an induction over the list,
     with one of these parts as its step.

  3. **Places of polls.**  A blocking poll on this thread begins at the end of the list, and must be
     found there again when its time is over.  So the length of the list is followed through
     everything that happens in between (`length_pollers_spawnPoll`), and `ended_expire` says that
     the poll at that place has ended.

  4. **Operations and sessions.**  `Rests.step` has one case for each operation, and `run_reachable`
     is the induction over the operations.  `session_each` is the other induction over a session: a
     law that relates each step to all the steps before it.
-/
import TxRelay.Engine.Session
import TxRelay.Proofs.Engine.ExactlyOnce

namespace TxRelay.Engine

variable {validate : Validate} {pollInterval : UInt64} {e : Engine}

/-- The engine of some moment at which every task that there is has called the network. -/
def Rests (validate : Validate) (pollInterval : UInt64) (e : Engine) : Prop :=
  ∃ m, Reachable validate pollInterval m ∧ m.engine = e ∧ m.spawned = [] ∧
    m.dispatching = decide (e.phase = .working)

/-- A new engine rests: nothing was accepted, and no dispatcher runs. -/
theorem Rests.new : Rests validate pollInterval { pollInterval := pollInterval } :=
  ⟨.initial pollInterval, .initial, rfl, rfl, rfl⟩

/-! ## Handing jobs on -/

/-- The dispatcher spawns a task for the oldest request, and the task calls the network. -/
theorem Rests.dispatchOne {job : Job} {rest : List Job} (h : Rests validate pollInterval e)
    (works : e.phase = .working) (head : e.queue = job :: rest) :
    Rests validate pollInterval
      { e with queue := rest, broadcasting := e.broadcasting ++ [job] } := by
  obtain ⟨m, hm, rfl, hspawned, hdispatching⟩ := h
  have hruns : m.dispatching = true := by rw [hdispatching, works]; rfl
  have hspawn := hm.step (.receive hruns head)
  have hcall := hspawn.step (@Step.call _ _ job (by simp))
  refine ⟨_, hcall, rfl, ?_, hdispatching⟩
  show (m.spawned ++ [job]).erase job = []
  rw [hspawned, List.nil_append, List.erase_cons_head]

/-- All that is queued is handed on, one job after the other. -/
theorem Rests.dispatch (h : Rests validate pollInterval e) :
    Rests validate pollInterval e.dispatch := by
  unfold Engine.dispatch
  split
  · rename_i hworks
    -- on the queue: its head becomes the last of the broadcasts
    induction hqueue : e.queue generalizing e with
    | nil =>
      have hsame : { e with broadcasting := e.broadcasting ++ [], queue := [] } = e := by
        rw [List.append_nil, ← hqueue]
      rw [hsame]
      exact h
    | cons job rest ih =>
      have hnext := ih (h.dispatchOne hworks hqueue) hworks rfl
      rw [List.append_cons]
      exact hnext
  · exact h

/-- A submission is one step, refused or accepted, and the job is then handed on if the engine
    works. -/
theorem Rests.submit {r : Request} (h : Rests validate pollInterval e) :
    Rests validate pollInterval (Engine.submit validate r e).2 := by
  obtain ⟨m, hm, rfl, hspawned, hdispatching⟩ := h
  unfold Engine.submit
  split
  · exact ⟨m, hm, rfl, hspawned, hdispatching⟩
  · rename_i hlive
    have live : m.Live := fun hgone => hlive hgone
    split
    · rename_i err hbad
      exact ⟨_, hm.step (.refuse live hbad), rfl, hspawned, hdispatching⟩
    · rename_i hok
      have hqueued : Rests validate pollInterval (m.engine.enqueue r) :=
        ⟨_, hm.step (.submit live hok), rfl, hspawned, hdispatching⟩
      exact hqueued.dispatch

/-- The engine begins to work, spawns the dispatcher, and the dispatcher hands on what was queued.
    -/
theorem Rests.startWorking (h : Rests validate pollInterval e) :
    Rests validate pollInterval e.startWorking.2 := by
  cases hphase : e.phase with
  | working => simpa only [Engine.startWorking, hphase] using h
  | destroyed => simpa only [Engine.startWorking, hphase] using h
  | created =>
    obtain ⟨m, hm, rfl, hspawned, -⟩ := h
    have hworks : Rests validate pollInterval { m.engine with phase := .working } :=
      ⟨_, hm.step (.start hphase), rfl, hspawned, rfl⟩
    simpa only [Engine.startWorking, hphase] using hworks.dispatch

/-! ## Receipts and polls -/

/-- If a poll waits, then ending the first that waits is ending the one at its place. -/
theorem endFirst_eq_set (result : PollResult) (pollers : List Poller)
    (h : (pollers.any fun | .waiting => true | .ended _ => false) = true) :
    ∃ i, pollers[i]? = some .waiting ∧
      endFirst result pollers = pollers.set i (.ended result) := by
  induction pollers with
  | nil => simp at h
  | cons poller rest ih =>
    cases poller with
    | waiting => exact ⟨0, rfl, rfl⟩
    | ended r =>
      obtain ⟨i, hi, hset⟩ := ih (by simpa using h)
      exact ⟨i + 1, hi, by simp [endFirst, hset]⟩

/-- A receipt is taken, and the phase stays. -/
theorem receive?_frame {e' : Engine} {result : PollResult}
    (h : e.receive? = some (result, e')) : e'.pollers = e.pollers ∧ e'.phase = e.phase := by
  rcases receive?_some h with ⟨r, rest, -, -, rfl⟩ | ⟨-, -, -, rfl⟩
  · exact ⟨rfl, rfl⟩
  · exact ⟨rfl, rfl⟩

/-- The first poll that waits takes the oldest receipt, if there are both. -/
theorem Rests.handOver (h : Rests validate pollInterval e) :
    Rests validate pollInterval e.handOver := by
  unfold Engine.handOver
  split
  · rename_i hwaits
    split
    · exact h
    · rename_i result e' hfound
      obtain ⟨m, hm, rfl, hspawned, hdispatching⟩ := h
      obtain ⟨hpollers, hphase⟩ := receive?_frame hfound
      obtain ⟨i, hi, hset⟩ := endFirst_eq_set result m.engine.pollers hwaits
      have htaken := hm.step (.take hi hfound)
      refine ⟨_, htaken, ?_, hspawned, ?_⟩
      · show { e' with pollers := e'.pollers.set i (.ended result) } = _
        rw [hpollers, hset]
      · show m.dispatching = decide (e'.phase = .working)
        rw [hphase, hdispatching]
  · exact h

/-- The time of a poll that waits is over; any other place of the list stays as it is. -/
theorem Rests.expire {i : Nat} (h : Rests validate pollInterval e) :
    Rests validate pollInterval (e.expire i) := by
  unfold Engine.expire
  split
  · rename_i hwaits
    obtain ⟨m, hm, rfl, hspawned, hdispatching⟩ := h
    exact ⟨_, hm.step (.expire hwaits), rfl, hspawned, hdispatching⟩
  · exact h

/-- A poll begins to wait. -/
theorem Rests.await (h : Rests validate pollInterval e) :
    Rests validate pollInterval { e with pollers := e.pollers ++ [.waiting] } := by
  obtain ⟨m, hm, rfl, hspawned, hdispatching⟩ := h
  exact ⟨_, hm.step .await, rfl, hspawned, hdispatching⟩

/-- A poll of a destroyed engine learns so. -/
theorem Rests.wake {i : Nat} (h : Rests validate pollInterval e) (gone : e.phase = .destroyed)
    (waits : e.pollers[i]? = some .waiting) :
    Rests validate pollInterval
      { e with pollers := e.pollers.set i (.ended (.error .destroyed)) } := by
  obtain ⟨m, hm, rfl, hspawned, hdispatching⟩ := h
  exact ⟨_, hm.step (.wake (fun live => live gone) waits), rfl, hspawned, hdispatching⟩

/-- The caller of a poll that ended goes on. -/
theorem Rests.leave {i : Nat} {result : PollResult} (h : Rests validate pollInterval e)
    (ended : e.pollers[i]? = some (.ended result)) :
    Rests validate pollInterval { e with pollers := e.pollers.eraseIdx i } := by
  obtain ⟨m, hm, rfl, hspawned, hdispatching⟩ := h
  exact ⟨_, hm.step (.leave ended), rfl, hspawned, hdispatching⟩

/-- A blocking poll begins: it learns that the engine is gone, or waits and is served at once if a
    receipt is there. -/
theorem Rests.spawnPoll (h : Rests validate pollInterval e) :
    Rests validate pollInterval e.spawnPoll := by
  unfold Engine.spawnPoll
  split
  · rename_i hphase
    have hwoken := h.await.wake (i := e.pollers.length) hphase (by simp)
    simpa using hwoken
  · exact h.await.handOver

/-! ### A poll and its own place -/

/-- Ending a poll leaves it in its place until its caller goes on. -/
theorem length_endFirst {result : PollResult} (pollers : List Poller) :
    (endFirst result pollers).length = pollers.length := by
  induction pollers with
  | nil => rfl
  | cons poller rest ih =>
    cases poller with
    | waiting => rfl
    | ended r => exact congrArg (· + 1) ih

/-- So does serving one. -/
theorem length_pollers_handOver : e.handOver.pollers.length = e.pollers.length := by
  unfold Engine.handOver
  split
  · split
    · rfl
    · rename_i result e' hfound
      show (endFirst result e'.pollers).length = e.pollers.length
      rw [length_endFirst, (receive?_frame hfound).1]
  · rfl

/-- The poll that begins stands behind the others. -/
theorem length_pollers_spawnPoll : e.spawnPoll.pollers.length = e.pollers.length + 1 := by
  unfold Engine.spawnPoll
  split
  · simp
  · rw [length_pollers_handOver]
    simp

/-- A poll whose time is over has ended. -/
theorem ended_expire {i : Nat} (hi : i < e.pollers.length) :
    (e.expire i).pollers.length = e.pollers.length ∧
      ∃ result, (e.expire i).pollers[i]? = some (.ended result) := by
  have hget := List.getElem?_eq_getElem hi
  unfold Engine.expire
  split
  · simp [hi]
  · rename_i hnot
    refine ⟨rfl, ?_⟩
    cases hpoller : e.pollers[i] with
    | waiting => exact absurd (hget.trans (congrArg some hpoller)) hnot
    | ended result => exact ⟨result, hget.trans (congrArg some hpoller)⟩

/-- A blocking poll on this thread begins, ends at the latest when its time is over, and its caller
    goes on. -/
theorem Rests.pollBlocking (h : Rests validate pollInterval e) :
    Rests validate pollInterval e.pollBlocking.2 := by
  have hexpired : Rests validate pollInterval (e.spawnPoll.expire e.pollers.length) :=
    h.spawnPoll.expire
  have hplace : e.pollers.length < e.spawnPoll.pollers.length := by
    rw [length_pollers_spawnPoll]; omega
  obtain ⟨hlength, result, hended⟩ := ended_expire hplace
  have hlast : (e.spawnPoll.expire e.pollers.length).pollers.length ≤ e.pollers.length + 1 := by
    exact Nat.le_of_eq (hlength.trans length_pollers_spawnPoll)
  have hleft := hexpired.leave hended
  -- the poll is the last of the list, so that those before it are all the others
  rw [List.eraseIdx_eq_take_drop_succ, List.drop_eq_nil_of_le hlast, List.append_nil] at hleft
  exact hleft

/-- A poll that does not wait takes a receipt in one step, or takes none. -/
theorem Rests.pollNonblocking (h : Rests validate pollInterval e) :
    Rests validate pollInterval e.pollNonblocking.2 := by
  unfold Engine.pollNonblocking
  split
  · exact h
  · rename_i hlive
    split
    · exact h
    · cases hfound : e.receive? with
      | none => exact h
      | some found =>
        obtain ⟨result, e'⟩ := found
        obtain ⟨m, hm, rfl, hspawned, hdispatching⟩ := h
        refine ⟨_, hm.step (.find hlive hfound), rfl, hspawned, ?_⟩
        show m.dispatching = decide (e'.phase = .working)
        rw [(receive?_frame hfound).2, hdispatching]

/-- The caller of the first poll goes on if the poll has ended. -/
theorem Rests.joinPoll (h : Rests validate pollInterval e) :
    Rests validate pollInterval e.joinPoll.2 := by
  unfold Engine.joinPoll
  split
  · rename_i result rest hpollers
    have hleft := h.leave (i := 0) (by rw [hpollers]; rfl)
    simpa [hpollers] using hleft
  · exact h

/-- A broadcast ends, its receipt is queued, and a poll that waits takes the oldest one. -/
theorem Rests.finish {number : Nat} {outcome : BroadcastResult}
    (h : Rests validate pollInterval e) :
    Rests validate pollInterval (e.finish number outcome).2 := by
  unfold Engine.finish
  split
  · exact h
  · rename_i job hjob
    have held : job ∈ e.broadcasting := List.mem_of_find?_eq_some hjob
    obtain ⟨m, hm, rfl, hspawned, hdispatching⟩ := h
    have hanswered : Rests validate pollInterval (m.engine.complete job outcome) :=
      ⟨_, hm.step (.answer held), rfl, hspawned, hdispatching⟩
    exact hanswered.handOver

/-! ## The end -/

/-- The tasks of a destroyed engine end one after the other. -/
theorem Rests.abandonAll (h : Rests validate pollInterval e) (gone : e.phase = .destroyed) :
    Rests validate pollInterval { e with broadcasting := [] } := by
  -- on the broadcasts: the task of the first of them ends
  induction htasks : e.broadcasting generalizing e with
  | nil => rwa [← htasks]
  | cons job rest ih =>
    obtain ⟨m, hm, rfl, hspawned, hdispatching⟩ := h
    have hnext : Rests validate pollInterval { m.engine with broadcasting := rest } := by
      refine ⟨_, hm.step (@Step.abandon _ _ job (fun live => live gone)), ?_, ?_, hdispatching⟩
      · show { m.engine with broadcasting := m.engine.broadcasting.erase job } = _
        rw [htasks, List.erase_cons_head]
      · show m.spawned.erase job = []
        rw [hspawned, List.erase_nil]
    have hall := ih hnext gone rfl
    exact hall

/-- The polls that wait on a destroyed engine learn so one after the other. -/
theorem Rests.wakeAll (done rest : List Poller) (gone : e.phase = .destroyed)
    (h : Rests validate pollInterval { e with pollers := done ++ rest }) :
    Rests validate pollInterval { e with pollers := done ++ rest.map Poller.wake } := by
  -- on the polls that were not reached yet
  induction rest generalizing done with
  | nil => exact h
  | cons poller rest ih =>
    have hone : Rests validate pollInterval
        { e with pollers := (done ++ [poller.wake]) ++ rest } := by
      cases poller with
      | waiting =>
        have hwoken := h.wake (i := done.length) gone (by simp)
        simpa [Poller.wake] using hwoken
      | ended result => simpa [Poller.wake] using h
    have hall := ih (done ++ [poller.wake]) hone
    rw [List.append_assoc] at hall
    exact hall

/-- The engine is destroyed, the dispatcher and the tasks end, and the polls that wait learn of it.
    -/
theorem Rests.destroy (h : Rests validate pollInterval e) :
    Rests validate pollInterval e.destroy.2 := by
  unfold Engine.destroy
  split
  · exact h
  · rename_i hlive
    obtain ⟨m, hm, rfl, hspawned, -⟩ := h
    -- the dispatcher ends first, so that no task is spawned any more
    have hstopped : Rests validate pollInterval
        { m.engine with phase := .destroyed, queue := [] } :=
      ⟨_, (hm.step (.destroy hlive)).step (.stop (fun live => live rfl)), rfl, hspawned, rfl⟩
    have habandoned := hstopped.abandonAll rfl
    exact @Rests.wakeAll _ _ { m.engine with phase := .destroyed, queue := [], broadcasting := [] }
      [] m.engine.pollers rfl habandoned

/-! ## Sessions -/

section

variable {network : StandIn}

/-! The engine after an operation is the one that the operation's own part leaves; the rest of a
    step only words the answer. -/

theorem step_startWorking : (Engine.step network e .startWorking).2 = e.startWorking.2 := by
  unfold Engine.step
  dsimp only
  split
  · rename_i heq
    rw [heq]
  · rename_i heq
    rw [heq]

theorem step_submit (r : Request) :
    (Engine.step network e (.submit r)).2 = (Engine.submit network.validate r e).2 := by
  unfold Engine.step
  dsimp only
  split
  · rename_i heq
    rw [heq]
  · rename_i heq
    rw [heq]

theorem step_joinPoll : (Engine.step network e .joinPoll).2 = e.joinPoll.2 := by
  unfold Engine.step
  dsimp only
  split
  · rename_i heq
    rw [heq]
  · rename_i heq
    rw [heq]

theorem step_balance (q : BalanceQuery) : (Engine.step network e (.balance q)).2 = e := by
  unfold Engine.step
  dsimp only
  split <;> rfl

/-- A poll that begins on another thread waits, or its time is over at once. -/
theorem spawnTimedPoll_cases (e : Engine) :
    e.spawnTimedPoll = e.spawnPoll.expire e.pollers.length ∨ e.spawnTimedPoll = e.spawnPoll := by
  unfold Engine.spawnTimedPoll
  dsimp only
  split
  · exact .inl rfl
  · exact .inr rfl

end

/-- Every operation of a session takes one resting engine to another one. -/
theorem Rests.step {network : StandIn} (h : Rests network.validate pollInterval e) (op : Op) :
    Rests network.validate pollInterval (Engine.step network e op).2 := by
  cases op with
  | startWorking =>
    rw [step_startWorking]
    exact h.startWorking
  | submit r =>
    rw [step_submit]
    exact h.submit
  | pollBlocking => exact h.pollBlocking
  | pollNonblocking => exact h.pollNonblocking
  | spawnPoll =>
    show Rests network.validate pollInterval e.spawnTimedPoll
    rcases spawnTimedPoll_cases e with hshort | hlong
    · rw [hshort]
      exact h.spawnPoll.expire
    · rw [hlong]
      exact h.spawnPoll
  | joinPoll =>
    rw [step_joinPoll]
    exact h.joinPoll
  | finish job outcome => exact h.finish
  | balance q =>
    rw [step_balance]
    exact h
  | pollInterval => exact h
  | debug => exact h
  | destroy => exact h.destroy

/-- **Every engine of a session is that of a moment which steps lead to.** -/
theorem run_reachable (network : StandIn) (ops : List Op) :
    ∀ entry ∈ run network { pollInterval := pollInterval } ops,
      Rests network.validate pollInterval entry.2 := by
  -- the induction needs any resting engine, not only the new one
  have hrun (e : Engine) (h : Rests network.validate pollInterval e) :
      ∀ entry ∈ run network e ops, Rests network.validate pollInterval entry.2 := by
    induction ops generalizing e with
    | nil =>
      intro entry hentry
      cases hentry
    | cons op ops ih =>
      intro entry hentry
      rcases List.mem_cons.mp hentry with rfl | hlater
      · exact h.step op
      · exact ih _ (h.step op) entry hlater
  exact hrun _ Rests.new

/-! ## Laws of a run -/

/-- A session has one entry for each operation. -/
theorem length_session (network : StandIn) (e : Engine) (ops : List Op) :
    (session network e ops).length = ops.length := by
  induction ops generalizing e with
  | nil => rfl
  | cons op ops ih => exact congrArg (· + 1) (ih (Engine.step network e op).2)

/-- A law of all steps of a run, if each step obeys it and keeps what must be known for the
    next. -/
theorem session_each {network : StandIn} {Law : List Entry → Entry → Prop}
    {Known : List Entry → Engine → Prop}
    (step : ∀ trail e op, Known trail e →
      Law trail (.perform network e op) ∧
        Known (trail ++ [.perform network e op]) (Engine.step network e op).2)
    (known : Known [] e) (ops : List Op) : Log.Each Law (session network e ops) :=
  Log.each_run (fun _ => rfl) (fun _ _ _ => rfl) step known ops

end TxRelay.Engine
