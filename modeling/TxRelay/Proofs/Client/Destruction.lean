/-
  A destroyed client stays destroyed, and only a destroyed client says so.

  1. **What calls answer.**  `Terminal` says of each entry of the log what the calls of `destroy`
     before it mean for it.  Seven operations reach the engine on different ways, and each way has
     its own translation of the engine's errors; they agree because client and engine are destroyed
     in one step of the client, so no call of a live client meets a destroyed engine
     (`Effect.honest`, one case for each effect that a call can have).

  2. **What is left to do.**  After `destroy` the callback that runs makes its last calls, the loop
     ends, and broadcasts that were under way end.  `Moment.remaining` counts these; each step takes
     something off (`Happens.remaining_lt`), and when nothing is left no loop runs.

  3. **Callbacks.**  Here the step from one moment to the next is too coarse: in it a loop looks at
     its orders, polls and begins the callback at once, and a call from outside finds it before or
     after.  Between threads the call may come in the midst of a round.  Then the loop of a call of
     `run`, for which `destroy` does not wait, begins one more callback after `destroy` has answered
     (`begun_after_destroy`).  So what is said of callbacks is said of `Threads`, where every load
     and every poll is a step of its own: `destroy` leaves a loop its last round (`LastRound`).
-/
import TxRelay.Proofs.Client.LastRound
import TxRelay.Proofs.Client.Ledger

namespace TxRelay.Client

variable {config : Config} {network : Network} {m m' : Moment}

/-! ## The law of destruction -/

/-- What a call answers, before and after `destroy` was called. -/
structure Honest (before : List Event) (call : ClientCall) (answer : ClientAnswer) : Prop where
  /-- The first call of `destroy` destroys, the others do not. -/
  first : call = .destroy → (answer = .flag true ↔ ¬ DestroyCalled before) ∧
    (answer = .flag false ↔ DestroyCalled before)
  /-- A call is refused as too late if it is too late, and for no other reason. -/
  refused : Guarded call → (answer = .failed .destroyed ↔ DestroyCalled before)
  /-- The engine's own word for it stays inside. -/
  inside : answer ≠ .failed (.engine .destroyed) ∧
    ∀ jobId, answer ≠ .failed (.rejected jobId .destroyed)
  state : call = .state → (answer = .text "Destroyed" ↔ DestroyCalled before)

/-- What `destroy` means for all that comes after it. -/
def Terminal (before : List Event) : Event → Prop
  | .called call answer => Honest before call answer
  | .loopEnded result => result = .ok ()
  | .began _ _ => True
  | .ended _ _ => True

/-- A client shows that it is destroyed once `destroy` was called. -/
theorem Roles.phase (h : Roles m) : m.client.phase = .destroyed ↔ DestroyCalled m.log := by
  have hengine := h.whole.alive
  have halive := h.alive
  cases hc : m.client.alive with
  | true =>
    have hlive := hengine.mp hc
    simp only [Client.phase, hc, if_true]
    exact iff_of_false hlive (halive.mp hc)
  | false =>
    simp only [Client.phase, hc, Bool.false_eq_true, if_false, true_iff]
    exact not_not.mp fun hnot => absurd (halive.mpr hnot) (by simp [hc])

/-- The name of a phase tells the destroyed one from the others. -/
theorem name_eq_destroyed {phase : Phase} : phase.name = "Destroyed" ↔ phase = .destroyed := by
  cases phase <;> simp [Phase.name]

/-- A live client answers anything but that it is destroyed. -/
theorem Honest.of_live {before : List Event} {call : ClientCall} {answer : ClientAnswer}
    (live : ¬ DestroyCalled before) (other : call ≠ .destroy ∧ call ≠ .state)
    (answers : answer ≠ .failed .destroyed)
    (inside : answer ≠ .failed (.engine .destroyed) ∧
      ∀ jobId, answer ≠ .failed (.rejected jobId .destroyed)) : Honest before call answer where
  first := fun h => absurd h other.1
  refused := fun _ => iff_of_false answers live
  inside := inside
  state := fun h => absurd h other.2

/-- Some calls are never refused. -/
theorem Honest.of_unguarded {before : List Event} {call : ClientCall} {answer : ClientAnswer}
    (free : ¬ Guarded call) (other : call ≠ .destroy ∧ call ≠ .state)
    (inside : ∀ e, answer ≠ .failed e) : Honest before call answer where
  first := fun h => absurd h other.1
  refused := fun h => absurd h free
  inside := ⟨inside _, fun _ => inside _⟩
  state := fun h => absurd h other.2

/-- Each end of a call is in keeping with the calls of `destroy` before it. -/
theorem Effect.honest {call : ClientCall} {answer : ClientAnswer} {d : Client} (roles : Roles m)
    (h : Effect m.client call answer d) : Honest m.log call answer := by
  have hlive (live : m.client.alive = true) : ¬ DestroyCalled m.log := roles.alive.mp live
  have hdead (dead : m.client.alive = false) : DestroyCalled m.log :=
    not_not.mp fun hnot => absurd (roles.alive.mpr hnot) (by simp [dead])
  cases h with
  -- only here a call says that the client is destroyed, and it is
  | gone guarded dead =>
    refine ⟨?_, fun _ => iff_of_true rfl (hdead dead), ⟨by simp, by simp⟩, ?_⟩
    · rintro rfl
      exact absurd guarded id
    · rintro rfl
      exact absurd guarded id
  | set live => exact .of_live (hlive live) (by simp) (by simp) (by simp)
  | start live _ _ => exact .of_live (hlive live) (by simp) (by simp) (by simp)
  | run live _ _ => exact .of_live (hlive live) (by simp) (by simp) (by simp)
  | barred takes live why =>
    refine .of_live (hlive live) ?_ ?_ ?_
    · rcases takes with rfl | rfl <;> simp
    · rcases why with rfl | rfl <;> simp
    · rcases why with rfl | rfl <;> simp
  | queued live => exact .of_live (hlive live) (by simp) (by simp) (by simp)
  | rejected live why =>
    refine .of_live (hlive live) (by simp) (by simp) ⟨by simp, fun jobId heq => ?_⟩
    simp only [ClientAnswer.failed.injEq, ClientError.rejected.injEq] at heq
    exact why heq.2
  | balance live tells =>
    refine .of_live (hlive live) (by simp) ?_ ?_
    · rcases tells with ⟨text, rfl⟩ | ⟨e, rfl⟩ <;> simp
    · rcases tells with ⟨text, rfl⟩ | ⟨e, rfl⟩ <;> simp
  | stats live => exact .of_live (hlive live) (by simp) (by simp) (by simp)
  | stop => exact .of_unguarded id (by simp) (by simp)
  | isRunning => exact .of_unguarded id (by simp) (by simp)
  | defaultEndpoint => exact .of_unguarded id (by simp) (by simp)
  | debug => exact .of_unguarded id (by simp) (by simp)
  | state =>
    refine ⟨by simp, fun guarded => absurd guarded id, by simp, fun _ => ?_⟩
    rw [ClientAnswer.text.injEq, name_eq_destroyed]
    exact roles.phase
  -- the first call of `destroy` says yes, the others say no
  | destroy live =>
    refine ⟨fun _ => ⟨iff_of_true rfl (hlive live), iff_of_false (by simp) (hlive live)⟩,
      fun guarded => absurd guarded id, by simp, by simp⟩
  | destroyAgain dead =>
    have hcalled := hdead dead
    refine ⟨fun _ => ⟨iff_of_false (by simp) (not_not.mpr hcalled), iff_of_true rfl hcalled⟩,
      fun guarded => absurd guarded id, by simp, by simp⟩

/-- What a step writes down is in keeping with them. -/
theorem Terminal.step (h : Log.Each Terminal m.log) (roles : Roles m) (next : Step m m') :
    Log.Each Terminal m'.log := by
  cases next with
  | call call => exact h.snoc ((perform_effect roles.whole call).honest roles)
  | finish goes => exact h.snoc trivial
  | happens next =>
    cases next with
    | begin free runs round set => exact h.snoc trivial
    | drop free runs round unset => exact h
    | stop free runs round => exact h.snoc (round_ends roles.whole round).2.1
    | call busy => exact h.snoc ((perform_effect roles.whole _).honest roles)
    | «return» busy => exact h
    | hear head answer => exact h.snoc trivial

/-- Every entry of a log is in keeping with the calls of `destroy` before it. -/
theorem Reachable.terminal (h : Reachable config network m) : Log.Each Terminal m.log := by
  induction h with
  | initial => exact Log.Each.nil
  | step before next ih => exact Terminal.step ih before.roles next

/-! ## After the end -/

/-- What a destroyed client can still do: calls of the callback that runs and its return, the end
    of the loop, and the ends of broadcasts. -/
def Moment.remaining (m : Moment) : Nat :=
  m.client.engine.broadcasting.length + (if m.client.isRunning then 1 else 0) +
    match m.busy with
    | none => 0
    | some busy => busy.calls.length + 1

/-- A call on a destroyed client leaves loop and engine as they are. -/
theorem Effect.dead {c d : Client} {call : ClientCall} {answer : ClientAnswer}
    (h : Effect c call answer d) (dead : c.alive = false) :
    d.isRunning = c.isRunning ∧ d.engine = c.engine := by
  cases h with
  | gone _ _ => exact ⟨rfl, rfl⟩
  | set live => exact ⟨rfl, rfl⟩
  | start live _ _ => exact absurd live (by simp [dead])
  | run live _ _ => exact absurd live (by simp [dead])
  | barred _ live _ => exact ⟨rfl, rfl⟩
  | stop => exact ⟨rfl, rfl⟩
  | queued live => exact absurd live (by simp [dead])
  | rejected live _ => exact absurd live (by simp [dead])
  | balance live _ => exact ⟨rfl, rfl⟩
  | stats live => exact ⟨rfl, rfl⟩
  | state => exact ⟨rfl, rfl⟩
  | isRunning => exact ⟨rfl, rfl⟩
  | defaultEndpoint => exact ⟨rfl, rfl⟩
  | debug => exact ⟨rfl, rfl⟩
  | destroy live => exact absurd live (by simp [dead])
  | destroyAgain _ => exact ⟨rfl, rfl⟩

/-- Each thing that happens to a destroyed client leaves less to happen. -/
theorem Happens.remaining_lt (roles : Roles m) (called : DestroyCalled m.log)
    (next : Happens m m') : m'.remaining < m.remaining := by
  have hdead : m.client.alive = false := by
    rw [← Bool.not_eq_true, roles.alive]
    exact not_not.mpr called
  have hend : m.client.mustEnd = true := by simp [mustEnd, hdead]
  -- a loop that must end takes no receipt, so that `begin` and `drop` cannot happen
  cases next with
  | begin free runs round set =>
    obtain ⟨hgoes, -⟩ := round_takes roles.whole round
    rw [hend] at hgoes
    cases hgoes
  | drop free runs round unset =>
    obtain ⟨hgoes, -⟩ := round_takes roles.whole round
    rw [hend] at hgoes
    cases hgoes
  | stop free runs round =>
    obtain ⟨-, -, rfl⟩ := round_ends roles.whole round
    simp [Moment.remaining, endLoop, isRunning, free] at runs ⊢
    simp [runs]
  | @call call rest panics busy =>
    obtain ⟨hloop, hengine⟩ := (perform_effect roles.whole call).dead hdead
    simp only [Moment.remaining, Moment.make, Moment.note, hloop, hengine, busy,
      List.length_cons]
    omega
  | @«return» panics busy =>
    have hsame : (m.client.afterwards panics).engine.broadcasting =
        m.client.engine.broadcasting ∧
        (m.client.afterwards panics).isRunning = m.client.isRunning := by
      cases panics <;> exact ⟨rfl, rfl⟩
    simp only [Moment.remaining, hsame.1, hsame.2, busy]
    omega
  | @hear job rest outcome network head answer =>
    have hfinish := Engine.finish_head roles.whole.alone outcome head
    have hfewer : (m.client.engine.finish job.number outcome).2.broadcasting = rest := by
      rw [hfinish]
      show m.client.engine.broadcasting.erase job = rest
      rw [head, List.erase_cons_head]
    have hshorter : (m.client.engine.finish job.number outcome).2.broadcasting.length <
        m.client.engine.broadcasting.length := by
      rw [hfewer, head]
      exact Nat.lt_succ_self _
    exact Nat.add_lt_add_right (Nat.add_lt_add_right hshorter _) _

/-- `destroy` answers `true` only on a client that it destroyed. -/
theorem Threads.Orderly.destroyed {s : Threads} {t : Thread} (h : s.Orderly)
    (answered : .destroyed t true ∈ s.log) : s.client.alive = false :=
  (h.looked (h.answered t answered).1).1

/-- **Destruction is terminal.**  Whatever calls were made from outside and inside callbacks: the
    first call of `destroy` answers `true` and all others `false`; the guarded calls are refused
    as too late exactly after a call of `destroy`, and the engine's own error for it never shows;
    every loop ends without an error.  The client says "destroyed" exactly since then; each thing
    that still happens leaves less to happen, and when nothing is left no callback and no loop
    runs.

    In any order of the steps of any threads: a client whose engine was swapped out stays so, and
    that is long before `destroy` answers.  From there on at most one callback begins, that of the
    round which a loop was in; none if no loop was past its look at the engine, if a callback was
    running, or once the worker that ran the loop has left it, for which `destroy` waits if it
    finds the worker's handle. -/
theorem destruction_terminal {s : Threads} (h : Reachable config network m)
    (hs : Threads.Reachable config network s) :
    (Log.Each Terminal m.log ∧
      (m.client.phase = .destroyed ↔ DestroyCalled m.log) ∧
      (DestroyCalled m.log →
        (∀ m', Happens m m' → m'.remaining < m.remaining) ∧
        (m.Settled → m.busy = none ∧ m.client.isRunning = false))) ∧
    (∀ t, .destroyed t true ∈ s.log → s.client.alive = false) ∧
    (s.client.alive = false →
      (∀ s', Threads.Path s s' → s'.client.alive = false) ∧ s.LastRound .engine) ∧
    (∀ t k s' frames, Does s t (.joining .destroy (.wait k)) s' frames →
      s.stack (.worker k) = []) := by
  have roles := h.roles
  refine ⟨⟨h.terminal, roles.phase, fun called => ?_⟩,
    fun t answered => hs.orderly.destroyed answered,
    fun gone => ⟨fun s' path => path.told_engine gone, hs.lastRound gone⟩,
    fun t k s' frames does => does.join_over⟩
  refine ⟨fun m' next => next.remaining_lt roles called, fun settled => ?_⟩
  obtain ⟨hfree, hwaits⟩ := settled.idle roles
  refine ⟨hfree, ?_⟩
  have hdead : m.client.alive = false := by
    rw [← Bool.not_eq_true, roles.alive]
    exact not_not.mpr called
  cases hrunning : m.client.isRunning with
  | false => rfl
  | true =>
    obtain ⟨hgoes, -⟩ := hwaits hrunning
    simp [mustEnd, hdead] at hgoes

/-- The loop of a call of `run` has a receipt in hand when another thread's call of `destroy`
    answers `true`. -/
theorem destroyed_in_hand : ∃ s, Threads.Reachable {} (.standIn {}) s ∧
    .destroyed (.outside 1) true ∈ s.log ∧ s.client.callback.isSome = true ∧
    s.stack (.outside 0) = [.looping .callback] ∧ s.stack (.outside 1) = [] := by
  obtain ⟨s, r, e, hs, there, hset, unlocked, hhandle, hready, hpoll, hfree⟩ :=
    Threads.polling_alone
  have htaken := hs.step (.does hpoll (.poll hready))
  have hdestroyed := htaken.path (Threads.destroy_alone (t := .outside 1)
    (Or.inl ⟨by simpa using hfree, 1, rfl⟩) unlocked
    (fun k hk => by cases hhandle.symm.trans hk) there)
  refine ⟨_, hdestroyed, ?_, ?_, ?_, ?_⟩
  · simp [Threads.joined, hhandle]
  · simpa [perform, Client.destroy, Threads.joined, there] using hset
  · simp [Threads.joined, hhandle]
  · simpa [Threads.joined, hhandle] using hfree

/-- A callback begins after `destroy` answered `true`: the loop of `run` had its receipt in hand. -/
theorem begun_after_destroy : ∃ s s', Threads.Reachable {} (.standIn {}) s ∧
    .destroyed (.outside 1) true ∈ s.log ∧ s.stack (.outside 0) = [.looping .callback] ∧
    s.Leads .engine 1 s' ∧ s'.stack (.outside 0) = [.calling, .looping .orders] := by
  obtain ⟨s, hs, answered, hset, hhand, -⟩ := destroyed_in_hand
  have gone : s.Told .engine := hs.orderly.destroyed answered
  have hbegin : Threads.Step s (s.put (.outside 0) [.calling, .looping .orders]) :=
    .does hhand (.begin (Option.isSome_iff_ne_none.mp hset))
  have hbegins : s.Begins (s.put (.outside 0) [.calling, .looping .orders]) :=
    ⟨.outside 0, [], hhand, by simp⟩
  exact ⟨s, _, hs, answered, hhand, .begin .refl hbegin (hbegin.told_engine gone) hbegins, by simp⟩

/-- A callback of a loop of `run` destroys the client, asks for its counters and returns; the loop
    ends. -/
def farewell : Moment :=
  let m := Moment.initial {} (.standIn {})
  let m := m.make (.setCallback "last" (fun _ => [.destroy, .stats]) (fun _ => false))
  let m := m.make .run
  let m := m.make (.broadcast [1] (some "http://[::1]:8545") ⟨"job"⟩)
  let m := m.hear (.standIn {}) 0 (.error (.rpc "busy"))
  let m := { m with client := m.client.round.2 }.begin
    ⟨"last", fun _ => [.destroy, .stats], fun _ => false⟩
    (.ofOutcome ⟨"job"⟩ (.error (.rpc "busy")))
  let m := { m with busy := some ⟨[.stats], false⟩ }.make .destroy
  let m := { m with busy := some ⟨[], false⟩ }.make .stats
  let m := { m with client := m.client.afterwards false, busy := none }
  { m with client := m.client.round.2 }.note (.loopEnded (.ok ()))

/-- It can be reached: its deeds are plain. -/
theorem farewell_reachable : Reachable {} (.standIn {}) farewell := by
  have hready := ((@Reachable.initial {} (.standIn {})).step
    (.call (.setCallback "last" (fun _ => [.destroy, .stats]) (fun _ => false)))).step
    (.call .run)
  have hended := (hready.step
    (.call (.broadcast [1] (some "http://[::1]:8545") ⟨"job"⟩))).step
    (@Step.finish _ 0 (.error (.rpc "busy")) rfl)
  have hcalling := ((hended.step (.happens (.begin rfl rfl rfl rfl))).step
    (.happens (.call rfl))).step (.happens (.call rfl))
  exact (hcalling.step (.happens (.return rfl))).step (.happens (.stop rfl rfl rfl))

/-- Nothing is left to happen in it. -/
theorem farewell_settled : farewell.Settled := by
  intro m' next
  cases next with
  | begin free runs round set => cases runs
  | drop free runs round unset => cases runs
  | stop free runs round => cases runs
  | call busy => cases busy
  | «return» busy => cases busy
  | hear head answer => cases head

/-- A client that was destroyed by its callback is at rest; another one has a receipt in hand after
    `destroy` has answered. -/
theorem destruction_terminal_farewell : ∃ s, Threads.Reachable {} (.standIn {}) s ∧
    .destroyed (.outside 1) true ∈ s.log ∧ s.stack (.outside 0) = [.looping .callback] ∧
    Reachable {} (.standIn {}) farewell ∧ DestroyCalled farewell.log ∧ farewell.Settled ∧
    Log.Each Terminal farewell.log ∧ farewell.client.phase = .destroyed ∧
    (∀ m', Happens farewell m' → m'.remaining < farewell.remaining) ∧
    farewell.busy = none ∧ farewell.client.isRunning = false ∧
    (∀ s', Threads.Path s s' → s'.client.alive = false) ∧ s.LastRound .engine := by
  obtain ⟨s, hs, answered, -, hhand, -⟩ := destroyed_in_hand
  obtain ⟨⟨heach, hphase, hafter⟩, hanswered, hgone, -⟩ :=
    destruction_terminal farewell_reachable hs
  have hcalled : DestroyCalled farewell.log := hphase.mp rfl
  obtain ⟨hless, hidle⟩ := hafter hcalled
  obtain ⟨hfree, hover⟩ := hidle farewell_settled
  obtain ⟨hstays, hlast⟩ := hgone (hanswered (.outside 1) answered)
  exact ⟨s, hs, answered, hhand, farewell_reachable, hcalled, farewell_settled, heach, rfl, hless,
    hfree, hover, hstays, hlast⟩

end TxRelay.Client
