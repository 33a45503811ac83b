/-
  Stopping, and going on where it was stopped.

  An order to stop is for the loop that runs.  Given while no loop runs, it is forgotten when the
  next is taken; given to a worker that is started again, it leaves nothing behind but the result of
  the loop that it ended.

  1. **Alike clients.**  Two clients are `Alike` if they differ in the order while no loop runs, or
     in the last result while one does.  Alike clients answer every call alike and stay alike
     (`Alike.perform`), and so do their rounds (`Alike.round`): the order is not looked at before a
     loop is taken, and taking one clears it; the result is not looked at before the loop ends, and
     its end writes a new one.

  2. **Runs side by side.**  `Beside` puts two moments next to each other whose clients are alike
     and whose logs have grown by the same events.  Every deed keeps it (`Beside.advance`), so a
     whole schedule does (`Beside.run`).

  3. **A stop that changes nothing.**  Stop and start of a worker lead from a client to an alike one
     (`perform_restart`, `alike_restarted`); a stop while no loop runs does at once.  What follows
     is part 2, in small steps (`goesOn_stop`, `goesOn_restart`) and in sessions (`shown_stop`,
     `shown_restart`).

  4. **Between two loops.**  The log says whether a loop runs (`Tells`), and a callback begins only
     while one does (`Attended`).  So nothing is handed over from the end of a loop to the next
     claim (`Reachable.nothing_handed`), and what was due by then comes first afterwards
     (`Reachable.handed_again`): the ledger of receipts at the moment of the claim and the ledger
     now are two equations with the same receipts in front.

  5. **While an order stands.**  There the steps of threads are needed.  A loop that was past its
     look at its orders when the order came goes through with that one round (`LastRound`); here
     that is put next to `stop`, which waits for a worker whose handle it finds and for nothing
     else. `begun_after_stop` is the run in which the callback begins after `stop` returned.

  The crux of the first three parts is that `Alike` is an invariant of everything that can come,
  though neither the order nor the result is the same: one of the two fields is always dead, and
  which one changes exactly when a loop is taken or ends.
-/
import Mathlib.Data.List.Induction
import TxRelay.Proofs.Client.LastRound
import TxRelay.Proofs.Client.Schedule
import TxRelay.Proofs.Client.Session

namespace TxRelay.Client

variable {config : Config} {network : Network} {c d : Client} {m m' : Moment}

/-! ## Alike clients -/

/-- The clients differ in nothing that matters: in the order to stop while no loop runs, or in
    the result of the last loop while another runs. -/
inductive Alike (c : Client) : Client → Prop where
  | idle {asked : Bool} (free : c.loop = none) : Alike c { c with stopAsked := asked }
  | busy {result : Option (Except ClientError Unit)} (runs : c.loop ≠ none) :
      Alike c { c with loopResult := result }

/-- Every client is like itself. -/
theorem Alike.refl (c : Client) : Alike c c := by
  by_cases h : c.loop = none
  · exact .idle h
  · exact .busy h

/-- What is seen of a client from outside. -/
theorem Alike.seen (h : Alike c d) :
    d.phase = c.phase ∧ d.isRunning = c.isRunning ∧ d.stats? = c.stats? := by
  cases h <;> exact ⟨rfl, rfl, rfl⟩

/-- What the clients work with is the same. -/
theorem Alike.tools (h : Alike c d) :
    d.engine = c.engine ∧ d.network = c.network ∧ d.callback = c.callback := by
  cases h <;> exact ⟨rfl, rfl, rfl⟩

/-- Alike clients have the same loop, or none. -/
theorem Alike.loop (h : Alike c d) : d.loop = c.loop := by cases h <;> rfl

/-- The result of a loop that is over is the same. -/
theorem Alike.endNews (h : Alike c d) (free : c.loop = none) : d.endNews = c.endNews := by
  cases h with
  | idle _ => rfl
  | busy runs => exact absurd free runs

/-- What the network does to the engine it does to both. -/
theorem Alike.withEngine (h : Alike c d) (network : Network) (engine : Engine) :
    Alike { c with network := network, engine := engine }
      { d with network := network, engine := engine } := by
  cases h with
  | idle free => exact .idle free
  | busy runs => exact .busy runs

/-- A callback that is over counts its panic in both. -/
theorem Alike.afterwards (h : Alike c d) (panics : Bool) :
    Alike (c.afterwards panics) (d.afterwards panics) := by
  cases panics with
  | false => exact h
  | true =>
    cases h with
    | idle free => exact .idle free
    | busy runs => exact .busy runs

/-! ### Calls -/

/-- Whoever takes the loop forgets the old orders. -/
theorem claim_withOrder (loop : Loop) (asked : Bool) :
    { c with stopAsked := asked }.claim loop = c.claim loop := rfl

/-- The claim does not look at the last result, and leaves it. -/
theorem claim_withResult (loop : Loop) (result : Option (Except ClientError Unit)) :
    { c with loopResult := result }.claim loop =
      (c.claim loop).map fun d => { d with loopResult := result } := by
  have hrunning : { c with loopResult := result }.isRunning = c.isRunning := rfl
  unfold claim
  rw [hrunning]
  split
  · rfl
  · split
    · rfl
    · split
      · rfl
      · dsimp only
        rcases c.engine.startWorking with ⟨worked, engine⟩
        cases worked <;> rfl

/-- A loop that runs is not taken again. -/
theorem claim_running (runs : c.loop ≠ none) (loop : Loop) : ∃ e, c.claim loop = .error e := by
  have hruns : c.isRunning = true := Option.isSome_iff_ne_none.mpr runs
  unfold claim
  rw [hruns]
  split
  · exact ⟨_, rfl⟩
  · split
    · exact ⟨_, rfl⟩
    · exact ⟨_, rfl⟩

/-- No call looks at the result of the last loop or writes one. -/
theorem perform_withResult (call : ClientCall) (result : Option (Except ClientError Unit)) :
    { c with loopResult := result }.perform call =
      ((c.perform call).1, { (c.perform call).2 with loopResult := result }) := by
  cases call with
  | setCallback tag calls panics =>
    simp only [perform]
    split <;> rfl
  | start =>
    simp only [perform, claim_withResult]
    cases c.claim .worker <;> rfl
  | run =>
    simp only [perform, claim_withResult]
    cases c.claim .caller <;> rfl
  | broadcast rawTx endpoint jobId =>
    simp only [perform, broadcast]
    split
    · rfl
    · rcases Engine.submit c.network.validate ⟨rawTx, endpoint.getD c.defaultEndpoint, jobId⟩
        c.engine with ⟨submitted, engine⟩
      cases submitted <;> rfl
  | balance q =>
    simp only [perform, balance]
    split
    · rfl
    · rcases c.network.balance q with ⟨reply, network⟩
      dsimp only
      cases c.engine.balance reply <;> rfl
  | stats =>
    have hstats : { c with loopResult := result }.stats? = c.stats? := rfl
    simp only [perform, hstats]
    split <;> rfl
  | destroy =>
    simp only [perform, destroy]
    split <;> rfl
  | stop => rfl
  | state => rfl
  | isRunning => rfl
  | defaultEndpoint => rfl
  | debug => rfl

/-- No call ends a loop. -/
theorem perform_running (runs : c.loop ≠ none) (call : ClientCall) :
    (c.perform call).2.loop ≠ none := by
  cases call with
  | setCallback tag calls panics =>
    simp only [perform]
    split <;> exact runs
  | start =>
    -- a second loop is refused
    obtain ⟨e, hclaim⟩ := claim_running runs .worker
    simp only [perform, hclaim]
    exact runs
  | run =>
    obtain ⟨e, hclaim⟩ := claim_running runs .caller
    simp only [perform, hclaim]
    exact runs
  | broadcast rawTx endpoint jobId =>
    simp only [perform, broadcast]
    split
    · exact runs
    · split <;> exact runs
  | balance q =>
    simp only [perform, balance]
    split
    · exact runs
    · split <;> exact runs
  | stats =>
    simp only [perform]
    split <;> exact runs
  | destroy =>
    simp only [perform, destroy]
    split <;> exact runs
  | stop => exact runs
  | state => exact runs
  | isRunning => exact runs
  | defaultEndpoint => exact runs
  | debug => exact runs

/-- While no loop runs, no call looks at the order to stop. -/
theorem perform_withOrder (free : c.loop = none) (call : ClientCall) (asked : Bool) :
    ({ c with stopAsked := asked }.perform call).1 = (c.perform call).1 ∧
      Alike (c.perform call).2 ({ c with stopAsked := asked }.perform call).2 := by
  cases call with
  | setCallback tag calls panics =>
    simp only [perform]
    split
    · exact ⟨rfl, .idle free⟩
    · exact ⟨rfl, .idle free⟩
  | start =>
    simp only [perform, claim_withOrder]
    cases c.claim .worker with
    | error e => exact ⟨rfl, .idle free⟩
    -- the loop is taken, and the order is cleared in both
    | ok d => exact ⟨rfl, .refl d⟩
  | run =>
    simp only [perform, claim_withOrder]
    cases c.claim .caller with
    | error e => exact ⟨rfl, .idle free⟩
    | ok d => exact ⟨rfl, .refl d⟩
  | broadcast rawTx endpoint jobId =>
    simp only [perform, broadcast]
    split
    · exact ⟨rfl, .idle free⟩
    · rcases Engine.submit c.network.validate ⟨rawTx, endpoint.getD c.defaultEndpoint, jobId⟩
        c.engine with ⟨submitted, engine⟩
      cases submitted <;> exact ⟨rfl, .idle free⟩
  | balance q =>
    simp only [perform, balance]
    split
    · exact ⟨rfl, .idle free⟩
    · rcases c.network.balance q with ⟨reply, network⟩
      dsimp only
      cases c.engine.balance reply <;> exact ⟨rfl, .idle free⟩
  | stats =>
    have hstats : { c with stopAsked := asked }.stats? = c.stats? := rfl
    simp only [perform, hstats]
    split <;> exact ⟨rfl, .idle free⟩
  | destroy =>
    simp only [perform, destroy]
    split
    · exact ⟨rfl, .refl _⟩
    · exact ⟨rfl, .idle free⟩
  | stop => exact ⟨rfl, .refl _⟩
  | state => exact ⟨rfl, .idle free⟩
  | isRunning => exact ⟨rfl, .idle free⟩
  | defaultEndpoint => exact ⟨rfl, .idle free⟩
  | debug => exact ⟨rfl, .idle free⟩

/-- Alike clients answer alike and stay alike. -/
theorem Alike.perform (h : Alike c d) (call : ClientCall) :
    (d.perform call).1 = (c.perform call).1 ∧ Alike (c.perform call).2 (d.perform call).2 := by
  cases h with
  | idle free => exact perform_withOrder free call _
  | busy runs =>
    rw [perform_withResult]
    exact ⟨rfl, .busy (perform_running runs call)⟩

/-! ### Rounds -/

/-- A round does not look at the result of the last loop, and the end of the loop writes its own. -/
theorem Alike.round (h : Alike c d) (runs : c.loop ≠ none) :
    d.round.1 = c.round.1 ∧ Alike c.round.2 d.round.2 := by
  cases h with
  | idle free => exact absurd free runs
  | @busy result _ =>
    have hend : { c with loopResult := result }.mustEnd = c.mustEnd := rfl
    unfold Client.round
    rw [hend]
    split
    · exact ⟨rfl, .refl _⟩
    · dsimp only
      rcases c.engine.pollBlocking with ⟨polled, engine⟩
      cases polled with
      | ok outcome => cases outcome <;> exact ⟨rfl, .busy runs⟩
      | error e => cases e <;> exact ⟨rfl, .refl _⟩

/-! ## Runs side by side -/

/-- Two moments of runs that went apart when their logs were these: since then the same was
    written down in both, and the clients are alike. -/
structure Beside (log log' : List Event) (m m' : Moment) : Prop where
  client : Alike m.client m'.client
  busy : m'.busy = m.busy
  same : ∃ events, m.log = log ++ events ∧ m'.log = log' ++ events

section

variable {log log' : List Event}

/-- The same event, written down in both. -/
theorem Beside.note (h : Beside log log' m m') (event : Event) :
    Beside log log' (m.note event) (m'.note event) := by
  obtain ⟨events, hlog, hlog'⟩ := h.same
  refine ⟨h.client, h.busy, events ++ [event], ?_, ?_⟩
  · rw [Moment.note, hlog, List.append_assoc]
  · rw [Moment.note, hlog', List.append_assoc]

/-- Alike clients, and nothing written down. -/
theorem Beside.withClient (h : Beside log log' m m') (alike : Alike c d) :
    Beside log log' { m with client := c } { m' with client := d } :=
  ⟨alike, h.busy, h.same⟩

/-- The same call. -/
theorem Beside.make (h : Beside log log' m m') (call : ClientCall) :
    Beside log log' (m.make call) (m'.make call) := by
  obtain ⟨hanswer, halike⟩ := h.client.perform call
  unfold Moment.make
  rw [hanswer]
  exact (h.withClient halike).note _

/-- The same end of the same job. -/
theorem Beside.hear (h : Beside log log' m m') (network : Network) (job : Nat)
    (outcome : BroadcastResult) :
    Beside log log' (m.hear network job outcome) (m'.hear network job outcome) := by
  unfold Moment.hear
  rw [h.client.tools.1]
  exact (h.withClient (h.client.withEngine _ _)).note _

/-- The same answer from outside: both know the job, or neither does. -/
theorem Beside.learn (h : Beside log log' m m') (job : Nat) (outcome : BroadcastResult) :
    Beside log log' (m.learn job outcome) (m'.learn job outcome) := by
  obtain ⟨hengine, hnetwork, -⟩ := h.client.tools
  unfold Moment.learn
  rw [hengine, hnetwork]
  split
  · exact h.hear _ job outcome
  · exact h

/-- The same answer of the network. -/
theorem Beside.listen (h : Beside log log' m m') : Beside log log' m.listen m'.listen := by
  obtain ⟨hengine, hnetwork, -⟩ := h.client.tools
  unfold Moment.listen
  rw [hengine, hnetwork]
  split
  · exact h
  · split
    · exact h
    · exact h.hear _ _ _

/-- A round takes the same receipt from both, or ends both loops. -/
theorem Beside.round (h : Beside log log' m m') (runs : m.client.isRunning = true) :
    Beside log log' m.round m'.round := by
  obtain ⟨hround, halike⟩ := h.client.round (Option.isSome_iff_ne_none.mp runs)
  unfold Moment.round
  rcases hm' : m'.client.round with ⟨round', d'⟩
  rcases hm : m.client.round with ⟨round, d⟩
  rw [hm, hm'] at hround halike
  obtain rfl : round' = round := hround
  cases round' with
  | waits => exact h
  | ends result => exact (h.withClient halike).note _
  | takes r =>
    -- both take the receipt to the same callback
    have hcallback : d'.callback = d.callback := halike.tools.2.2
    dsimp only
    rw [hcallback]
    cases d.callback with
    | none => exact ⟨halike, h.busy, h.same⟩
    | some callback =>
      have hbegun : Beside log log'
          { m with client := d, busy := some ⟨callback.calls r.jobId, callback.panics r.jobId⟩ }
          { m' with
            client := d', busy := some ⟨callback.calls r.jobId, callback.panics r.jobId⟩ } :=
        ⟨halike, rfl, h.same⟩
      exact hbegun.note _

/-- Both loops go on alike, or there is none in either. -/
theorem Beside.goOn (h : Beside log log' m m') : Beside log log' m.goOn m'.goOn := by
  have hruns : m'.client.isRunning = m.client.isRunning := h.client.seen.2.1
  unfold Moment.goOn
  rw [h.busy, hruns]
  split
  · rename_i call rest panics hbusy
    have hcalling : Beside log log' { m with busy := some ⟨rest, panics⟩ }
        { m' with busy := some ⟨rest, panics⟩ } := ⟨h.client, rfl, h.same⟩
    exact hcalling.make call
  · rename_i panics hbusy
    exact ⟨h.client.afterwards panics, rfl, h.same⟩
  · split
    · rename_i runs
      exact h.round runs
    · exact h

/-- Whatever is done, it is done to both. -/
theorem Beside.advance (h : Beside log log' m m') (deed : Deed) :
    Beside log log' (m.advance deed) (m'.advance deed) := by
  cases deed with
  | call call => exact h.make call
  | finish job outcome => exact h.learn job outcome
  | hear => exact h.listen
  | goOn => exact h.goOn
  | upset => exact ⟨h.client, congrArg (Option.map _) h.busy, h.same⟩

/-- Whatever comes next, runs side by side stay side by side. -/
theorem Beside.run (h : Beside log log' m m') (deeds : List Deed) :
    Beside log log' (m.run deeds) (m'.run deeds) := by
  induction deeds generalizing m m' with
  | nil => exact h
  | cons deed deeds ih => exact ih (h.advance deed)

end

/-! ## A stop that changes nothing -/

/-- The engine of a live client works while a loop runs. -/
def Works (c : Client) : Prop :=
  c.isRunning = true → c.alive = true → c.engine.phase = .working

/-- A call keeps the engine of a running loop at work. -/
theorem Effect.works {call : ClientCall} {answer : ClientAnswer} (whole : Whole c)
    (h : Effect c call answer d) (works : Works c) : Works d := by
  cases h with
  | start live _ _ => exact fun _ _ => (Engine.startWorking_live (whole.alive.mp live)).2
  | run live _ _ => exact fun _ _ => (Engine.startWorking_live (whole.alive.mp live)).2
  | queued live =>
    intro hruns hlive
    rw [Engine.accept, Engine.dispatch_phase]
    exact works hruns hlive
  | destroy live => exact fun _ hlive => by cases hlive
  | _ => exact works

/-- The end of a job leaves the phase as it was. -/
theorem finish_phase (alone : Engine.Alone c.engine) (job : Nat) (outcome : BroadcastResult) :
    (c.engine.finish job outcome).2.phase = c.engine.phase := by
  rcases Engine.finish_alone alone job outcome with ⟨_, -, -, hfinish⟩ | hfinish
  · rw [hfinish]
    rfl
  · rw [hfinish]

/-- The engine works while a loop runs that nobody destroyed. -/
theorem Reachable.works (h : Reachable config network m) : Works m.client := by
  induction h with
  | initial => exact fun hruns => by cases hruns
  | @step m m' before next ih =>
    have hwhole := before.roles.whole
    have hheard (network : Network) (job : Nat) (outcome : BroadcastResult) :
        Works (m.hear network job outcome).client := by
      intro hruns hlive
      exact (finish_phase hwhole.alone job outcome).trans (ih hruns hlive)
    cases next with
    | call call => exact (perform_effect hwhole call).works hwhole ih
    | finish goes => exact hheard _ _ _
    | happens next =>
      cases next with
      | begin free runs round set =>
        obtain ⟨-, rest, -, rfl⟩ := round_takes hwhole round
        exact ih
      | drop free runs round unset =>
        obtain ⟨-, rest, -, rfl⟩ := round_takes hwhole round
        exact ih
      | stop free runs round =>
        obtain ⟨-, -, rfl⟩ := round_ends hwhole round
        exact fun hruns => by cases hruns
      | @call call rest panics busy => exact (perform_effect hwhole call).works hwhole ih
      | @«return» panics busy =>
        cases panics with
        | false => exact ih
        | true => exact ih
      | hear head answer => exact hheard _ _ _

/-- The client whose worker was stopped and started again. -/
def restarted (c : Client) : Client := { c with loopResult := some (.ok ()) }

/-- A worker that nobody told to end, after `stop`: its loop is over. -/
def stopped (c : Client) : Client := { c with stopAsked := true }.endLoop (.ok ())

/-- It is started again, and all is as before but the result of the loop that ended. -/
theorem perform_restart (set : c.isRunning = true → c.callback ≠ none) (works : Works c)
    (runs : c.loop = some .worker) (goes : c.mustEnd = false) :
    c.stopped.perform .start = (.started, c.restarted) := by
  have hruns : c.isRunning = true := by rw [isRunning, runs]; rfl
  rw [mustEnd, Bool.or_eq_false_iff, Bool.not_eq_false'] at goes
  obtain ⟨hasked, halive⟩ := goes
  obtain ⟨callback, hset⟩ := Option.ne_none_iff_exists'.mp (set hruns)
  have hworks : c.engine.startWorking = (.ok false, c.engine) := by
    rw [Engine.startWorking, works hruns halive]
  have hclaim : c.stopped.claim .worker = .ok c.restarted := by
    unfold claim
    simp only [stopped, endLoop, isRunning, halive, hset, hworks]
    simp [restarted, runs, halive, hset, hasked]
  rw [perform, hclaim]

/-- Only the last result tells the restarted client from the one before. -/
theorem alike_restarted (runs : c.loop = some .worker) : Alike c c.restarted :=
  .busy (by simp [runs])

/-! ### In small steps -/

/-- Whatever comes next, from the second moment on the same happens as from the first: the same
    calls are answered the same way, the same callbacks begin with the same receipts, and the
    same is seen of the clients. -/
def GoesOnLike (m m' : Moment) : Prop :=
  ∀ deeds : List Deed,
    (∃ events, (m.run deeds).log = m.log ++ events ∧ (m'.run deeds).log = m'.log ++ events) ∧
    (m'.run deeds).client.phase = (m.run deeds).client.phase ∧
    (m'.run deeds).client.isRunning = (m.run deeds).client.isRunning ∧
    (m'.run deeds).client.stats? = (m.run deeds).client.stats?

/-- Alike clients go on alike, whatever comes. -/
theorem Alike.goesOn (alike : Alike m.client m'.client) (busy : m'.busy = m.busy) :
    GoesOnLike m m' := by
  intro deeds
  have hstart : Beside m.log m'.log m m' :=
    ⟨alike, busy, [], (List.append_nil _).symm, (List.append_nil _).symm⟩
  have hrun := hstart.run deeds
  exact ⟨hrun.same, hrun.client.seen⟩

/-- A call of `stop` while no loop runs. -/
theorem goesOn_stop (free : m.client.isRunning = false) : GoesOnLike m (m.make .stop) := by
  have hfree : m.client.loop = none := by simpa [isRunning] using free
  exact Alike.goesOn (.idle hfree) rfl

/-- A call of `stop` that waits for the worker, and a call of `start`. -/
theorem goesOn_restart (h : Reachable config network m) (free : m.busy = none)
    (runs : m.client.loop = some .worker) (goes : m.client.mustEnd = false) :
    ((m.make .stop).goOn.make .start).log =
      m.log ++ [.called .stop .nothing, .loopEnded (.ok ()), .called .start .started] ∧
    GoesOnLike m ((m.make .stop).goOn.make .start) := by
  have hruns : m.client.isRunning = true := by rw [isRunning, runs]; rfl
  have hordered : m.make .stop = Moment.mk { m.client with stopAsked := true } m.busy
      (m.log ++ [.called .stop .nothing]) := rfl
  have hended : (m.make .stop).goOn = Moment.mk m.client.stopped m.busy
      (m.log ++ [.called .stop .nothing] ++ [.loopEnded (.ok ())]) := by
    have hruns' : { m.client with stopAsked := true }.isRunning = true := hruns
    rw [hordered, Moment.goOn, free]
    dsimp only
    rw [if_pos hruns']
    rfl
  -- the start finds no loop, the callback and the engine as they were
  have hstart := perform_restart h.roles.set h.works runs goes
  have hmade : (m.make .stop).goOn.make .start = Moment.mk m.client.restarted m.busy
      (m.log ++ [.called .stop .nothing, .loopEnded (.ok ()), .called .start .started]) := by
    rw [hended, Moment.make]
    simp [hstart]
  rw [hmade]
  exact ⟨rfl, Alike.goesOn (alike_restarted runs) rfl⟩

/-! ### In sessions -/

/-- The calls of a callback have the same answers. -/
theorem Alike.performAll (h : Alike c d) (calls : List ClientCall) :
    (d.performAll calls).1 = (c.performAll calls).1 ∧
      Alike (c.performAll calls).2 (d.performAll calls).2 := by
  induction calls generalizing c d with
  | nil => exact ⟨rfl, h⟩
  | cons call calls ih =>
    obtain ⟨hanswer, halike⟩ := h.perform call
    obtain ⟨hanswers, hlater⟩ := ih halike
    simp only [Client.performAll]
    exact ⟨by rw [hanswer, hanswers], hlater⟩

/-- A callback does the same. -/
theorem Alike.invoke (h : Alike c d) (callback : Callback) (r : Receipt) :
    (d.invoke callback r).1 = (c.invoke callback r).1 ∧
      Alike (c.invoke callback r).2 (d.invoke callback r).2 := by
  obtain ⟨hanswers, halike⟩ := h.performAll (callback.calls r.jobId)
  exact ⟨congrArg (Invocation.mk callback.tag r) hanswers, halike.afterwards _⟩

/-- The loop hands over the same receipts, -/
theorem Alike.drain (rounds : Nat) (h : Alike c d) :
    (drain rounds d).1 = (drain rounds c).1 ∧ Alike (drain rounds c).2 (drain rounds d).2 := by
  induction rounds generalizing c d with
  | zero => exact ⟨rfl, h⟩
  | succ rounds ih =>
    unfold Client.drain
    rw [h.loop]
    split
    · exact ⟨rfl, h⟩
    · rename_i hruns
      obtain ⟨hround, halike⟩ := h.round (by simpa using hruns)
      rcases hd : d.round with ⟨round', d'⟩
      rcases hc : c.round with ⟨round, c'⟩
      rw [hc, hd] at hround halike
      obtain rfl : round' = round := hround
      have halike : Alike c' d' := halike
      cases round' with
      | ends result => exact ⟨rfl, halike⟩
      | waits => exact ⟨rfl, halike⟩
      | takes r =>
        dsimp only
        rw [halike.tools.2.2]
        cases c'.callback with
        | none => exact ih halike
        | some callback =>
          obtain ⟨hinvocation, hinvoked⟩ := halike.invoke callback r
          obtain ⟨hlater, hrest⟩ := ih hinvoked
          exact ⟨by simp only [hinvocation, hlater], hrest⟩

/-- all that are there. -/
theorem Alike.deliver (h : Alike c d) :
    d.deliver.1 = c.deliver.1 ∧ Alike c.deliver.2 d.deliver.2 := by
  unfold Client.deliver
  rw [h.tools.1]
  exact h.drain _

/-- The network ends a broadcast of both by itself, or of neither. -/
theorem Alike.hear? (h : Alike c d) :
    (c.hear? = none ∧ d.hear? = none) ∨
      ∃ c' d', c.hear? = some c' ∧ d.hear? = some d' ∧ Alike c' d' := by
  obtain ⟨hengine, hnetwork, -⟩ := h.tools
  unfold Client.hear?
  rw [hengine, hnetwork]
  split
  · exact Or.inl ⟨rfl, rfl⟩
  · split
    · exact Or.inl ⟨rfl, rfl⟩
    · exact Or.inr ⟨_, _, rfl, rfl, h.withEngine _ _⟩

/-- The network gives the same answers, until nothing is left to do. -/
theorem Alike.settle (rounds : Nat) (h : Alike c d) :
    (settle rounds d).1 = (settle rounds c).1 ∧ Alike (settle rounds c).2 (settle rounds d).2 := by
  induction rounds generalizing c d with
  | zero => exact h.deliver
  | succ rounds ih =>
    obtain ⟨hdelivered, halike⟩ := h.deliver
    simp only [Client.settle, hdelivered]
    rcases halike.hear? with ⟨hc, hd⟩ | ⟨c', d', hc, hd, hheard⟩
    · rw [hc, hd]
      exact ⟨rfl, halike⟩
    · rw [hc, hd]
      obtain ⟨hmore, hrest⟩ := ih hheard
      exact ⟨by simp only [hmore], hrest⟩

/-- An operation begins alike -/
theorem Alike.begin (h : Alike c d) (op : Op) :
    (d.begin op).1 = (c.begin op).1 ∧ (d.begin op).2.1 = (c.begin op).2.1 ∧
      Alike (c.begin op).2.2 (d.begin op).2.2 := by
  cases op with
  | finish job outcome =>
    obtain ⟨hengine, hnetwork, -⟩ := h.tools
    have hheard := h.withEngine c.network (c.engine.finish job outcome).2
    have hsame : (d.begin (.finish job outcome)).2.2 = { d with
        network := c.network, engine := (c.engine.finish job outcome).2 } := by
      simp only [Client.begin, hengine, ← hnetwork]
    rw [hsame]
    refine ⟨?_, rfl, hheard⟩
    simp only [Client.begin, hengine]
  | call call =>
    obtain ⟨hanswer, halike⟩ := h.perform call
    cases call with
    | run =>
      have hruns : d.isRunning = c.isRunning := h.seen.2.1
      simp only [Client.begin, hruns]
      rcases hd : d.perform .run with ⟨answer', d'⟩
      rcases hc : c.perform .run with ⟨answer, c'⟩
      rw [hc, hd] at hanswer halike
      obtain rfl : answer' = answer := hanswer
      cases answer' with
      | failed e =>
        dsimp only
        split <;> exact ⟨rfl, rfl, halike⟩
      | _ => exact ⟨rfl, rfl, halike⟩
    | _ => exact ⟨hanswer, rfl, halike⟩

/-- and ends alike. -/
theorem Alike.step (h : Alike c d) (op : Op) :
    (d.step op).1 = (c.step op).1 ∧ Alike (c.step op).2 (d.step op).2 := by
  obtain ⟨hanswer, hnews, hbegun⟩ := h.begin op
  obtain ⟨hcallbacks, hsettled⟩ := hbegun.settle patience
  refine ⟨?_, hsettled⟩
  simp only [Client.step, hanswer, hnews, hcallbacks, hbegun.loop, hsettled.loop]
  split
  · rename_i hover
    rw [hsettled.endNews hover.2]
  · rfl

/-- What a session shows of a step: its report, and what is seen of the client after it. -/
def shown (entry : Report × Client) : Report × Phase × Bool × Option Stats :=
  (entry.1, entry.2.phase, entry.2.isRunning, entry.2.stats?)

/-- So whole sessions show the same. -/
theorem Alike.runAll (ops : List Op) (h : Alike c d) :
    (runAll d ops).map shown = (runAll c ops).map shown := by
  induction ops generalizing c d with
  | nil => rfl
  | cons op ops ih =>
    obtain ⟨hreport, halike⟩ := h.step op
    obtain ⟨hphase, hruns, hstats⟩ := halike.seen
    simp only [Client.runAll, List.map_cons, ih halike, shown, hreport, hphase, hruns, hstats]

/-- The client after a session. -/
def after (c : Client) (ops : List Op) : Client := ops.foldl (fun c op => (c.step op).2) c

/-- A session is its first operations and then the others, from where the first ones led. -/
theorem runAll_append (ops more : List Op) :
    runAll c (ops ++ more) = runAll c ops ++ runAll (c.after ops) more := by
  induction ops generalizing c with
  | nil => rfl
  | cons op ops ih =>
    rw [List.cons_append, runAll, ih]
    rfl

/-- A session comes from rest to rest. -/
theorem Stands.after (ops : List Op) {handed : List (String × Receipt)}
    (h : Stands config network c handed) (idle : Idle c) :
    (∃ handed', Stands config network (c.after ops) handed') ∧ Idle (c.after ops) := by
  induction ops generalizing c handed with
  | nil => exact ⟨⟨handed, h⟩, idle⟩
  | cons op ops ih =>
    obtain ⟨hstep, hidle⟩ := h.step op
    exact ih hstep hidle

/-- Nothing happens to an idle client whose network says nothing. -/
theorem Stands.settle_idle {handed : List (String × Receipt)}
    (h : Stands config network c handed) (idle : Idle c) (deaf : c.hear? = none) (rounds : Nat) :
    Client.settle rounds c = ([], c) := by
  have hdeliver : c.deliver = ([], c) := by
    obtain ⟨log, hroles⟩ := h.roles
    rcases drain_cases hroles c.engine.receipts.length with ⟨-, hdrain⟩ | ⟨hruns, hround, -⟩ |
      ⟨-, -, hdrain⟩ | ⟨r, rest, -, hruns, hreceipts, -⟩
    · exact hdrain
    · rcases idle with hloop | ⟨hgoes, -⟩
      · simp [isRunning, hloop] at hruns
      · exact absurd (round_ends hroles.whole hround).1 (by simp [hgoes])
    · exact hdrain
    · rcases idle with hloop | ⟨-, hnone⟩
      · simp [isRunning, hloop] at hruns
      · simp [hnone] at hreceipts
  cases rounds with
  | zero => exact hdeliver
  | succ rounds => simp only [Client.settle, hdeliver, deaf]

/-- Whether the network says anything depends on the broadcasts and on the network alone. -/
theorem deaf_of_same (engine : d.engine = c.engine) (network : d.network = c.network)
    (deaf : c.hear? = none) : d.hear? = none := by
  unfold hear? at deaf ⊢
  rw [engine, network]
  cases hbroadcasting : c.engine.broadcasting with
  | nil => rfl
  | cons job rest =>
    cases hanswer : c.network.broadcast? job.request.rawTx job.request.endpoint with
    | none => simp only [hanswer]
    | some answer => simp [hbroadcasting, hanswer] at deaf

section

variable {handed : List (String × Receipt)} (h : Stands config network c handed)
include h

/-- A session goes on after a call of `stop` while no loop runs. -/
theorem shown_stop (free : c.isRunning = false) (deaf : c.hear? = none) (ops : List Op) :
    (runAll c (.call .stop :: ops)).map shown =
      (⟨.nothing, [], none⟩, c.phase, false, c.stats?) :: (runAll c ops).map shown := by
  have hfree : c.loop = none := by simpa [isRunning] using free
  have hdeaf : { c with stopAsked := true }.hear? = none := deaf_of_same (c := c) rfl rfl deaf
  have hsettle := (h.call .stop).settle_idle (.inl hfree) hdeaf patience
  have hstep : c.step (.call .stop) = (⟨.nothing, [], none⟩, { c with stopAsked := true }) := by
    have hbegin : c.begin (.call .stop) = (.nothing, none, { c with stopAsked := true }) := rfl
    rw [Client.step, hbegin]
    dsimp only
    rw [show settle patience { c with stopAsked := true } = _ from hsettle]
    simp [hfree, Client.perform]
  rw [runAll, hstep, List.map_cons, Alike.runAll ops (.idle hfree), ← free]
  rfl

/-- A session goes on after the worker was stopped and started again. -/
theorem shown_restart (idle : Idle c) (runs : c.loop = some .worker) (deaf : c.hear? = none)
    (ops : List Op) :
    (runAll c (.call .stop :: .call .start :: ops)).map shown =
      (⟨.nothing, [], none⟩, c.phase, false, c.stats?) ::
        (⟨.started, [], none⟩, c.phase, true, c.stats?) :: (runAll c ops).map shown := by
  obtain ⟨hgoes, hnone⟩ : c.mustEnd = false ∧ c.engine.receipts = [] := by
    rcases idle with hfree | hwaits
    · simp [runs] at hfree
    · exact hwaits
  -- the call of stop, and the end of the loop
  have hordered : Stands config network { c with stopAsked := true } handed := h.call .stop
  have hdeliver : { c with stopAsked := true }.deliver = ([], c.stopped) := by
    simp [Client.deliver, Client.drain, runs, Client.round, mustEnd, stopped]
  have hstopped : Stands config network c.stopped handed := by
    have hdelivered := hordered.deliver.1
    rw [hdeliver, List.map_nil, List.append_nil] at hdelivered
    exact hdelivered
  have hstop : c.step (.call .stop) = (⟨.nothing, [], none⟩, c.stopped) := by
    have hbegin : c.begin (.call .stop) = (.nothing, none, { c with stopAsked := true }) := rfl
    have hdeaf : c.stopped.hear? = none := deaf_of_same (c := c) rfl rfl deaf
    have hsettle : settle patience { c with stopAsked := true } = ([], c.stopped) := by
      simp only [patience, settle, hdeliver, hdeaf]
    rw [Client.step, hbegin]
    dsimp only
    rw [hsettle]
    simp [runs]
  -- the call of start, after which the loop finds nothing to do
  obtain ⟨log, hc, -⟩ := h
  have hperform := perform_restart hc.roles.set hc.works runs hgoes
  have hrestarted : Stands config network c.restarted handed := by
    have hcall := hstopped.call .start
    rw [hperform] at hcall
    exact hcall
  have hstart : c.stopped.step (.call .start) = (⟨.started, [], none⟩, c.restarted) := by
    have hbegin : c.stopped.begin (.call .start) = (.started, none, c.restarted) :=
      congrArg (fun r => (r.1, (none : Option RunNews), r.2)) hperform
    have hdeaf : c.restarted.hear? = none := deaf_of_same (c := c) rfl rfl deaf
    have hsettle := hrestarted.settle_idle (.inr ⟨hgoes, hnone⟩) hdeaf patience
    rw [Client.step, hbegin]
    dsimp only
    rw [hsettle]
    simp [restarted, runs]
  have hphase : c.stopped.phase = c.phase ∧ c.restarted.phase = c.phase := ⟨rfl, rfl⟩
  have hruns : c.stopped.isRunning = false ∧ c.restarted.isRunning = true :=
    ⟨rfl, by rw [isRunning, restarted, runs]; rfl⟩
  have hstats : c.stopped.stats? = c.stats? ∧ c.restarted.stats? = c.stats? := ⟨rfl, rfl⟩
  rw [runAll, hstop, runAll, hstart]
  simp only [List.map_cons, shown, hphase, hruns, hstats]
  exact congrArg _ (congrArg _ (Alike.runAll ops (alike_restarted runs)))

end

/-! ## Between the end of a loop and the next one -/

namespace Event

/-- What an event means for the loop: it was taken, or it ended. -/
@[simp] def loop? : Event → Option Bool
  | called .start .started => some true
  | called .run .nothing => some true
  | loopEnded _ => some false
  | _ => none

/-- An event that takes no loop says nothing of it, or that it ended. -/
theorem loop?_of_quiet {event : Event} (quiet : ¬ event.Claims) :
    event.loop? = none ∨ event.loop? = some false := by
  unfold loop?
  split
  · exact absurd trivial quiet
  · exact absurd trivial quiet
  · exact Or.inr rfl
  · exact Or.inl rfl

end Event

/-- What the log says of the loop last: `true` if one was taken that has not ended. -/
def lastLoop (log : List Event) : Option Bool := (log.filterMap Event.loop?).getLast?

/-- No loop runs at the end of this log. -/
def Vacant (log : List Event) : Prop := lastLoop log ≠ some true

/-- The latest news counts. -/
@[simp] theorem lastLoop_snoc (log : List Event) (event : Event) :
    lastLoop (log ++ [event]) = event.loop?.or (lastLoop log) := by
  rw [lastLoop, Log.filterMap_snoc]
  cases event.loop? with
  | none => simp [lastLoop]
  | some taken => simp

/-- After a loop has ended none runs. -/
theorem vacant_ended (log : List Event) (result : Except ClientError Unit) :
    Vacant (log ++ [.loopEnded result]) := by
  rw [Vacant, lastLoop_snoc]
  simp

/-- No loop runs until one is taken. -/
theorem Vacant.append {before between : List Event} (vacant : Vacant before)
    (quiet : ∀ event ∈ between, ¬ event.Claims) : Vacant (before ++ between) := by
  induction between using List.reverseRecOn with
  | nil => rwa [List.append_nil]
  | append_singleton between event ih =>
    have hearlier := ih fun e he => quiet e (List.mem_append_left _ he)
    rw [← List.append_assoc, Vacant, lastLoop_snoc]
    rcases Event.loop?_of_quiet (quiet event (by simp)) with hnone | hended
    · rw [hnone, Option.none_or]
      exact hearlier
    · rw [hended]
      simp

/-- The log tells whether a loop runs. -/
def Tells (m : Moment) : Prop := m.client.isRunning = true ↔ lastLoop m.log = some true

/-- An event that is no news of the loop, and a loop that goes on as before. -/
theorem Tells.note {event : Event} (h : Tells m) (same : c.isRunning = m.client.isRunning)
    (none : event.loop? = none) : Tells ({ m with client := c }.note event) := by
  rw [Tells, Moment.note, lastLoop_snoc, none, Option.none_or]
  show c.isRunning = true ↔ _
  rw [same]
  exact h

/-- A loop was taken. -/
theorem Tells.taken {event : Event} (runs : c.isRunning = true) (taken : event.loop? = some true) :
    Tells ({ m with client := c }.note event) := by
  rw [Tells, Moment.note, lastLoop_snoc, taken]
  exact iff_of_true runs rfl

/-- A call that takes the loop says so in its answer, and no other call moves it. -/
theorem Tells.make (h : Tells m) (whole : Whole m.client) (call : ClientCall) :
    Tells (m.make call) := by
  have heffect := perform_effect whole call
  unfold Moment.make
  generalize (m.client.perform call).1 = answer at heffect ⊢
  generalize (m.client.perform call).2 = d at heffect ⊢
  cases heffect with
  | gone guarded dead =>
    refine h.note rfl ?_
    cases call with
    | start => rfl
    | run => rfl
    | _ => rfl
  | start live set free => exact .taken rfl rfl
  | run live set free => exact .taken rfl rfl
  | barred takes live why =>
    refine h.note rfl ?_
    rcases takes with rfl | rfl <;> rfl
  | _ => exact h.note rfl rfl

/-- At every moment the log tells whether a loop runs. -/
theorem Reachable.tells (h : Reachable config network m) : Tells m := by
  induction h with
  | initial =>
    exact iff_of_false (by simp [Moment.initial, Client.new, isRunning]) (fun h => by cases h)
  | @step m m' before next ih =>
    cases next with
    | call call => exact ih.make before.roles.whole call
    | finish goes => exact ih.note rfl rfl
    | happens next =>
      cases next with
      | begin free runs round set =>
        obtain ⟨-, rest, -, rfl⟩ := round_takes before.roles.whole round
        exact ih.note rfl rfl
      | drop free runs round unset =>
        obtain ⟨-, rest, -, rfl⟩ := round_takes before.roles.whole round
        exact ih
      -- the loop ends, and the log says so
      | stop free runs round =>
        obtain ⟨-, -, rfl⟩ := round_ends before.roles.whole round
        exact iff_of_false (by simp [endLoop, isRunning]) (vacant_ended m.log _)
      | @call call rest panics busy =>
        have hcalling : Tells { m with busy := some ⟨rest, panics⟩ } := ih
        exact hcalling.make before.roles.whole call
      | @«return» panics busy =>
        cases panics with
        | false => exact ih
        | true => exact ih
      | hear head answer => exact ih.note rfl rfl

/-- A callback begins only while a loop runs. -/
def Attended (before : List Event) : Event → Prop
  | .began _ _ => ¬ Vacant before
  | _ => True

/-- A callback never begins while no loop runs. -/
theorem Reachable.attended (h : Reachable config network m) : Log.Each Attended m.log := by
  induction h with
  | initial => exact Log.Each.nil
  | @step m m' before next ih =>
    cases next with
    | call call => exact ih.snoc trivial
    | finish goes => exact ih.snoc trivial
    | happens next =>
      cases next with
      | begin free runs round set => exact ih.snoc (not_not.mpr (before.tells.mp runs))
      | drop free runs round unset => exact ih
      | stop free runs round => exact ih.snoc trivial
      | call busy => exact ih.snoc trivial
      | «return» busy => exact ih
      | hear head answer => exact ih.snoc trivial

/-- A step writes down one event or none. -/
theorem Step.log (next : Step m m') : m'.log = m.log ∨ ∃ event, m'.log = m.log ++ [event] := by
  cases next with
  | call call => exact Or.inr ⟨_, rfl⟩
  | finish goes => exact Or.inr ⟨_, rfl⟩
  | happens next =>
    cases next with
    | drop free runs round unset => exact Or.inl rfl
    | «return» busy => exact Or.inl rfl
    | _ => exact Or.inr ⟨_, rfl⟩

/-- What the log was it was at some moment, and the receipts that were due then are the first of
    those that are due now. -/
theorem Reachable.earlier (h : Reachable config network m) {before after : List Event}
    (split : m.log = before ++ after) :
    ∃ m₀, Reachable config network m₀ ∧ m₀.log = before ∧ completed before <+: completed m.log := by
  induction h generalizing after with
  | initial =>
    obtain ⟨rfl, rfl⟩ := List.append_eq_nil_iff.mp split.symm
    exact ⟨_, .initial, rfl, List.prefix_refl _⟩
  | @step m m' reached next ih =>
    rcases next.log with hsame | ⟨event, hlog⟩
    · rw [hsame] at split ⊢
      exact ih split
    · -- the moment asked for is this one, or an earlier one
      rcases List.eq_nil_or_concat after with rfl | ⟨rest, last, rfl⟩
      · rw [List.append_nil] at split
        exact ⟨m', reached.step next, split, split ▸ List.prefix_refl _⟩
      · rw [hlog, List.concat_eq_append, ← List.append_assoc] at split
        obtain ⟨hbefore, -⟩ := List.append_inj' split rfl
        obtain ⟨m₀, hm₀, hlog₀, hdue⟩ := ih hbefore
        refine ⟨m₀, hm₀, hlog₀, hdue.trans ?_⟩
        rw [hlog, completed_snoc reached.ledger.counted]
        exact List.prefix_append _ _

/-- While no loop runs nothing is handed over. -/
theorem Reachable.nothing_handed (h : Reachable config network m) {before between rest : List Event}
    (split : m.log = before ++ (between ++ rest)) (vacant : Vacant before)
    (quiet : ∀ event ∈ between, ¬ event.Claims) : delivered between = [] := by
  rw [delivered, List.filterMap_eq_nil_iff]
  intro event hevent
  cases event with
  | began callback r =>
    obtain ⟨first, last, rfl⟩ := List.append_of_mem hevent
    have hlog : m.log = (before ++ first) ++ .began callback r :: (last ++ rest) := by simp [split]
    have hvacant : Vacant (before ++ first) :=
      vacant.append fun e he => quiet e (List.mem_append_left _ he)
    -- a callback that began here would have begun with no loop running
    exact absurd hvacant (h.attended _ _ _ hlog)
  | _ => rfl

/-- What was due while no loop ran waits, and the next loops hand it over, all of it in order,
    before what became due later. -/
theorem Reachable.handed_again (h : Reachable config network m)
    {before between after : List Event} {again : Event}
    (split : m.log = before ++ (between ++ again :: after)) (vacant : Vacant before)
    (quiet : ∀ event ∈ between, ¬ event.Claims) (claims : again.Claims) :
    ∃ waiting,
      completed (before ++ between) = delivered before ++ waiting ∧
      delivered before ++ delivered after <+: completed m.log ∧
      (m.Settled → m.client.isRunning = true →
        delivered before ++ delivered after = completed m.log ∧ waiting <+: delivered after) := by
  have hsplit : m.log = (before ++ between) ++ again :: after := by simp [split]
  obtain ⟨m₀, hm₀, hlog₀, hdue⟩ := h.earlier hsplit
  have hbetween := h.nothing_handed split vacant quiet
  have hagain : again.delivered? = none := by
    cases again with
    | began callback r => cases claims
    | _ => rfl
  have hhanded₀ : delivered m₀.log = delivered before := by
    rw [hlog₀, delivered, List.filterMap_append, ← delivered, ← delivered, hbetween,
      List.append_nil]
  have hhanded : delivered m.log = delivered before ++ delivered after := by
    rw [hsplit, delivered, List.filterMap_append, List.filterMap_cons_none hagain, ← delivered,
      ← delivered, ← hlog₀, hhanded₀]
  -- the ledger now, and the ledger at the moment when the loop was taken again
  have hledger := h.ledger.handed
  have hledger₀ := hm₀.ledger.handed
  rw [hhanded] at hledger
  rw [hhanded₀, hlog₀] at hledger₀
  refine ⟨m₀.client.engine.receipts, hledger₀.symm, ⟨_, hledger⟩, fun settled runs => ?_⟩
  rw [((settled.idle h.roles).2 runs).2, List.append_nil] at hledger
  refine ⟨hledger, ?_⟩
  rw [← hledger₀, ← hledger] at hdue
  exact (List.prefix_append_right_inj _).mp hdue

/-- **A stop is transparent.**  Outside callbacks, a call of `stop` while no loop runs, and a call
    of `stop` followed by one of `start` while a worker runs that nobody told to end, change
    nothing of what comes later, whatever comes: neither in small steps nor in a session whose
    network has said what it had to say.  Between the end of a loop and the next one no callback
    begins; the receipts that are due by then, and those that become due later, are handed over
    after that in order of completion.

    In any order of the steps of any threads: while an order to stop stands, at most one callback
    begins, that of the round which a loop was in; none if no loop was past its look at its orders,
    if a callback was running, or once the worker that ran the loop has left it, for which `stop`
    waits if it finds the worker's handle. -/
theorem stop_transparent (config : Config) (network : Network) :
    (∀ m, Reachable config network m → m.busy = none →
      (m.client.isRunning = false → GoesOnLike m (m.make .stop)) ∧
      (m.client.loop = some .worker → m.client.mustEnd = false →
        ((m.make .stop).goOn.make .start).log =
          m.log ++ [.called .stop .nothing, .loopEnded (.ok ()), .called .start .started] ∧
        GoesOnLike m ((m.make .stop).goOn.make .start))) ∧
    (∀ before rest,
      let shows ops := (runAll (.new config network) ops).map shown
      let c := (Client.new config network).after before
      c.hear? = none →
      shows (before ++ rest) = shows before ++ (runAll c rest).map shown ∧
      (c.isRunning = false →
        shows (before ++ .call .stop :: rest) =
          shows before ++ (⟨.nothing, [], none⟩, c.phase, false, c.stats?) ::
            (runAll c rest).map shown) ∧
      (c.loop = some .worker →
        shows (before ++ .call .stop :: .call .start :: rest) =
          shows before ++ (⟨.nothing, [], none⟩, c.phase, false, c.stats?) ::
            (⟨.started, [], none⟩, c.phase, true, c.stats?) :: (runAll c rest).map shown)) ∧
    (∀ m, Reachable config network m → ∀ before between rest,
      m.log = before ++ (between ++ rest) → Vacant before → (∀ event ∈ between, ¬ event.Claims) →
      delivered between = [] ∧
      ∀ again after, rest = again :: after → again.Claims →
        ∃ waiting,
          completed (before ++ between) = delivered before ++ waiting ∧
          delivered before ++ delivered after <+: completed m.log ∧
          (m.Settled → m.client.isRunning = true →
            delivered before ++ delivered after = completed m.log ∧
            waiting <+: delivered after)) ∧
    (∀ s, Threads.Reachable config network s →
      (s.client.stopAsked = true → s.LastRound .orders) ∧
      ∀ t k s' frames, Does s t (.joining .stop (.wait k)) s' frames →
        s.stack (.worker k) = []) := by
  refine ⟨fun m h free => ⟨goesOn_stop, goesOn_restart h free⟩, ?_, ?_, ?_⟩
  · intro before rest shows c deaf
    obtain ⟨⟨handed, hstands⟩, hidle⟩ := Stands.new.after before (.inl rfl)
    have happend (ops : List Op) : shows (before ++ ops) =
        shows before ++ (runAll c ops).map shown := by
      simp only [shows, runAll_append, List.map_append, c]
    refine ⟨happend rest, fun free => ?_, fun runs => ?_⟩
    · rw [happend, shown_stop hstands free deaf]
    · rw [happend, shown_restart hstands hidle runs deaf]
  · intro m h before between rest split vacant quiet
    refine ⟨h.nothing_handed split vacant quiet, ?_⟩
    rintro again after rfl claims
    exact h.handed_again split vacant quiet claims
  · intro s h
    exact ⟨fun asked => h.lastRound asked, fun t k s' frames does => does.join_over⟩

/-- The poll of a loop of `run` goes on and a receipt is there when another thread is about to call
    `stop`, which finds no handle to wait for. -/
theorem stopped_in_poll : ∃ s s' r e, Threads.Reachable {} (.standIn {}) s ∧
    s.stack (.outside 1) = [.ordering .stop] ∧ Threads.Path s s' ∧ s'.stack (.outside 1) = [] ∧
    s'.client.stopAsked = true ∧ s'.client.callback.isSome = true ∧
    s'.client.engine.receive? = some (.ok (.ready r), e) ∧
    s'.stack (.outside 0) = [.looping .poll] := by
  obtain ⟨s, r, e, hs, -, hset, unlocked, hhandle, hready, hpoll, hfree⟩ := Threads.polling_alone
  have hcall := hs.step (@Threads.Step.call s (.outside 1) (.ordering .stop)
    (Or.inl ⟨hfree, 1, rfl⟩) rfl)
  have hstop : Threads.Path (s.put (.outside 1) [.ordering .stop])
      (((s.withClient { s.client with stopAsked := true }).joined (.outside 1) .stop).put
        (.outside 1) []) :=
    Threads.join_alone unlocked (fun k hk => by cases hhandle.symm.trans hk)
  rw [hfree] at hcall
  refine ⟨_, _, r, e, hcall, by simp, hstop, by simp, ?_, ?_, ?_, ?_⟩
  · simp [Threads.joined, hhandle]
  · simpa [Threads.joined, hhandle] using hset
  · simpa [Threads.joined, hhandle] using hready
  · simpa [Threads.joined, hhandle] using hpoll

/-- A callback begins after `stop` returned, while its order stands. -/
theorem begun_after_stop : ∃ s s₁ s₂, Threads.Reachable {} (.standIn {}) s ∧
    s.stack (.outside 1) = [.ordering .stop] ∧ Threads.Path s s₁ ∧ s₁.stack (.outside 1) = [] ∧
    s₁.client.stopAsked = true ∧ s₁.stack (.outside 0) = [.looping .poll] ∧
    s₁.Leads .orders 1 s₂ ∧ s₂.stack (.outside 0) = [.calling, .looping .orders] := by
  obtain ⟨s, s₁, r, e, hs, hcall, hstop, hover, asked, hset, hready, hpoll⟩ := stopped_in_poll
  let polled : Threads := (s₁.withClient { s₁.client with engine := e }).put (.outside 0)
    [.looping .callback]
  let calling : Threads := polled.put (.outside 0) [.calling, .looping .orders]
  have htop : polled.stack (.outside 0) = [.looping .callback] := by simp [polled]
  have hstack : calling.stack (.outside 0) = [.calling, .looping .orders] := by simp [calling]
  have htaken : Threads.Step s₁ polled := .does hpoll (.poll hready)
  have hset' : polled.client.callback ≠ none := Option.isSome_iff_ne_none.mp hset
  have hbegin : Threads.Step polled calling := .does htop (.begin hset')
  have hother : ¬ s₁.Begins polled := fun begins => by
    have hbegins : s₁.Begins ((s₁.withClient { s₁.client with engine := e }).put (.outside 0)
        ([.looping .callback] ++ [])) := begins
    cases hbegins.top hpoll (.poll hready)
  exact ⟨s, s₁, calling, hs, hcall, hstop, hover, asked, hpoll,
    .begin (.step .refl htaken asked hother) hbegin asked ⟨.outside 0, [], htop, hstack⟩, hstack⟩

/-- A job is accepted, the worker is stopped, the job's broadcast ends, and the worker is started
    again and hands the receipt over. -/
def resumed : Moment :=
  (Moment.initial {} (.standIn {})).run
    [.call (.setCallback "callback" (fun _ => []) fun _ => false), .call .start,
      .call (.broadcast [1] (some "http://[::1]:8545") ⟨"job"⟩), .call .stop, .goOn,
      .finish 0 (.ok (.pending "0x02" "no receipt")), .call .start, .goOn, .goOn]

/-- A worker was stopped with a receipt due, and handed it over when it was started again; and a
    loop in its last round stands under an order. -/
theorem stop_transparent_resumed :
    Reachable {} (.standIn {}) resumed ∧ resumed.busy = none ∧ resumed.Settled ∧
    resumed.client.isRunning = true ∧ resumed.client.loop = some .worker ∧
    resumed.client.mustEnd = false ∧
    GoesOnLike resumed ((resumed.make .stop).goOn.make .start) ∧
    GoesOnLike (.initial {} (.standIn {})) (.make (.initial {} (.standIn {})) .stop) ∧
    (∃ before after waiting,
      let between := [.ended 0 (.ok (.pending "0x02" "no receipt"))]
      resumed.log = before ++ (between ++ .called .start .started :: after) ∧
      Vacant before ∧ delivered between = [] ∧
      waiting.map Receipt.message = ["transaction pending: no receipt"] ∧
      completed (before ++ between) = delivered before ++ waiting ∧
      waiting <+: delivered after) ∧
    (let set : Op := .call (.setCallback "callback" (fun _ => []) fun _ => false)
     let shows ops := (runAll (.new {} (.standIn {})) ops).map shown
     let fresh : Option Stats := some { submitted := 0 }
     shows [.call .stop, set] = (⟨.nothing, [], none⟩, .created, false, fresh) :: shows [set] ∧
     shows [set, .call .start, .call .stop, .call .start] =
       shows [set, .call .start] ++ [(⟨.nothing, [], none⟩, .working, false, fresh),
         (⟨.started, [], none⟩, .working, true, fresh)]) ∧
    (∃ s, Threads.Reachable {} (.standIn {}) s ∧ s.client.stopAsked = true ∧
      s.stack (.outside 0) = [.looping .poll] ∧ s.LastRound .orders) := by
  have hreached : Reachable {} (.standIn {}) resumed :=
    Reachable.initial.run (by simp [Deed.isPlain])
  have hsettled : resumed.Settled :=
    settled_of_idle (.inr ⟨rfl, rfl⟩) hreached.roles.whole hreached.standIn
  obtain ⟨hsteps, hsession, hlog, hthreads⟩ := stop_transparent {} (.standIn {})
  refine ⟨hreached, rfl, hsettled, rfl, rfl, rfl, ?_, ?_, ?_, ⟨?_, ?_⟩, ?_⟩
  · exact ((hsteps resumed hreached rfl).2 rfl rfl).2
  · exact (hsteps _ .initial rfl).1 rfl
  · have hvacant : Vacant (resumed.log.take 5) := vacant_ended (resumed.log.take 4) (.ok ())
    have hquiet : ∀ event ∈ [Event.ended 0 (.ok (.pending "0x02" "no receipt"))],
        ¬ event.Claims := by simp
    obtain ⟨hnothing, hagain⟩ := hlog resumed hreached (resumed.log.take 5) _ _ rfl hvacant hquiet
    -- the worker is started for the second time with the event after these six
    obtain ⟨waiting, hdue, -, hall⟩ :=
      hagain (.called .start .started) (resumed.log.drop 7) rfl trivial
    have hwaiting : waiting = [.ofOutcome ⟨"job"⟩ (.ok (.pending "0x02" "no receipt"))] := hdue.symm
    refine ⟨_, _, waiting, rfl, hvacant, hnothing, ?_, hdue, (hall hsettled rfl).2⟩
    rw [hwaiting]
    rfl
  · exact ((hsession [] [_]) rfl).2.1 rfl
  · exact ((hsession [_, .call .start] []) rfl).2.2 rfl
  · obtain ⟨s₀, s, r, e, hs₀, -, hstop, -, asked, -, -, hpoll⟩ := stopped_in_poll
    have hs := hs₀.path hstop
    exact ⟨s, hs, asked, hpoll, (hthreads s hs).1 asked⟩

end TxRelay.Client
