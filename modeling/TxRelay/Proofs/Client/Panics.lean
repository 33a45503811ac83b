/-
  A callback that panics changes nothing but the count of panics.

  Take a schedule in which callbacks are upset here and there, and the same schedule without that.
  The two runs go side by side, and what is to be shown is that they never part: every answer, every
  receipt, every callback and the end of every loop are the same in both.

  1. **The count.**  `withPanics` sets the count of panics in a tally, an engine, a client.  It
     commutes with every event, so with every operation (`finish_withPanics`, `perform_withPanics`,
     `round_withPanics`).  That an operation leaves the count alone is the same fact, with the count
     that was there put back (`panics_perform`, `panics_round`).

  2. **Two runs.**  `Twins` says that two moments differ in the count only: the same log, the same
     client up to the count, a loop in the midst of the same callback with the same calls left.
     Each deed that is no panic keeps them twins (`Twins.advance`); a panic on one side alone does
     too (`Twins.upset`), since it only marks the callback.  `Twins.run` is the induction on the
     schedule.

  3. **How many.**  A deed adds 1 to the count if a callback panics with it, and nothing otherwise
     (`panics_advance`); over a run the count is the number of such deeds (`panics_run`).

  4. **Sessions.**  There a callback says beforehand whether it panics, and may set callbacks that
     do.  `quiet` takes the panics out of a callback, of what it calls and of an operation, and each
     part of a session's step commutes with it (`perform_quiet` up to `runAll_quiet`).

  The crux is the shape of the facts: not that a panic does nothing, but that setting the count
  commutes with everything.  A callback that returns leaves the loop where one that panics leaves
  it, and nothing the client does afterwards reads the count, so an equation for each operation is
  all that the induction needs.
-/
import TxRelay.Client.Session
import TxRelay.Proofs.Client.Schedule
import TxRelay.Proofs.Client.Tally

namespace TxRelay

/-! ## The count of panics -/

/-- The same tally with another count of panics. -/
def Tally.withPanics (t : Tally) (n : UInt64) : Tally :=
  { t with metrics := { t.metrics with callbackPanics := n } }

/-- No event but a panic looks at the count of panics. -/
theorem Tally.edit_withPanics (n : UInt64) : Tally.Edit (·.withPanics n) id where
  stats _ := rfl
  submitted _ := rfl
  rejected t reason := by cases reason <;> rfl
  completed t success := by cases success <;> rfl
  delivered _ := rfl

namespace Engine

variable {e : Engine} {n : UInt64}

/-- The same engine with another count of panics. -/
def withPanics (e : Engine) (n : UInt64) : Engine := { e with tally := e.tally.withPanics n }

/-- The end of a job counts other things. -/
theorem finish_withPanics (number : Nat) (outcome : BroadcastResult) :
    (e.withPanics n).finish number outcome =
      ((e.finish number outcome).1, (e.finish number outcome).2.withPanics n) :=
  finish_mapTally (Tally.edit_withPanics n) number outcome

/-- So does the delivery of a receipt. -/
theorem pollBlocking_withPanics :
    (e.withPanics n).pollBlocking = (e.pollBlocking.1, e.pollBlocking.2.withPanics n) :=
  pollBlocking_mapTally (Tally.edit_withPanics n)

end Engine

namespace Client

variable {c : Client} {n : UInt64}

/-- The same client with another count of panics. -/
def withPanics (c : Client) (n : UInt64) : Client := { c with engine := c.engine.withPanics n }

/-- How many callbacks panicked, as it is published. -/
def panics (c : Client) : UInt64 := c.engine.tally.metrics.callbackPanics

/-- Setting the count that is there changes nothing. -/
@[simp] theorem withPanics_panics : c.withPanics c.panics = c := rfl

/-- The count is the one that was set. -/
@[simp] theorem panics_withPanics : (c.withPanics n).panics = n := rfl

/-- No call looks at the count: neither its answer nor what it leaves behind depends on it. -/
theorem perform_withPanics (call : ClientCall) :
    (c.withPanics n).perform call = ((c.perform call).1, (c.perform call).2.withPanics n) := by
  have hid (answer : ClientAnswer) : answer.mapStats id = answer := by cases answer <;> rfl
  have hperform := perform_mapTally (c := c) (Tally.edit_withPanics n) call
  rw [hid] at hperform
  exact hperform

/-- Nor does a round of the loop. -/
theorem round_withPanics :
    (c.withPanics n).round = (c.round.1, c.round.2.withPanics n) :=
  round_mapTally (Tally.edit_withPanics n)

/-- No call moves the count of panics. -/
theorem panics_perform (call : ClientCall) : (c.perform call).2.panics = c.panics := by
  have h := congrArg (fun r => r.2.panics) (perform_withPanics (c := c) (n := c.panics) call)
  exact h

/-- A round leaves the count alone. -/
theorem panics_round : c.round.2.panics = c.panics :=
  congrArg (fun r => r.2.panics) (round_withPanics (c := c) (n := c.panics))

/-! ## Two runs of one schedule -/

/-- Nothing but panics tells the second moment from the first. -/
structure Twins (m m' : Moment) : Prop where
  client : m'.client = m.client.withPanics m'.client.panics
  busy : m'.busy.map Busy.calls = m.busy.map Busy.calls
  log : m'.log = m.log

variable {m m' : Moment}

/-- Every moment is its own twin. -/
theorem Twins.refl (m : Moment) : Twins m m := ⟨rfl, rfl, rfl⟩

/-- A client and its twin, and what they wrote down. -/
theorem Twins.intro {d : Client} (client : d = c.withPanics n) {busy busy' : Option Busy}
    (calls : busy'.map Busy.calls = busy.map Busy.calls) (log : List Event) :
    Twins ⟨c, busy, log⟩ ⟨d, busy', log⟩ := by
  subst client
  exact ⟨rfl, calls, rfl⟩

/-- What twins have in common in their engines. -/
theorem Twins.engine (h : Twins m m') :
    m'.client.engine = m.client.engine.withPanics m'.client.panics :=
  congrArg Client.engine h.client

/-- The same call has the same answer in both. -/
theorem Twins.make (h : Twins m m') (call : ClientCall) : Twins (m.make call) (m'.make call) := by
  have hperform := perform_withPanics (c := m.client) (n := m'.client.panics) call
  rw [← h.client] at hperform
  unfold Moment.make
  rw [hperform]
  simp only [Moment.note, h.log]
  exact Twins.intro rfl h.busy _

/-- The same answer of the network ends the same job. -/
theorem Twins.hear (h : Twins m m') (network : Network) (job : Nat) (outcome : BroadcastResult) :
    Twins (m.hear network job outcome) (m'.hear network job outcome) := by
  unfold Moment.hear
  rw [h.engine, Engine.finish_withPanics, h.client]
  simp only [Moment.note, h.log]
  exact Twins.intro rfl h.busy _

/-- Both know the job, or neither does. -/
theorem Twins.learn (h : Twins m m') (job : Nat) (outcome : BroadcastResult) :
    Twins (m.learn job outcome) (m'.learn job outcome) := by
  have hgoes :
      (m'.client.engine.finish job outcome).1 = (m.client.engine.finish job outcome).1 := by
    rw [h.engine, Engine.finish_withPanics]
  have hnetwork : m'.client.network = m.client.network := by rw [h.client]; rfl
  unfold Moment.learn
  rw [hgoes, hnetwork]
  split
  · exact h.hear _ job outcome
  · exact h

/-- Both listen to the same job. -/
theorem Twins.listen (h : Twins m m') : Twins m.listen m'.listen := by
  have hbroadcasting : m'.client.engine.broadcasting = m.client.engine.broadcasting := by
    rw [h.client]; rfl
  have hnetwork : m'.client.network = m.client.network := by rw [h.client]; rfl
  unfold Moment.listen
  rw [hbroadcasting, hnetwork]
  split
  · exact h
  · split
    · exact h
    · exact h.hear _ _ _

/-- Both rounds take the same receipt and begin the same callback, or end alike. -/
theorem Twins.round (h : Twins m m') : Twins m.round m'.round := by
  have hround : m'.client.round = _ :=
    (congrArg Client.round h.client).trans round_withPanics
  unfold Moment.round
  rw [hround]
  rcases m.client.round with ⟨round, d⟩
  cases round with
  | waits => exact h
  | ends result =>
    simp only [Moment.note, h.log]
    exact Twins.intro rfl h.busy _
  | takes r =>
    have hcallback : (d.withPanics m'.client.panics).callback = d.callback := rfl
    simp only [hcallback]
    cases d.callback with
    | none => exact ⟨rfl, h.busy, h.log⟩
    | some callback =>
      simp only [Moment.begin, Moment.note, h.log]
      exact Twins.intro rfl rfl _

/-- A callback returns in one run and panics in the other. -/
theorem Twins.return (h : Twins m m') (panics panics' : Bool) :
    Twins { m with client := m.client.afterwards panics, busy := none }
      { m' with client := m'.client.afterwards panics', busy := none } := by
  have hclient : m'.client.afterwards panics' =
      (m.client.afterwards panics).withPanics (m'.client.afterwards panics').panics := by
    rw [h.client]
    cases panics <;> cases panics' <;> rfl
  exact ⟨hclient, rfl, h.log⟩

/-- Both loops go on: with the next call of the callback, with its end, or with a round. -/
theorem Twins.goOn (h : Twins m m') : Twins m.goOn m'.goOn := by
  have hbusy := h.busy
  have hruns : m'.client.isRunning = m.client.isRunning := by rw [h.client]; rfl
  unfold Moment.goOn
  rw [hruns]
  -- both runs wait for a callback with the same calls, or neither does
  cases hm : m.busy with
  | none =>
    obtain hm' : m'.busy = none := by simpa [hm] using hbusy
    simp only [hm']
    split
    · exact h.round
    · exact h
  | some busy =>
    obtain ⟨calls, panics⟩ := busy
    obtain ⟨⟨calls', panics'⟩, hm', hcalls⟩ :
        ∃ busy', m'.busy = some busy' ∧ busy'.calls = calls := by
      simpa [hm] using hbusy
    obtain rfl : calls' = calls := hcalls
    rw [hm']
    cases calls' with
    | nil => exact h.return panics panics'
    | cons call rest =>
      have hcalling : Twins { m with busy := some ⟨rest, panics⟩ }
          { m' with busy := some ⟨rest, panics'⟩ } := ⟨h.client, rfl, h.log⟩
      exact hcalling.make call

/-- The callback of the second run is upset. -/
theorem Twins.upset (h : Twins m m') : Twins m m'.upset := by
  refine ⟨h.client, ?_, h.log⟩
  rw [← h.busy]
  cases hbusy : m'.busy <;> simp [Moment.upset, hbusy]

/-- A deed that is no panic keeps twins alike. -/
theorem Twins.advance (h : Twins m m') {deed : Deed} (plain : deed.isPlain = true) :
    Twins (m.advance deed) (m'.advance deed) := by
  cases deed with
  | call call => exact h.make call
  | finish job outcome => exact h.learn job outcome
  | hear => exact h.listen
  | goOn => exact h.goOn
  | upset => cases plain

/-- A run with panics and the run without them stay twins, by induction on the schedule. -/
theorem Twins.run (h : Twins m m') (deeds : List Deed) :
    Twins (m.run (deeds.filter Deed.isPlain)) (m'.run deeds) := by
  induction deeds generalizing m m' with
  | nil => exact h
  -- a panic is in one of the schedules only, any other deed in both
  | cons deed deeds ih =>
    cases hplain : deed.isPlain with
    | true =>
      rw [List.filter_cons_of_pos hplain]
      exact ih (h.advance hplain)
    | false =>
      obtain rfl : deed = .upset := by cases deed <;> cases hplain; rfl
      rw [List.filter_cons_of_neg (by simp [hplain])]
      exact ih h.upset

/-! ## How many callbacks panicked -/

/-- Does a callback panic with this deed? -/
def Moment.panicsBy (m : Moment) : Deed → Bool
  | .goOn =>
    match m.busy with
    | some ⟨[], panics⟩ => panics
    | _ => false
  | _ => false

/-- How many callbacks panic on a schedule. -/
def Moment.panicking (m : Moment) : List Deed → Nat
  | [] => 0
  | deed :: deeds => (m.panicsBy deed).toNat + (m.advance deed).panicking deeds

/-- A call leaves the count alone, -/
theorem panics_make (call : ClientCall) : (m.make call).client.panics = m.client.panics :=
  panics_perform call

/-- and so does the end of a job, -/
theorem panics_hear (network : Network) (job : Nat) (outcome : BroadcastResult) :
    (m.hear network job outcome).client.panics = m.client.panics :=
  congrArg (fun r => r.2.tally.metrics.callbackPanics)
    (Engine.finish_withPanics (e := m.client.engine) (n := m.client.panics) job outcome)

/-- the answer of the network, -/
theorem panics_listen : m.listen.client.panics = m.client.panics := by
  unfold Moment.listen
  split
  · rfl
  · split
    · rfl
    · exact panics_hear _ _ _

/-- and an answer that comes from outside. -/
theorem panics_learn (job : Nat) (outcome : BroadcastResult) :
    (m.learn job outcome).client.panics = m.client.panics := by
  unfold Moment.learn
  split
  · exact panics_hear _ _ _
  · rfl

/-- A round does not count panics: the callback has only begun. -/
theorem panics_round_moment : m.round.client.panics = m.client.panics := by
  have hround := panics_round (c := m.client)
  unfold Moment.round
  split
  · rename_i hr
    rw [hr] at hround
    split
    · exact hround
    · exact hround
  · rfl
  · rename_i hr
    rw [hr] at hround
    exact hround

/-- The end of a callback that was upset adds 1; nothing else that a loop does adds anything. -/
theorem panics_goOn :
    m.goOn.client.panics = m.client.panics + UInt64.ofNat (m.panicsBy .goOn).toNat := by
  have hsame (k : UInt64) : k = k + UInt64.ofNat false.toNat := (UInt64.add_zero k).symm
  unfold Moment.goOn Moment.panicsBy
  cases hbusy : m.busy with
  | none =>
    dsimp only
    split
    · exact panics_round_moment.trans (hsame _)
    · exact hsame _
  | some busy =>
    obtain ⟨calls, panics⟩ := busy
    cases calls with
    | cons call rest => exact (panics_make call).trans (hsame _)
    | nil =>
      cases panics with
      | false => exact hsame _
      | true => rfl

/-- A deed moves the count if a callback panics with it, and by 1. -/
theorem panics_advance (deed : Deed) :
    (m.advance deed).client.panics =
      m.client.panics + UInt64.ofNat (m.panicsBy deed).toNat := by
  have hsame : m.client.panics = m.client.panics + UInt64.ofNat false.toNat :=
    (UInt64.add_zero _).symm
  cases deed with
  | call call => exact (panics_make call).trans hsame
  | finish job outcome => exact (panics_learn job outcome).trans hsame
  | hear => exact panics_listen.trans hsame
  | goOn => exact panics_goOn
  | upset => exact hsame

/-- The count is the number of callbacks that panicked. -/
theorem panics_run (deeds : List Deed) :
    (m.run deeds).client.panics = m.client.panics + UInt64.ofNat (m.panicking deeds) := by
  induction deeds generalizing m with
  | nil => simp [Moment.panicking]
  | cons deed deeds ih =>
    rw [Moment.run_cons, ih, panics_advance, Moment.panicking, UInt64.ofNat_add, UInt64.add_assoc]

/-! ## Sessions without panics -/

mutual

/-- The same call, with a callback that never panics and sets no callback that does. -/
def quietCall : ClientCall → ClientCall
  | .setCallback tag calls _ =>
    .setCallback tag (fun jobId => quietAll (calls jobId)) fun _ => false
  | call => call

/-- The same calls without panics. -/
def quietAll : List ClientCall → List ClientCall
  | [] => []
  | call :: calls => quietCall call :: quietAll calls

end

/-- The same callback without panics. -/
def quietCallback (callback : Callback) : Callback :=
  ⟨callback.tag, fun jobId => quietAll (callback.calls jobId), fun _ => false⟩

/-- The same operation without panics. -/
def Op.quiet : Op → Op
  | .call made => .call (quietCall made)
  | .finish job outcome => .finish job outcome

/-- The same client if no callback had panicked and none ever will. -/
def quiet (c : Client) : Client :=
  { c.withPanics 0 with callback := c.callback.map quietCallback }

section

variable {callback : Option Callback} (same : callback.isNone = c.callback.isNone)
include same

/-- The claim asks whether a callback is set, not which one. -/
theorem claim_withCallback (loop : Loop) :
    { c with callback := callback }.claim loop =
      (c.claim loop).map fun d => { d with callback := callback } := by
  have hrunning : { c with callback := callback }.isRunning = c.isRunning := rfl
  unfold claim
  rw [hrunning, same]
  split
  · rfl
  · split
    · rfl
    · split
      · rfl
      · dsimp only
        rcases c.engine.startWorking with ⟨result, engine⟩
        cases result <;> rfl

/-- A call that sets no callback does not look at what the callback does. -/
theorem perform_withCallback {call : ClientCall}
    (other : ∀ tag calls panics, call ≠ .setCallback tag calls panics) :
    { c with callback := callback }.perform call =
      ((c.perform call).1, { (c.perform call).2 with callback := callback }) := by
  cases call with
  | setCallback tag calls panics => exact absurd rfl (other tag calls panics)
  | start =>
    -- the claim asks whether a callback is set, and `same` says that this is the same
    simp only [perform, claim_withCallback same]
    cases c.claim .worker <;> rfl
  | run =>
    simp only [perform, claim_withCallback same]
    cases c.claim .caller <;> rfl
  | broadcast rawTx endpoint jobId =>
    simp only [perform, broadcast]
    split
    · rfl
    · rcases Engine.submit c.network.validate ⟨rawTx, endpoint.getD c.defaultEndpoint, jobId⟩
        c.engine with ⟨result, engine⟩
      cases result <;> rfl
  | balance q =>
    simp only [perform, balance]
    split
    · rfl
    · rcases c.network.balance q with ⟨reply, network⟩
      dsimp only
      cases c.engine.balance reply <;> rfl
  | stats =>
    have hstats : { c with callback := callback }.stats? = c.stats? := rfl
    simp only [perform, hstats]
    split <;> rfl
  | destroy =>
    simp only [perform, destroy]
    split <;> rfl
  | stop => rfl
  | state => rfl
  | isRunning => rfl
  | defaultEndpoint => rfl
  | debug => rfl

end

/-- Only a call that sets a callback has panics to take out. -/
theorem quietCall_other {call : ClientCall}
    (other : ∀ tag calls panics, call ≠ .setCallback tag calls panics) : quietCall call = call := by
  cases call with
  | setCallback tag calls panics => exact absurd rfl (other tag calls panics)
  | _ => rfl

/-- A call has the same answer without panics. -/
theorem perform_quiet (call : ClientCall) :
    c.quiet.perform (quietCall call) = ((c.perform call).1, (c.perform call).2.quiet) := by
  by_cases hset : ∃ tag calls panics, call = .setCallback tag calls panics
  · obtain ⟨tag, calls, panics, rfl⟩ := hset
    have halive : c.quiet.alive = c.alive := rfl
    simp only [quietCall, perform, halive]
    split <;> rfl
  · -- any other call neither looks at the callback nor sets one
    have hother : ∀ tag calls panics, call ≠ .setCallback tag calls panics :=
      fun tag calls panics h => hset ⟨tag, calls, panics, h⟩
    have hsame : (c.callback.map quietCallback).isNone = (c.withPanics 0).callback.isNone :=
      Option.isNone_map
    have hkept : (c.perform call).2.callback = c.callback :=
      congrArg (fun r => r.2.callback) (perform_withCallback (c := c) rfl hother)
    have hquiet := perform_withCallback hsame hother
    rw [perform_withPanics] at hquiet
    rw [quietCall_other hother, quiet, quiet, hkept]
    exact hquiet

/-- So have the calls of a callback, one after another. -/
theorem performAll_quiet (calls : List ClientCall) :
    c.quiet.performAll (quietAll calls) =
      ((c.performAll calls).1, (c.performAll calls).2.quiet) := by
  induction calls generalizing c with
  | nil => rfl
  | cons call calls ih => simp only [quietAll, performAll, perform_quiet, ih]

/-- A round does not ask what the callback does. -/
theorem round_quiet : c.quiet.round = (c.round.1, c.round.2.quiet) := by
  have hend : c.quiet.mustEnd = c.mustEnd := rfl
  have hengine : c.quiet.engine = c.engine.withPanics 0 := rfl
  unfold round
  rw [hend, hengine, Engine.pollBlocking_withPanics]
  split
  · rfl
  · rcases c.engine.pollBlocking with ⟨result, engine⟩
    cases result with
    | ok outcome => cases outcome <;> rfl
    | error e => cases e <;> rfl

/-- The end of a callback differs in the count only. -/
theorem afterwards_quiet (panics : Bool) : (c.afterwards panics).quiet = c.quiet := by
  cases panics <;> rfl

/-- A callback makes the same calls, whether it panics in the end or not. -/
theorem invoke_quiet (callback : Callback) (r : Receipt) :
    c.quiet.invoke (quietCallback callback) r =
      ((c.invoke callback r).1, (c.invoke callback r).2.quiet) := by
  have hcalls := performAll_quiet (c := c) (callback.calls r.jobId)
  have hafter := afterwards_quiet (c := (c.performAll (callback.calls r.jobId)).2)
    (callback.panics r.jobId)
  simp only [invoke, quietCallback, hcalls]
  exact congrArg (Prod.mk _) hafter.symm

/-- So the loop takes the same receipts, -/
theorem drain_quiet (rounds : Nat) :
    c.quiet.drain rounds = ((c.drain rounds).1, (c.drain rounds).2.quiet) := by
  induction rounds generalizing c with
  | zero => rfl
  | succ rounds ih =>
    have hloop : c.quiet.loop = c.loop := rfl
    simp only [drain, hloop, round_quiet]
    split
    · rfl
    · rcases c.round with ⟨round, d⟩
      cases round with
      | ends result => rfl
      | waits => rfl
      | takes r =>
        have hcallback : d.quiet.callback = d.callback.map quietCallback := rfl
        simp only [hcallback]
        cases d.callback with
        | none => exact ih
        -- the callback may set another one, which is quiet too
        | some callback => simp only [Option.map_some, invoke_quiet, ih]

/-- all of them, -/
theorem deliver_quiet : c.quiet.deliver = (c.deliver.1, c.deliver.2.quiet) :=
  drain_quiet (c.engine.receipts.length + 1)

/-- hears the same answers -/
theorem hear?_quiet : c.quiet.hear? = c.hear?.map quiet := by
  have hengine : c.quiet.engine = c.engine.withPanics 0 := rfl
  have hbroadcasting : c.quiet.engine.broadcasting = c.engine.broadcasting := rfl
  have hnetwork : c.quiet.network = c.network := rfl
  unfold hear?
  rw [hbroadcasting, hnetwork]
  cases c.engine.broadcasting with
  | nil => rfl
  | cons job rest =>
    dsimp only
    cases c.network.broadcast? job.request.rawTx job.request.endpoint with
    | none => rfl
    | some answer =>
      simp only [hengine, Engine.finish_withPanics]
      rfl

/-- and comes to rest in the same state. -/
theorem settle_quiet (rounds : Nat) :
    c.quiet.settle rounds = ((c.settle rounds).1, (c.settle rounds).2.quiet) := by
  induction rounds generalizing c with
  | zero => exact deliver_quiet
  | succ rounds ih =>
    simp only [settle, deliver_quiet, hear?_quiet]
    cases c.deliver.2.hear? with
    | none => rfl
    | some d => simp only [Option.map_some, ih]

/-- An operation begins alike, -/
theorem begin_quiet (op : Op) :
    c.quiet.begin op.quiet = ((c.begin op).1, (c.begin op).2.1, (c.begin op).2.2.quiet) := by
  cases op with
  | finish job outcome =>
    have hengine : c.quiet.engine = c.engine.withPanics 0 := rfl
    simp only [Op.quiet, begin, hengine, Engine.finish_withPanics]
    rfl
  | call call =>
    have hperform := perform_quiet (c := c) call
    cases call with
    -- `run` is the one call whose answer says whether the loop is begun
    | run =>
      have hrunning : c.quiet.isRunning = c.isRunning := rfl
      simp only [Op.quiet, quietCall, begin, hrunning] at hperform ⊢
      rw [hperform]
      rcases c.perform .run with ⟨answer, d⟩
      cases answer with
      | failed e => dsimp only; split <;> rfl
      | _ => rfl
    | _ =>
      simp only [Op.quiet, quietCall, begin] at hperform ⊢
      rw [hperform]

/-- ends alike -/
theorem step_quiet (op : Op) : c.quiet.step op.quiet = ((c.step op).1, (c.step op).2.quiet) := by
  simp only [step, begin_quiet, settle_quiet]
  rfl

/-- and so does every operation after it. -/
theorem runAll_quiet (ops : List Op) :
    runAll c.quiet (ops.map Op.quiet) = (runAll c ops).map fun e => (e.1, e.2.quiet) := by
  induction ops generalizing c with
  | nil => rfl
  -- each operation starts from a client without panics again
  | cons op ops ih => simp only [List.map_cons, runAll, step_quiet, ih]

/-- **A callback that panics changes nothing else.**  Of two runs of one schedule, one with
    callbacks that panic here and there, every answer, every callback with its receipt and every
    end of a loop is the same, and so is the client but for the count of panics; the count is the
    number of callbacks that panicked.  And a session has the reports of the session in which no
    callback panics. -/
theorem panics_change_nothing_else (config : Config) (network : Network) (deeds : List Deed)
    (ops : List Op) :
    let start := Moment.initial config network
    let calm := start.run (deeds.filter Deed.isPlain)
    let upset := start.run deeds
    (upset.log = calm.log ∧
      upset.client = calm.client.withPanics (UInt64.ofNat (start.panicking deeds)) ∧
      upset.busy.map Busy.calls = calm.busy.map Busy.calls ∧
      calm.client.panics = UInt64.ofNat (start.panicking (deeds.filter Deed.isPlain))) ∧
    (runAll (.new config network) ops).map (fun e => (e.1, e.2.quiet)) =
      runAll (.new config network) (ops.map Op.quiet) := by
  intro start calm upset
  have htwins : Twins calm upset := (Twins.refl start).run deeds
  have hcount (deeds : List Deed) :
      (start.run deeds).client.panics = UInt64.ofNat (start.panicking deeds) := by
    have hzero : start.client.panics = 0 := rfl
    rw [panics_run, hzero, UInt64.zero_add]
  refine ⟨⟨htwins.log, ?_, htwins.busy, hcount _⟩, (runAll_quiet ops).symm⟩
  rw [← hcount deeds]
  exact htwins.client

end Client

end TxRelay
