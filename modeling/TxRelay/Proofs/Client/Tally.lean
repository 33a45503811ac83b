/-
  Nothing that a client does looks at its counters.

  What holds of the engine holds of the client that owns it: with the counters changed, a call has
  the same answer, unless it asks for the counters, and a round of the loop goes the same way.

  1. **Calls and rounds.**  An `Edit` of the counters commutes with every event that counts.  So it
     commutes with every call (`perform_mapTally`) and with a round.  The one call whose answer
     changes is the one that asks for the counters, and `mapStats` says how.

  2. **Runs.**  The same for each deed, and then for a schedule: two runs of one schedule that
     differ in the counters at the beginning differ in nothing else later on (`run_mapTally`).

  3. **Logs.**  A run does not look at its log either, so what was written down before may be
     replaced (`run_behind`), and a run is the log so far followed by the run of a moment with an
     empty log (`run_fresh`).

  Each statement is an equation between what is done after the change and the change after what is
  done, so that the proofs are chains of rewriting and nothing is carried from one to the next.
-/
import TxRelay.Client.Schedule
import TxRelay.Proofs.Engine.Tally

namespace TxRelay

/-- The answer with the counters in it changed. -/
def ClientAnswer.mapStats (g : Stats → Stats) : ClientAnswer → ClientAnswer
  | stats s => stats (g s)
  | a => a

namespace Client

variable {f : Tally → Tally} {g : Stats → Stats} {c : Client}

/-- The client with its counters changed. -/
def mapTally (f : Tally → Tally) (c : Client) : Client := { c with engine := c.engine.mapTally f }

/-! ## Calls and rounds -/

/-- The claim of the loop does not look at the counters. -/
theorem claim_mapTally (loop : Loop) :
    (c.mapTally f).claim loop = (c.claim loop).map (mapTally f) := by
  have hstart := Engine.startWorking_mapTally (e := c.engine) (f := f)
  have halive : (c.mapTally f).alive = c.alive := rfl
  have hcallback : (c.mapTally f).callback = c.callback := rfl
  have hrunning : (c.mapTally f).isRunning = c.isRunning := rfl
  have hengine : (c.mapTally f).engine = c.engine.mapTally f := rfl
  unfold claim
  rw [halive, hcallback, hrunning, hengine, hstart]
  split
  · rfl
  · split
    · rfl
    · split
      · rfl
      · rcases c.engine.startWorking with ⟨result, engine⟩
        cases result <;> rfl

section

variable (edit : Tally.Edit f g)
include edit

/-- A call does the same, and only the counters in its answer look different. -/
theorem perform_mapTally (call : ClientCall) :
    (c.mapTally f).perform call =
      ((c.perform call).1.mapStats g, (c.perform call).2.mapTally f) := by
  have halive : (c.mapTally f).alive = c.alive := rfl
  have hengine : (c.mapTally f).engine = c.engine.mapTally f := rfl
  cases call with
  | setCallback tag calls panics =>
    simp only [perform, halive]
    split <;> rfl
  | start =>
    simp only [perform, claim_mapTally]
    cases c.claim .worker <;> rfl
  | run =>
    simp only [perform, claim_mapTally]
    cases c.claim .caller <;> rfl
  | broadcast rawTx endpoint jobId =>
    have hnetwork : (c.mapTally f).network = c.network := rfl
    have hdefault : (c.mapTally f).defaultEndpoint = c.defaultEndpoint := rfl
    simp only [perform, broadcast, halive, hengine, hnetwork, hdefault, Engine.submit_mapTally edit]
    split
    · rfl
    · rcases Engine.submit c.network.validate ⟨rawTx, endpoint.getD c.defaultEndpoint, jobId⟩
        c.engine with ⟨result, engine⟩
      cases result <;> rfl
  | balance q =>
    have hnetwork : (c.mapTally f).network = c.network := rfl
    have hbalance (reply : Except NetworkError Nat) :
        (c.engine.mapTally f).balance reply = c.engine.balance reply := rfl
    simp only [perform, balance, halive, hengine, hnetwork, hbalance]
    split
    · rfl
    · rcases c.network.balance q with ⟨reply, network⟩
      cases c.engine.balance reply <;> rfl
  | stats =>
    -- the one answer in which the counters show
    have hstats : (c.mapTally f).stats? = c.stats?.map g := by
      simp only [stats?, halive]
      split
      · exact congrArg some (edit.stats c.engine.tally)
      · rfl
    simp only [perform, hstats]
    cases c.stats? <;> rfl
  | destroy =>
    simp only [perform, destroy, halive, hengine, Engine.destroy_mapTally]
    split <;> rfl
  | stop => rfl
  | state => rfl
  | isRunning => rfl
  | defaultEndpoint => rfl
  | debug => rfl

theorem round_mapTally : (c.mapTally f).round = (c.round.1, c.round.2.mapTally f) := by
  have hend : (c.mapTally f).mustEnd = c.mustEnd := rfl
  have hengine : (c.mapTally f).engine = c.engine.mapTally f := rfl
  unfold round
  rw [hend, hengine, Engine.pollBlocking_mapTally edit]
  split
  · rfl
  · rcases c.engine.pollBlocking with ⟨result, engine⟩
    cases result with
    | ok outcome => cases outcome <;> rfl
    | error e => cases e <;> rfl

end

/-! ## Runs -/

/-- The event with the counters in it changed. -/
def Event.mapStats (g : Stats → Stats) : Event → Event
  | called call answer => called call (answer.mapStats g)
  | event => event

namespace Moment

variable {m : Moment}

/-- The moment with the counters changed, and as if they always had been. -/
def mapTally (f : Tally → Tally) (g : Stats → Stats) (m : Moment) : Moment where
  client := m.client.mapTally f
  busy := m.busy
  log := m.log.map (Event.mapStats g)

section

variable (edit : Tally.Edit f g)
include edit

/-- A call with the counters changed. -/
theorem make_mapTally (call : ClientCall) :
    (m.mapTally f g).make call = (m.make call).mapTally f g := by
  have hperform := perform_mapTally (c := m.client) edit call
  have hclient : (m.mapTally f g).client = m.client.mapTally f := rfl
  unfold make
  rw [hclient, hperform]
  simp only [mapTally, note, List.map_append, List.map_cons, List.map_nil, Event.mapStats]

/-- The end of a job with the counters changed. -/
theorem hear_mapTally (network : Network) (job : Nat) (outcome : BroadcastResult) :
    (m.mapTally f g).hear network job outcome = (m.hear network job outcome).mapTally f g := by
  have hengine : (m.mapTally f g).client.engine = m.client.engine.mapTally f := rfl
  unfold hear
  rw [hengine, Engine.finish_mapTally edit]
  simp only [mapTally, note, List.map_append, List.map_cons, List.map_nil, Event.mapStats]
  rfl

/-- An answer from outside finds the same job. -/
theorem learn_mapTally (job : Nat) (outcome : BroadcastResult) :
    (m.mapTally f g).learn job outcome = (m.learn job outcome).mapTally f g := by
  have hgoes : ((m.mapTally f g).client.engine.finish job outcome).1 =
      (m.client.engine.finish job outcome).1 := by
    show ((m.client.engine.mapTally f).finish job outcome).1 = _
    rw [Engine.finish_mapTally edit]
  have hnetwork : (m.mapTally f g).client.network = m.client.network := rfl
  unfold learn
  rw [hgoes, hnetwork, hear_mapTally edit]
  split <;> rfl

/-- The network answers for the same job. -/
theorem listen_mapTally : (m.mapTally f g).listen = m.listen.mapTally f g := by
  have hbroadcasting : (m.mapTally f g).client.engine.broadcasting = m.client.engine.broadcasting :=
    rfl
  have hnetwork : (m.mapTally f g).client.network = m.client.network := rfl
  unfold listen
  rw [hbroadcasting, hnetwork]
  split
  · rfl
  · split
    · rfl
    · exact hear_mapTally edit _ _ _

theorem round_mapTally : (m.mapTally f g).round = m.round.mapTally f g := by
  have hround := Client.round_mapTally (c := m.client) edit
  have hclient : (m.mapTally f g).client = m.client.mapTally f := rfl
  unfold round
  rw [hclient, hround]
  rcases m.client.round with ⟨round, d⟩
  cases round with
  | waits => rfl
  | ends result =>
    simp only [mapTally, note, List.map_append, List.map_cons, List.map_nil, Event.mapStats]
  | takes r =>
    have hcallback : (d.mapTally f).callback = d.callback := rfl
    simp only [hcallback]
    cases d.callback with
    | none => rfl
    | some callback =>
      simp only [mapTally, begin, note, List.map_append, List.map_cons, List.map_nil,
        Event.mapStats]

variable (panicked : ∀ t : Tally, (f t).panicked = f t.panicked)
include panicked

/-- The loop and its callback go on in the same way. -/
theorem goOn_mapTally : (m.mapTally f g).goOn = m.goOn.mapTally f g := by
  obtain ⟨c, busy, log⟩ := m
  cases busy with
  | none =>
    have hruns : (c.mapTally f).isRunning = c.isRunning := rfl
    simp only [goOn, mapTally, hruns]
    split
    · exact round_mapTally (m := ⟨c, none, log⟩) edit
    · rfl
  | some busy =>
    obtain ⟨calls, panics⟩ := busy
    cases calls with
    | cons call rest => exact make_mapTally (m := ⟨c, some ⟨rest, panics⟩, log⟩) edit call
    | nil =>
      -- a panic is counted after the change as before it
      have hafter : (c.mapTally f).afterwards panics = (c.afterwards panics).mapTally f := by
        cases panics with
        | false => rfl
        | true => simp only [afterwards, Client.mapTally, Engine.mapTally, panicked, if_true]
      simp only [goOn, mapTally, hafter]

/-- Every deed does the same with the counters changed. -/
theorem advance_mapTally (deed : Deed) :
    (m.mapTally f g).advance deed = (m.advance deed).mapTally f g := by
  cases deed with
  | call call => exact make_mapTally edit call
  | finish job outcome => exact learn_mapTally edit job outcome
  | hear => exact listen_mapTally edit
  | goOn => exact goOn_mapTally edit panicked
  | upset => rfl

/-- Two runs of one schedule that differ in the counters differ in nothing else. -/
theorem run_mapTally (deeds : List Deed) :
    (m.mapTally f g).run deeds = (m.run deeds).mapTally f g := by
  induction deeds generalizing m with
  | nil => rfl
  | cons deed deeds ih => rw [run_cons, run_cons, advance_mapTally edit panicked, ih]

end

/-! ## Logs -/

/-- The moment as it is when more was written down before. -/
def behind (before : List Event) (m : Moment) : Moment := { m with log := before ++ m.log }

/-- A call writes its entry at the end. -/
theorem make_behind (before : List Event) (call : ClientCall) :
    (m.behind before).make call = (m.make call).behind before := by
  simp only [make, behind, note, List.append_assoc]

/-- So does the end of a job, -/
theorem hear_behind (before : List Event) (network : Network) (job : Nat)
    (outcome : BroadcastResult) :
    (m.behind before).hear network job outcome = (m.hear network job outcome).behind before := by
  simp only [hear, behind, note, List.append_assoc]

/-- a round that begins a callback or ends the loop, -/
theorem round_behind (before : List Event) : (m.behind before).round = m.round.behind before := by
  simp only [round, behind]
  rcases m.client.round with ⟨round, d⟩
  cases round with
  | waits => rfl
  | ends result => simp only [note, List.append_assoc]
  | takes r =>
    simp only
    cases d.callback with
    | none => rfl
    | some callback => simp only [begin, note, List.append_assoc]

/-- whatever the client does by itself -/
theorem goOn_behind (before : List Event) : (m.behind before).goOn = m.goOn.behind before := by
  obtain ⟨c, busy, log⟩ := m
  cases busy with
  | none =>
    have hround := round_behind (m := ⟨c, none, log⟩) before
    unfold goOn
    show (if c.isRunning = true then _ else _) = behind before (if c.isRunning = true then _ else _)
    split
    · exact hround
    · rfl
  | some busy =>
    obtain ⟨calls, panics⟩ := busy
    cases calls with
    | cons call rest => exact make_behind (m := ⟨c, some ⟨rest, panics⟩, log⟩) before call
    | nil => rfl

/-- and every deed. -/
theorem advance_behind (before : List Event) (deed : Deed) :
    (m.behind before).advance deed = (m.advance deed).behind before := by
  cases deed with
  | call call => exact make_behind before call
  | goOn => exact goOn_behind before
  | upset => rfl
  | finish job outcome =>
    have hgoes : ((m.behind before).client.engine.finish job outcome).1 =
        (m.client.engine.finish job outcome).1 := rfl
    simp only [advance, learn, hgoes, hear_behind]
    split <;> rfl
  | hear =>
    have hclient : (m.behind before).client = m.client := rfl
    simp only [advance, listen, hclient, hear_behind]
    split
    · rfl
    · split <;> rfl

/-- A run goes on in the same way whatever was written down before. -/
theorem run_behind (before : List Event) (deeds : List Deed) :
    (m.behind before).run deeds = (m.run deeds).behind before := by
  induction deeds generalizing m with
  | nil => rfl
  | cons deed deeds ih => rw [run_cons, run_cons, advance_behind, ih]

/-- What a run writes down stands alone. -/
theorem run_fresh (m : Moment) (deeds : List Deed) :
    m.run deeds = (Moment.run { m with log := [] } deeds).behind m.log := by
  have hm : m = Moment.behind m.log { m with log := [] } := by simp [behind]
  rw [← run_behind, ← hm]

end Moment

end Client

end TxRelay
