/-
  What a client counts.

  The client's engine is moved by calls, by the loop and by broadcasts that end.  Only a call of
  `broadcast` and the end of a broadcast are counted on both sides; everything else that a client
  does is quiet.

  1. **The log.**  It says which of the calls were accepted and which refused, and which broadcasts
     ended; `Event.counted?` reads this off.  The receipts that are counted so are those that the
     client owes (`receipts_countedBy`), so the metrics are tied to what callbacks are given.

  2. **The books.**  The books of the engine are kept against the log (`Moment.Booked`).  A call of
     `broadcast` has three outcomes, each with its lemma from `TxRelay.Proofs.Engine.Metrics`; the
     other calls are quiet (`Effect.quiet`), and so are the steps of the loop: taking a receipt is a
     delivery, a panic is a panic, and neither is shown.

  3. **Both kinds of runs.**  `metrics_agree` states for sessions of an engine and for runs of a
     client what a reader of the metrics may rely on after each step.
-/
import TxRelay.Proofs.Engine.Metrics

namespace TxRelay.Client

open Engine (Booked Quiet quiet_startWorking quiet_destroy)

variable {config : Config} {network : Network} {m m' : Moment} {c : Client}

/-- What an event of a client counts. -/
@[simp] def Event.counted? : Event → Option Tally.Event
  | called (.broadcast _ _ jobId) .queued => some (.accepted jobId)
  | called (.broadcast _ _ _) (.failed (.rejected _ e)) => some (.refused e)
  | ended job outcome => some (.ended job outcome)
  | _ => none

/-- What the events of a client counted. -/
def countedBy (log : List Event) : List Tally.Event := log.filterMap Event.counted?

/-- An event adds what it counts, if anything. -/
theorem countedBy_snoc (log : List Event) (event : Event) :
    countedBy (log ++ [event]) = countedBy log ++ event.counted?.toList :=
  Log.filterMap_snoc _ log event

/-- The receipts that are counted are those that are due. -/
theorem receipts_countedBy (log : List Event) :
    Tally.Event.receipts (countedBy log) = completed log := by
  have hnames : Tally.Event.names (countedBy log) = queuedJobs log := by
    rw [Tally.Event.names, countedBy, List.filterMap_filterMap, queuedJobs]
    refine List.filterMap_congr fun event _ => ?_
    unfold Event.counted? Event.queued?
    split <;> simp
  have hendings : Tally.Event.endings (countedBy log) = endings log := by
    rw [Tally.Event.endings, countedBy, List.filterMap_filterMap, endings]
    refine List.filterMap_congr fun event _ => ?_
    unfold Event.counted? Event.ending?
    split <;> simp
  rw [Tally.Event.receipts, hnames, hendings, completed]

/-! ## Calls -/

/-- No other call than that of `broadcast` is counted. -/
theorem Effect.quiet {call : ClientCall} {answer : ClientAnswer} {d : Client}
    (h : Effect c call answer d)
    (other : ∀ rawTx endpoint jobId, call ≠ .broadcast rawTx endpoint jobId) :
    Quiet c.engine d.engine ∧ (Event.called call answer).counted? = none := by
  have hnone : (Event.called call answer).counted? = none := by
    cases call with
    | broadcast rawTx endpoint jobId => exact absurd rfl (other rawTx endpoint jobId)
    | _ => rfl
  refine ⟨?_, hnone⟩
  cases h with
  | start live set free => exact quiet_startWorking
  | run live set free => exact quiet_startWorking
  | destroy live => exact quiet_destroy
  | queued live => exact absurd rfl (other _ _ _)
  | rejected live why => exact absurd rfl (other _ _ _)
  | _ => exact .refl

/-! ## The books -/

/-- The engine's books are kept against the log. -/
def Moment.Booked (m : Moment) : Prop := Engine.Booked (countedBy m.log) m.client.engine

/-- A step that counts nothing. -/
theorem Moment.Booked.note {event : Event} (h : m.Booked) (quiet : Quiet m.client.engine c.engine)
    (counts : event.counted? = none) : Moment.Booked ({ m with client := c }.note event) := by
  rw [Moment.Booked, Moment.note, countedBy_snoc, counts, Option.toList_none, List.append_nil]
  exact Engine.Booked.quiet h quiet

/-- A call is counted as its answer says. -/
theorem Moment.Booked.make (h : m.Booked) (whole : m.client.Whole) (call : ClientCall) :
    Moment.Booked (m.make call) := by
  by_cases hbroadcast : ∃ rawTx endpoint jobId, call = .broadcast rawTx endpoint jobId
  · obtain ⟨rawTx, endpoint, jobId, rfl⟩ := hbroadcast
    rcases broadcast_cases whole rawTx (endpoint.getD m.client.defaultEndpoint) jobId with
      ⟨-, hgone⟩ | ⟨-, err, hbad, hrefused⟩ | ⟨-, haccepted⟩
    · simp only [Moment.make, perform, hgone, answerOf]
      exact h.note .refl rfl
    · simp only [Moment.make, perform, hrefused, answerOf]
      rw [Moment.Booked, Moment.note, countedBy_snoc]
      exact Engine.Booked.refuse h hbad
    · simp only [Moment.make, perform, haccepted, answerOf]
      rw [Moment.Booked, Moment.note, countedBy_snoc]
      exact Engine.Booked.accept h ⟨rawTx, _, jobId⟩
  · obtain ⟨hquiet, hnone⟩ := (perform_effect whole call).quiet
      fun rawTx endpoint jobId heq => hbroadcast ⟨rawTx, endpoint, jobId, heq⟩
    exact h.note hquiet hnone

/-- A broadcast ends. -/
theorem Moment.Booked.hear {network : Network} {job : Job} {outcome : BroadcastResult}
    (h : m.Booked) (held : job ∈ m.client.engine.broadcasting)
    (finish : m.client.engine.finish job.number outcome =
      (true, m.client.engine.complete job outcome)) :
    Moment.Booked (m.hear network job.number outcome) := by
  rw [Moment.hear, finish, Moment.Booked, Moment.note, countedBy_snoc]
  exact Engine.Booked.complete h held outcome

/-- What happens in a client without a call from outside is quiet, but for the end of a broadcast.
    -/
theorem Moment.Booked.happens (h : m.Booked) (whole : m.client.Whole) (next : Happens m m') :
    m'.Booked := by
  cases next with
  | begin free runs round set =>
    obtain ⟨-, rest, -, rfl⟩ := round_takes whole round
    exact h.note ⟨rfl, rfl, List.Subperm.refl _⟩ rfl
  | drop free runs round unset =>
    obtain ⟨-, rest, -, rfl⟩ := round_takes whole round
    exact Engine.Booked.quiet h ⟨rfl, rfl, List.Subperm.refl _⟩
  | stop free runs round =>
    obtain ⟨-, -, rfl⟩ := round_ends whole round
    exact h.note .refl rfl
  | @call call rest panics busy =>
    have hcalling : Moment.Booked { m with busy := some ⟨rest, panics⟩ } := h
    exact hcalling.make whole call
  | @«return» panics busy =>
    cases panics with
    | false => exact h
    -- a panic is counted where nothing is shown
    | true => exact Engine.Booked.quiet h ⟨rfl, rfl, List.Subperm.refl _⟩
  | @hear job rest outcome network head answer =>
    have held : job ∈ m.client.engine.broadcasting := by simp [head]
    exact h.hear held (Engine.finish_head whole.alone outcome head)

/-- Every step keeps the books. -/
theorem Moment.Booked.step (h : m.Booked) (whole : m.client.Whole) (next : Step m m') :
    m'.Booked := by
  cases next with
  | happens next => exact h.happens whole next
  | call call => exact h.make whole call
  | @finish number outcome goes =>
    rcases Engine.finish_alone whole.alone number outcome with ⟨job, held, rfl, hfinish⟩ | hfinish
    · exact h.hear held hfinish
    · rw [hfinish] at goes
      cases goes

/-- The books are kept at every moment. -/
theorem Reachable.booked (h : Reachable config network m) : m.Booked := by
  induction h with
  | initial => exact Engine.Booked.new
  | step before next ih => exact ih.step before.roles.whole next

/-- The metrics of a client whose log has fewer than 2^64 entries. -/
theorem Reachable.agrees (h : Reachable config network m) (short : m.log.length < UInt64.size) :
    Agrees (countedBy m.log) m.client.engine.tally :=
  h.booked.agrees (Nat.lt_of_le_of_lt (List.length_filterMap_le _ _) short)

end TxRelay.Client

namespace TxRelay

/-- **The metrics agree with the counters.**  After each step of a run of fewer than 2^64 steps,
    of an engine or of a client, each metric says what its counter says, and both say how often
    the thing happened; the gauge stands from the first acceptance on.  The receipts by which
    successes are told are those that the client owes. -/
theorem metrics_agree :
    (∀ (network : StandIn) (pollInterval : UInt64) (ops : List Engine.Op),
      ops.length < UInt64.size →
        Log.Each (fun before x => Agrees (Engine.countedBy (before ++ [x])) x.engine.tally)
          (Engine.session network { pollInterval := pollInterval } ops)) ∧
    (∀ (config : Config) (network : Network) (m : Client.Moment),
      Client.Reachable config network m → m.log.length < UInt64.size →
        Agrees (Client.countedBy m.log) m.client.engine.tally ∧
        Tally.Event.receipts (Client.countedBy m.log) = Client.completed m.log) :=
  ⟨fun _ _ _ short => Engine.session_agrees short,
    fun _ _ m reached short => ⟨reached.agrees short, Client.receipts_countedBy m.log⟩⟩

namespace Engine

/-- Each kind of refusal, a success, a failure and a transaction that stays pending, around the
    end of the engine. -/
def mixedDay : List Op :=
  let request (payload : Bytes) (endpoint : String) : Request := ⟨payload, endpoint, ⟨"job"⟩⟩
  let mined (success : Bool) : BroadcastResult := .ok (.mined ⟨"0x03", success, none, 21000⟩)
  [.submit (request [1] "http://[::1]:8545"), .submit (request [] "http://[::1]:8545"),
    .submit (request [2] "nowhere"), .submit (request [3] "http://[::1]:8545"), .startWorking,
    .submit (request [4] "http://[::1]:8545"), .submit (request [5] "http://[::1]:8545"),
    .finish 1 (mined true), .finish 0 (mined false),
    .submit (request [6] "http://[::1]:8545"), .finish 2 (.ok (.pending "0x04" "no receipt")),
    .pollNonblocking, .destroy, .submit (request [] "http://[::1]:8545")]

/-- A network that refuses one payload. -/
def picky : StandIn := { refusals := [([3], .invalidPayload "no transaction")] }

end Engine

/-- A session with each kind of refusal and of ends, and a client that relayed a transaction. -/
theorem metrics_agree_mixedDay :
    Engine.mixedDay.length < UInt64.size ∧
    Log.Each (fun before x => Agrees (Engine.countedBy (before ++ [x])) x.engine.tally)
      (Engine.session Engine.picky { pollInterval := 5 } Engine.mixedDay) ∧
    ((Engine.session Engine.picky { pollInterval := 5 } Engine.mixedDay).getLast?.map
      (·.engine.tally)) =
        some ⟨⟨4, 3, 3, 1⟩, ⟨4, 1, 1, 1, 1, 2, some 1, 0⟩⟩ ∧
    Client.Reachable {} (.standIn {}) Client.relayed ∧
    Client.relayed.log.length < UInt64.size ∧
    Agrees (Client.countedBy Client.relayed.log) Client.relayed.client.engine.tally ∧
    Tally.Event.receipts (Client.countedBy Client.relayed.log) =
      Client.completed Client.relayed.log :=
  ⟨by decide, metrics_agree.1 _ _ _ (by decide), by decide +kernel, Client.relayed_reachable,
    by decide, metrics_agree.2 _ _ _ Client.relayed_reachable (by decide)⟩

end TxRelay
