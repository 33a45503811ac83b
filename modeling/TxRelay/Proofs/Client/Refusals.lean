/-
  Refused submissions.

  A submission is accepted if it has a payload, its endpoint is one, and the network takes the
  payload; otherwise it is refused, and leaves no trace but a count.

  1. **What is wrong.**  `FirstFault` is the first of the three that is missing: it gives the reason
     of the refusal and the counter that goes up (`check_cases`).  The order counts, since a request
     may lack all three.

  2. **The engine.**  A refused submission changes the counters and nothing else
     (`submit_refused`), and the change is an `Edit`, which commutes with every event
     (`FirstFault.edit`).

  3. **The client.**  So the run after a refusal is the run without it, deed by deed, with the
     counters changed from the beginning (`run_refused`).  Nothing that is handed over later, or
     told to anybody but those who ask for the counters, is any different.

  The crux is to compare two whole runs at once, and not to follow one: that no operation looks at
  the counters was proved before, for every operation, so here it is only put to use.
-/
import TxRelay.Proofs.Client.Delivery
import TxRelay.Proofs.Client.Tally

namespace TxRelay

/-! ## What is wrong with a submission -/

namespace Engine

/-- Nothing is wrong with a submission. -/
structure Acceptable (validate : Validate) (r : Request) : Prop where
  payload : r.rawTx ≠ []
  endpoint : ∃ url, Endpoint.parse r.endpoint = .ok url
  valid : validate r.rawTx = .ok ()

/-- The first thing that is wrong with a submission, and the metric that counts it. -/
inductive FirstFault (validate : Validate) (r : Request) :
    EngineError → (Metrics → Metrics) → Prop where
  | request (empty : r.rawTx = []) :
      FirstFault validate r (.invalidRequest "empty payload")
        fun m => { m with rejectedRequest := m.rejectedRequest + 1 }
  | endpoint {refusal : Endpoint.Refusal} (payload : r.rawTx ≠ [])
      (bad : Endpoint.parse r.endpoint = .error refusal) :
      FirstFault validate r (.invalidEndpoint r.endpoint refusal.reason)
        fun m => { m with rejectedEndpoint := m.rejectedEndpoint + 1 }
  | payload {url : Url.Web} {e : NetworkError} (payload : r.rawTx ≠ [])
      (endpoint : Endpoint.parse r.endpoint = .ok url) (bad : validate r.rawTx = .error e) :
      FirstFault validate r (.rejected e.message)
        fun m => { m with rejectedPayload := m.rejectedPayload + 1 }

/-- One more refusal is counted, under this metric. -/
def refuse (count : Metrics → Metrics) (t : Tally) : Tally where
  stats := { t.stats with rejected := t.stats.rejected + 1 }
  metrics := count t.metrics

variable {validate : Validate} {r : Request} {e : Engine} {err : EngineError}
  {count : Metrics → Metrics}

/-- The checks come to one of four ends. -/
theorem check_cases (validate : Validate) (r : Request) :
    (Acceptable validate r ∧ check validate r = .ok ()) ∨
      ∃ err count, FirstFault validate r err count ∧ check validate r = .error err := by
  unfold check
  by_cases hempty : r.rawTx = []
  · refine Or.inr ⟨_, _, .request hempty, ?_⟩
    rw [hempty]
    rfl
  · have hfull : r.rawTx.isEmpty = false := by simp [hempty]
    rw [hfull]
    cases hparse : Endpoint.parse r.endpoint with
    | error refusal => exact Or.inr ⟨_, _, .endpoint hempty hparse, rfl⟩
    | ok url =>
      cases hvalid : validate r.rawTx with
      | error e => exact Or.inr ⟨_, _, .payload hempty hparse hvalid, rfl⟩
      | ok _ => exact Or.inl ⟨⟨hempty, ⟨url, hparse⟩, hvalid⟩, rfl⟩

/-- A request with a fault is not acceptable. -/
theorem FirstFault.not_acceptable (h : FirstFault validate r err count) :
    ¬ Acceptable validate r := by
  rintro ⟨hpayload, ⟨url, hparse⟩, hvalid⟩
  cases h with
  | request empty => exact hpayload empty
  | endpoint _ bad => cases hparse.symm.trans bad
  | payload _ _ bad => cases hvalid.symm.trans bad

/-- A fault is counted under its own reason. -/
theorem FirstFault.counted (h : FirstFault validate r err count) :
    (fun t : Tally => t.rejected (rejectReason err)) = refuse count := by
  cases h <;> rfl

/-- A count of refusals goes along with every event. -/
theorem FirstFault.edit (h : FirstFault validate r err count) :
    Tally.Edit (refuse count) fun s => { s with rejected := s.rejected + 1 } := by
  cases h with
  | request _ =>
    exact ⟨fun _ => rfl, fun _ => rfl, fun _ reason => by cases reason <;> rfl,
      fun _ success => by cases success <;> rfl, fun _ => rfl⟩
  | endpoint _ _ =>
    exact ⟨fun _ => rfl, fun _ => rfl, fun _ reason => by cases reason <;> rfl,
      fun _ success => by cases success <;> rfl, fun _ => rfl⟩
  | payload _ _ _ =>
    exact ⟨fun _ => rfl, fun _ => rfl, fun _ reason => by cases reason <;> rfl,
      fun _ success => by cases success <;> rfl, fun _ => rfl⟩

/-- A refusal and a panic count in different places. -/
theorem FirstFault.panicked (h : FirstFault validate r err count) (t : Tally) :
    (refuse count t).panicked = refuse count t.panicked := by
  cases h <;> rfl

/-! ## The engine -/

/-- What can come of a submission to a live engine, in terms of what is wrong with it. -/
theorem submit_cases (live : e.phase ≠ .destroyed) (validate : Validate) (r : Request) :
    (Acceptable validate r ∧ submit validate r e = (.ok (), e.accept r)) ∨
      ∃ err count, FirstFault validate r err count ∧
        submit validate r e = (.error err, e.mapTally (refuse count)) := by
  rcases check_cases validate r with ⟨hacceptable, hcheck⟩ | ⟨err, count, hfault, hcheck⟩
  · rcases @submit_live e validate r live with ⟨err, hbad, -⟩ | ⟨-, hsubmit⟩
    · cases hcheck.symm.trans hbad
    · exact Or.inl ⟨hacceptable, hsubmit⟩
  · rcases @submit_live e validate r live with ⟨err', hbad, hsubmit⟩ | ⟨hok, -⟩
    · obtain rfl : err = err' := Except.error.inj (hcheck.symm.trans hbad)
      refine Or.inr ⟨err, count, hfault, ?_⟩
      rw [hsubmit]
      exact congrArg (fun f => (Except.error err, e.mapTally f)) hfault.counted
    · cases hcheck.symm.trans hok

/-- A refused submission to a live engine leaves no trace but its count. -/
theorem submit_refused (live : e.phase ≠ .destroyed) (validate : Validate) (r : Request) :
    ((submit validate r e).1 = .ok () ↔ Acceptable validate r) ∧
      (¬ Acceptable validate r → ∃ err count, FirstFault validate r err count ∧
        submit validate r e = (.error err, e.mapTally (refuse count)) ∧
        ∀ network ops, session network (submit validate r e).2 ops =
          (session network e ops).map (Entry.mapTally (refuse count))) := by
  rcases submit_cases live validate r with ⟨hacceptable, hsubmit⟩ | ⟨err, count, hfault, hsubmit⟩
  · rw [hsubmit]
    exact ⟨iff_of_true rfl hacceptable, fun hno => absurd hacceptable hno⟩
  · rw [hsubmit]
    refine ⟨iff_of_false (by simp) hfault.not_acceptable, fun _ => ⟨err, count, hfault, rfl, ?_⟩⟩
    intro network ops
    exact session_mapTally hfault.edit network ops

end Engine

/-! ## The client -/

namespace Client

open Engine (Acceptable FirstFault refuse)

variable {config : Config} {network : Network} {m : Moment} {c : Client} {err : EngineError}
  {count : Metrics → Metrics}

/-- What can come of a submission to a live client, in terms of what is wrong with it. -/
theorem perform_broadcast (whole : Whole c) (live : c.alive = true) (rawTx : Bytes)
    (endpoint : Option String) (jobId : JobId) :
    let r : Request := ⟨rawTx, endpoint.getD c.defaultEndpoint, jobId⟩
    (Acceptable c.network.validate r ∧
      c.perform (.broadcast rawTx endpoint jobId) =
        (.queued, { c with engine := c.engine.accept r })) ∨
      ∃ err count, FirstFault c.network.validate r err count ∧
        c.perform (.broadcast rawTx endpoint jobId) =
          (.failed (.rejected jobId err), c.mapTally (refuse count)) := by
  intro r
  have hlive := whole.alive.mp live
  rcases Engine.submit_cases hlive c.network.validate r with
    ⟨hacceptable, hsubmit⟩ | ⟨err, count, hfault, hsubmit⟩
  · refine Or.inl ⟨hacceptable, ?_⟩
    simp only [perform, broadcast, live, Bool.not_true, Bool.false_eq_true, if_false]
    rw [hsubmit]
    rfl
  · refine Or.inr ⟨err, count, hfault, ?_⟩
    -- a fault is told by the client under the name of the job
    have hrefusal : refusal jobId err = .rejected jobId err := by cases hfault <;> rfl
    have hbroadcast : c.broadcast rawTx (endpoint.getD c.defaultEndpoint) jobId =
        (.error (.rejected jobId err), c.mapTally (refuse count)) := by
      unfold broadcast
      rw [if_neg (by simp [live]), hsubmit]
      simp only [hrefusal]
      rfl
    simp only [perform, hbroadcast]
    rfl

/-- What a refusal changes in an event that comes after it: the count, if somebody asks. -/
def Event.recount : Event → Event := Event.mapStats fun s => { s with rejected := s.rejected + 1 }

/-- The run after a refusal is the run without it, but for the count of refusals. -/
theorem run_refused {validate : Validate} {r : Request} (hfault : FirstFault validate r err count)
    {call : ClientCall} {answer : ClientAnswer}
    (hperform : m.client.perform call = (answer, m.client.mapTally (refuse count)))
    (deeds : List Deed) : ∃ later,
      (m.run deeds).log = m.log ++ later ∧
      (m.make call).run deeds =
        { client := (m.run deeds).client.mapTally (refuse count)
          busy := (m.run deeds).busy
          log := m.log ++ .called call answer :: later.map Event.recount } := by
  -- the log so far is put behind both runs, so that what is written down later stands alone
  have hmake : m.make call = Moment.behind (m.log ++ [.called call answer])
      (Moment.mapTally (refuse count) (fun s => { s with rejected := s.rejected + 1 })
        { m with log := [] }) := by
    simp [Moment.make, hperform, Moment.behind, Moment.mapTally]
  have hwithout := m.run_fresh deeds
  refine ⟨(Moment.run { m with log := [] } deeds).log, ?_, ?_⟩
  · rw [hwithout]
    rfl
  · rw [hmake, Moment.run_behind, Moment.run_mapTally hfault.edit hfault.panicked, hwithout]
    simp [Moment.behind, Moment.mapTally, Event.recount]

/-- What an event that comes after a refusal tells of jobs and receipts is as it was. -/
theorem filterMap_recount {α : Type} (tell : Event → Option α)
    (blind : ∀ event : Event, tell event.recount = tell event) (log : List Event) :
    (log.map Event.recount).filterMap tell = log.filterMap tell := by
  have heq : tell ∘ Event.recount = tell := funext blind
  rw [List.filterMap_map, heq]

/-- Changed counters say nothing of an acceptance. -/
theorem queued?_recount (event : Event) : event.recount.queued? = event.queued? := by
  cases event with
  | called call answer => cases call <;> cases answer <;> rfl
  | _ => rfl

/-- **A refused submission leaves no trace but its count.**  At any moment of a live client, and of
    a live engine, a submission is accepted if it has a payload, an endpoint that is one, and the
    network takes the payload.  Otherwise the answer names the job and the first thing that is
    wrong, one counter and the metric of that reason go up by one, and nothing else is different:
    on every schedule the client goes on as if it had not been called. -/
theorem refused_without_trace (reach : Reachable config network m) (live : m.client.alive = true)
    (rawTx : Bytes) (endpoint : Option String) (jobId : JobId) :
    let r : Request := ⟨rawTx, endpoint.getD m.client.defaultEndpoint, jobId⟩
    let call : ClientCall := .broadcast rawTx endpoint jobId
    let validate := m.client.network.validate
    ((m.client.perform call).1 = .queued ↔ Acceptable validate r) ∧
    (¬ Acceptable validate r → ∃ err count, FirstFault validate r err count ∧
      m.client.perform call =
        (.failed (.rejected jobId err), m.client.mapTally (refuse count)) ∧
      ∀ deeds,
        ((m.make call).run deeds).client = (m.run deeds).client.mapTally (refuse count) ∧
        ((m.make call).run deeds).busy = (m.run deeds).busy ∧
        delivered ((m.make call).run deeds).log = delivered (m.run deeds).log ∧
        completed ((m.make call).run deeds).log = completed (m.run deeds).log ∧
        ∃ later, (m.run deeds).log = m.log ++ later ∧
          ((m.make call).run deeds).log =
            m.log ++ .called call (.failed (.rejected jobId err)) :: later.map Event.recount) ∧
    ∀ (e : Engine) (validate : Validate), e.phase ≠ .destroyed →
      ((Engine.submit validate r e).1 = .ok () ↔ Acceptable validate r) ∧
      (¬ Acceptable validate r → ∃ err count, FirstFault validate r err count ∧
        Engine.submit validate r e = (.error err, e.mapTally (refuse count)) ∧
        ∀ network ops, Engine.session network (Engine.submit validate r e).2 ops =
          (Engine.session network e ops).map (Engine.Entry.mapTally (refuse count))) := by
  intro r call validate
  refine ⟨?_, ?_, fun e validate live => Engine.submit_refused live validate r⟩
  · rcases perform_broadcast reach.roles.whole live rawTx endpoint jobId with
      ⟨hacceptable, hperform⟩ | ⟨err, count, hfault, hperform⟩
    · exact iff_of_true (by rw [hperform]) hacceptable
    · exact iff_of_false (by rw [hperform]; simp) hfault.not_acceptable
  · intro hno
    rcases perform_broadcast reach.roles.whole live rawTx endpoint jobId with
      ⟨hacceptable, -⟩ | ⟨err, count, hfault, hperform⟩
    · exact absurd hacceptable hno
    · refine ⟨err, count, hfault, hperform, fun deeds => ?_⟩
      obtain ⟨later, hlog, hrun⟩ := run_refused hfault hperform deeds
      -- what is read off the log without a look at the counters is read off both logs alike
      have hblind {α : Type} (tell : Event → Option α)
          (blind : ∀ event : Event, tell event.recount = tell event)
          (silent : tell (.called call (.failed (.rejected jobId err))) = none) :
          ((m.make call).run deeds).log.filterMap tell = (m.run deeds).log.filterMap tell := by
        rw [hrun, hlog, List.filterMap_append, List.filterMap_append,
          List.filterMap_cons_none silent, filterMap_recount tell blind]
      have hdelivered := hblind Event.delivered? (fun event => by cases event <;> rfl) rfl
      have hqueued : queuedJobs ((m.make call).run deeds).log = queuedJobs (m.run deeds).log :=
        hblind Event.queued? queued?_recount rfl
      have hendings : endings ((m.make call).run deeds).log = endings (m.run deeds).log :=
        hblind Event.ending? (fun event => by cases event <;> rfl) rfl
      refine ⟨by rw [hrun], by rw [hrun], hdelivered, ?_, later, hlog, by rw [hrun]⟩
      rw [completed, completed, hqueued, hendings]

/-- A callback panicked and the next one runs; a submission without a payload is refused for that,
    though its endpoint is none either, and the receipts are those of the run without it. -/
theorem refused_without_trace_relayed :
    (relayed.client.perform (.broadcast [] (some "ftp://") ⟨"late"⟩)).1 =
      .failed (.rejected ⟨"late"⟩ (.invalidRequest "empty payload")) ∧
    delivered ((relayed.make (.broadcast [] (some "ftp://") ⟨"late"⟩)).run [.goOn, .goOn]).log =
      delivered (relayed.run [.goOn, .goOn]).log := by
  obtain ⟨-, hrefused, -⟩ :=
    refused_without_trace relayed_reachable rfl [] (some "ftp://") ⟨"late"⟩
  obtain ⟨err, count, hfault, hperform, hruns⟩ := hrefused fun h => h.payload rfl
  cases hfault with
  | request _ => exact ⟨congrArg Prod.fst hperform, (hruns [.goOn, .goOn]).2.2.1⟩
  | endpoint payload _ => exact absurd rfl payload
  | payload payload _ _ => exact absurd rfl payload

end Client

end TxRelay
