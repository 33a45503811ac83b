/-
  What a client says about endpoints.

  Three parts of the program look at the text of an endpoint: the check of the settings, the check
  of a submission, and the network of nodes when it looks for a connection.  All of them ask the
  same reader of addresses.

  1. **Submissions.**  A client refuses a job for its endpoint only if the text is none, and in the
     words of the check (`perform_invalid`).  What it accepts spells an address (`perform_queued`).

  2. **Refusals.**  `Grounded` says of an entry of the log that a refusal for the endpoint was
     right; `Refusals` keeps it over a run, together with the endpoint that the client was made
     with. So one whose settings were loaded from a file never refuses its own (`own_endpoint`).

  3. **Receipts.**  `Served` are the runs in which the network of nodes gives all answers.  There
     the jobs that are under way and the jobs that have ended all had an address (`Addressed`), so
     the network finds it too, and no receipt calls an endpoint invalid (`Served.receipts`).

  The crux of the last part is that the text that was checked is the text that is looked up: a job
  carries its endpoint from its acceptance to its broadcast, and nothing on the way changes it.
-/
import TxRelay.Client.Schedule
import TxRelay.Proofs.Client.Ledger
import TxRelay.Proofs.Config.Load
import TxRelay.Proofs.Endpoint

namespace TxRelay

/-! ## What a submission says -/

namespace Engine

variable {validate : Validate} {r : Request} {e : Engine}

/-- A check that fails for the endpoint gives the reason of the reader of addresses. -/
theorem check_endpoint {spelled reason : String}
    (h : check validate r = .error (.invalidEndpoint spelled reason)) :
    spelled = r.endpoint ∧ ∃ why, Endpoint.parse r.endpoint = .error why ∧ reason = why.reason := by
  unfold check at h
  split at h
  · cases h
  · cases hparse : Endpoint.parse r.endpoint with
    | error why =>
      rw [hparse] at h
      cases h
      exact ⟨rfl, why, rfl, rfl⟩
    | ok url =>
      rw [hparse] at h
      dsimp only at h
      split at h <;> cases h

/-- A request that passes the check has an address. -/
theorem check_passes (h : check validate r = .ok ()) :
    ∃ url, Endpoint.parse r.endpoint = .ok url := by
  unfold check at h
  split at h
  · cases h
  · cases hparse : Endpoint.parse r.endpoint with
    | error why =>
      rw [hparse] at h
      cases h
    | ok url => exact ⟨url, rfl⟩

/-- A request that is refused for its endpoint has none, and the refusal says why. -/
theorem submit_invalid {spelled reason : String}
    (h : (submit validate r e).1 = .error (.invalidEndpoint spelled reason)) :
    spelled = r.endpoint ∧ ∃ why, Endpoint.parse r.endpoint = .error why ∧ reason = why.reason := by
  by_cases hgone : e.phase = .destroyed
  · rw [submit, hgone] at h
    cases h
  · rcases @submit_live e validate r hgone with ⟨err, hbad, hsubmit⟩ | ⟨-, hsubmit⟩
    · rw [hsubmit] at h
      obtain rfl := Except.error.inj h
      exact check_endpoint hbad
    · rw [hsubmit] at h
      cases h

/-- A request that is accepted has an endpoint. -/
theorem submit_accepted (h : (submit validate r e).1 = .ok ()) :
    ∃ url, Endpoint.parse r.endpoint = .ok url := by
  by_cases hgone : e.phase = .destroyed
  · rw [submit, hgone] at h
    cases h
  · rcases @submit_live e validate r hgone with ⟨err, hbad, hsubmit⟩ | ⟨hok, -⟩
    · rw [hsubmit] at h
      cases h
    · exact check_passes hok

end Engine

namespace Client

variable {config : Config} {network : Network} {c d : Client} {m m' : Moment}
  {rawTx : Bytes} {endpoint : Option String} {jobId : JobId}

/-- So does a client, for the endpoint that was named or for its own. -/
theorem perform_invalid {name : JobId} {spelled reason : String}
    (h : (c.perform (.broadcast rawTx endpoint jobId)).1 =
      .failed (.rejected name (.invalidEndpoint spelled reason))) :
    spelled = endpoint.getD c.defaultEndpoint ∧
      ∃ why, Endpoint.parse spelled = .error why ∧ reason = why.reason := by
  simp only [perform, broadcast] at h
  split at h
  · cases h
  · rcases hsubmit : Engine.submit c.network.validate
      ⟨rawTx, endpoint.getD c.defaultEndpoint, jobId⟩ c.engine with ⟨result, engine⟩
    rw [hsubmit] at h
    cases result with
    | ok u => cases h
    | error err =>
      cases err with
      | invalidEndpoint spelled' reason' =>
        cases h
        obtain ⟨hspelled, hwhy⟩ := Engine.submit_invalid (congrArg Prod.fst hsubmit)
        rw [hspelled]
        exact ⟨rfl, hwhy⟩
      | _ => cases h

/-- What a client accepts has an address. -/
theorem perform_queued (h : (c.perform (.broadcast rawTx endpoint jobId)).1 = .queued) :
    ∃ url, Endpoint.parse (endpoint.getD c.defaultEndpoint) = .ok url := by
  simp only [perform, broadcast] at h
  split at h
  · cases h
  · rcases hsubmit : Engine.submit c.network.validate
      ⟨rawTx, endpoint.getD c.defaultEndpoint, jobId⟩ c.engine with ⟨result, engine⟩
    rw [hsubmit] at h
    cases result with
    | ok u =>
      have haccepted := Engine.submit_accepted (congrArg Prod.fst hsubmit)
      exact haccepted
    | error err => cases h

/-! ## Refusals -/

/-- A refusal for the endpoint names the endpoint that was asked for, which is none, and says
    why. -/
def Grounded (ownEndpoint : String) : Event → Prop
  | .called (.broadcast _ endpoint _) (.failed (.rejected _ (.invalidEndpoint spelled reason))) =>
    spelled = endpoint.getD ownEndpoint ∧
      ∃ why, Endpoint.parse spelled = .error why ∧ reason = why.reason
  | _ => True

/-- The client's own endpoint is that of its settings, and its refusals are grounded. -/
structure Refusals (config : Config) (m : Moment) : Prop where
  own : m.client.defaultEndpoint = config.network.defaultEndpoint
  grounded : ∀ event ∈ m.log, Grounded config.network.defaultEndpoint event

/-- An entry that is grounded, and the client's own endpoint as it was. -/
theorem Refusals.note {event : Event} (h : Refusals config m)
    (own : m'.client.defaultEndpoint = m.client.defaultEndpoint)
    (grounded : Grounded config.network.defaultEndpoint event)
    (log : m'.log = m.log ++ [event]) : Refusals config m' := by
  refine ⟨own.trans h.own, fun e he => ?_⟩
  rw [log] at he
  rcases List.mem_append.mp he with hold | hnew
  · exact h.grounded e hold
  · rwa [List.mem_singleton.mp hnew]

/-- A call changes no endpoint, and refuses none without reason. -/
theorem Refusals.make (h : Refusals config m) (whole : Whole m.client) (call : ClientCall) :
    Refusals config (m.make call) := by
  have hown : (m.client.perform call).2.defaultEndpoint = m.client.defaultEndpoint := by
    have heffect := perform_effect whole call
    generalize (m.client.perform call).1 = answer at heffect
    generalize (m.client.perform call).2 = d at heffect ⊢
    cases heffect <;> rfl
  refine h.note hown ?_ rfl
  cases call with
  | broadcast rawTx endpoint jobId =>
    generalize hanswer : (m.client.perform (.broadcast rawTx endpoint jobId)).1 = answer
    unfold Grounded
    split
    · rename_i hcalled
      cases hcalled
      obtain ⟨hspelled, hwhy⟩ := perform_invalid hanswer
      rw [h.own] at hspelled
      exact ⟨hspelled, hwhy⟩
    · trivial
  | _ => exact trivial

/-- What happens by itself refuses nothing. -/
theorem Refusals.happens (h : Refusals config m) (whole : Whole m.client) (next : Happens m m') :
    Refusals config m' := by
  cases next with
  | @begin r d callback free runs round set =>
    obtain ⟨-, rest, -, rfl⟩ := round_takes whole round
    have hground : Grounded config.network.defaultEndpoint (.began callback r) := trivial
    exact h.note rfl hground rfl
  | drop free runs round unset =>
    obtain ⟨-, rest, -, rfl⟩ := round_takes whole round
    exact ⟨h.own, h.grounded⟩
  | @stop result d free runs round =>
    obtain ⟨-, -, rfl⟩ := round_ends whole round
    have hground : Grounded config.network.defaultEndpoint (.loopEnded result) := trivial
    exact h.note rfl hground rfl
  -- a call that a callback makes is a call like any other
  | @call call rest panics busy =>
    have hcalling : Refusals config { m with busy := some ⟨rest, panics⟩ } := ⟨h.own, h.grounded⟩
    exact hcalling.make whole call
  | @«return» panics busy =>
    cases panics with
    | false => exact ⟨h.own, h.grounded⟩
    | true => exact ⟨h.own, h.grounded⟩
  | @hear job rest outcome network head answer =>
    have hground : Grounded config.network.defaultEndpoint (.ended job.number outcome) := trivial
    exact h.note rfl hground rfl

/-- Every refusal for an endpoint was right. -/
theorem Reachable.refusals (h : Reachable config network m) : Refusals config m := by
  induction h with
  | initial => exact ⟨rfl, fun _ he => by cases he⟩
  | @step m m' before next ih =>
    have hwhole := before.roles.whole
    cases next with
    | happens next => exact ih.happens hwhole next
    | call call => exact ih.make hwhole call
    | @finish job outcome goes =>
      have hground : Grounded config.network.defaultEndpoint (.ended job outcome) := trivial
      exact ih.note rfl hground rfl

/-- A client whose settings were loaded never refuses a job at its own endpoint for the
    endpoint. -/
theorem Reachable.own_endpoint {file : Option Bytes} (h : Reachable config network m)
    (loaded : Config.load file = .ok config) {name : JobId} {spelled reason : String}
    (own : endpoint.getD config.network.defaultEndpoint = config.network.defaultEndpoint) :
    .called (.broadcast rawTx endpoint jobId)
      (.failed (.rejected name (.invalidEndpoint spelled reason))) ∉ m.log := by
  intro hrefused
  obtain ⟨hspelled, why, hparse, -⟩ := h.refusals.grounded _ hrefused
  have hkept := Config.check_endpoint config
  rw [(Config.load_ok loaded).2, List.filter_nil, Config.checkEndpoint_eq, ← own, ← hspelled,
    hparse] at hkept
  cases hkept

/-! ## Receipts -/

/-- The moments of a client whose broadcasts nobody but its network ends. -/
inductive Served (config : Config) (network : Network) : Moment → Prop where
  | initial : Served config network (.initial config network)
  | happens {m m' : Moment} (before : Served config network m) (next : Happens m m') :
      Served config network m'
  | call {m : Moment} (before : Served config network m) (call : ClientCall) :
      Served config network (m.make call)

/-- A run that the nodes serve is a run. -/
theorem Served.reachable (h : Served config network m) : Reachable config network m := by
  induction h with
  | initial => exact .initial
  | happens _ next ih => exact ih.step (.happens next)
  | call _ call ih => exact ih.step (.call call)

/-- The network is one of nodes and remembers well, every job has an endpoint, and no broadcast
    ended because it had none. -/
structure Addressed (m : Moment) : Prop where
  network : ∃ n, m.client.network = .nodes n ∧ n.Faithful
  jobs : ∀ job ∈ m.client.engine.pending, ∃ url, Endpoint.parse job.request.endpoint = .ok url
  ends : ∀ ending ∈ endings m.log, ∀ spelled reason,
    ending.2 ≠ .error (.invalidEndpoint spelled reason)

/-- An entry that is no end of a broadcast, and no job that is new. -/
theorem Addressed.same (h : Addressed m) (network : m'.client.network = m.client.network)
    (pending : ∀ job ∈ m'.client.engine.pending, job ∈ m.client.engine.pending)
    (log : endings m'.log = endings m.log) : Addressed m' := by
  refine ⟨?_, fun job hjob => h.jobs job (pending job hjob), ?_⟩
  · rw [network]
    exact h.network
  · rw [log]
    exact h.ends

/-- Asking for a balance leaves a network that remembers well. -/
theorem Addressed.balance (h : Addressed m) (q : BalanceQuery) {event : Event}
    (other : event.ending? = none) :
    Addressed ({ m with client :=
      { m.client with network := (m.client.network.balance q).2 } }.note event) := by
  obtain ⟨n, hn, hfaithful⟩ := h.network
  have hnetwork : (m.client.network.balance q).2 = .nodes (n.balance q.account q.endpoint).2 := by
    rw [hn]
    rfl
  refine ⟨⟨_, hnetwork, ?_⟩, h.jobs, ?_⟩
  · rcases hfaithful.balance q.account q.endpoint with ⟨why, -, hsame⟩ | ⟨-, -, hkept⟩
    · rw [hsame]
      exact hfaithful
    · exact hkept
  · rw [Moment.note, endings_snoc, other, Option.toList_none, List.append_nil]
    exact h.ends

/-- A job is accepted: it has an endpoint. -/
theorem Addressed.queued {event : Event} {r : Request} (h : Addressed m)
    (addressed : ∃ url, Endpoint.parse r.endpoint = .ok url) (other : event.ending? = none) :
    Addressed ({ m with client :=
      { m.client with engine := m.client.engine.accept r } }.note event) := by
  refine ⟨h.network, ?_, ?_⟩
  · intro job hjob
    rcases List.mem_cons.mp (Engine.pending_accept.mem_iff.mp hjob) with rfl | hold
    · exact addressed
    · exact h.jobs job hold
  · rw [Moment.note, endings_snoc, other, Option.toList_none, List.append_nil]
    exact h.ends

/-- A call that is accepted adds a job with an address; no other call adds any. -/
theorem Addressed.make (h : Addressed m) (whole : Whole m.client) (call : ClientCall) :
    Addressed (m.make call) := by
  have hlog : endings (m.make call).log = endings m.log := by simp [Moment.make]
  have hsame (network : (m.client.perform call).2.network = m.client.network)
      (pending : ∀ job ∈ (m.client.perform call).2.engine.pending, job ∈ m.client.engine.pending) :
      Addressed (m.make call) := h.same network pending hlog
  have heffect := perform_effect whole call
  unfold Moment.make at hsame ⊢
  generalize hanswer : (m.client.perform call).1 = answer at heffect hsame ⊢
  generalize (m.client.perform call).2 = d at heffect hsame ⊢
  cases heffect with
  | @queued rawTx endpoint jobId live => exact h.queued (perform_queued hanswer) rfl
  | balance live tells => exact h.balance _ rfl
  | start live set free =>
    exact hsame rfl fun job hjob => Engine.keeps_startWorking.pending.mem_iff.mp hjob
  | run live set free =>
    exact hsame rfl fun job hjob => Engine.keeps_startWorking.pending.mem_iff.mp hjob
  -- no jobs are left
  | destroy live =>
    refine hsame rfl fun job hjob => ?_
    have hdestroy := Engine.destroy_live (whole.alive.mp live)
    rw [hdestroy] at hjob
    cases hjob
  | _ => exact hsame rfl fun _ hjob => hjob

/-- The network ends a broadcast by itself: it finds the address of the job's endpoint. -/
theorem Addressed.hear {network : Network} {job : Job} {rest : List Job}
    {outcome : BroadcastResult} (h : Addressed m) (whole : Whole m.client)
    (head : m.client.engine.broadcasting = job :: rest)
    (answer : m.client.network.broadcast? job.request.rawTx job.request.endpoint =
      some (outcome, network)) :
    Addressed (m.hear network job.number outcome) := by
  have held : job ∈ m.client.engine.broadcasting := by simp [head]
  have hpending := @Engine.pending_complete m.client.engine job outcome held
  obtain ⟨url, hparse⟩ := h.jobs job (hpending.mem_iff.mpr List.mem_cons_self)
  obtain ⟨n, hn, hfaithful⟩ := h.network
  have hsaid : some ((n.broadcast job.request.rawTx job.request.endpoint).1,
      Network.nodes (n.broadcast job.request.rawTx job.request.endpoint).2) =
      some (outcome, network) := by
    rw [hn] at answer
    exact answer
  obtain ⟨houtcome, hnetwork⟩ := Prod.mk.inj (Option.some.inj hsaid)
  rcases hfaithful.broadcast job.request.rawTx job.request.endpoint with
    ⟨why, hnone, -⟩ | ⟨-, hfair, hkept⟩
  · -- the network found no address, but the job has one
    rw [hparse] at hnone
    cases hnone
  · rw [houtcome] at hfair
    unfold Moment.hear
    rw [Engine.finish_head whole.alone outcome head]
    refine ⟨⟨_, hnetwork.symm, hkept⟩, ?_, ?_⟩
    · intro other hother
      exact h.jobs other (hpending.mem_iff.mpr (List.mem_cons_of_mem _ hother))
    · intro ending hending
      rw [Moment.note, endings_snoc] at hending
      rcases List.mem_append.mp hending with hold | hnew
      · exact h.ends ending hold
      · obtain rfl : ending = (job.number, outcome) := by simpa using hnew
        exact hfair

/-- A broadcast that ends had an address, and its answer does not call it invalid. -/
theorem Addressed.happens (h : Addressed m) (whole : Whole m.client) (next : Happens m m') :
    Addressed m' := by
  cases next with
  | begin free runs round set =>
    obtain ⟨-, rest, -, rfl⟩ := round_takes whole round
    exact h.same rfl (fun _ hjob => hjob) (by simp [Moment.begin])
  | drop free runs round unset =>
    obtain ⟨-, rest, -, rfl⟩ := round_takes whole round
    exact h.same rfl (fun _ hjob => hjob) rfl
  | stop free runs round =>
    obtain ⟨-, -, rfl⟩ := round_ends whole round
    exact h.same rfl (fun _ hjob => hjob) (by simp)
  | @call call rest panics busy =>
    have hcalling : Addressed { m with busy := some ⟨rest, panics⟩ } :=
      h.same rfl (fun _ hjob => hjob) rfl
    exact hcalling.make whole call
  | @«return» panics busy =>
    cases panics with
    | false => exact h.same rfl (fun _ hjob => hjob) rfl
    | true => exact h.same rfl (fun _ hjob => hjob) rfl
  | hear head answer => exact h.hear whole head answer

/-- Under nodes every job has an address at every moment. -/
theorem Served.addressed {n : Rpc.Network} (h : Served config (.nodes n) m)
    (used : n.InUse) : Addressed m := by
  induction h with
  | initial =>
    refine ⟨⟨n, rfl, used.faithful⟩, ?_, ?_⟩
    · intro job hjob
      cases hjob
    · intro ending hending
      cases hending
  | happens before next ih => exact ih.happens before.reachable.roles.whole next
  | call before call ih => exact ih.make before.reachable.roles.whole call

/-- A text that begins otherwise is not the message about an invalid endpoint. -/
theorem message_ne {text : String} (start : text.toList.take 9 ≠ "Invalid R".toList)
    (spelled reason : String) : text ≠ (NetworkError.invalidEndpoint spelled reason).message := by
  intro heq
  apply start
  rw [heq]
  unfold NetworkError.message
  simp only [String.toList_append, List.append_assoc]
  rw [List.take_append_of_le_length (by decide)]
  decide

/-- The receipt of a broadcast that ended otherwise does not say that the endpoint is invalid. -/
theorem ofOutcome_ne {outcome : BroadcastResult} (jobId name : JobId) (spelled reason : String)
    (fair : ∀ spelled reason, outcome ≠ .error (.invalidEndpoint spelled reason)) :
    Receipt.ofOutcome jobId outcome ≠
      Receipt.ofOutcome name (.error (.invalidEndpoint spelled reason)) := by
  intro heq
  -- the two would have the same message
  have hmessage : (Receipt.ofOutcome jobId outcome).message =
      (NetworkError.invalidEndpoint spelled reason).message := by
    rw [heq]
    rfl
  refine message_ne ?_ spelled reason hmessage
  cases outcome with
  | ok o =>
    cases o with
    | mined tx =>
      rw [Receipt.ofOutcome]
      split <;> simp
    | pending hash why => simp [Receipt.ofOutcome]
  | error e =>
    cases e with
    | invalidEndpoint spelled reason => exact absurd rfl (fair spelled reason)
    | _ =>
      unfold Receipt.ofOutcome NetworkError.message
      simp

/-- No receipt of a client over nodes says that an endpoint is invalid. -/
theorem Served.receipts {n : Rpc.Network} (h : Served config (.nodes n) m) (used : n.InUse)
    {r : Receipt} (got : r ∈ completed m.log) (name : JobId) (spelled reason : String) :
    r ≠ Receipt.ofOutcome name (.error (.invalidEndpoint spelled reason)) := by
  obtain ⟨ending, hending, hdue⟩ := List.mem_filterMap.mp got
  obtain ⟨jobId, -, rfl⟩ := Option.map_eq_some_iff.mp hdue
  exact ofOutcome_ne jobId name spelled reason ((h.addressed used).ends ending hending)

/-! ## The checks agree -/

/-- **The checks of an endpoint agree.**  On every text the rules for settings, the check itself, a
    live engine that gets a request in which nothing else is wrong, and a network of nodes whatever
    it was asked before say the same; where they refuse, it is in the same words.  So a client
    whose settings were loaded never refuses a job at its own endpoint for the endpoint, and no
    receipt of a client over nodes calls an endpoint invalid. -/
theorem endpoint_checks_agree (e : String) :
    (∀ c : Config, c.network.defaultEndpoint = e →
      ((∀ v ∈ c.check, v.field ≠ "network.default_endpoint") ↔
        ∃ url, Endpoint.resolve e = .ok url)) ∧
    (∀ engine validate r, Engine.Decides engine validate r → r.endpoint = e →
      ((∀ spelled reason,
          (Engine.submit validate r engine).1 ≠ .error (.invalidEndpoint spelled reason)) ↔
        ∃ url, Endpoint.resolve e = .ok url)) ∧
    (∀ n : Rpc.Network, n.InUse → ∀ rawTx account,
      ((∀ spelled reason, (n.broadcast rawTx e).1 ≠ .error (.invalidEndpoint spelled reason)) ↔
        ∃ url, Endpoint.resolve e = .ok url) ∧
      ((∀ spelled reason, (n.balance account e).1 ≠ .error (.invalidEndpoint spelled reason)) ↔
        ∃ url, Endpoint.resolve e = .ok url)) ∧
    ((∀ url, Endpoint.resolve e ≠ .ok url) → ∃ why : Endpoint.Refusal,
      Endpoint.resolve e = .error (.invalidEndpoint e why.reason) ∧
      (∀ engine validate r, Engine.Decides engine validate r → r.endpoint = e →
        (Engine.submit validate r engine).1 = .error (.invalidEndpoint e why.reason)) ∧
      (∀ n : Rpc.Network, n.InUse → ∀ rawTx account,
        (n.broadcast rawTx e).1 = .error (.invalidEndpoint e why.reason) ∧
        (n.balance account e).1 = .error (.invalidEndpoint e why.reason)) ∧
      (∀ c : Config, c.network.defaultEndpoint = e → ∃ v,
        c.check.filter (·.field = "network.default_endpoint") = [v] ∧
        (∀ scheme, why = .unsupportedScheme scheme → v.message = why.reason) ∧
        (∀ err, why = .notAnAddress err → v.message = "invalid URL: " ++ why.reason))) ∧
    (∀ file config network m, Config.load file = .ok config → Reachable config network m →
      ∀ rawTx endpoint jobId name spelled reason,
        endpoint.getD config.network.defaultEndpoint = config.network.defaultEndpoint →
        .called (.broadcast rawTx endpoint jobId)
          (.failed (.rejected name (.invalidEndpoint spelled reason))) ∉ m.log) ∧
    (∀ config (n : Rpc.Network) m, n.InUse → Served config (.nodes n) m →
      ∀ r ∈ completed m.log, ∀ name spelled reason,
        r ≠ Receipt.ofOutcome name (.error (.invalidEndpoint spelled reason))) := by
  refine ⟨?_, ?_, ?_, ?_, ?_, ?_⟩
  · rintro c rfl
    exact Config.rule_agrees c
  · rintro engine validate r decides rfl
    exact Engine.submission_agrees decides
  · intro n used rawTx account
    obtain ⟨hbroadcast, hbalance⟩ := used.agrees rawTx account e
    exact ⟨hbroadcast.1, hbalance.1⟩
  · intro none
    rcases Endpoint.resolve_cases e with ⟨why, hparse, hresolve⟩ | ⟨url, -, hresolve⟩
    · refine ⟨why, hresolve, ?_, ?_, ?_⟩
      · rintro engine validate r decides rfl
        rw [Engine.submit_endpoint decides, hparse]
      · intro n used rawTx account
        obtain ⟨hbroadcast, hbalance⟩ := used.agrees rawTx account e
        exact ⟨hbroadcast.2 why hparse, hbalance.2 why hparse⟩
      · rintro c rfl
        exact Config.rule_message hparse
    · exact absurd hresolve (none url)
  · intro file config network m loaded h rawTx endpoint jobId name spelled reason own
    exact h.own_endpoint loaded own
  · intro config n m used h r got name spelled reason
    exact h.receipts used got name spelled reason

/-- Nodes that answer nothing that could be used. -/
def mute : Rpc.Network :=
  { node := fun _ _ => .unusable "no answer", rpcTimeout := 1, receiptTimeout := 1 }

/-- A payload that reads as a signed transaction. -/
def signed : Bytes := [0xc9, 0x80, 0x80, 0x80, 0x80, 0x80, 0x80, 0x1b, 0x01, 0x01]

/-- A client over such nodes accepts a transaction, and its broadcast ends. -/
def unanswered : Moment :=
  (Moment.initial {} (.nodes mute)).run
    [.call (.setCallback "callback" (fun _ => []) fun _ => false), .call .start,
      .call (.broadcast signed (some "http://[::1]:8545") ⟨"job"⟩), .hear]

/-- It can be reached with nodes that never answer. -/
theorem unanswered_served : Served {} (.nodes mute) unanswered := by
  have hready := (@Served.initial {} (.nodes mute)).call
    (.setCallback "callback" (fun _ => []) fun _ => false)
  have hqueued := (hready.call .start).call
    (.broadcast signed (some "http://[::1]:8545") ⟨"job"⟩)
  exact hqueued.happens (.hear rfl rfl)

/-- An address of the wrong scheme is refused everywhere, in the same words. -/
theorem endpoint_checks_agree_refused :
    (∀ url, Endpoint.resolve "ftp://[::1]" ≠ .ok url) ∧
    Engine.Decides { pollInterval := 5 } (Network.standIn {}).validate
      ⟨[1], "ftp://[::1]", ⟨"job"⟩⟩ ∧
    (Engine.submit (Network.standIn {}).validate ⟨[1], "ftp://[::1]", ⟨"job"⟩⟩
      { pollInterval := 5 }).1 =
        .error (.invalidEndpoint "ftp://[::1]" "unsupported scheme 'ftp'") ∧
    mute.InUse ∧
    (mute.broadcast [1] "ftp://[::1]").1 =
      .error (.invalidEndpoint "ftp://[::1]" "unsupported scheme 'ftp'") ∧
    (¬ ∀ v ∈ Config.check { network := { defaultEndpoint := "ftp://[::1]" } },
      v.field ≠ "network.default_endpoint") ∧
    (∃ file config,
      Config.load file = .ok config ∧
      .called (.broadcast [1] none ⟨"job"⟩)
        (.failed (.rejected ⟨"job"⟩ (.invalidEndpoint config.network.defaultEndpoint "why"))) ∉
          ((Moment.initial config (.standIn {})).make (.broadcast [1] none ⟨"job"⟩)).log) ∧
    Served {} (.nodes mute) unanswered ∧
    (completed unanswered.log).map Receipt.message = ["RPC error: no answer"] ∧
    ∀ r ∈ completed unanswered.log, ∀ name spelled reason,
      r ≠ Receipt.ofOutcome name (.error (.invalidEndpoint spelled reason)) := by
  obtain ⟨hrule, -, -, hwords, hloaded, hreceipts⟩ := endpoint_checks_agree "ftp://[::1]"
  have hresolve : Endpoint.resolve "ftp://[::1]" =
      .error (.invalidEndpoint "ftp://[::1]" "unsupported scheme 'ftp'") := by decide +kernel
  have hnone : ∀ url, Endpoint.resolve "ftp://[::1]" ≠ .ok url := by
    intro url hurl
    rw [hresolve] at hurl
    cases hurl
  have hdecides : Engine.Decides { pollInterval := 5 } (Network.standIn {}).validate
      ⟨[1], "ftp://[::1]", ⟨"job"⟩⟩ := ⟨by decide, rfl, rfl⟩
  have hused : mute.InUse := .fresh rfl
  obtain ⟨why, hwhy, hsubmit, hnetwork, -⟩ := hwords hnone
  have hreason : why.reason = "unsupported scheme 'ftp'" := by
    rw [hresolve] at hwhy
    exact (NetworkError.invalidEndpoint.inj (Except.error.inj hwhy)).2.symm
  rw [hreason] at hsubmit hnetwork
  have hbroadcast := (hnetwork mute hused [1] ⟨List.replicate 20 0, rfl⟩).1
  refine ⟨hnone, hdecides, hsubmit _ _ _ hdecides rfl, hused, hbroadcast, ?_, ?_,
    unanswered_served, ?_, ?_⟩
  · intro hkept
    obtain ⟨url, hurl⟩ := (hrule { network := { defaultEndpoint := "ftp://[::1]" } } rfl).mp hkept
    exact hnone url hurl
  · let text := "network.default_endpoint = \"http://[::1]:8545\""
    have hfits : (Config.ofText text).toBool = true := by decide +kernel
    cases hread : Config.ofText text with
    | error err =>
      rw [hread] at hfits
      cases hfits
    | ok config =>
      have hfile : Config.load (some (Bytes.ofString text)) = .ok config := by
        rw [Config.load_ofString, hread]
      refine ⟨_, config, hfile, ?_⟩
      exact hloaded _ config _ _ hfile (Reachable.initial.step (.call _)) [1] none ⟨"job"⟩ ⟨"job"⟩
        config.network.defaultEndpoint "why" rfl
  · rfl
  · intro r got name spelled reason
    exact hreceipts {} mute unanswered hused unanswered_served r got name spelled reason

end Client

end TxRelay
