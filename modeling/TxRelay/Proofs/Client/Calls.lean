/-
  What a call does, and what a round of the loop does.

  A client is `Whole` if its engine is destroyed exactly when the client is, and nobody but the loop
  polls the engine.  For a whole client every call has few ends.

  1. **Taking the loop.**  `start` and `run` look at the engine, at the callback, at the loop and at
     the engine again; `claim_cases` says which answers there are and what each leaves behind.

  2. **Submitting and asking.**  `broadcast_cases` and `balance_cases` do the same for the two calls
     that reach the network.

  3. **Calls.**  `Effect` lists the ends of a call: it finds the client destroyed and changes
     nothing, it is refused for a reason of its own, or it is done.  `perform_effect` sorts every
     call into one of them, and `Effect.whole` says that the client is whole afterwards.  Later
     modules take `Effect` apart, one case for each end, and do not look at `perform` again.

  4. **Rounds.**  A round has three ends: the loop is over, it waits, or it takes the oldest receipt
     (`round_cases`).

  The crux is that wholeness rules out what the types do not: no call of a live client meets a
  destroyed engine, so the engine's own word that it is destroyed never comes out of a call.
-/
import TxRelay.Client.Moment
import TxRelay.Proofs.Engine.Alone

namespace TxRelay.Client

variable {c d : Client}

/-- The client and its engine are destroyed together, and only the loop polls. -/
structure Whole (c : Client) : Prop where
  alone : Engine.Alone c.engine
  alive : c.alive = true ↔ c.engine.phase ≠ .destroyed

/-- A new client is whole. -/
theorem whole_new (config : Config) (network : Network) : Whole (.new config network) where
  alone := ⟨rfl, rfl⟩
  alive := by simp [new]

/-! ## Taking the loop -/

/-- The client after its loop was taken. -/
def claimed (c : Client) (loop : Loop) : Client :=
  { c with engine := c.engine.startWorking.2, loop := some loop, stopAsked := false }

/-- What can come of taking the loop. -/
theorem claim_cases (h : Whole c) (loop : Loop) :
    (c.alive = false ∧ c.claim loop = .error .destroyed) ∨
    (c.alive = true ∧ c.callback = none ∧ c.claim loop = .error .noCallback) ∨
    (c.alive = true ∧ c.isRunning = true ∧ c.claim loop = .error .alreadyRunning) ∨
    (c.alive = true ∧ c.callback ≠ none ∧ c.isRunning = false ∧
      c.claim loop = .ok (c.claimed loop)) := by
  cases halive : c.alive with
  | false => exact Or.inl ⟨rfl, by simp [claim, halive]⟩
  | true =>
    refine Or.inr ?_
    have hlive := h.alive.mp halive
    obtain ⟨⟨b, hok⟩, -⟩ := Engine.startWorking_live hlive
    cases hcallback : c.callback with
    | none => exact Or.inl ⟨rfl, rfl, by simp [claim, halive, hcallback]⟩
    | some callback =>
      cases hrunning : c.isRunning with
      | true => exact Or.inr (Or.inl ⟨rfl, rfl, by simp [claim, halive, hcallback, hrunning]⟩)
      | false =>
        refine Or.inr (Or.inr ⟨rfl, by simp, rfl, ?_⟩)
        rcases hstart : c.engine.startWorking with ⟨result, engine⟩
        obtain rfl : result = .ok b := by simpa [hstart] using hok
        simp only [claim, claimed, halive, hcallback, hrunning, hstart, Bool.not_true,
          Bool.false_eq_true, if_false, Option.isNone_some]

/-! ## Submitting and asking -/

/-- What can come of submitting. -/
theorem broadcast_cases (h : Whole c) (rawTx : Bytes) (endpoint : String) (jobId : JobId) :
    (c.alive = false ∧ c.broadcast rawTx endpoint jobId = (.error .destroyed, c)) ∨
    (c.alive = true ∧
      ∃ err, Engine.check c.network.validate ⟨rawTx, endpoint, jobId⟩ = .error err ∧
        c.broadcast rawTx endpoint jobId = (.error (.rejected jobId err), { c with engine :=
          { c.engine with tally := c.engine.tally.rejected (Engine.rejectReason err) } })) ∨
    (c.alive = true ∧
      c.broadcast rawTx endpoint jobId =
        (.ok (), { c with engine := c.engine.accept ⟨rawTx, endpoint, jobId⟩ })) := by
  cases halive : c.alive with
  | false => exact Or.inl ⟨rfl, by simp [broadcast, halive]⟩
  | true =>
    refine Or.inr ?_
    have hlive := h.alive.mp halive
    rcases @Engine.submit_live _ c.network.validate ⟨rawTx, endpoint, jobId⟩ hlive
      with ⟨err, hbad, hsubmit⟩ | ⟨-, hsubmit⟩
    · refine Or.inl ⟨rfl, err, hbad, ?_⟩
      have hrefusal : refusal jobId err = .rejected jobId err := by
        cases err with
        | destroyed => exact absurd hbad Engine.check_ne_destroyed
        | _ => rfl
      simp only [broadcast, halive, hsubmit, hrefusal, Bool.not_true, Bool.false_eq_true, if_false]
    · refine Or.inr ⟨rfl, ?_⟩
      simp only [broadcast, halive, hsubmit, Bool.not_true, Bool.false_eq_true, if_false]

/-- What can come of asking for a balance. -/
theorem balance_cases (h : Whole c) (q : BalanceQuery) :
    (c.alive = false ∧ c.balance q = (.error .destroyed, c)) ∨
    (c.alive = true ∧ ∃ answer,
      c.balance q = (answer, { c with network := (c.network.balance q).2 }) ∧
      ∀ e, answer = .error e → ∃ err, e = .engine (.network err)) := by
  cases halive : c.alive with
  | false => exact Or.inl ⟨rfl, by simp [balance, halive]⟩
  | true =>
    refine Or.inr ⟨rfl, ?_⟩
    have hlive := h.alive.mp halive
    -- a live engine hands the network's reply through
    have hbalance (reply : Except NetworkError Nat) :
        c.engine.balance reply = reply.mapError .network := by
      unfold Engine.balance
      split
      · rename_i hgone
        exact absurd hgone hlive
      · cases reply <;> rfl
    cases hreply : (c.network.balance q).1 with
    | ok wei =>
      refine ⟨.ok wei, by simp [balance, halive, hbalance, hreply, Except.mapError], ?_⟩
      intro e he
      cases he
    | error err =>
      refine ⟨.error (.engine (.network err)), ?_, ?_⟩
      · simp [balance, halive, hbalance, hreply, Except.mapError, ClientError.ofEngine]
      · intro e he
        exact ⟨err, (Except.error.inj he).symm⟩

/-! ## Calls -/

/-- The calls that a destroyed client refuses. -/
def Guarded : ClientCall → Prop
  | .setCallback .. | .run | .start | .broadcast .. | .balance _ | .stats => True
  | _ => False

/-- What a call can answer, and the client after it. -/
inductive Effect (c : Client) : ClientCall → ClientAnswer → Client → Prop where
  /-- The client is destroyed. -/
  | gone {call : ClientCall} (guarded : Guarded call) (dead : c.alive = false) :
      Effect c call (.failed .destroyed) c
  | set {tag : String} {calls : JobId → List ClientCall} {panics : JobId → Bool}
      (live : c.alive = true) :
      Effect c (.setCallback tag calls panics) .set { c with callback := some ⟨tag, calls, panics⟩ }
  | start (live : c.alive = true) (set : c.callback ≠ none) (free : c.isRunning = false) :
      Effect c .start .started (c.claimed .worker)
  | run (live : c.alive = true) (set : c.callback ≠ none) (free : c.isRunning = false) :
      Effect c .run .nothing (c.claimed .caller)
  /-- The loop cannot be taken. -/
  | barred {call : ClientCall} {e : ClientError} (takes : call = .start ∨ call = .run)
      (live : c.alive = true) (why : e = .noCallback ∨ e = .alreadyRunning) :
      Effect c call (.failed e) c
  | stop : Effect c .stop .nothing { c with stopAsked := true }
  | queued {rawTx : Bytes} {endpoint : Option String} {jobId : JobId} (live : c.alive = true) :
      Effect c (.broadcast rawTx endpoint jobId) .queued
        { c with engine := c.engine.accept ⟨rawTx, endpoint.getD c.defaultEndpoint, jobId⟩ }
  | rejected {rawTx : Bytes} {endpoint : Option String} {jobId : JobId} {e : EngineError}
      {tally : Tally} (live : c.alive = true) (why : e ≠ .destroyed) :
      Effect c (.broadcast rawTx endpoint jobId) (.failed (.rejected jobId e))
        { c with engine := { c.engine with tally := tally } }
  | balance {q : BalanceQuery} {answer : ClientAnswer} (live : c.alive = true)
      (tells : (∃ text, answer = .text text) ∨ ∃ e, answer = .failed (.engine (.network e))) :
      Effect c (.balance q) answer { c with network := (c.network.balance q).2 }
  | stats (live : c.alive = true) : Effect c .stats (.stats c.engine.tally.stats) c
  | state : Effect c .state (.text c.phase.name) c
  | isRunning : Effect c .isRunning (.flag c.isRunning) c
  | defaultEndpoint : Effect c .defaultEndpoint (.text c.defaultEndpoint) c
  | debug : Effect c .debug (.text c.debugForm) c
  | destroy (live : c.alive = true) :
      Effect c .destroy (.flag true)
        { c with alive := false, engine := c.engine.destroy.2, stopAsked := true }
  | destroyAgain (dead : c.alive = false) : Effect c .destroy (.flag false) c

/-- Every call of a whole client has one of the ends that `Effect` lists. -/
theorem perform_effect (h : Whole c) (call : ClientCall) :
    Effect c call (c.perform call).1 (c.perform call).2 := by
  cases call with
  | setCallback tag calls panics =>
    cases halive : c.alive with
    | true => simpa only [perform, halive, if_true] using Effect.set halive
    | false =>
      simpa only [perform, halive, Bool.false_eq_true, if_false]
        using @Effect.gone c (.setCallback tag calls panics) trivial halive
  | start =>
    rcases claim_cases h .worker with ⟨hdead, hclaim⟩ | ⟨hlive, -, hclaim⟩ | ⟨hlive, -, hclaim⟩ |
      ⟨hlive, hset, hfree, hclaim⟩ <;> simp only [perform, hclaim]
    · exact Effect.gone trivial hdead
    · exact Effect.barred (Or.inl rfl) hlive (Or.inl rfl)
    · exact Effect.barred (Or.inl rfl) hlive (Or.inr rfl)
    · exact Effect.start hlive hset hfree
  | run =>
    rcases claim_cases h .caller with ⟨hdead, hclaim⟩ | ⟨hlive, -, hclaim⟩ | ⟨hlive, -, hclaim⟩ |
      ⟨hlive, hset, hfree, hclaim⟩ <;> simp only [perform, hclaim]
    · exact Effect.gone trivial hdead
    · exact Effect.barred (Or.inr rfl) hlive (Or.inl rfl)
    · exact Effect.barred (Or.inr rfl) hlive (Or.inr rfl)
    · exact Effect.run hlive hset hfree
  | stop => exact Effect.stop
  | broadcast rawTx endpoint jobId =>
    rcases broadcast_cases h rawTx (endpoint.getD c.defaultEndpoint) jobId with
      ⟨hdead, hbroadcast⟩ | ⟨hlive, e, hbad, hbroadcast⟩ | ⟨hlive, hbroadcast⟩ <;>
      simp only [perform, hbroadcast]
    · exact Effect.gone trivial hdead
    · refine Effect.rejected hlive ?_
      -- the check of a submission never says that the engine is destroyed
      rintro rfl
      exact Engine.check_ne_destroyed hbad
    · exact Effect.queued hlive
  | balance q =>
    rcases balance_cases h q with ⟨hdead, hbalance⟩ | ⟨hlive, answer, hbalance, herror⟩ <;>
      simp only [perform, hbalance]
    · exact Effect.gone trivial hdead
    · cases answer with
      | ok wei => exact Effect.balance hlive (Or.inl ⟨_, rfl⟩)
      | error e =>
        obtain ⟨err, rfl⟩ := herror e rfl
        exact Effect.balance hlive (Or.inr ⟨err, rfl⟩)
  | stats =>
    cases halive : c.alive with
    | true => simpa only [perform, stats?, halive, if_true] using Effect.stats halive
    | false =>
      simpa only [perform, stats?, halive, Bool.false_eq_true, if_false]
        using @Effect.gone c .stats trivial halive
  | state => exact Effect.state
  | isRunning => exact Effect.isRunning
  | defaultEndpoint => exact Effect.defaultEndpoint
  | debug => exact Effect.debug
  | destroy =>
    cases halive : c.alive with
    | true =>
      simpa only [perform, Client.destroy, halive, if_true] using Effect.destroy halive
    | false =>
      simpa only [perform, Client.destroy, halive, Bool.false_eq_true, if_false]
        using Effect.destroyAgain halive

/-- No call makes a client less whole: only `destroy` ends the engine, and it ends the client too.
    -/
theorem Effect.whole {call : ClientCall} {answer : ClientAnswer} (h : Effect c call answer d)
    (whole : Whole c) : Whole d := by
  cases h with
  | start live _ _ =>
    have hworks := (Engine.startWorking_live (whole.alive.mp live)).2
    refine ⟨Engine.keeps_startWorking.alone whole.alone, ?_⟩
    exact iff_of_true live (by rw [claimed, hworks]; simp)
  | run live _ _ =>
    have hworks := (Engine.startWorking_live (whole.alive.mp live)).2
    refine ⟨Engine.keeps_startWorking.alone whole.alone, ?_⟩
    exact iff_of_true live (by rw [claimed, hworks]; simp)
  | @queued rawTx endpoint jobId live =>
    have hkeeps := Engine.keeps_dispatch
      (e := c.engine.enqueue ⟨rawTx, endpoint.getD c.defaultEndpoint, jobId⟩)
    refine ⟨hkeeps.alone ⟨whole.alone.pollers, whole.alone.sender⟩, ?_⟩
    exact iff_of_true live (by
      rw [Engine.accept, Engine.dispatch_phase]; exact whole.alive.mp live)
  -- the one call that ends the engine ends the client with it
  | destroy live =>
    exact ⟨whole.alone.destroy,
      iff_of_false Bool.false_ne_true (fun hne => hne Engine.destroy_phase)⟩
  | rejected _ _ => exact ⟨⟨whole.alone.pollers, whole.alone.sender⟩, whole.alive⟩
  | set _ => exact ⟨whole.alone, whole.alive⟩
  | stop => exact ⟨whole.alone, whole.alive⟩
  | balance _ _ => exact ⟨whole.alone, whole.alive⟩
  | gone _ _ => exact whole
  | barred _ _ _ => exact whole
  | stats _ => exact whole
  | state => exact whole
  | isRunning => exact whole
  | defaultEndpoint => exact whole
  | debug => exact whole
  | destroyAgain _ => exact whole

/-! ## Rounds -/

/-- The client after its loop took the oldest receipt. -/
def taken (c : Client) (rest : List Receipt) : Client :=
  { c with engine := { c.engine with receipts := rest, tally := c.engine.tally.delivered } }

/-- What can come of a round. -/
theorem round_cases (h : Whole c) :
    (c.mustEnd = true ∧ c.round = (.ends (.ok ()), c.endLoop (.ok ()))) ∨
    (c.mustEnd = false ∧ c.engine.receipts = [] ∧ c.round = (.waits, c)) ∨
    (c.mustEnd = false ∧ ∃ r rest, c.engine.receipts = r :: rest ∧
      c.round = (.takes r, c.taken rest)) := by
  cases hend : c.mustEnd with
  | true => exact Or.inl ⟨rfl, by simp only [round, hend, if_true]⟩
  | false =>
    refine Or.inr ?_
    have halive : c.alive = true := by
      simp only [mustEnd, Bool.or_eq_false_iff, Bool.not_eq_false'] at hend
      exact hend.2
    have hpoll := Engine.pollBlocking_alone h.alone
    rw [if_neg (h.alive.mp halive)] at hpoll
    cases hreceipts : c.engine.receipts with
    | nil =>
      rw [hreceipts] at hpoll
      exact Or.inl ⟨rfl, rfl, by simp [round, hend, hpoll]⟩
    | cons r rest =>
      rw [hreceipts] at hpoll
      exact Or.inr ⟨rfl, r, rest, rfl, by simp [round, hend, hpoll, taken]⟩

/-- A round that takes a receipt takes the oldest, and nobody had told the loop to end. -/
theorem round_takes {r : Receipt} (h : Whole c) (takes : c.round = (.takes r, d)) :
    c.mustEnd = false ∧ ∃ rest, c.engine.receipts = r :: rest ∧ d = c.taken rest := by
  rcases round_cases h with ⟨-, hround⟩ | ⟨-, -, hround⟩ | ⟨hgoes, r', rest, hreceipts, hround⟩
  · cases takes.symm.trans hround
  · cases takes.symm.trans hround
  · obtain ⟨hr, rfl⟩ := Prod.mk.inj (takes.symm.trans hround)
    obtain rfl := Round.takes.inj hr
    exact ⟨hgoes, rest, hreceipts, rfl⟩

/-- A loop ends because it was told to, and never with an error. -/
theorem round_ends {result : Except ClientError Unit} (h : Whole c)
    (ends : c.round = (.ends result, d)) :
    c.mustEnd = true ∧ result = .ok () ∧ d = c.endLoop (.ok ()) := by
  rcases round_cases h with ⟨hend, hround⟩ | ⟨-, -, hround⟩ | ⟨-, r, rest, -, hround⟩
  · obtain ⟨hresult, rfl⟩ := Prod.mk.inj (ends.symm.trans hround)
    exact ⟨hend, Round.ends.inj hresult, rfl⟩
  · cases ends.symm.trans hround
  · cases ends.symm.trans hround

/-- A receipt that is taken leaves the client whole. -/
theorem Whole.taken {rest : List Receipt} (h : Whole c) : (c.taken rest).Whole :=
  ⟨⟨h.alone.pollers, h.alone.sender⟩, h.alive⟩

/-- So does a callback that is over. -/
theorem Whole.afterwards (h : Whole c) (panics : Bool) : (c.afterwards panics).Whole := by
  cases panics with
  | false => exact h
  | true => exact ⟨⟨h.alone.pollers, h.alone.sender⟩, h.alive⟩

end TxRelay.Client
