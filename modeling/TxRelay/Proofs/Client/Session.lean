/-
  The client of a session is a client at work.

  In a session each call from outside is followed by everything that can happen.  So what holds at
  every moment that can be reached should hold of every client in a session, and this module is the
  bridge.

  1. **Standing.**  `Stands` says of a client, and of the receipts handed over so far, that some
     moment can be reached with this client, no callback under way, and a log in which exactly these
     receipts were handed over.  The log itself is forgotten: a session does not show it.

  2. **Parts of a step.**  Each part of a session's step is a path of small steps, so it keeps
     `Stands`: a call (`Stands.call`), news from outside (`Stands.finish`, `Stands.hear`), a
     callback with its calls (`Stands.invoke`), a drained loop (`Stands.drain`), all answers of the
     network (`Stands.settle`).

  3. **Rest.**  After a step the loop is `Idle`, and if the network has nothing to say then nothing
     is left to happen (`settled_of_idle`).

  4. **Sessions.**  `Stands.runAll` is the induction on the operations; `runAll_reachable` says what
     it comes to: every client of a session can be reached, and the callbacks that the session
     reports are those that began.

  The crux is that the loop is given enough rounds: a round takes a receipt away and no call adds
  one (`Effect.receipts`), so one round more than there are receipts leaves the loop idle
  (`Stands.drain_idle`).
-/
import TxRelay.Client.Session
import TxRelay.Proofs.Client.Ledger

namespace TxRelay.Client

variable {config : Config} {network : Network} {c d : Client} {handed : List (String × Receipt)}

/-! ## What was handed over -/

@[simp] def Event.delivery? : Event → Option (String × Receipt)
  | .began callback r => some (callback.tag, r)
  | _ => none

/-- The callbacks that began, by name, with their receipts. -/
def begun (log : List Event) : List (String × Receipt) := log.filterMap Event.delivery?

/-- The log grows by one delivery or none. -/
@[simp] theorem begun_snoc (log : List Event) (event : Event) :
    begun (log ++ [event]) = begun log ++ event.delivery?.toList :=
  Log.filterMap_snoc _ log event

/-- The callback's name and the receipt. -/
def delivery (i : Invocation) : String × Receipt := (i.tag, i.receipt)

/-- The client of some moment at which no callback runs and these receipts were handed over. -/
def Stands (config : Config) (network : Network) (c : Client)
    (handed : List (String × Receipt)) : Prop :=
  ∃ log, Reachable config network ⟨c, none, log⟩ ∧ begun log = handed

/-- A new client has handed over nothing. -/
theorem Stands.new : Stands config network (.new config network) [] :=
  ⟨[], .initial, rfl⟩

/-- The slots of a client in a session agree with some log. -/
theorem Stands.roles (h : Stands config network c handed) : ∃ log, Roles ⟨c, none, log⟩ := by
  obtain ⟨log, hc, -⟩ := h
  exact ⟨log, hc.roles⟩

/-! ## Calls and news from outside -/

/-- A call from outside is a step. -/
theorem Stands.call (h : Stands config network c handed) (call : ClientCall) :
    Stands config network (c.perform call).2 handed := by
  obtain ⟨log, hc, rfl⟩ := h
  refine ⟨_, hc.step (.call call), ?_⟩
  rw [begun_snoc]
  exact List.append_nil _

/-- A broadcast that ends is a step, or its job is not known and nothing happens. -/
theorem Stands.finish (h : Stands config network c handed) (job : Nat)
    (outcome : BroadcastResult) :
    Stands config network { c with engine := (c.engine.finish job outcome).2 } handed := by
  obtain ⟨log, hc, rfl⟩ := h
  rcases Engine.finish_alone hc.roles.whole.alone job outcome with ⟨_, -, -, hfinish⟩ | hfinish
  · have hheard := hc.step (@Step.finish _ job outcome (congrArg Prod.fst hfinish))
    refine ⟨_, hheard, ?_⟩
    rw [begun_snoc]
    exact List.append_nil _
  · rw [hfinish]
    exact ⟨log, hc, rfl⟩

/-- The network ended a broadcast by itself. -/
theorem Stands.hear (h : Stands config network c handed) (hears : c.hear? = some d) :
    Stands config network d handed := by
  obtain ⟨log, hc, rfl⟩ := h
  unfold hear? at hears
  split at hears
  · cases hears
  · rename_i job rest head
    split at hears
    · cases hears
    · rename_i outcome network' answer
      obtain rfl := Option.some.inj hears
      refine ⟨_, hc.step (.happens (.hear head answer)), ?_⟩
      rw [begun_snoc]
      exact List.append_nil _

/-! ## The loop -/

/-- A callback makes its calls one after the other. -/
theorem Reachable.performAll {calls : List ClientCall} {panics : Bool} {log : List Event}
    (h : Reachable config network ⟨c, some ⟨calls, panics⟩, log⟩) :
    ∃ log', Reachable config network ⟨(c.performAll calls).2, some ⟨[], panics⟩, log'⟩ ∧
      begun log' = begun log := by
  induction calls generalizing c log with
  | nil => exact ⟨log, h, rfl⟩
  | cons call rest ih =>
    have hcall := h.step (.happens (.call rfl))
    obtain ⟨log', hrest, hbegun⟩ := ih hcall
    refine ⟨log', hrest, hbegun.trans ?_⟩
    rw [begun_snoc]
    exact List.append_nil _

/-- A round takes a receipt, the callback begins, makes its calls and is over. -/
theorem Stands.invoke {r : Receipt} {callback : Callback} (h : Stands config network c handed)
    (runs : c.isRunning = true) (round : c.round = (.takes r, d))
    (set : d.callback = some callback) :
    Stands config network (d.invoke callback r).2 (handed ++ [(callback.tag, r)]) := by
  obtain ⟨log, hc, rfl⟩ := h
  have hbegan := hc.step (.happens (.begin rfl runs round set))
  obtain ⟨log', hcalls, hbegun⟩ := hbegan.performAll
  refine ⟨log', hcalls.step (.happens (.return rfl)), hbegun.trans ?_⟩
  rw [begun_snoc]
  rfl

/-- What the rounds of the loop are: it does not run, it ends, it waits, or it takes the oldest
    receipt and goes on. -/
theorem drain_cases {log : List Event} (roles : Roles ⟨c, none, log⟩) (rounds : Nat) :
    (c.loop = none ∧ drain (rounds + 1) c = ([], c)) ∨
    (c.isRunning = true ∧ c.round = (.ends (.ok ()), c.endLoop (.ok ())) ∧
      drain (rounds + 1) c = ([], c.endLoop (.ok ()))) ∨
    (c.mustEnd = false ∧ c.engine.receipts = [] ∧ drain (rounds + 1) c = ([], c)) ∨
    (∃ r rest callback, c.isRunning = true ∧ c.engine.receipts = r :: rest ∧
      c.round = (.takes r, c.taken rest) ∧ c.callback = some callback ∧
      drain (rounds + 1) c =
        (((c.taken rest).invoke callback r).1 ::
            (drain rounds ((c.taken rest).invoke callback r).2).1,
          (drain rounds ((c.taken rest).invoke callback r).2).2)) := by
  cases hloop : c.loop with
  | none => exact Or.inl ⟨rfl, by simp [drain, hloop]⟩
  | some loop =>
    have hruns : c.isRunning = true := by rw [isRunning, hloop]; rfl
    refine Or.inr ?_
    rcases round_cases roles.whole with ⟨-, hround⟩ | ⟨hgoes, hnone, hround⟩ |
      ⟨-, r, rest, hreceipts, hround⟩
    · exact Or.inl ⟨hruns, hround, by simp [drain, hloop, hround]⟩
    · exact Or.inr (Or.inl ⟨hgoes, hnone, by simp [drain, hloop, hround]⟩)
    · refine Or.inr (Or.inr ?_)
      cases hcallback : c.callback with
      | none => exact absurd hcallback (roles.set hruns)
      | some callback =>
        refine ⟨r, rest, callback, hruns, hreceipts, hround, rfl, ?_⟩
        have htaken : (c.taken rest).callback = some callback := hcallback
        simp only [drain, hloop, hround, htaken, Option.isNone_some, Bool.false_eq_true, if_false]

/-- The rounds of the loop are steps, one after another. -/
theorem Stands.drain (rounds : Nat) (h : Stands config network c handed) :
    Stands config network (drain rounds c).2 (handed ++ (drain rounds c).1.map delivery) := by
  -- on the rounds: one that takes a receipt is followed by the others
  induction rounds generalizing c handed with
  | zero => simpa [Client.drain] using h
  | succ rounds ih =>
    obtain ⟨log, hc, hbegun⟩ := h
    rcases drain_cases hc.roles rounds with ⟨-, hdrain⟩ | ⟨hruns, hround, hdrain⟩ |
      ⟨-, -, hdrain⟩ | ⟨r, rest, callback, hruns, -, hround, hset, hdrain⟩
    · rw [hdrain, List.map_nil, List.append_nil]
      exact ⟨log, hc, hbegun⟩
    · rw [hdrain, List.map_nil, List.append_nil]
      refine ⟨_, hc.step (.happens (.stop rfl hruns hround)), ?_⟩
      rw [begun_snoc, hbegun]
      exact List.append_nil _
    · rw [hdrain, List.map_nil, List.append_nil]
      exact ⟨log, hc, hbegun⟩
    · have hinvoked := Stands.invoke ⟨log, hc, hbegun⟩ hruns hround hset
      have hrest := ih hinvoked
      rw [List.append_assoc] at hrest
      rw [hdrain]
      exact hrest

/-- The loop does not run, or it waits and no receipt is there. -/
def Idle (c : Client) : Prop := c.loop = none ∨ (c.mustEnd = false ∧ c.engine.receipts = [])

/-- No call adds or takes a receipt. -/
theorem Effect.receipts {call : ClientCall} {answer : ClientAnswer} (whole : Whole c)
    (h : Effect c call answer d) : d.engine.receipts = c.engine.receipts := by
  cases h with
  | start _ _ _ => exact Engine.keeps_startWorking.receipts
  | run _ _ _ => exact Engine.keeps_startWorking.receipts
  | @queued rawTx endpoint jobId _ =>
    have hkeeps := @Engine.keeps_dispatch
      (c.engine.enqueue ⟨rawTx, endpoint.getD c.defaultEndpoint, jobId⟩)
    exact hkeeps.receipts
  -- jobs are given up, but receipts that are there stay
  | destroy live =>
    show c.engine.destroy.2.receipts = c.engine.receipts
    rw [Engine.destroy_live (whole.alive.mp live)]
  | gone _ _ => rfl
  | set _ => rfl
  | barred _ _ _ => rfl
  | stop => rfl
  | rejected _ _ => rfl
  | balance _ _ => rfl
  | stats _ => rfl
  | state => rfl
  | isRunning => rfl
  | defaultEndpoint => rfl
  | debug => rfl
  | destroyAgain _ => rfl

/-- The calls of a callback add no receipt, -/
theorem receipts_performAll (whole : Whole c) (calls : List ClientCall) :
    (c.performAll calls).2.engine.receipts = c.engine.receipts := by
  induction calls generalizing c with
  | nil => rfl
  | cons call rest ih =>
    have heffect := perform_effect whole call
    exact (ih (heffect.whole whole)).trans (heffect.receipts whole)

/-- so neither does the callback. -/
theorem receipts_invoke (whole : Whole c) (callback : Callback) (r : Receipt) :
    (c.invoke callback r).2.engine.receipts = c.engine.receipts := by
  have hcalls := receipts_performAll whole (callback.calls r.jobId)
  unfold invoke
  dsimp only
  split <;> exact hcalls

/-- One round more than there are receipts leaves the loop idle. -/
theorem Stands.drain_idle (rounds : Nat) (h : Stands config network c handed)
    (enough : c.engine.receipts.length < rounds) : Idle (Client.drain rounds c).2 := by
  induction rounds generalizing c handed with
  | zero => cases enough
  | succ rounds ih =>
    obtain ⟨log, hc, hbegun⟩ := h
    rcases drain_cases hc.roles rounds with ⟨hloop, hdrain⟩ | ⟨-, -, hdrain⟩ |
      ⟨hgoes, hnone, hdrain⟩ | ⟨r, rest, callback, hruns, hreceipts, hround, hset, hdrain⟩
    · rw [hdrain]
      exact Or.inl hloop
    · rw [hdrain]
      exact Or.inl rfl
    · rw [hdrain]
      exact Or.inr ⟨hgoes, hnone⟩
    · have hinvoked := Stands.invoke ⟨log, hc, hbegun⟩ hruns hround hset
      -- the round took one receipt, and the callback has added none
      have hfewer : ((c.taken rest).invoke callback r).2.engine.receipts = rest :=
        receipts_invoke hc.roles.whole.taken callback r
      rw [hreceipts, List.length_cons] at enough
      rw [hdrain]
      exact ih hinvoked (by rw [hfewer]; omega)

/-- The loop hands over all that waits, and is idle. -/
theorem Stands.deliver (h : Stands config network c handed) :
    Stands config network c.deliver.2 (handed ++ c.deliver.1.map delivery) ∧ Idle c.deliver.2 :=
  ⟨h.drain _, h.drain_idle _ (Nat.lt_succ_self _)⟩

/-- The answers of the network and what follows from them are steps. -/
theorem Stands.settle (rounds : Nat) (h : Stands config network c handed) :
    Stands config network (settle rounds c).2 (handed ++ (settle rounds c).1.map delivery) ∧
      Idle (settle rounds c).2 := by
  -- on the broadcasts that the network ends by itself
  induction rounds generalizing c handed with
  | zero => exact h.deliver
  | succ rounds ih =>
    obtain ⟨hdelivered, hidle⟩ := h.deliver
    unfold Client.settle
    dsimp only
    split
    · exact ⟨hdelivered, hidle⟩
    · rename_i d hears
      obtain ⟨hrest, hrestIdle⟩ := ih (hdelivered.hear hears)
      refine ⟨?_, hrestIdle⟩
      rw [List.map_append, ← List.append_assoc]
      exact hrest

/-! ## Nothing is left to happen -/

/-- A call does not exchange the network. -/
theorem Effect.standIn {call : ClientCall} {answer : ClientAnswer} {s : StandIn}
    (h : Effect c call answer d) (deaf : c.network = .standIn s) : d.network = .standIn s := by
  cases h with
  | @balance q _ _ _ =>
    show (c.network.balance q).2 = .standIn s
    rw [deaf]
    rfl
  | _ => exact deaf

/-- A network that is told its answers stays one. -/
theorem Reachable.standIn {s : StandIn} {m : Moment} (h : Reachable config (.standIn s) m) :
    m.client.network = .standIn s := by
  induction h with
  | initial => rfl
  | step before next ih =>
    cases next with
    | call call => exact (perform_effect before.roles.whole call).standIn ih
    | finish goes => exact ih
    | happens next =>
      cases next with
      | begin free runs round set =>
        obtain ⟨-, rest, -, rfl⟩ := round_takes before.roles.whole round
        exact ih
      | drop free runs round unset =>
        obtain ⟨-, rest, -, rfl⟩ := round_takes before.roles.whole round
        exact ih
      | stop free runs round =>
        obtain ⟨-, -, rfl⟩ := round_ends before.roles.whole round
        exact ih
      | @call call rest panics busy => exact (perform_effect before.roles.whole call).standIn ih
      | @«return» panics busy =>
        cases panics with
        | false => exact ih
        | true => exact ih
      -- this network answers nothing by itself
      | hear head answer =>
        rw [ih] at answer
        cases answer

/-- An idle client whose network says nothing by itself is settled. -/
theorem settled_of_idle {log : List Event} {s : StandIn} (idle : Idle c) (whole : Whole c)
    (deaf : c.network = .standIn s) : Moment.Settled ⟨c, none, log⟩ := by
  intro m' next
  -- an idle loop waits, so no round does anything
  have hquiet (runs : c.isRunning = true) : c.round = (.waits, c) := by
    rcases idle with hloop | ⟨hgoes, hnone⟩
    · rw [isRunning, hloop] at runs
      cases runs
    · rcases round_cases whole with ⟨hend, -⟩ | ⟨-, -, hround⟩ | ⟨-, r, rest, hreceipts, -⟩
      · rw [hgoes] at hend
        cases hend
      · exact hround
      · rw [hnone] at hreceipts
        cases hreceipts
  cases next with
  | begin free runs round set => cases (hquiet runs).symm.trans round
  | drop free runs round unset => cases (hquiet runs).symm.trans round
  | stop free runs round => cases (hquiet runs).symm.trans round
  | call busy => cases busy
  | «return» busy => cases busy
  | hear head answer =>
    have hanswer : c.network.broadcast? _ _ = some _ := answer
    rw [deaf] at hanswer
    cases hanswer

/-! ## Sessions -/

/-- An operation begins with a step, or with none. -/
theorem Stands.begin (h : Stands config network c handed) (op : Op) :
    Stands config network (c.begin op).2.2 handed := by
  cases op with
  | finish job outcome => exact h.finish job outcome
  | call call =>
    have hcall := h.call call
    cases call with
    | run =>
      have hsame : (c.begin (.call .run)).2.2 = (c.perform .run).2 := by
        simp only [Client.begin]
        rcases c.perform .run with ⟨answer, d⟩
        cases answer with
        | failed e => cases c.isRunning <;> rfl
        | _ => rfl
      rw [hsame]
      exact hcall
    | _ => exact hcall

/-- An operation and all that follows from it. -/
theorem Stands.step (h : Stands config network c handed) (op : Op) :
    Stands config network (c.step op).2 (handed ++ (c.step op).1.callbacks.map delivery) ∧
      Idle (c.step op).2 :=
  (h.begin op).settle patience

/-- The callbacks of some steps of a session, in order. -/
def reported (entries : List (Report × Client)) : List (String × Receipt) :=
  entries.flatMap fun entry => entry.1.callbacks.map delivery

/-- Every client of a session stands, and has handed over what was reported up to there. -/
theorem Stands.runAll (ops : List Op) (h : Stands config network c handed)
    {before after : List (Report × Client)} {entry : Report × Client}
    (hrun : runAll c ops = before ++ entry :: after) :
    Stands config network entry.2 (handed ++ reported (before ++ [entry])) ∧ Idle entry.2 := by
  -- on the operations: the entry is that of the first one, or of a later one
  induction ops generalizing c handed before with
  | nil => simp [Client.runAll] at hrun
  | cons op ops ih =>
    obtain ⟨hstep, hidle⟩ := h.step op
    unfold Client.runAll at hrun
    cases before with
    | nil =>
      obtain ⟨rfl, -⟩ := List.cons.inj hrun
      rw [reported, List.nil_append, List.flatMap_singleton]
      exact ⟨hstep, hidle⟩
    | cons first before =>
      obtain ⟨rfl, hrest⟩ := List.cons.inj hrun
      obtain ⟨hlater, hlaterIdle⟩ := ih hstep hrest
      refine ⟨?_, hlaterIdle⟩
      rw [List.append_assoc] at hlater
      exact hlater

/-- **Every client of a session is that of a moment which small steps lead to**, at which the
    callbacks that were reported so far began; and if the network says nothing by itself,
    everything that can happen has happened. -/
theorem runAll_reachable (ops : List Op) {before after : List (Report × Client)}
    {entry : Report × Client}
    (hrun : runAll (.new config network) ops = before ++ entry :: after) :
    ∃ log, Reachable config network ⟨entry.2, none, log⟩ ∧
      begun log = reported (before ++ [entry]) ∧
      ∀ s, network = .standIn s → Moment.Settled ⟨entry.2, none, log⟩ := by
  obtain ⟨⟨log, hc, hbegun⟩, hidle⟩ := Stands.new.runAll ops hrun
  refine ⟨log, hc, hbegun, ?_⟩
  rintro s rfl
  exact settled_of_idle hidle hc.roles.whole hc.standIn

end TxRelay.Client
