/-
  A loop that never fails and drops nothing.

  Three branches of the loop are never taken.  A poll does not learn that no receipt can come,
  because the engine holds a sender of receipts as long as it exists.  So the loop does not end with
  an error, and errors of `run` come from taking the loop.  And a receipt that the loop took finds a
  callback, because the loop was taken when one was set, and no call unsets it.

  1. **Polls.**  With receipts on the way or the engine alive, a poll is answered by a receipt, by
     the wish to wait or by the end of the engine (`pollBlocking_connected`).  `Connected` is what
     is needed of the engine, and a running engine has it at every moment (`Alone.connected`).

  2. **What is counted.**  `taken` is the counter of receipts taken by a poll.  No call of the
     client moves it (`taken_perform`); a round moves it by one exactly if it takes a receipt.

  3. **Call by call.**  A round takes a receipt and begins the callback at once, so the counter says
     how many callbacks began (`Counts`), and each entry of the log fits in (`Steady`).

  4. **Step by step.**  Poll, look at the callback and begin are three steps of the loop, and other
     calls come between them.  The counter is ahead by one while the loop has a receipt in hand
     (`Tallied`), from the poll to the begin.

  5. **What the loop has.**  A loop past its claim finds a callback set, and a result, if any, that
     is no failure (`Provided`); so a receipt in hand is never dropped (`Provided.begins`).

  The crux is that one loop at most is running (`Exclusive`): a receipt in hand is in the hand of
  that loop, so the counter is never ahead by more than one, and at rest it is exact.
-/
import TxRelay.Proofs.Client.Delivery
import TxRelay.Proofs.Client.Owner
import TxRelay.Proofs.Engine.ExactlyOnce

namespace TxRelay

namespace Engine

variable {e e' : Engine} {result : PollResult}

/-! ## Polls -/

/-- A poll of the receipts finds the oldest one, as long as the engine has its sender. -/
theorem receive?_ready (sender : e.ownSender = true) (found : e.receive? = some (result, e')) :
    ∃ r rest, e.receipts = r :: rest ∧ result = .ok (.ready r) ∧
      e' = { e with receipts := rest, tally := e.tally.delivered } := by
  rcases receive?_some found with hfound | ⟨-, hclosed, -⟩
  · exact hfound
  · simp [receiptsOpen, sender] at hclosed

/-- A poll that may wait does not find the channel closed. -/
theorem pollBlocking_connected (alone : Alone e) : e.pollBlocking.1 ≠ .error .disconnected := by
  rw [pollBlocking_alone alone]
  split
  · simp
  · split <;> simp

/-- Nor does one that may not wait. -/
theorem pollNonblocking_connected (alone : Alone e) :
    e.pollNonblocking.1 ≠ .error .disconnected := by
  unfold pollNonblocking
  split
  · simp
  · split
    · simp
    · cases hfound : e.receive? with
      | none => simp
      | some found =>
        obtain ⟨result, e'⟩ := found
        obtain ⟨r, rest, -, hresult, -⟩ := receive?_ready alone.sender hfound
        simp [hresult]

/-- No poll learns that no receipt can come. -/
def Connected (e : Engine) : Prop :=
  e.pollBlocking.1 ≠ .error .disconnected ∧ e.pollNonblocking.1 ≠ .error .disconnected ∧
    ∀ err e', e.receive? ≠ some (.error err, e')

/-- An engine holds a sender of receipts at every moment. -/
theorem Alone.connected (alone : Alone e) : Connected e := by
  refine ⟨pollBlocking_connected alone, pollNonblocking_connected alone, fun err e' hfound => ?_⟩
  obtain ⟨r, rest, -, hresult, -⟩ := receive?_ready alone.sender hfound
  cases hresult

/-- The engine refuses to start only because it was destroyed. -/
theorem startWorking_refuses {err : EngineError} (refused : e.startWorking.1 = .error err) :
    err = .destroyed := by
  by_cases hgone : e.phase = .destroyed
  · rw [startWorking, hgone] at refused
    exact (Except.error.inj refused).symm
  · obtain ⟨⟨b, hok⟩, -⟩ := startWorking_live hgone
    cases refused.symm.trans hok

/-! ## What is counted as delivered -/

/-- How many receipts were taken, as the engine counts. -/
def taken (e : Engine) : UInt64 := e.tally.stats.delivered

/-- Sending a job off takes no receipt, -/
theorem taken_dispatch : e.dispatch.taken = e.taken := by
  unfold dispatch
  split <;> rfl

/-- nor does starting the engine, -/
theorem taken_startWorking : e.startWorking.2.taken = e.taken := by
  unfold startWorking
  split
  · exact taken_dispatch
  · rfl
  · rfl

/-- accepting or refusing a request, -/
theorem taken_submit {validate : Validate} {r : Request} :
    (submit validate r e).2.taken = e.taken := by
  unfold submit
  split
  · rfl
  · split
    · rfl
    · exact taken_dispatch

/-- destroying the engine -/
theorem taken_destroy : e.destroy.2.taken = e.taken := by
  unfold destroy
  split <;> rfl

/-- or the end of a job. -/
theorem taken_finish (alone : Alone e) {number : Nat} {outcome : BroadcastResult} :
    (e.finish number outcome).2.taken = e.taken := by
  rcases finish_alone alone number outcome with ⟨job, -, -, hfinish⟩ | hfinish <;> rw [hfinish]
  rfl

end Engine

namespace Client

variable {config : Config} {network : Network}

/-! ## Call by call -/

section Calls

variable {m m' : Moment}

/-- To the engine a submission is nothing but its own. -/
theorem broadcast_submits (c : Client) (rawTx : Bytes) (endpoint : String) (jobId : JobId) :
    (c.broadcast rawTx endpoint jobId).2 = c ∨
    (c.broadcast rawTx endpoint jobId).2 =
      { c with
        engine := (Engine.submit c.network.validate ⟨rawTx, endpoint, jobId⟩ c.engine).2 } := by
  unfold broadcast
  split
  · exact Or.inl rfl
  · split
    all_goals
      rename_i hsubmit
      rw [hsubmit]
      exact Or.inr rfl

/-- The claim of the loop starts the engine and takes no receipt. -/
theorem taken_claim {c d : Client} {loop : Loop} (claims : c.claim loop = .ok d) :
    d.engine.taken = c.engine.taken := by
  have hstart := @Engine.taken_startWorking c.engine
  unfold claim at claims
  split at claims
  · cases claims
  · split at claims
    · cases claims
    · split at claims
      · cases claims
      · split at claims
        · cases claims
        · rename_i heq
          obtain rfl := Except.ok.inj claims
          rw [heq] at hstart
          exact hstart

/-- No call takes a receipt. -/
theorem taken_perform (c : Client) (call : ClientCall) :
    (c.perform call).2.engine.taken = c.engine.taken := by
  cases call with
  | setCallback tag calls panics => cases halive : c.alive <;> simp [perform, halive]
  | start =>
    cases hclaim : c.claim .worker with
    | ok d => simpa [perform, hclaim] using taken_claim hclaim
    | error e => simp [perform, hclaim]
  | run =>
    cases hclaim : c.claim .caller with
    | ok d => simpa [perform, hclaim] using taken_claim hclaim
    | error e => simp [perform, hclaim]
  | broadcast rawTx endpoint jobId =>
    show (c.broadcast rawTx _ jobId).2.engine.taken = _
    -- the network is asked for nothing here; the engine sees a submission or nothing at all
    rcases broadcast_submits c rawTx (endpoint.getD c.defaultEndpoint) jobId with hsame | hsubmit
    · rw [hsame]
    · rw [hsubmit]
      exact Engine.taken_submit
  | balance q =>
    show (c.balance q).2.engine.taken = _
    unfold Client.balance
    split
    · rfl
    · dsimp only
      split <;> rfl
  | stats => cases hstats : c.stats? <;> simp [perform, hstats]
  | destroy =>
    show c.destroy.2.engine.taken = _
    unfold Client.destroy
    split
    · exact Engine.taken_destroy
    · rfl
  | stop | state | isRunning | defaultEndpoint | debug => rfl

/-- As many receipts were taken as callbacks began. -/
def Counts (m : Moment) : Prop := m.client.engine.taken = UInt64.ofNat (delivered m.log).length

/-- An entry that is no callback, written down while the counter stands still. -/
theorem Counts.note {c : Client} {event : Event} (h : Counts m)
    (taken : c.engine.taken = m.client.engine.taken) (nothing : event.delivered? = none) :
    Counts ({ m with client := c }.note event) := by
  rw [Counts, Moment.note, delivered_snoc, nothing]
  show c.engine.taken = UInt64.ofNat (delivered m.log ++ []).length
  rw [List.append_nil, taken]
  exact h

/-- A call neither takes a receipt nor begins a callback. -/
theorem Counts.make (h : Counts m) (call : ClientCall) : Counts (m.make call) :=
  h.note (taken_perform m.client call) rfl

/-- Nor does the end of a job. -/
theorem Counts.hear (h : Counts m) (alone : Engine.Alone m.client.engine) {network : Network}
    {job : Nat} {outcome : BroadcastResult} : Counts (m.hear network job outcome) :=
  h.note (Engine.taken_finish alone) rfl

/-- A round takes one receipt, and one callback begins with it. -/
theorem Counts.begin (h : Counts m) {callback : Callback} {r : Receipt} {rest : List Receipt} :
    Counts ({ m with client := m.client.taken rest }.begin callback r) := by
  rw [Counts, Moment.begin, Moment.note, delivered_snoc, Event.delivered?, Option.toList_some,
    List.length_append, List.length_singleton, UInt64.ofNat_add]
  exact congrArg (· + 1) h

/-- A step keeps the counter equal to the number of callbacks. -/
theorem Counts.step (h : Counts m) (roles : Roles m) (next : Step m m') : Counts m' := by
  cases next with
  | call call => exact h.make call
  | finish goes => exact h.hear roles.whole.alone
  | happens next =>
    cases next with
    | begin free runs round set =>
      obtain ⟨-, rest, -, rfl⟩ := round_takes roles.whole round
      exact h.begin
    | drop free runs round unset =>
      obtain ⟨-, rest, -, rfl⟩ := round_takes roles.whole round
      -- the receipt would be counted and lost, but a running loop has a callback
      exact absurd unset (roles.set runs)
    | stop free runs round =>
      obtain ⟨-, -, rfl⟩ := round_ends roles.whole round
      exact h.note rfl rfl
    | @call call rest panics busy =>
      have hcalling : Counts { m with busy := some ⟨rest, panics⟩ } := h
      exact hcalling.make call
    | @«return» panics busy => cases panics <;> exact h
    | hear head answer => exact h.hear roles.whole.alone

/-- At every moment the counter is the number of callbacks that began. -/
theorem Reachable.counts (h : Reachable config network m) : Counts m := by
  induction h with
  | initial => rfl
  | step before next ih => exact ih.step before.roles next

/-- What a client tells of its loop: it is refused for one of three reasons, it ends well, and as
    many receipts were delivered as callbacks began before. -/
def Steady (before : List Event) : Event → Prop
  | .called .start (.failed e) | .called .run (.failed e) =>
    e = .destroyed ∨ e = .noCallback ∨ e = .alreadyRunning
  | .called .stats (.stats s) => s.delivered = UInt64.ofNat (delivered before).length
  | .loopEnded result => result = .ok ()
  | _ => True

/-- The answer of a call fits in with the log before it. -/
theorem Steady.called (roles : Roles m) (counts : Counts m) (call : ClientCall) :
    Steady m.log (.called call (m.client.perform call).1) := by
  have heffect := perform_effect roles.whole call
  generalize (m.client.perform call).1 = answer at heffect ⊢
  generalize (m.client.perform call).2 = d at heffect
  cases heffect with
  | gone guarded dead =>
    cases call with
    | start => exact Or.inl rfl
    | run => exact Or.inl rfl
    | _ => trivial
  | barred takes live why => rcases takes with rfl | rfl <;> exact Or.inr why
  | stats live => exact counts
  | _ => trivial

/-- What a step writes down fits in with the log before it. -/
theorem Steady.step (h : Log.Each Steady m.log) (roles : Roles m) (counts : Counts m)
    (next : Step m m') : Log.Each Steady m'.log := by
  cases next with
  | call call => exact h.snoc (Steady.called roles counts call)
  | finish goes => exact h.snoc trivial
  | happens next =>
    cases next with
    | begin free runs round set => exact h.snoc trivial
    | drop free runs round unset => exact h
    | stop free runs round =>
      obtain ⟨-, hresult, -⟩ := round_ends roles.whole round
      exact h.snoc hresult
    | @call call rest panics busy => exact h.snoc (Steady.called roles counts call)
    | «return» busy => exact h
    | hear head answer => exact h.snoc trivial

/-- Every entry of a log fits in with the entries before it. -/
theorem Reachable.steady (h : Reachable config network m) : Log.Each Steady m.log := by
  induction h with
  | initial => exact Log.Each.nil
  | step before next ih => exact Steady.step ih before.roles before.counts next

end Calls

/-! ## Step by step -/

namespace Does

variable {s s' : Threads} {t : Thread} {f : Frame} {frames : List Frame}

/-- A step of a thread keeps the engine's channel open. -/
theorem alone (h : Does s t f s' frames) (alone : Engine.Alone s.client.engine) :
    Engine.Alone s'.client.engine := by
  cases h with
  | startWork works => exact Engine.keeps_startWorking.alone alone
  | runWork works => exact Engine.keeps_startWorking.alone alone
  | finish => exact alone.destroy
  | poll found =>
    obtain ⟨r, rest, -, -, rfl⟩ := Engine.receive?_ready alone.sender found
    exact ⟨alone.pollers, alone.sender⟩
  | _ => exact alone

/-- A callback that is set may be replaced, but no step unsets it. -/
theorem callback_stays (h : Does s t f s' frames) (set : s.client.callback ≠ none) :
    s'.client.callback ≠ none := by
  cases h with
  | set => simp
  | _ => exact set

/-- A loop that runs was there before, or a call took it. -/
theorem runs_after (h : Does s t f s' frames) (runs : s'.client.isRunning = true) :
    s.client.isRunning = true ∨ ∃ loop, f = .claiming loop .loop := by
  cases h with
  | @claimLoop loop free => exact Or.inr ⟨loop, rfl⟩
  | claimLate | spawnFails | stopped | gone | pollGone | pollFails => cases runs
  | _ => exact Or.inl runs

/-- A call comes to the taking of the loop if it found a callback. -/
theorem claiming_after (h : Does s t f s' frames) {loop : Loop}
    (claims : .claiming loop .loop ∈ frames) : s.client.callback ≠ none := by
  cases h with
  | claimCallback set => exact set
  -- no other step leads there
  | _ => simp at claims

/-- A loop ends well, if it ends in this step. -/
theorem result_after (h : Does s t f s' frames) (alone : Engine.Alone s.client.engine) :
    s'.client.loopResult = s.client.loopResult ∨ s'.client.loopResult = some (.ok ()) := by
  cases h with
  | pollFails fails =>
    obtain ⟨r, rest, -, hresult, -⟩ := Engine.receive?_ready alone.sender fails
    cases hresult
  | stopped | gone | pollGone => exact Or.inr rfl
  | _ => exact Or.inl rfl

/-- A poll takes a receipt, and nothing else does. -/
theorem taken_after (h : Does s t f s' frames) (alone : Engine.Alone s.client.engine) :
    (f = .looping .poll ∧ frames = [.looping .callback] ∧
      s'.client.engine.taken = s.client.engine.taken + 1) ∨
    (.looping .callback ∉ frames ∧ s'.client.engine.taken = s.client.engine.taken) := by
  cases h with
  | startWork works => exact Or.inr ⟨by simp, Engine.taken_startWorking⟩
  | runWork works => exact Or.inr ⟨by simp, Engine.taken_startWorking⟩
  | finish => exact Or.inr ⟨by simp, Engine.taken_destroy⟩
  | poll found =>
    obtain ⟨r, rest, -, -, rfl⟩ := Engine.receive?_ready alone.sender found
    exact Or.inl ⟨rfl, rfl, rfl⟩
  | _ => exact Or.inr ⟨by simp, rfl⟩

end Does

namespace Threads

variable {s s' : Threads} {t : Thread} {f : Frame} {rest frames : List Frame} {n : Nat}

/-! ### The loop has what it needs -/

/-- The engine has its sender, a loop that runs has a callback, and the last loop ended well. -/
structure Provided (s : Threads) : Prop where
  alone : Engine.Alone s.client.engine
  set : s.client.isRunning = true → s.client.callback ≠ none
  claiming : ∀ t loop, .claiming loop .loop ∈ s.stack t → s.client.callback ≠ none
  result : ∀ result, s.client.loopResult = some result → result = .ok ()

/-- No loop has begun yet. -/
theorem Provided.initial : Provided { client := .new config network } where
  alone := ⟨rfl, rfl⟩
  set := fun h => by cases h
  claiming := fun _ _ h => by cases h
  result := fun _ h => by cases h

/-- A step of a thread keeps what its loop has. -/
theorem Provided.does (h : Provided s) (orderly : Orderly s) (top : s.stack t = f :: rest)
    (does : Does s t f s' frames) : Provided (s'.put t (frames ++ rest)) where
  alone := does.alone h.alone
  set := fun runs => by
    refine does.callback_stays ?_
    rcases does.runs_after runs with hruns | ⟨loop, rfl⟩
    · exact h.set hruns
    · exact h.claiming t loop (by simp [top])
  claiming := fun u loop claims => by
    refine does.callback_stays ?_
    rcases orderly.mem_stack top does claims with hrest | ⟨-, hnew⟩ | ⟨-, hold⟩
    · cases hrest
    · exact does.claiming_after hnew
    · exact h.claiming u loop hold
  result := fun result ends => by
    rcases does.result_after h.alone with hsame | hok
    · exact h.result result (hsame ▸ ends)
    · exact (Option.some.inj (hok.symm.trans ends)).symm

/-- A call that begins is at its first step, and no loop yet. -/
theorem Provided.call (h : Provided s) (first : f.first = true) :
    Provided (s.put t (f :: s.stack t)) where
  alone := h.alone
  set := h.set
  claiming := fun u loop claims => by
    by_cases hu : u = t
    · subst hu
      have hmem : .claiming loop .loop ∈ f :: s.stack u := by simpa using claims
      rcases List.mem_cons.mp hmem with rfl | hold
      · cases loop <;> cases first
      · exact h.claiming u loop hold
    · exact h.claiming u loop (by simpa [hu] using claims)
  result := h.result

/-- The engine alone changes. -/
theorem Provided.engine {engine : Engine} (h : Provided s) (alone : Engine.Alone engine) :
    Provided (s.withClient { s.client with engine := engine }) :=
  ⟨alone, h.set, h.claiming, h.result⟩

/-- Every step keeps it. -/
theorem Provided.step (h : Provided s) (orderly : Orderly s) (next : Step s s') :
    Provided s' := by
  cases next with
  | does top does => exact h.does orderly top does
  | call free first => exact h.call first
  | @submit rawTx endpoint jobId =>
    rcases broadcast_submits s.client rawTx endpoint jobId with hsame | hsubmit
    · rw [hsame]
      exact h.engine h.alone
    · rw [hsubmit]
      exact h.engine h.alone.submit
  | hear => exact h.engine h.alone.finish

/-- A loop has what it needs at every moment. -/
theorem Reachable.provided (h : Reachable config network s) : Provided s := by
  induction h with
  | initial => exact Provided.initial
  | step before next ih => exact ih.step before.orderly next

/-- A loop that took a receipt calls the callback next. -/
theorem Provided.begins (h : Provided s) (exclusive : Exclusive s)
    (top : s.stack t = .looping .callback :: rest)
    (does : Does s t (.looping .callback) s' frames) :
    s' = s ∧ frames = [.calling, .looping .orders] := by
  cases does with
  | drop unset =>
    have hruns : s.client.isRunning = true :=
      exclusive.runs_iff.mpr ⟨t, .looping .callback, by simp [top], rfl⟩
    exact absurd unset (h.set hruns)
  | begin set => exact ⟨rfl, rfl⟩

/-! ### How many callbacks began -/

/-- A callback begins. -/
def Begins (s s' : Threads) : Prop :=
  ∃ t rest, s.stack t = .looping .callback :: rest ∧
    s'.stack t = .calling :: .looping .orders :: rest

/-- The states that a new client can come to, and how many callbacks began on the way. -/
inductive After (config : Config) (network : Network) : Nat → Threads → Prop where
  | initial : After config network 0 { client := .new config network }
  | begin {n : Nat} {s s' : Threads} (before : After config network n s) (next : Step s s')
      (begins : s.Begins s') : After config network (n + 1) s'
  | step {n : Nat} {s s' : Threads} (before : After config network n s) (next : Step s s')
      (other : ¬ s.Begins s') : After config network n s'

/-- A run with its count of callbacks is a run. -/
theorem After.reachable (h : After config network n s) : Reachable config network s := by
  induction h with
  | initial => exact .initial
  | begin _ next _ ih => exact ih.step next
  | step _ next _ ih => exact ih.step next

/-- Every state is counted. -/
theorem Reachable.after (h : Reachable config network s) : ∃ n, After config network n s := by
  induction h with
  | initial => exact ⟨0, .initial⟩
  | @step s s' _ next ih =>
    obtain ⟨n, hn⟩ := ih
    -- every step begins a callback or does not, so a run can always be counted
    by_cases hbegins : s.Begins s'
    · exact ⟨n + 1, hn.begin next hbegins⟩
    · exact ⟨n, hn.step next hbegins⟩

/-- A callback begins in the step of a thread that took a receipt. -/
theorem Begins.top (begins : s.Begins (s'.put t (frames ++ rest))) (top : s.stack t = f :: rest)
    (does : Does s t f s' frames) : f = .looping .callback := by
  obtain ⟨u, rest', hbefore, hafter⟩ := begins
  by_cases hu : u = t
  · subst hu
    exact (List.cons.inj (top.symm.trans hbefore)).1
  · have hafter : s'.stack u = .calling :: .looping .orders :: rest' := by simpa [hu] using hafter
    -- no other stack changes, but for that of a worker that is spawned
    rcases does.stack_other u with hsame | ⟨-, hloop⟩
    · cases hbefore.symm.trans (hsame.symm.trans hafter)
    · cases hloop.symm.trans hafter

/-- A call that begins is no callback, -/
theorem not_begins_call (free : s.Free t) : ¬ s.Begins (s.put t (f :: s.stack t)) := by
  rintro ⟨u, rest, hbefore, hafter⟩
  by_cases hu : u = t
  · subst hu
    rcases free with ⟨hnone, -⟩ | ⟨rest', hcalling⟩
    · cases hbefore.symm.trans hnone
    · cases hbefore.symm.trans hcalling
  · have hafter : s.stack u = .calling :: .looping .orders :: rest := by simpa [hu] using hafter
    cases hbefore.symm.trans hafter

/-- and neither is an answer of the network. -/
theorem not_begins_withClient {c : Client} : ¬ s.Begins (s.withClient c) := by
  rintro ⟨u, rest, hbefore, hafter⟩
  cases hbefore.symm.trans hafter

/-! ### What the counter says -/

/-- A loop took a receipt and has not called the callback yet. -/
def InHand (s : Threads) : Prop := ∃ t, .looping .callback ∈ s.stack t

/-- The receipts that were taken are those of the callbacks that began, and the one in hand. -/
structure Tallied (n : Nat) (s : Threads) : Prop where
  settled : ¬ s.InHand → s.client.engine.taken = UInt64.ofNat n
  inHand : s.InHand → s.client.engine.taken = UInt64.ofNat (n + 1)

/-- While a thread has the right with its innermost frame, nobody else has a receipt in hand. -/
theorem Exclusive.nothing_else (h : Exclusive s) (top : s.stack t = f :: rest)
    (owns : f.owns = true) :
    .looping .callback ∉ rest ∧ ∀ u, u ≠ t → .looping .callback ∉ s.stack u := by
  obtain ⟨hrest, hothers⟩ := h.alone top owns
  refine ⟨fun hmem => ?_, fun u hu hmem => ?_⟩
  · cases hrest (.looping .callback) hmem
  · cases hothers u hu (.looping .callback) hmem

/-- A step that moves neither the counter nor a receipt in hand. -/
theorem Tallied.same (h : Tallied n s) (inHand : s'.InHand ↔ s.InHand)
    (taken : s'.client.engine.taken = s.client.engine.taken) : Tallied n s' where
  settled := fun hnone => taken.trans (h.settled (mt inHand.mpr hnone))
  inHand := fun hone => taken.trans (h.inHand (inHand.mp hone))

/-- The loop hands its receipt to the callback, and none is in hand any more. -/
theorem Exclusive.handed (h : Exclusive s) (top : s.stack t = .looping .callback :: rest) :
    ¬ (s.put t ([.calling, .looping .orders] ++ rest)).InHand := by
  obtain ⟨hrest, hothers⟩ := h.nothing_else top rfl
  rintro ⟨u, hu⟩
  by_cases hself : u = t
  · subst hself
    exact hrest (by simpa using hu)
  · exact hothers u hself (by simpa [hself] using hu)

/-- The callback begins: the receipt leaves the hand and is counted among those begun. -/
theorem Tallied.begin (h : Tallied n s) (exclusive : Exclusive s)
    (top : s.stack t = .looping .callback :: rest) :
    Tallied (n + 1) (s.put t ([.calling, .looping .orders] ++ rest)) :=
  ⟨fun _ => h.inHand ⟨t, by simp [top]⟩, fun hone => absurd hone (exclusive.handed top)⟩

/-- A poll took a receipt: it is in hand. -/
theorem Tallied.poll (h : Tallied n s) (exclusive : Exclusive s)
    (top : s.stack t = .looping .poll :: rest)
    (taken : s'.client.engine.taken = s.client.engine.taken + 1) :
    Tallied n (s'.put t ([.looping .callback] ++ rest)) := by
  obtain ⟨hrest, hothers⟩ := exclusive.nothing_else top rfl
  -- the poll belongs to the one loop, so nobody had a receipt in hand before
  have hbefore : ¬ s.InHand := by
    rintro ⟨u, hu⟩
    by_cases hself : u = t
    · subst hself
      exact hrest (by simpa [top] using hu)
    · exact hothers u hself hu
  have hafter : (s'.put t ([.looping .callback] ++ rest)).InHand := ⟨t, by simp⟩
  refine ⟨fun hnone => absurd hafter hnone, fun _ => ?_⟩
  rw [UInt64.ofNat_add, ← h.settled hbefore]
  exact taken

/-- No step but the beginning of a callback takes a receipt out of a loop's hand. -/
theorem Tallied.does (h : Tallied n s) (alone : Engine.Alone s.client.engine)
    (orderly : Orderly s) (exclusive : Exclusive s) (top : s.stack t = f :: rest)
    (does : Does s t f s' frames) (other : f ≠ .looping .callback) :
    Tallied n (s'.put t (frames ++ rest)) := by
  rcases does.taken_after alone with ⟨rfl, rfl, htaken⟩ | ⟨hnone, htaken⟩
  · exact h.poll exclusive top htaken
  · refine h.same (exists_congr fun u => ?_) htaken
    by_cases hu : u = t
    · subst hu
      simp [top, hnone, Ne.symm other]
    · rcases does.stack_other u with hsame | ⟨rfl, hloop⟩
      · simp [hu, hsame]
      · -- a worker that is spawned had no frames before
        have hnone : s.stack (.worker s.spawned) = [] := by
          by_contra hworks
          exact Nat.lt_irrefl _ (orderly.spawned s.spawned hworks)
        simp [hu, hnone, hloop]

/-- A call that begins has no receipt in hand. -/
theorem Tallied.call (h : Tallied n s) (first : f.first = true) :
    Tallied n (s.put t (f :: s.stack t)) := by
  have hother : f ≠ .looping .callback := by
    rintro rfl
    cases first
  refine h.same (exists_congr fun u => ?_) rfl
  by_cases hu : u = t
  · subst hu
    simp [Ne.symm hother]
  · simp [hu]

/-- The counter is right at every moment, by induction on the run. -/
theorem After.tallied (h : After config network n s) : Tallied n s := by
  induction h with
  | initial => exact ⟨fun _ => rfl, fun ⟨_, hmem⟩ => by cases hmem⟩
  | begin before next begins ih =>
    have hreachable := before.reachable
    cases next with
    | does top does =>
      -- the callback begins, and nothing else can happen in this step
      obtain rfl := begins.top top does
      obtain ⟨rfl, rfl⟩ := hreachable.provided.begins hreachable.exclusive top does
      exact ih.begin hreachable.exclusive top
    | call free first => exact absurd begins (not_begins_call free)
    | submit => exact absurd begins not_begins_withClient
    | hear => exact absurd begins not_begins_withClient
  | @step n s s' before next other ih =>
    have hreachable := before.reachable
    have halone := hreachable.provided.alone
    cases next with
    | @does s' t f rest frames top does =>
      -- a step of the loop at its callback would begin it, against `other`
      refine ih.does halone hreachable.orderly hreachable.exclusive top does ?_
      rintro rfl
      obtain ⟨rfl, rfl⟩ := hreachable.provided.begins hreachable.exclusive top does
      exact other ⟨t, rest, top, by simp⟩
    | call free first => exact ih.call first
    | @submit rawTx endpoint jobId =>
      refine ih.same Iff.rfl ?_
      rcases broadcast_submits s.client rawTx endpoint jobId with hsame | hsubmit
      · rw [hsame]
        rfl
      · rw [hsubmit]
        exact Engine.taken_submit
    | hear => exact ih.same Iff.rfl (Engine.taken_finish halone)

/-- A step that begins no callback leaves their number as it was. -/
theorem After.goes (h : After config network n s) (top : s.stack t = f :: rest)
    (does : Does s t f s' frames) (other : f ≠ .looping .callback) :
    After config network n (s'.put t (frames ++ rest)) :=
  h.step (.does top does) fun begins => other (begins.top top does)

end Threads

/-! ## A loop never fails -/

/-- The statistics show the counter. -/
theorem stats?_delivered {c : Client} {stats : Stats} (h : c.stats? = some stats) :
    stats.delivered = c.engine.taken := by
  unfold stats? at h
  split at h
  · rw [← Option.some.inj h]
    rfl
  · cases h

/-- **A loop never fails and drops nothing.**  Whatever calls were made from outside and inside
    callbacks, however callbacks and broadcasts ended, and however long a poll waits: no poll
    learns that no receipt can come; a loop is refused only because the client is destroyed, no
    callback was set or a loop runs; a loop that ends ends well; a receipt that the loop takes
    finds a callback; and the counter says how many callbacks began.  All this holds in any order
    of the steps of any threads too, with one more in the counter while a receipt is in hand. -/
theorem loop_never_fails {m : Moment} {s : Threads} {n : Nat} (h : Reachable config network m)
    (hs : Threads.After config network n s) :
    (m.client.engine.Connected ∧ Log.Each Steady m.log ∧
      (∀ r c, m.client.isRunning = true → m.client.round = (.takes r, c) → c.callback ≠ none) ∧
      ∀ stats, m.client.stats? = some stats →
        stats.delivered = UInt64.ofNat (delivered m.log).length) ∧
    (s.client.engine.Connected ∧
      (∀ e, s.client.engine.startWorking.1 = .error e → ClientError.ofEngine e = .destroyed) ∧
      (∀ result, s.client.loopResult = some result → result = .ok ()) ∧
      (∀ t rest s' frames, s.stack t = .looping .callback :: rest →
        Does s t (.looping .callback) s' frames →
        s' = s ∧ frames = [.calling, .looping .orders]) ∧
      ∀ stats, s.client.stats? = some stats →
        (¬ s.InHand → stats.delivered = UInt64.ofNat n) ∧
        (s.InHand → stats.delivered = UInt64.ofNat (n + 1))) := by
  have roles := h.roles
  have reachable := hs.reachable
  have provided := reachable.provided
  refine ⟨⟨roles.whole.alone.connected, h.steady, fun r c runs round => ?_,
      fun stats hstats => ?_⟩,
    provided.alone.connected, fun e late => ?_, provided.result,
    fun t rest s' frames top does => ?_,
    fun stats hstats => ⟨fun hnone => ?_, fun hone => ?_⟩⟩
  · obtain ⟨-, rest, -, rfl⟩ := round_takes roles.whole round
    exact roles.set runs
  · exact (stats?_delivered hstats).trans h.counts
  · rw [Engine.startWorking_refuses late]
    rfl
  · -- the receipt in hand goes to the callback that is set
    exact provided.begins reachable.exclusive top does
  · exact (stats?_delivered hstats).trans (hs.tallied.settled hnone)
  · exact (stats?_delivered hstats).trans (hs.tallied.inHand hone)

/-- A thread sets a callback and runs the loop, and is in the callback of the first receipt. -/
theorem first_begun : ∃ s, Threads.After {} (.standIn {}) 1 s ∧ s.client.stats?.isSome = true ∧
    s.stack (.outside 0) = [.calling, .looping .orders] ∧ ¬ s.InHand := by
  have hcall := (@Threads.After.initial {} (.standIn {})).step
    (@Threads.Step.call _ (.outside 0) .checking (Or.inl ⟨rfl, 0, rfl⟩) rfl)
    (Threads.not_begins_call (Or.inl ⟨rfl, 0, rfl⟩))
  have hset := (hcall.goes (t := .outside 0) rfl (.check rfl) (by simp)).goes (t := .outside 0) rfl
    (@Does.set _ _ ⟨"callback", fun _ => [], fun _ => false⟩) (by simp)
  have hrun := hset.step
    (@Threads.Step.call _ (.outside 0) (.claiming .caller .engine) (Or.inl ⟨rfl, 0, rfl⟩) rfl)
    (Threads.not_begins_call (Or.inl ⟨rfl, 0, rfl⟩))
  have hclaim := ((hrun.goes (t := .outside 0) rfl (.claimEngine rfl) (by simp)).goes
    (t := .outside 0) rfl (.claimCallback (by simp)) (by simp)).goes
    (t := .outside 0) rfl (.claimLoop rfl) (by simp)
  have hloop := (hclaim.goes (t := .outside 0) rfl .claimClear (by simp)).goes
    (t := .outside 0) rfl (.runWork rfl) (by simp)
  -- a broadcast ends, so that the first poll finds a receipt
  have hwaiting := (hloop.step (@Threads.Step.submit _ [1] "http://[::1]:8545" ⟨"job"⟩)
    Threads.not_begins_withClient).step (@Threads.Step.hear _ 0 (.error (.rpc "busy")))
    Threads.not_begins_withClient
  have hpoll := ((hwaiting.goes (t := .outside 0) rfl (.go rfl) (by simp)).goes
    (t := .outside 0) rfl (.engine rfl) (by simp)).goes (t := .outside 0) rfl (.poll rfl) (by simp)
  have hbegin := hpoll.begin
    (@Threads.Step.does _ _ (.outside 0) _ _ _ rfl (.begin (fun hnone => by cases hnone)))
    ⟨.outside 0, [], rfl, rfl⟩
  exact ⟨_, hbegin, rfl, rfl, hpoll.reachable.exclusive.handed rfl⟩

/-- The first of two callbacks panicked, and both are counted; the one callback of another client
    is counted while it runs. -/
theorem loop_never_fails_relayed : ∃ s stats, Reachable {} (.standIn {}) relayed ∧
    Threads.After {} (.standIn {}) 1 s ∧ s.client.stats? = some stats ∧
    s.stack (.outside 0) = [.calling, .looping .orders] ∧
    relayed.client.engine.Connected ∧ Log.Each Steady relayed.log ∧
    (∀ stats, relayed.client.stats? = some stats → stats.delivered = 2) ∧
    s.client.engine.Connected ∧ stats.delivered = 1 := by
  obtain ⟨s, hs, hlive, hcalling, hnone⟩ := first_begun
  obtain ⟨stats, hstats⟩ := Option.isSome_iff_exists.mp hlive
  obtain ⟨⟨hconnected, hsteady, -, hcounter⟩, hconnected', -, -, -, hcounter'⟩ :=
    loop_never_fails relayed_reachable hs
  exact ⟨s, stats, relayed_reachable, hs, hstats, hcalling, hconnected, hsteady, hcounter,
    hconnected', (hcounter' stats hstats).1 hnone⟩

end Client

end TxRelay
