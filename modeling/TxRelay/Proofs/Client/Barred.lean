/-
  Calls of `start` and `run` that are refused.

  1. **Who holds the claim.**  The log says whether a loop holds the claim: from the call that took
     it until the loop ended (`Held`).  The flag of the client agrees with it at every moment
     (`Reachable.flagged`).

  2. **What bars a call.**  The client was destroyed; or else no callback was ever set; or else a
     loop holds the claim.  `Barred` is the first of these reasons, read off the log; there is one
     at most (`Barred.unique`), and a call that none bars takes the loop (`Reachable.takes_cases`).

  3. **No trace.**  The checks come before all that the call would do, and so a refused call leaves
     the client as it was, in every slot.  The run after it is the run without it, deed by deed, and
     the log has one event more (`Unmarked`).

  4. **Orders that stand.**  An order to stop is among what is left alone: the loop that was told to
     stop may be in a callback that calls `start` and `run` as often as it likes, and the next that
     is heard of the loop is its end.  `Pending` is kept by every step but that end
     (`Pending.step`), and `Hushed` collects what is written down on the way.

  The crux is that the end comes: a callback makes finitely many calls, and `Moment.toEnd` counts
  how often a client has to go on (`Pending.ends`).
-/
import TxRelay.Proofs.Client.Asking
import TxRelay.Proofs.Client.Ledger
import TxRelay.Proofs.Client.Schedule
import TxRelay.Proofs.Client.Tally

namespace TxRelay

/-! ## The two calls -/

namespace Loop

/-- The call that takes the loop for this one. -/
def call : Loop → ClientCall
  | worker => .start
  | caller => .run

/-- What the call answers when it takes the loop. -/
def answer : Loop → ClientAnswer
  | worker => .started
  | caller => .nothing

end Loop

namespace Client

open Relation

variable {config : Config} {network : Network} {m m' : Moment} {loop : Loop} {e e' : ClientError}

/-- A claim that succeeds is the answer of the call. -/
theorem perform_claims {c d : Client} (goes : c.claim loop = .ok d) :
    c.perform loop.call = (loop.answer, d) := by
  cases loop <;> simp [perform, Loop.call, Loop.answer, goes]

/-- A claim that fails leaves the client alone. -/
theorem perform_fails {c : Client} (fails : c.claim loop = .error e) :
    c.perform loop.call = (.failed e, c) := by
  cases loop <;> simp [perform, Loop.call, fails]

/-! ## Who holds the claim -/

namespace Event

/-- Whether the claim is held after the event: a call took the loop, or the loop ended. -/
@[simp] def held? : Event → Option Bool
  | called .start .started => some true
  | called .run .nothing => some true
  | loopEnded _ => some false
  | _ => none

end Event

/-- A loop holds the claim: one was taken and has not ended since. -/
def Held (log : List Event) : Prop := (log.filterMap Event.held?).getLast? = some true

/-- The latest event that has to do with the claim decides. -/
theorem held_snoc (log : List Event) (event : Event) :
    Held (log ++ [event]) ↔ event.held? = some true ∨ (event.held? = none ∧ Held log) := by
  rw [Held, Log.filterMap_snoc]
  cases event.held? with
  | none => simp [Held]
  | some held => simp

/-- The flag of the client is what the log says about the claim. -/
def Flagged (m : Moment) : Prop := m.client.isRunning = true ↔ Held m.log

/-- Nobody takes the loop, and it does not end. -/
theorem Flagged.note {c : Client} {event : Event} (h : Flagged m)
    (same : c.isRunning = m.client.isRunning) (silent : event.held? = none) :
    Flagged ({ m with client := c }.note event) := by
  have hlog : Held (m.log ++ [event]) ↔ Held m.log := by rw [held_snoc, silent]; simp
  show c.isRunning = true ↔ Held (m.log ++ [event])
  rw [same, hlog]
  exact h

/-- A call that takes the loop sets the flag, and no other call does. -/
theorem Flagged.make (h : Flagged m) (whole : Whole m.client) (call : ClientCall) :
    Flagged (m.make call) := by
  have heffect := perform_effect whole call
  unfold Moment.make
  generalize (m.client.perform call).1 = answer at heffect ⊢
  generalize (m.client.perform call).2 = d at heffect ⊢
  cases heffect with
  | gone guarded dead => exact h.note rfl (by cases call <;> rfl)
  | start live set free => exact iff_of_true rfl ((held_snoc _ _).mpr (Or.inl rfl))
  | run live set free => exact iff_of_true rfl ((held_snoc _ _).mpr (Or.inl rfl))
  | barred takes live why => exact h.note rfl (by rcases takes with rfl | rfl <;> rfl)
  | _ => exact h.note rfl rfl

/-- The flag says who holds the claim. -/
theorem Reachable.flagged (h : Reachable config network m) : Flagged m := by
  induction h with
  | initial =>
    exact iff_of_false (by simp [Moment.initial, new, isRunning])
      (by simp [Moment.initial, Held])
  | @step m m' before next ih =>
    have hwhole := before.roles.whole
    cases next with
    | call call => exact ih.make hwhole call
    | finish goes => exact ih.note rfl rfl
    | happens next =>
      cases next with
      | begin free runs round set =>
        obtain ⟨-, rest, -, rfl⟩ := round_takes hwhole round
        exact ih.note rfl rfl
      | drop free runs round unset =>
        obtain ⟨-, rest, -, rfl⟩ := round_takes hwhole round
        exact ih
      -- the one event that gives the claim back
      | stop free runs round =>
        obtain ⟨-, -, rfl⟩ := round_ends hwhole round
        exact iff_of_false (by simp [endLoop, isRunning]) (by simp [held_snoc])
      | @call call rest panics busy =>
        have hcalling : Flagged { m with busy := some ⟨rest, panics⟩ } := ih
        exact hcalling.make hwhole call
      | @«return» panics busy =>
        cases panics with
        | false => exact ih
        | true => exact ih
      | hear head answer => exact ih.note rfl rfl

/-! ## What bars a call -/

/-- Why a call of `start` or `run` is refused after what is in the log: the first of the reasons. -/
inductive Barred (log : List Event) : ClientError → Prop where
  | destroyed (called : DestroyCalled log) : Barred log .destroyed
  | noCallback (live : ¬ DestroyCalled log) (unset : lastSet log = none) :
      Barred log .noCallback
  | alreadyRunning (live : ¬ DestroyCalled log) (set : lastSet log ≠ none) (held : Held log) :
      Barred log .alreadyRunning

/-- There is one reason at most. -/
theorem Barred.unique {log : List Event} (h : Barred log e) (h' : Barred log e') : e = e' := by
  cases h with
  | destroyed called =>
    cases h' with
    | destroyed _ => rfl
    | noCallback live _ => exact absurd called live
    | alreadyRunning live _ _ => exact absurd called live
  | noCallback live unset =>
    cases h' with
    | destroyed called => exact absurd called live
    | noCallback _ _ => rfl
    | alreadyRunning _ set _ => exact absurd unset set
  | alreadyRunning live set _ =>
    cases h' with
    | destroyed called => exact absurd called live
    | noCallback _ unset => exact absurd unset set
    | alreadyRunning _ _ _ => rfl

/-- A call of `start` or `run` is barred and does nothing, or nothing bars it and it takes the
    loop. -/
theorem Reachable.takes_cases (h : Reachable config network m) (loop : Loop) :
    (∃ e, Barred m.log e ∧ m.client.perform loop.call = (.failed e, m.client)) ∨
    ((∀ e, ¬ Barred m.log e) ∧
      m.client.perform loop.call = (loop.answer, m.client.claimed loop)) := by
  have hroles := h.roles
  have hlive (live : m.client.alive = true) : ¬ DestroyCalled m.log := hroles.alive.mp live
  -- the checks look at the slots, and the slots are what the log says
  rcases claim_cases hroles.whole loop with ⟨hdead, hclaim⟩ | ⟨halive, hunset, hclaim⟩ |
    ⟨halive, hruns, hclaim⟩ | ⟨halive, hset, hfree, hclaim⟩
  · have hcalled : DestroyCalled m.log := by
      by_contra hnot
      rw [hroles.alive.mpr hnot] at hdead
      cases hdead
    exact Or.inl ⟨_, .destroyed hcalled, perform_fails hclaim⟩
  · exact Or.inl ⟨_, .noCallback (hlive halive) (hroles.callback.symm.trans hunset),
      perform_fails hclaim⟩
  · have hset : lastSet m.log ≠ none := hroles.callback ▸ hroles.set hruns
    exact Or.inl ⟨_, .alreadyRunning (hlive halive) hset (h.flagged.mp hruns),
      perform_fails hclaim⟩
  · refine Or.inr ⟨fun e hbarred => ?_, perform_claims hclaim⟩
    cases hbarred with
    | destroyed called => exact hlive halive called
    | noCallback live unset => exact hset (hroles.callback.trans unset)
    | alreadyRunning live set held =>
      rw [h.flagged.mpr held] at hfree
      cases hfree

/-! ## Calls that leave no trace -/

/-- The moments differ in nothing but one event, which the second has written down; and whatever
    comes next, they go on in the same way. -/
def Unmarked (event : Event) (m m' : Moment) : Prop :=
  ∀ deeds, ∃ later, (m.run deeds).log = m.log ++ later ∧
    m'.run deeds = { m.run deeds with log := m.log ++ event :: later }

/-- A call that leaves the client as it was leaves no trace. -/
theorem unmarked_make {call : ClientCall} {answer : ClientAnswer}
    (same : m.client.perform call = (answer, m.client)) :
    Unmarked (.called call answer) m (m.make call) := by
  intro deeds
  -- both runs are that of the client with an empty log, behind what was written down before
  have hmake : m.make call =
      Moment.behind (m.log ++ [.called call answer]) { m with log := [] } := by
    simp [Moment.make, same, Moment.behind]
  refine ⟨(Moment.run { m with log := [] } deeds).log, congrArg Moment.log (m.run_fresh deeds), ?_⟩
  rw [hmake, Moment.run_behind, m.run_fresh deeds]
  simp [Moment.behind]

/-! ## Orders to stop that stand -/

/-- A loop runs that was told to stop. -/
structure Pending (m : Moment) : Prop where
  runs : m.client.isRunning = true
  asked : m.client.stopAsked = true

/-- The event tells nothing of a loop: none is taken or ends, and no callback begins. -/
def Event.Quiet (event : Event) : Prop := event.held? = none ∧ event.delivered? = none

/-- While an order stands every call for the loop is refused. -/
theorem Pending.refused (h : Pending m) (whole : Whole m.client) (loop : Loop) :
    ∃ e, m.client.perform loop.call = (.failed e, m.client) := by
  rcases claim_cases whole loop with ⟨-, hclaim⟩ | ⟨-, -, hclaim⟩ | ⟨-, -, hclaim⟩ |
    ⟨-, -, hfree, -⟩
  · exact ⟨_, perform_fails hclaim⟩
  · exact ⟨_, perform_fails hclaim⟩
  · exact ⟨_, perform_fails hclaim⟩
  · rw [h.runs] at hfree
    cases hfree

/-- The order still stands, and nothing was heard of a loop in between. -/
structure Hushed (m m' : Moment) : Prop where
  pending : Pending m'
  quiet : ∃ between, (∀ event ∈ between, event.Quiet) ∧ m'.log = m.log ++ between

/-- One quiet event. -/
theorem Hushed.one {event : Event} (pending : Pending m') (quiet : event.Quiet)
    (log : m'.log = m.log ++ [event]) : Hushed m m' :=
  ⟨pending, [event], by simpa using quiet, log⟩

/-- Quiet events, and more of them. -/
theorem Hushed.trans {m₁ : Moment} (h : Hushed m m₁) (h' : Hushed m₁ m') : Hushed m m' := by
  obtain ⟨between, hquiet, hlog⟩ := h.quiet
  obtain ⟨later, hlater, hlog'⟩ := h'.quiet
  exact ⟨h'.pending, between ++ later, List.forall_mem_append.mpr ⟨hquiet, hlater⟩,
    by rw [hlog', hlog, List.append_assoc]⟩

/-- A call leaves the order to a running loop as it is. -/
theorem Pending.make (h : Pending m) (whole : Whole m.client) (call : ClientCall) :
    Hushed m (m.make call) := by
  have heffect := perform_effect whole call
  unfold Moment.make
  generalize (m.client.perform call).1 = answer at heffect ⊢
  generalize (m.client.perform call).2 = d at heffect ⊢
  -- a call that would take the loop finds it running
  have hnot : ¬ m.client.isRunning = false := by simp [h.runs]
  cases heffect with
  | start live set free => exact absurd free hnot
  | run live set free => exact absurd free hnot
  | gone guarded dead => exact .one ⟨h.runs, h.asked⟩ ⟨by cases call <;> rfl, rfl⟩ rfl
  | barred takes live why =>
    exact .one ⟨h.runs, h.asked⟩ ⟨by rcases takes with rfl | rfl <;> rfl, rfl⟩ rfl
  | destroy live => exact .one ⟨h.runs, rfl⟩ ⟨rfl, rfl⟩ rfl
  | stop => exact .one ⟨h.runs, rfl⟩ ⟨rfl, rfl⟩ rfl
  | _ => exact .one ⟨h.runs, h.asked⟩ ⟨rfl, rfl⟩ rfl

/-- The end of a callback leaves the order standing. -/
theorem Pending.afterwards {c : Client} {busy busy' : Option Busy} {log : List Event}
    (h : Pending ⟨c, busy, log⟩) (panics : Bool) : Pending ⟨c.afterwards panics, busy', log⟩ := by
  cases panics with
  | false => exact ⟨h.runs, h.asked⟩
  | true => exact ⟨h.runs, h.asked⟩

/-- The next that is heard of a loop that was told to stop is its end. -/
theorem Pending.step (h : Pending m) (whole : Whole m.client) (next : Step m m') :
    Hushed m m' ∨ m'.log = m.log ++ [.loopEnded (.ok ())] := by
  have hends : m.client.mustEnd = true := by simp [mustEnd, h.asked]
  cases next with
  | call call => exact Or.inl (h.make whole call)
  | finish goes => exact Or.inl (.one ⟨h.runs, h.asked⟩ ⟨rfl, rfl⟩ rfl)
  | happens next =>
    cases next with
    | begin free runs round set =>
      -- a round that takes a receipt found no order
      rw [(round_takes whole round).1] at hends
      cases hends
    | drop free runs round unset =>
      rw [(round_takes whole round).1] at hends
      cases hends
    | stop free runs round =>
      obtain ⟨-, rfl, -⟩ := round_ends whole round
      exact Or.inr rfl
    | @call call rest panics busy =>
      have hcalling : Pending { m with busy := some ⟨rest, panics⟩ } := ⟨h.runs, h.asked⟩
      have hmade := hcalling.make whole call
      exact Or.inl ⟨hmade.pending, hmade.quiet⟩
    | @«return» panics busy =>
      exact Or.inl ⟨h.afterwards panics, [], by simp, (List.append_nil _).symm⟩
    | hear head answer => exact Or.inl (.one ⟨h.runs, h.asked⟩ ⟨rfl, rfl⟩ rfl)

/-- What is heard of a loop that was told to stop: nothing yet, or first of all its end. -/
def EndsFirst (m m' : Moment) : Prop :=
  Hushed m m' ∨ ∃ between after, (∀ event ∈ between, event.Quiet) ∧
    m'.log = m.log ++ (between ++ .loopEnded (.ok ()) :: after)

/-- Quiet events may come before the end of the loop. -/
theorem EndsFirst.after {m₁ : Moment} (h : EndsFirst m₁ m') (earlier : Hushed m m₁) :
    EndsFirst m m' := by
  rcases h with hhushed | ⟨between, after, hbetween, hlog⟩
  · exact Or.inl (earlier.trans hhushed)
  · obtain ⟨first, hfirst, hlog₁⟩ := earlier.quiet
    exact Or.inr ⟨first ++ between, after, List.forall_mem_append.mpr ⟨hfirst, hbetween⟩,
      by rw [hlog, hlog₁, List.append_assoc, List.append_assoc]⟩

/-- Whatever comes next, the next that is heard of the loop is its end. -/
theorem Pending.run (h : Pending m) (reach : Reachable config network m) {deeds : List Deed}
    (plain : ∀ deed ∈ deeds, deed.isPlain = true) : EndsFirst m (m.run deeds) := by
  induction deeds generalizing m with
  | nil => exact Or.inl ⟨h, [], by simp, (List.append_nil _).symm⟩
  | cons deed deeds ih =>
    have hlater : ∀ d ∈ deeds, d.isPlain = true := fun d hd => plain d (List.mem_cons_of_mem _ hd)
    rw [Moment.run_cons]
    rcases m.advance_steps (plain deed List.mem_cons_self) with hsame | hstep
    · rw [hsame]
      exact ih h reach hlater
    · rcases h.step reach.roles.whole hstep with hhushed | hended
      · exact (ih hhushed.pending (reach.step hstep) hlater).after hhushed
      · -- what comes after the end is written down behind it
        have hrest := congrArg Moment.log ((m.advance deed).run_fresh deeds)
        rw [hended] at hrest
        exact Or.inr ⟨[], _, by simp, hrest.trans (List.append_assoc _ _ _)⟩

/-- How many steps of its own a loop has to go that was told to stop: the calls that its callback
    has still to make, the callback's return, and the round that finds the order. -/
def Moment.toEnd (m : Moment) : Nat :=
  match m.busy with
  | some busy => busy.calls.length + 2
  | none => 1

/-- The round that finds the order. -/
theorem Pending.goOn (h : Pending m) (free : m.busy = none) :
    m.goOn.log = m.log ++ [.loopEnded (.ok ())] := by
  have hends : m.client.mustEnd = true := by simp [mustEnd, h.asked]
  simp [Moment.goOn, Moment.round, free, h.runs, Client.round, hends]

/-- The loop ends by its own steps, after the callback that it waits for. -/
theorem Pending.ends (h : Pending m) (whole : Whole m.client) :
    ∃ between, (∀ event ∈ between, event.Quiet) ∧
      (m.run (List.replicate m.toEnd .goOn)).log =
        m.log ++ (between ++ [.loopEnded (.ok ())]) := by
  obtain ⟨c, busy, log⟩ := m
  cases busy with
  | none => exact ⟨[], by simp, h.goOn rfl⟩
  | some busy =>
    obtain ⟨calls, panics⟩ := busy
    -- on the calls that the callback has still to make
    induction calls generalizing c log with
    | nil =>
      have hback : Pending ⟨c.afterwards panics, none, log⟩ := h.afterwards panics
      exact ⟨[], by simp, hback.goOn rfl⟩
    | cons call rest ih =>
      have hcalling : Pending ⟨c, some ⟨rest, panics⟩, log⟩ := ⟨h.runs, h.asked⟩
      have hmade := hcalling.make whole call
      obtain ⟨first, hfirst, hlog⟩ := hmade.quiet
      obtain ⟨between, hbetween, hrest⟩ :=
        ih _ _ hmade.pending ((perform_effect whole call).whole whole)
      have hlog : log ++ [.called call (c.perform call).1] = log ++ first := hlog
      refine ⟨first ++ between, List.forall_mem_append.mpr ⟨hfirst, hbetween⟩, hrest.trans ?_⟩
      rw [hlog, List.append_assoc, List.append_assoc]

/-! ## The calls, from outside, from inside, and among other threads -/

/-- **A refused call of `start` or `run` leaves no trace.**  At any moment a call, from outside or
    from inside a callback, fails because the client was destroyed, or else because no callback
    was ever set, or else because a loop holds the claim; otherwise it takes the loop.  A call that
    fails leaves the client as it was, and whatever comes later, calls and their answers, rounds
    of the loop and ends of broadcasts, comes as if the call had not been made.  So a loop that was
    told to stop, as by its own callback, ends after that callback whatever the callback calls
    next, and nothing else is heard of a loop before.

    Among other threads, whose steps come between those of the call: a call asks until it is
    refused or has the loop.  If it is refused, for what it found at one of its checks, then the
    others come to the very state by themselves, with the lock and the handle of the worker as
    they are; and if nobody disturbs it the state is the one in which it was made. -/
theorem barred_without_trace (config : Config) (network : Network) :
    (∀ m, Reachable config network m → ∀ loop : Loop,
      (∀ e, (m.client.perform loop.call).1 = .failed e ↔ Barred m.log e) ∧
      ((∀ e, ¬ Barred m.log e) →
        m.client.perform loop.call = (loop.answer, m.client.claimed loop)) ∧
      ∀ e, Barred m.log e →
        m.client.perform loop.call = (.failed e, m.client) ∧
        Unmarked (.called loop.call (.failed e)) m (m.make loop.call) ∧
        ∀ rest panics, m.busy = some ⟨loop.call :: rest, panics⟩ →
          Unmarked (.called loop.call (.failed e)) { m with busy := some ⟨rest, panics⟩ } m.goOn) ∧
    (∀ m, Reachable config network m →
      (∀ rest panics, m.busy = some ⟨.stop :: rest, panics⟩ → Pending m.goOn) ∧
      (Pending m →
        (∀ loop : Loop, ∃ e, m.client.perform loop.call = (.failed e, m.client)) ∧
        (∀ deeds : List Deed, (∀ deed ∈ deeds, deed.isPlain = true) →
          EndsFirst m (m.run deeds)) ∧
        ∃ between, (∀ event ∈ between, event.Quiet) ∧
          (m.run (List.replicate m.toEnd .goOn)).log =
            m.log ++ (between ++ [.loopEnded (.ok ())]))) ∧
    (∀ s, Threads.Reachable config network s → ∀ t loop,
      (∀ s₁ s₂, s.Asked t loop s₁ → Threads.Step s₁ s₂ →
        s.Asked t loop s₂ ∨
        (s₂.stack t = s.stack t ∧ ReflTransGen (Threads.Elsewhere t) s s₂ ∧
          ∃ check e, s₁.stack t = .claiming loop check :: s.stack t ∧ Bars s₁.client check e) ∨
        (s₁.stack t = .claiming loop .loop :: s.stack t ∧ s₁.client.loop = none ∧
          s₂.stack t = .claiming loop .clear :: s.stack t)) ∧
      ∀ e, s.Free t → s.client.Whole → (loop = .worker → s.lock = none) →
        s.client.claim loop = .error e →
        ∃ s₁ check, s.Asked t loop s₁ ∧ s₁.stack t = .claiming loop check :: s.stack t ∧
          Bars s₁.client check e ∧ Threads.Step s₁ s) := by
  refine ⟨fun m h loop => ?_, fun m h => ⟨fun rest panics busy => ?_, fun pending => ?_⟩,
    fun s h t loop => ⟨fun s₁ s₂ asked next => asked.next h next,
      fun e free whole unlocked fails => Threads.refused_alone free whole unlocked fails⟩⟩
  · -- the claim, made from outside or as the next call of a callback
    rcases h.takes_cases loop with ⟨e, hbarred, hperform⟩ | ⟨hnone, hperform⟩
    · refine ⟨fun e' => ?_, fun hnone => absurd hbarred (hnone e), fun e' hbarred' => ?_⟩
      · rw [hperform]
        constructor
        · intro hanswer
          obtain rfl := ClientAnswer.failed.inj hanswer
          exact hbarred
        · intro hbarred'
          rw [hbarred.unique hbarred']
      · obtain rfl := hbarred.unique hbarred'
        refine ⟨hperform, unmarked_make hperform, fun rest panics busy => ?_⟩
        -- inside a callback the refused call is dropped from what is left of it
        have hinside : m.goOn = { m with busy := some ⟨rest, panics⟩ }.make loop.call := by
          simp [Moment.goOn, busy]
        rw [hinside]
        exact unmarked_make hperform
    · refine ⟨fun e => iff_of_false ?_ (hnone e), fun _ => hperform,
        fun e hbarred => absurd hbarred (hnone e)⟩
      rw [hperform]
      cases loop <;> simp [Loop.answer]
  · -- a callback that calls `stop` leaves an order standing
    have hruns : m.client.isRunning = true := h.roles.waiting (by simp [busy])
    have hmade : m.goOn = { m with busy := some ⟨rest, panics⟩ }.make .stop := by
      simp [Moment.goOn, busy]
    rw [hmade]
    exact ⟨hruns, rfl⟩
  · exact ⟨pending.refused h.roles.whole, fun deeds plain => pending.run h plain,
      pending.ends h.roles.whole⟩

/-- A callback called `stop`, and has still to call `start` and `run`. -/
def silenced : Moment :=
  (Moment.initial {} (.standIn {})).run
    [.call (.setCallback "callback" (fun _ => [.stop, .start, .run]) fun _ => false), .call .start,
      .call (.broadcast [1] (some "http://[::1]:8545") ⟨"job"⟩),
      .finish 0 (.ok (.pending "0x02" "no receipt")), .goOn, .goOn]

/-- A job was accepted, and no callback was set. -/
def voiceless : Moment :=
  (Moment.initial {} (.standIn {})).make
    (.broadcast [1] (some "http://[::1]:8545") ⟨"job"⟩)

/-- The loop of the callback that called `stop` ends though the callback calls `start` and `run`
    after that; the engine of a client without a callback is not started, and its job waits; and
    the handle of a worker is still in its slot when another thread called `start`. -/
theorem barred_without_trace_silenced :
    Reachable {} (.standIn {}) silenced ∧ silenced.busy = some ⟨[.start, .run], false⟩ ∧
    silenced.client.perform .start = (.failed .alreadyRunning, silenced.client) ∧
    Unmarked (.called .start (.failed .alreadyRunning))
      { silenced with busy := some ⟨[.run], false⟩ } silenced.goOn ∧
    (∃ between, (∀ event ∈ between, event.Quiet) ∧
      (silenced.run [.goOn, .goOn, .goOn, .goOn]).log =
        silenced.log ++ (between ++ [.loopEnded (.ok ())])) ∧
    voiceless.client.perform .run = (.failed .noCallback, voiceless.client) ∧
    voiceless.client.engine.phase = .created ∧
    voiceless.client.engine.broadcasting = [] ∧
    (∃ s, Threads.Reachable {} (.standIn {}) s ∧ s.handle = some 0 ∧
      ∃ s₁ check, s.Asked (.outside 0) .worker s₁ ∧ Bars s₁.client check .alreadyRunning ∧
        Threads.Step s₁ s) := by
  obtain ⟨hcalls, hpending, hthreads⟩ := barred_without_trace {} (.standIn {})
  have hreached : Reachable {} (.standIn {}) silenced :=
    Reachable.initial.run (by simp [Deed.isPlain])
  have hbusy : silenced.busy = some ⟨[.start, .run], false⟩ := rfl
  have hruns : silenced.client.isRunning = true := rfl
  have hset : silenced.client.callback ≠ none := fun hnone => by cases hnone
  have hbarred : Barred silenced.log .alreadyRunning :=
    .alreadyRunning (hreached.roles.alive.mp rfl) (hreached.roles.callback ▸ hset)
      (hreached.flagged.mp hruns)
  obtain ⟨-, -, hrefused⟩ := hcalls silenced hreached .worker
  obtain ⟨hperform, -, hinside⟩ := hrefused _ hbarred
  have hvoiceless : Reachable {} (.standIn {}) voiceless := Reachable.initial.step (.call _)
  have hunset : Barred voiceless.log .noCallback :=
    .noCallback (hvoiceless.roles.alive.mp rfl) rfl
  refine ⟨hreached, hbusy, hperform, hinside _ _ hbusy, ?_, ?_, rfl, rfl, ?_⟩
  · exact ((hpending silenced hreached).2 ⟨hruns, rfl⟩).2.2
  · exact ((hcalls voiceless hvoiceless .caller).2.2 _ hunset).1
  · -- the worker of another client runs, and a second `start` is refused
    let set : ClientCall := .setCallback "callback" (fun _ => []) (fun _ => false)
    let ready : Threads := { client := ((Client.new {} (.standIn {})).perform set).2 }
    have hset : Threads.Path { client := .new {} (.standIn {}) } ready :=
      @Threads.set_alone _ (.outside 0) _ _ _ (Or.inl ⟨rfl, 0, rfl⟩) rfl
    have hwhole : ready.client.Whole := ⟨⟨rfl, rfl⟩, by simp [ready, set, perform, Client.new]⟩
    have hstart : Threads.Path ready _ :=
      @Threads.start_alone _ (.outside 0) _ (Or.inl ⟨rfl, 0, rfl⟩) hwhole rfl
        (fun k hk => by cases hk) rfl
    have hs := Threads.Reachable.initial.path (hset.trans hstart)
    obtain ⟨s₁, check, hasked, -, hbars, hstep⟩ :=
      (hthreads _ hs (.outside 0) .worker).2 .alreadyRunning (Or.inl ⟨rfl, 0, rfl⟩)
        ⟨⟨rfl, rfl⟩, iff_of_true rfl fun hgone => by cases hgone⟩ (fun _ => rfl) rfl
    exact ⟨_, hs, rfl, s₁, check, hasked, hbars, hstep⟩

end Client

end TxRelay
