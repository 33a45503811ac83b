/-
  The last round of a loop that was told to end.

  A loop learns that it must end from two looks: at its orders, where `stop` leaves word, and at
  the slot of the engine, which `destroy` empties.  Both looks stand before the poll, and a poll
  may take long.  So a loop that is told to end while it polls, or while it holds the receipt that
  its poll has found, does not learn it in this round: it calls the callback once more, although
  the call that told it may have returned long before (`begun_after_stop`, `begun_after_destroy`).
  With a worker that is seldom seen, since `stop` and `destroy` wait for the worker whose handle
  they find.  But a loop of `run` is on the caller's own thread and has no handle: it is told, and
  nobody waits for it.

  What holds instead:

  1. **Past a look.**  `Frame.past look` are the places of a round between a look and the next
     round.  While the loop is told (`Told look`), no step leads into such a place from outside:
     a loop that comes to the look ends there (`Does.past_before`).

  2. **One round at most.**  A callback that begins leads out of such a place, and there is only
     one loop (`Exclusive`).  So on any way along which the loop is told, at most one callback
     begins, and none if nobody was past the look (`LastRound.once`, `LastRound.quiet`).

  3. **Three cases in which nobody is past the look.**  No loop runs; or the loop waits for a
     callback, which is the last one then (`LastRound.last`); or the loop was a worker's and the
     worker has left it (`LastRound.left`), for which a call of `stop` or `destroy` waits that
     found the worker's handle (`Does.join_over`).

  `Leads` counts the callbacks that begin on the way from one state to another.
-/
import TxRelay.Proofs.Client.Stopping
import TxRelay.Proofs.Client.Unfailing

namespace TxRelay.Client

open Relation

/-- The looks by which a loop learns that it must end. -/
inductive Look where
  /-- At its orders. -/
  | orders
  /-- At the slot of the engine. -/
  | engine
deriving DecidableEq, Repr

variable {config : Config} {network : Network} {look : Look} {s s' s'' : Threads} {t u : Thread}
  {f g : Frame} {rest frames : List Frame} {n : Nat}

/-- The loop is past this look, and comes to it again only in its next round. -/
def Frame.past : Look → Frame → Bool
  | .orders, .looping .engine => true
  | _, .looping .poll => true
  | _, .looping .callback => true
  | _, _ => false

/-- A loop that is in its round has the right to run. -/
theorem Frame.owns_of_past (past : f.past look = true) : f.owns = true := by
  unfold Frame.past at past
  split at past <;> first | rfl | cases past

/-- A call begins with a frame that is in no round. -/
theorem Frame.not_past_of_first (first : f.first = true) : f.past look = false := by
  cases f with
  | looping turn => cases first
  | _ => cases look <;> rfl

namespace Threads

/-- What the look finds tells the loop to end. -/
def Told : Look → Threads → Prop
  | .orders, s => s.client.stopAsked = true
  | .engine, s => s.client.alive = false

/-- The loop on this thread is past the look. -/
def Past (look : Look) (s : Threads) (t : Thread) : Prop := ∃ f ∈ s.stack t, f.past look = true

/-- Steps lead from one state to another while the loop is told, and so many callbacks begin. -/
inductive Leads (look : Look) (s : Threads) : Nat → Threads → Prop where
  | refl : Leads look s 0 s
  | begin {n : Nat} {s' s'' : Threads} (before : Leads look s n s') (next : Step s' s'')
      (told : Told look s'') (begins : s'.Begins s'') : Leads look s (n + 1) s''
  | step {n : Nat} {s' s'' : Threads} (before : Leads look s n s') (next : Step s' s'')
      (told : Told look s'') (other : ¬ s'.Begins s'') : Leads look s n s''

end Threads

/-! ## What one step does -/

/-- A loop that is told to end comes past the look only from a place that is past it. -/
theorem Does.past_before (h : Does s t f s' frames) (told : s.Told look) (hg : g ∈ frames)
    (past : g.past look = true) : f.past look = true := by
  cases h with
  -- the look at the orders: a loop that is told to stop does not go on
  | go free =>
    obtain rfl := List.mem_singleton.mp hg
    cases look with
    | orders => exact absurd told (by simp [Threads.Told, free])
    | engine => cases past
  -- the look at the engine: a loop that finds none does not go on
  | engine there =>
    cases look with
    | orders => rfl
    | engine => exact absurd told (by simp [Threads.Told, there])
  | poll found => cases look <;> rfl
  | begin set =>
    rcases List.mem_cons.mp hg with rfl | hlast
    · cases look <;> cases past
    · obtain rfl := List.mem_singleton.mp hlast
      cases look <;> cases past
  | claimEngine | claimCallback | claimLoop | claimClear | startWork | lock | check | replaceNone
  | replace | await | spawn | store | swap | finish | order | joinLock | take | runWork
  | pollExpires | drop =>
    obtain rfl := List.mem_singleton.mp hg
    cases look <;> cases past
  | _ => cases hg

/-- A call that waits for a worker goes on only when the worker has left its loop. -/
theorem Does.join_over {call : Joiner} {k : Nat}
    (h : Does s t (.joining call (.wait k)) s' frames) : s.stack (.worker k) = [] := by
  cases h with
  | join ended => exact ended

namespace Threads

/-- While the loop is told to end, a step leads nobody past the look. -/
theorem Step.past_before (next : Step s s') (told : s.Told look) (past : s'.Past look u) :
    s.Past look u := by
  obtain ⟨g, hg, hpast⟩ := past
  cases next with
  | @does s₁ t f rest frames top does =>
    by_cases hu : u = t
    · subst hu
      have hmem : g ∈ frames ++ rest := by simpa using hg
      rcases List.mem_append.mp hmem with hnew | hold
      · exact ⟨f, by simp [top], does.past_before told hnew hpast⟩
      · exact ⟨g, by simp [top, hold], hpast⟩
    · have hmem : g ∈ s₁.stack u := by simpa [hu] using hg
      rcases does.stack_other u with hsame | ⟨-, hloop⟩
      · exact ⟨g, hsame ▸ hmem, hpast⟩
      · -- a worker that was just spawned stands before its first look
        rw [hloop, List.mem_singleton] at hmem
        subst hmem
        cases look <;> cases hpast
  | @call t f free first =>
    by_cases hu : u = t
    · subst hu
      have hmem : g ∈ f :: s.stack u := by simpa using hg
      rcases List.mem_cons.mp hmem with rfl | hold
      · rw [Frame.not_past_of_first first] at hpast
        cases hpast
      · exact ⟨g, hold, hpast⟩
    · exact ⟨g, by simpa [hu] using hg, hpast⟩
  | submit => exact ⟨g, hg, hpast⟩
  | hear => exact ⟨g, hg, hpast⟩

/-- A destroyed client stays destroyed. -/
theorem Step.told_engine (next : Step s s') (told : s.Told .engine) : s'.Told .engine := by
  cases next with
  | does top does => exact does.alive_after told
  | call free first => exact told
  | submit => exact alive_broadcast.trans told
  | hear => exact told

/-- An engine that is gone does not come back. -/
theorem Path.told_engine (path : Path s s') (told : s.Told .engine) : s'.Told .engine := by
  induction path with
  | refl => exact told
  | tail _ next ih => exact next.told_engine ih

/-- Two frames that have the right to run the loop are one. -/
theorem Exclusive.one (h : Exclusive s) (hf : f ∈ s.stack t) (hg : g ∈ s.stack u)
    (owns : f.owns = true) (owns' : g.owns = true) : t = u ∧ f = g := by
  obtain ⟨owner, -, hcount⟩ := h.owner
  have howner {v : Thread} {x : Frame} (hx : x ∈ s.stack v) (howns : x.owns = true) :
      owner = some v := by
    by_contra hother
    have hnone := hcount v
    rw [if_neg hother] at hnone
    rw [Frame.none_owns.mp hnone x hx] at howns
    cases howns
  obtain rfl : t = u := Option.some.inj ((howner hf owns).symm.trans (howner hg owns'))
  have hone := hcount t
  rw [if_pos (howner hf owns), List.countP_eq_length_filter, List.length_eq_one_iff] at hone
  obtain ⟨x, hx⟩ := hone
  have hfilter {y : Frame} (hy : y ∈ s.stack t) (howns : y.owns = true) : y = x := by
    have hmem : y ∈ (s.stack t).filter Frame.owns := List.mem_filter.mpr ⟨hy, howns⟩
    rwa [hx, List.mem_singleton] at hmem
  exact ⟨rfl, (hfilter hf owns).trans (hfilter hg owns').symm⟩

/-- A callback begins on a thread that was past the look, and then nobody is past it. -/
theorem Reachable.begins_past (h : Reachable config network s) (next : Step s s')
    (begins : s.Begins s') (look : Look) :
    (∃ u, s.Past look u) ∧ ∀ u, ¬ s'.Past look u := by
  cases next with
  | @does s₁ t f rest frames top does =>
    obtain rfl := begins.top top does
    obtain ⟨rfl, rfl⟩ := h.provided.begins h.exclusive top does
    refine ⟨⟨t, .looping .callback, by simp [top], by cases look <;> rfl⟩, ?_⟩
    obtain ⟨hrest, hothers⟩ := h.exclusive.alone top rfl
    rintro u ⟨g, hg, hpast⟩
    -- whoever is past a look has the right, and the right is with the thread that begins its
    -- callback
    have howns := Frame.owns_of_past hpast
    by_cases hu : u = t
    · subst hu
      have hmem : g ∈ .calling :: .looping .orders :: rest := by simpa using hg
      rcases List.mem_cons.mp hmem with rfl | hmem
      · cases howns
      · rcases List.mem_cons.mp hmem with rfl | hbelow
        · cases look <;> cases hpast
        · rw [hrest g hbelow] at howns
          cases howns
    · rw [hothers u hu g (by simpa [hu] using hg)] at howns
      cases howns
  | call free first => exact absurd begins (not_begins_call free)
  | submit => exact absurd begins not_begins_withClient
  | hear => exact absurd begins not_begins_withClient

/-! ## What a whole way does -/

/-- A way is a run. -/
theorem Leads.path (leads : Leads look s n s') : Path s s' := by
  induction leads with
  | refl => exact .refl
  | begin _ next _ _ ih => exact ih.tail next
  | step _ next _ _ ih => exact ih.tail next

/-- A loop that was told is told all along the way. -/
theorem Leads.told (leads : Leads look s n s') (told : s.Told look) : s'.Told look := by
  cases leads with
  | refl => exact told
  | begin _ _ told _ => exact told
  | step _ _ told _ => exact told

/-- Who is past the look was past it from the beginning. -/
theorem Leads.past_before (leads : Leads look s n s') (told : s.Told look)
    (past : s'.Past look u) : s.Past look u := by
  induction leads with
  | refl => exact past
  | begin before next _ _ ih => exact ih (next.past_before (before.told told) past)
  | step before next _ _ ih => exact ih (next.past_before (before.told told) past)

/-- At most one callback begins; then somebody was past the look, and nobody is any more. -/
theorem Leads.count (leads : Leads look s n s') (h : Reachable config network s)
    (told : s.Told look) :
    n = 0 ∨ (n = 1 ∧ (∃ u, s.Past look u) ∧ ∀ u, ¬ s'.Past look u) := by
  induction leads with
  | refl => exact Or.inl rfl
  | @begin n s₁ s₂ before next _ begins ih =>
    obtain ⟨⟨u, hu⟩, hnobody⟩ := (h.path before.path).begins_past next begins look
    rcases ih with rfl | ⟨-, -, hover⟩
    · exact Or.inr ⟨rfl, ⟨u, before.past_before told hu⟩, hnobody⟩
    · exact absurd hu (hover u)
  | @step n s₁ s₂ before next _ _ ih =>
    rcases ih with rfl | ⟨rfl, hsome, hover⟩
    · exact Or.inl rfl
    · exact Or.inr ⟨rfl, hsome, fun u hu => hover u (next.past_before (before.told told) hu)⟩

/-- **The last round.**  What a loop that is told to end still does, from here on, as long as it is
    told. -/
structure LastRound (look : Look) (s : Threads) : Prop where
  /-- At most one callback begins. -/
  once : ∀ n s', Leads look s n s' → n ≤ 1
  /-- None begins if no loop is past the look. -/
  quiet : (∀ t, ¬ s.Past look t) → ∀ n s', Leads look s n s' → n = 0
  /-- None begins if the loop waits for a callback: that callback is the last one. -/
  last : ∀ t, .looping .orders ∈ s.stack t → ∀ n s', Leads look s n s' → n = 0
  /-- None begins any more when the worker that runs the loop has left it. -/
  left : ∀ k, s.Works k → ∀ n s', Leads look s n s' → s'.stack (.worker k) = [] →
    ∀ n' s'', Leads look s' n' s'' → n' = 0

/-- With nobody past the look no callback begins. -/
theorem Reachable.quiet (h : Reachable config network s) (told : s.Told look)
    (nobody : ∀ t, ¬ s.Past look t) (leads : Leads look s n s') : n = 0 := by
  rcases leads.count h told with hnone | ⟨-, ⟨u, hu⟩, -⟩
  · exact hnone
  · exact absurd hu (nobody u)

/-- A loop that is told has its last round, in whatever state it is told. -/
theorem Reachable.lastRound (h : Reachable config network s) (told : s.Told look) :
    LastRound look s where
  once := fun n s' leads => by
    rcases leads.count h told with rfl | ⟨rfl, -⟩
    · exact Nat.zero_le 1
    · exact Nat.le_refl 1
  quiet := fun nobody n s' leads => h.quiet told nobody leads
  last := fun t waits n s' leads => by
    refine h.quiet told (fun u ⟨g, hg, hpast⟩ => ?_) leads
    obtain ⟨-, rfl⟩ := h.exclusive.one waits hg rfl (Frame.owns_of_past hpast)
    cases look <;> cases hpast
  left := fun k works n s' leads gone n' s'' leads' => by
    refine (h.path leads.path).quiet (leads.told told) (fun u hu => ?_) leads'
    -- who is past the look was past it before, and then it was this worker
    obtain ⟨g, hg, hpast⟩ := leads.past_before told hu
    obtain ⟨turn, hturn⟩ := h.exclusive.works works
    obtain ⟨rfl, -⟩ := h.exclusive.one hturn hg rfl (Frame.owns_of_past hpast)
    obtain ⟨g', hg', -⟩ := hu
    rw [gone] at hg'
    cases hg'

/-! ## A loop in its poll -/

/-- A thread sets a callback and runs the loop, and while its poll goes on the first receipt comes;
    another thread does nothing. -/
theorem polling_alone : ∃ s r e, Reachable {} (.standIn {}) s ∧ s.client.alive = true ∧
    s.client.callback.isSome = true ∧ s.lock = none ∧ s.handle = none ∧
    s.client.engine.receive? = some (.ok (.ready r), e) ∧
    s.stack (.outside 0) = [.looping .poll] ∧ s.stack (.outside 1) = [] := by
  let set : ClientCall := .setCallback "callback" (fun _ => []) (fun _ => false)
  have hset := Reachable.initial.path
    (@set_alone { client := .new {} (.standIn {}) } (.outside 0) _ _ _ (Or.inl ⟨rfl, 0, rfl⟩)
      (show ((Client.new {} (.standIn {})).perform set).1 = .set from rfl))
  have hrun := hset.path (@run_alone _ (.outside 0) _ (Or.inl ⟨rfl, 0, rfl⟩)
    ⟨⟨rfl, rfl⟩, by simp [perform, Client.new]⟩ rfl)
  have hpoll := (hrun.step (@Step.does _ _ (.outside 0) _ _ _ rfl (.go rfl))).step
    (@Step.does _ _ (.outside 0) _ _ _ rfl (.engine rfl))
  have hwaiting := (hpoll.step (@Step.submit _ [1] "http://[::1]:8545" ⟨"job"⟩)).step
    (@Step.hear _ 0 (.error (.rpc "busy")))
  exact ⟨_, _, _, hwaiting, rfl, rfl, rfl, rfl, rfl, rfl, rfl⟩

end Threads

end TxRelay.Client
