/-
  Who has the right to run the loop.

  The right is taken in one step, by a call of `start` or `run` that finds no loop, and is then
  passed on: `run` goes on with it, `start` gives it to the worker that it spawns.  It is free again
  when the loop ends, or when the call that took it fails.

  1. **Frames that have the right.**  `Frame.owns` are the places of a call from its claim to the
     end of what it claimed the loop for.  A step passes the right on, takes it or gives it up
     (`Does.passes`).

  2. **Counting.**  `Exclusive` counts: no thread has the right twice, no two threads have it, and
     one has it exactly while the client says that a loop runs.  It is stated as a single owner, if
     any, and the number of frames in each stack that own, so that a step is a sum of what the
     innermost frame had, what the new frames have, and what lies below (`Exclusive.does_owner`).

  3. **What follows.**  With the right in the innermost frame of a thread nobody else has it
     (`Exclusive.alone`), and a loop that is running is in some stack (`Exclusive.runs_iff`).

  The crux is that a thread below its own callback still has the right: the callback may call
  `start` or `run` itself, and these are refused by the flag, so the same stack never counts two.
-/
import Mathlib.Data.List.Basic
import TxRelay.Proofs.Client.Handles

namespace TxRelay.Client

variable {config : Config} {network : Network} {s s' : Threads} {t u : Thread} {f g : Frame}
  {rest frames : List Frame}

/-- The thread has the right to run the loop. -/
def Frame.owns : Frame → Bool
  | .claiming _ next => next = .clear || next = .work
  | .replacing | .awaiting _ | .spawning | .looping _ => true
  | _ => false

/-- What one step of a thread does with the right: nothing, or it takes it, gives it up, or gives
    it to a new worker. -/
theorem Does.passes (h : Does s t f s' frames) :
    (s'.stack = s.stack ∧ s'.client.loop.isSome = s.client.loop.isSome ∧
      frames.countP Frame.owns = [f].countP Frame.owns) ∨
    (s'.stack = s.stack ∧ s.client.loop.isSome = false ∧ s'.client.loop.isSome = true ∧
      f.owns = false ∧ frames.countP Frame.owns = 1) ∨
    (s'.stack = s.stack ∧ s'.client.loop.isSome = false ∧ f.owns = true ∧
      frames.countP Frame.owns = 0) ∨
    (f = .spawning ∧ s' = s.spawn ∧ frames.countP Frame.owns = 0) := by
  cases h with
  | claimLoop free => exact Or.inr (Or.inl ⟨rfl, by rw [free]; rfl, rfl, rfl, rfl⟩)
  | spawn => exact Or.inr (Or.inr (Or.inr ⟨rfl, rfl, rfl⟩))
  -- the ends of a loop, and of a call that has the right
  | claimLate | spawnFails | stopped | gone | pollGone | pollFails =>
    exact Or.inr (Or.inr (Or.inl ⟨rfl, rfl, rfl, rfl⟩))
  -- all else leaves the right where it is
  | _ => exact Or.inl ⟨rfl, rfl, rfl⟩

/-- A worker goes on with its loop, or it is over. -/
theorem Does.looping_last {turn : Turn} (h : Does s t (.looping turn) s' frames) :
    ∀ g ∈ frames.getLast?, ∃ turn', g = .looping turn' := by
  intro g hg
  cases h with
  | stopped | gone | pollGone | pollFails => cases hg
  | _ => exact ⟨_, (Option.some.inj hg).symm⟩

/-- None of these frames has the right. -/
theorem Frame.none_owns {stack : List Frame} :
    stack.countP Frame.owns = 0 ↔ ∀ g ∈ stack, g.owns = false := by
  simp only [List.countP_eq_zero, Bool.not_eq_true]

/-- A call begins without the right. -/
theorem Frame.first_owns (first : f.first = true) : f.owns = false := by
  cases f with
  | checking | locking | swapping | ordering => rfl
  | claiming loop next =>
    cases next with
    | engine | callback | loop => rfl
    | clear | work => cases loop <;> cases first
  | _ => cases first

namespace Threads

/-- A thread has the right to run the loop exactly while a loop runs, and only one has it. -/
structure Exclusive (s : Threads) : Prop where
  owner : ∃ owner : Option Thread, owner.isSome = s.client.loop.isSome ∧
    ∀ t, (s.stack t).countP Frame.owns = if owner = some t then 1 else 0
  /-- Below all that a worker does is its loop. -/
  founded : ∀ k, ∀ g ∈ (s.stack (.worker k)).getLast?, ∃ turn, g = .looping turn

/-- Nobody has the right in a new client. -/
theorem Exclusive.initial : Exclusive { client := .new config network } where
  owner := ⟨none, rfl, fun _ => rfl⟩
  founded := fun _ _ hg => by cases hg

/-- While a thread has the right with its innermost frame, nobody else has it. -/
theorem Exclusive.alone (h : Exclusive s) (top : s.stack t = f :: rest) (owns : f.owns = true) :
    (∀ g ∈ rest, g.owns = false) ∧ ∀ u, u ≠ t → ∀ g ∈ s.stack u, g.owns = false := by
  obtain ⟨owner, -, hcount⟩ := h.owner
  have hmine := hcount t
  rw [top, List.countP_cons_of_pos owns] at hmine
  have howner : owner = some t := by
    by_cases howner : owner = some t
    · exact howner
    · rw [if_neg howner] at hmine
      omega
  rw [if_pos howner] at hmine
  have hrest : rest.countP Frame.owns = 0 := by omega
  refine ⟨Frame.none_owns.mp hrest, fun u hu => ?_⟩
  have hothers := hcount u
  rw [if_neg (by rw [howner]; exact fun heq => hu (Option.some.inj heq).symm)] at hothers
  exact Frame.none_owns.mp hothers

/-- A thread that gives up the right leaves nobody with it. -/
theorem Exclusive.given_up (h : Exclusive s) (top : s.stack t = f :: rest)
    (owns : f.owns = true) (stack : s'.stack = s.stack) (none : frames.countP Frame.owns = 0)
    (u : Thread) :
    ((s'.put t (frames ++ rest)).stack u).countP Frame.owns = 0 := by
  obtain ⟨hrest, hothers⟩ := h.alone top owns
  by_cases hu : u = t
  · subst hu
    simp [none, Frame.none_owns.mpr hrest]
  · simp [hu, stack, Frame.none_owns.mpr (hothers u hu)]

/-- A loop runs while a thread has the right to run it. -/
theorem Exclusive.runs_iff (h : Exclusive s) :
    s.client.isRunning = true ↔ ∃ u, ∃ f ∈ s.stack u, f.owns = true := by
  obtain ⟨owner, hloop, hcount⟩ := h.owner
  rw [isRunning, ← hloop]
  constructor
  · intro hsome
    obtain ⟨u, rfl⟩ := Option.isSome_iff_exists.mp hsome
    have hone := hcount u
    rw [if_pos rfl] at hone
    exact ⟨u, List.countP_pos_iff.mp (by omega)⟩
  · rintro ⟨u, f, hf, howns⟩
    have hpos : 0 < (s.stack u).countP Frame.owns := List.countP_pos_iff.mpr ⟨f, hf, howns⟩
    rw [hcount u] at hpos
    by_cases hu : owner = some u
    · rw [hu]
      rfl
    · rw [if_neg hu] at hpos
      exact absurd hpos (Nat.lt_irrefl 0)

/-- A worker that has not left its loop has the right to run it. -/
theorem Exclusive.works (h : Exclusive s) {k : Nat} (works : s.Works k) :
    ∃ turn, .looping turn ∈ s.stack (.worker k) := by
  have hlast := List.getLast?_eq_some_getLast works
  obtain ⟨turn, hturn⟩ := h.founded k _ hlast
  exact ⟨turn, hturn ▸ List.getLast_mem works⟩

/-- What takes the place of the innermost frame leaves the loop below the others; if that frame
    is the loop itself, it goes on or is over. -/
theorem founded_top (old : ∀ g ∈ (f :: rest).getLast?, ∃ turn, g = .looping turn)
    (last : ∀ turn, f = .looping turn → ∀ g ∈ frames.getLast?, ∃ turn', g = .looping turn') :
    ∀ g ∈ (frames ++ rest).getLast?, ∃ turn, g = .looping turn := by
  intro g hg
  cases rest with
  | nil =>
    obtain ⟨turn, hf⟩ := old f rfl
    rw [List.append_nil] at hg
    exact last turn hf g hg
  | cons x xs =>
    rw [List.getLast?_append_cons] at hg
    rw [List.getLast?_cons_cons] at old
    exact old g hg

/-! ## Every step keeps it -/

section

variable (h : Exclusive s) (top : s.stack t = f :: rest) (does : Does s t f s' frames)

include h top does

/-- After a step the right has the owner that it had, the worker that was spawned, or nobody. -/
theorem Exclusive.does_owner (old : ∀ k, s.Works k → k < s.spawned) :
    ∃ owner : Option Thread, owner.isSome = s'.client.loop.isSome ∧
      ∀ u, ((s'.put t (frames ++ rest)).stack u).countP Frame.owns =
        if owner = some u then 1 else 0 := by
  obtain ⟨owner, hloop, hcount⟩ := h.owner
  have hmine := hcount t
  rw [top, ← List.singleton_append, List.countP_append] at hmine
  rcases does.passes with ⟨hstack, hsame, hframes⟩ | ⟨hstack, hfree, htaken, -, hframes⟩ |
    ⟨hstack, hfree, hf, hframes⟩ | ⟨rfl, rfl, hframes⟩
  · -- the right stays where it is
    refine ⟨owner, hloop.trans hsame.symm, fun u => ?_⟩
    by_cases hu : u = t
    · subst hu
      simpa [hframes] using hmine
    · simpa [hu, hstack] using hcount u
  · -- it was free and is taken
    have hnone : owner = none := by
      rw [hfree] at hloop
      simpa using hloop
    subst hnone
    refine ⟨some t, htaken.symm, fun u => ?_⟩
    by_cases hu : u = t
    · subst hu
      have hrest : rest.countP Frame.owns = 0 := by
        rw [if_neg (by simp)] at hmine
        omega
      simp [hframes, hrest]
    · have hothers := hcount u
      simpa [hu, hstack, Ne.symm hu] using hothers
  · -- it is given up
    refine ⟨none, hfree.symm, fun u => ?_⟩
    rw [if_neg (fun hnone => by cases hnone)]
    exact h.given_up top hf hstack hframes u
  · -- it goes to the worker that is spawned
    obtain ⟨hrest, hothers⟩ := h.alone top rfl
    have hnew : t ≠ .worker s.spawned := by
      rintro rfl
      exact Nat.lt_irrefl _ (old s.spawned (by simp [Works, top]))
    have hthere : owner.isSome = true := by
      cases owner with
      | some => rfl
      | none => simp [Frame.owns] at hmine
    refine ⟨some (.worker s.spawned), ?_, fun u => ?_⟩
    · rw [hthere] at hloop
      exact hloop
    · by_cases hu : u = t
      · subst hu
        simp [hframes, Frame.none_owns.mpr hrest, Ne.symm hnew]
      · by_cases hworker : u = .worker s.spawned
        · subst hworker
          simp [hu, Frame.owns]
        · simp [hu, hworker, Ne.symm hworker, Frame.none_owns.mpr (hothers u hu)]

/-- A worker has its loop at the bottom of its stack, from the beginning to the end. -/
theorem Exclusive.does_founded {k : Nat} :
    ∀ g ∈ ((s'.put t (frames ++ rest)).stack (.worker k)).getLast?, ∃ turn, g = .looping turn := by
  intro g hg
  by_cases hself : t = .worker k
  · subst hself
    have hold := h.founded k
    rw [top] at hold
    refine founded_top hold (fun turn hturn => ?_) g (by simpa using hg)
    subst hturn
    exact does.looping_last
  · have hg : g ∈ (s'.stack (.worker k)).getLast? := by simpa [Ne.symm hself] using hg
    rcases does.stack_other (.worker k) with hsame | ⟨-, hloop⟩
    · exact h.founded k g (hsame ▸ hg)
    · rw [hloop] at hg
      exact ⟨.orders, (Option.some.inj hg).symm⟩

end

/-- A call that begins has no right yet. -/
theorem Exclusive.call (h : Exclusive s) (free : s.Free t) (first : f.first = true) :
    Exclusive (s.put t (f :: s.stack t)) := by
  have hf : f.owns = false := Frame.first_owns first
  constructor
  · -- the new frame adds nothing to the count
    obtain ⟨owner, hloop, hcount⟩ := h.owner
    refine ⟨owner, hloop, fun u => ?_⟩
    by_cases hu : u = t
    · subst hu
      have hskip : (f :: s.stack u).countP Frame.owns = (s.stack u).countP Frame.owns :=
        List.countP_cons_of_neg (by rw [hf]; exact Bool.false_ne_true)
      simpa [hskip] using hcount u
    · simpa [hu] using hcount u
  · intro k g hg
    by_cases hself : t = .worker k
    · subst hself
      -- a worker makes calls from its callback only, and its loop is still at the bottom
      rcases free with ⟨-, i, hi⟩ | ⟨rest, hrest⟩
      · cases hi
      · have hold := h.founded k
        rw [hrest] at hold
        have hg : g ∈ (f :: .calling :: rest).getLast? := by simpa [hrest] using hg
        rw [List.getLast?_cons_cons] at hg
        exact hold g hg
    · exact h.founded k g (by simpa [Ne.symm hself] using hg)

/-- A submission changes nothing but the engine. -/
theorem broadcast_engine (c : Client) (rawTx : Bytes) (endpoint : String) (jobId : JobId) :
    ∃ engine, (c.broadcast rawTx endpoint jobId).2 = { c with engine := engine } := by
  unfold broadcast
  split
  · exact ⟨c.engine, rfl⟩
  · split
    · exact ⟨_, rfl⟩
    · exact ⟨_, rfl⟩

/-- What changes the client outside its loop changes no right. -/
theorem Exclusive.withClient {c : Client} (h : Exclusive s) (hloop : c.loop = s.client.loop) :
    Exclusive (s.withClient c) := by
  obtain ⟨owner, hsome, hcount⟩ := h.owner
  exact ⟨⟨owner, by rw [hsome, ← hloop]; rfl, hcount⟩, h.founded⟩

/-- Every step keeps the right in one hand. -/
theorem Exclusive.step (h : Exclusive s) (orderly : Orderly s) (next : Step s s') :
    Exclusive s' := by
  cases next with
  | does top does => exact ⟨h.does_owner top does orderly.spawned, fun _ => h.does_founded top does⟩
  | call free first => exact h.call free first
  | @submit rawTx endpoint jobId =>
    obtain ⟨engine, hengine⟩ := broadcast_engine s.client rawTx endpoint jobId
    exact h.withClient (by rw [hengine])
  | hear => exact h.withClient rfl

/-- In every state one thread at most has the right. -/
theorem Reachable.exclusive (h : Reachable config network s) : Exclusive s := by
  induction h with
  | initial => exact Exclusive.initial
  | step before next ih => exact ih.step before.orderly next

end Threads

end TxRelay.Client
