/-
  Where the handle of a worker is.

  The handle of the worker is in one slot, and `stop`, `start` and `destroy` all take it from there.
  `Orderly` follows it: the handle of a worker that has not left its loop is in the slot, or with
  the one call that took it, or it was dropped by a call that the worker's own callback made.

  1. **Kinds of frames.**  The frames of a thread are sorted by what they have: the lock (`locked`),
     the lock of a `start` (`starts`), a slot that was emptied (`emptied`), the engine that was
     swapped out (`ends`), a handle (`holds`).  Frames below the innermost one are `resting`: they
     wait for a callback to end and have none of these.

  2. **What one step does.**  Each lemma about `Does` says once what a step of one thread does to
     one of these things (`lock_same`, `handle_after`, `held_after`, `looked_after`, …), with one
     case for each constructor.  Everything later is drawn from them.

  3. **The invariant.**  `Orderly` is kept field by field (`Orderly.does_locked` up to
     `Orderly.does_answered`), put together in `Orderly.after`.  A call that begins has none of the
     things (`plain_of_first`), so it keeps every field for the same reason (`Orderly.call`).

  4. **All states.**  `Orderly.step` and `Reachable.orderly` are the induction on the run.

  The crux is the lock.  A `start` that loaded the engine before it was swapped out has the lock
  until its handle is stored, so when `destroy` looks at the slot, no handle can come into it any
  more (`Orderly.looked`).  That field holds of the look only; it is kept because a `start` that
  comes later finds the engine gone.
-/
import TxRelay.Client.Threads

namespace TxRelay.Client

/-! ## Kinds of frames -/

namespace Frame

/-- What a thread goes on with when its innermost frame is done. -/
@[simp] def resting : Frame → Bool
  | looping _ | calling => true
  | _ => false

/-- The thread has the lock. -/
@[simp] def locked : Frame → Bool
  | claiming loop _ => loop = .worker
  | replacing | awaiting _ | spawning | storing _ | unlocking => true
  | joining _ next => next = .take
  | _ => false

/-- A call of `start` that found the engine and has not stored its handle yet. -/
@[simp] def starts : Frame → Bool
  | claiming loop next => loop = .worker && next ≠ .engine
  | replacing | awaiting _ | spawning | storing _ => true
  | _ => false

/-- A call of `start` that emptied the slot of the handle. -/
@[simp] def emptied : Frame → Bool
  | awaiting _ | spawning | storing _ => true
  | _ => false

/-- The call of `destroy` that swapped the engine out. -/
@[simp] def ends : Frame → Bool
  | ending => true
  | ordering call | joining call _ => call = .destroy
  | _ => false

/-- The call has this worker's handle. -/
@[simp] def holds (k : Nat) : Frame → Bool
  | awaiting j | storing j | joining _ (.wait j) => j = k
  | _ => false

/-- A `start` that loaded the engine has the lock. -/
theorem locked_of_starts {f : Frame} (h : f.starts = true) : f.locked = true := by
  cases f with
  | claiming loop next =>
    simp only [starts, Bool.and_eq_true] at h
    exact h.1
  | replacing | awaiting | spawning | storing => rfl
  | _ => cases h

/-- A slot is emptied for the handle of a `start`. -/
theorem starts_of_emptied {f : Frame} (h : f.emptied = true) : f.starts = true := by
  cases f with
  | awaiting | spawning | storing => rfl
  | _ => cases h

end Frame

/-! ## What one step does to the slots -/

section

variable {s : Threads} {t u : Thread} {call : Joiner}

/-- A claim that fails gives the lock back only if it is that of `start`. -/
theorem Threads.refuse_lock {loop : Loop} {next : Claim}
    (has : (Frame.claiming loop next).locked = false) : (s.refuse loop).lock = s.lock :=
  if_neg (of_decide_eq_false has)

/-- What was written down before a call of `stop` or `destroy` was done. -/
theorem Threads.mem_done {note : Note} (h : note ∈ (s.done t call).log) :
    note ∈ s.log ∨ (note = .destroyed t true ∧ call = .destroy) := by
  rcases List.mem_append.mp h with hold | hnew
  · exact Or.inl hold
  · cases call with
    | stop => cases hnew
    | destroy => exact Or.inr ⟨List.mem_singleton.mp hnew, rfl⟩

/-- What was written down before a call of `stop` or `destroy` looked at the slot. -/
theorem Threads.mem_look {note : Note} (h : note ∈ (s.look call).log) :
    note ∈ s.log ∨ note = .looked call := by
  rcases List.mem_append.mp h with hold | hnew
  · exact Or.inl hold
  · exact Or.inr (List.mem_singleton.mp hnew)

end

namespace Does

variable {s s' : Threads} {t u : Thread} {f : Frame} {frames : List Frame} {k : Nat}

/-- Below the first of the new frames are only frames to go on with. -/
theorem rest_resting (h : Does s t f s' frames) : ∀ g ∈ frames.tail, g.resting = true := by
  cases h with
  | begin set => exact List.forall_mem_singleton.mpr rfl
  | _ => exact fun g hg => (List.not_mem_nil hg).elim

/-- The stacks of the others stay as they are, but for that of a worker that is spawned. -/
theorem stack_same (h : Does s t f s' frames) (hu : u ≠ .worker s.spawned) :
    s'.stack u = s.stack u := by
  cases h with
  | spawn => exact if_neg hu
  | _ => rfl

/-- A worker that is spawned begins with its orders; otherwise nobody's stack is touched. -/
theorem stack_new (h : Does s t f s' frames) :
    s'.stack (.worker s.spawned) = s.stack (.worker s.spawned) ∧ s'.spawned = s.spawned ∨
    s'.stack (.worker s.spawned) = [.looping .orders] ∧ s'.spawned = s.spawned + 1 ∧
      frames = [.storing s.spawned] := by
  cases h with
  | spawn => exact Or.inr ⟨if_pos rfl, rfl, rfl⟩
  | _ => exact Or.inl ⟨rfl, rfl⟩

/-- The stack of a thread that takes no step stays as it is, or that thread is spawned. -/
theorem stack_other (h : Does s t f s' frames) (u : Thread) :
    s'.stack u = s.stack u ∨ (u = .worker s.spawned ∧ s'.stack u = [.looping .orders]) := by
  by_cases hnew : u = .worker s.spawned
  · subst hnew
    rcases h.stack_new with ⟨hsame, -⟩ | ⟨hloop, -⟩
    · exact Or.inl hsame
    · exact Or.inr ⟨rfl, hloop⟩
  · exact Or.inl (h.stack_same hnew)

/-- Only the thread that has the lock gives it back. -/
theorem lock_same (h : Does s t f s' frames) (has : f.locked = false) (taken : s.lock ≠ none) :
    s'.lock = s.lock := by
  cases h with
  | lock free => exact absurd free taken
  | joinLock free => exact absurd free taken
  | claimGone | claimUnset | claimRunning => exact Threads.refuse_lock has
  | @claimLate loop =>
    have hlock : ((s.withClient { s.client with loop := none }).refuse loop).lock = s.lock :=
      Threads.refuse_lock has
    exact hlock
  -- the frames that give the lock back have it
  | spawnFails | unlock | takeNone | takeOwn | take => cases has
  | _ => rfl

/-- Who goes on with the lock had it before, or takes it. -/
theorem locked_after (h : Does s t f s' frames) (has : f.locked = true → s.lock = some t) :
    ∀ g ∈ frames, g.locked = true → s'.lock = some t := by
  cases h with
  | lock free => exact fun _ _ _ => rfl
  | joinLock free => exact fun _ _ _ => rfl
  | claimEngine | claimCallback | claimLoop | claimClear =>
    exact List.forall_mem_singleton.mpr has
  | startWork | replaceNone | replace | await | spawn | store => exact fun _ _ _ => has rfl
  -- the other frames go on without the lock
  | _ => simp

/-- A destroyed client stays so. -/
theorem alive_after (h : Does s t f s' frames) (gone : s.client.alive = false) :
    s'.client.alive = false := by
  cases h with
  | swap there => rfl
  | _ => exact gone

/-- The engine is swapped out once. -/
theorem ends_after (h : Does s t f s' frames) :
    ∀ g ∈ frames, g.ends = true →
      f.ends = true ∨ (s.client.alive = true ∧ s'.client.alive = false) := by
  cases h with
  | swap there => exact fun _ _ _ => Or.inr ⟨there, rfl⟩
  | finish => exact fun _ _ _ => Or.inl rfl
  | order | joinLock | take => exact List.forall_mem_singleton.mpr Or.inl
  -- the other frames are in no call of `destroy`
  | _ => simp

/-- A call of `start` goes on past the engine only if it found it there. -/
theorem starts_none (h : Does s t f s' frames) (gone : s.client.alive = false)
    (none : f.starts = false) : ∀ g ∈ frames, g.starts = false := by
  cases h with
  | claimEngine there =>
    rw [gone] at there
    cases there
  | claimCallback | claimLoop | claimClear => exact List.forall_mem_singleton.mpr none
  | startWork | replaceNone | replace | await | spawn => cases none
  -- the other frames are in no call of `start`, or at its beginning
  | _ => simp

/-- A handle is stored by a call of `start` that emptied the slot. -/
theorem handle_after (h : Does s t f s' frames) :
    s'.handle = s.handle ∨ s'.handle = none ∨ ∃ k, f = .storing k ∧ s'.handle = some k := by
  cases h with
  | replace | takeNone | takeOwn | take => exact Or.inr (Or.inl rfl)
  | store => exact Or.inr (Or.inr ⟨_, rfl, rfl⟩)
  | _ => exact Or.inl rfl

/-- The slot stays empty for the call of `start` that emptied it. -/
theorem emptied_after (h : Does s t f s' frames)
    (empty : f.emptied = true → s.handle = none) :
    ∀ g ∈ frames, g.emptied = true → s'.handle = none := by
  cases h with
  | replaceNone nothing => exact fun _ _ _ => nothing
  | replace old => exact fun _ _ _ => rfl
  | await | spawn => exact fun _ _ _ => empty rfl
  -- the other frames have not emptied the slot, or do so no more
  | _ => simp

/-- A handle that leaves the slot goes to the call that took it, or is dropped. -/
theorem handle_taken (h : Does s t f s' frames) (slot : s.handle = some k)
    (keeps : f.emptied = false) :
    s'.handle = some k ∨ k ∈ s'.detached ∨ ∃ g ∈ frames, g.holds k = true := by
  cases h with
  | replaceNone nothing => cases slot.symm.trans nothing
  | takeNone nothing => cases slot.symm.trans nothing
  | store => cases keeps
  | replace old =>
    obtain rfl := Option.some.inj (slot.symm.trans old)
    exact Or.inr (Or.inr ⟨_, List.mem_singleton_self _, decide_eq_true rfl⟩)
  | takeOwn own self =>
    obtain rfl := Option.some.inj (slot.symm.trans own)
    exact Or.inr (Or.inl List.mem_cons_self)
  | take other distinct =>
    obtain rfl := Option.some.inj (slot.symm.trans other)
    exact Or.inr (Or.inr ⟨_, List.mem_singleton_self _, decide_eq_true rfl⟩)
  | _ => exact Or.inl slot

/-- A call gives up a handle when it stores it, or when the worker is over. -/
theorem held_after (h : Does s t f s' frames) (held : f.holds k = true) :
    s'.handle = some k ∨ (∃ g ∈ frames, g.holds k = true) ∨ s.stack (.worker k) = [] := by
  cases h with
  | await ended =>
    obtain rfl := of_decide_eq_true held
    exact Or.inr (Or.inr ended)
  | store =>
    obtain rfl := of_decide_eq_true held
    exact Or.inl rfl
  | join ended =>
    obtain rfl := of_decide_eq_true held
    exact Or.inr (Or.inr ended)
  -- no other frame has a handle
  | _ => cases held

/-- A handle that was dropped stays so. -/
theorem detached_after (h : Does s t f s' frames) (dropped : k ∈ s.detached) :
    k ∈ s'.detached := by
  cases h with
  | takeOwn own self => exact List.mem_cons_of_mem _ dropped
  | _ => exact dropped

/-- What was written down stays. -/
theorem log_grows (h : Does s t f s' frames) : s.log <+: s'.log := by
  cases h with
  | swapGone | take | join => exact List.prefix_append _ _
  | takeNone | takeOwn =>
    exact (List.prefix_append _ _).trans (List.prefix_append _ _)
  | _ => exact List.prefix_rfl

/-- A look of `destroy` at the slot leaves it empty. -/
theorem looked_after (h : Does s t f s' frames) (looked : .looked .destroy ∈ s'.log) :
    .looked .destroy ∈ s.log ∨ (f = .joining .destroy .take ∧ s'.handle = none) := by
  have hlook {call : Joiner} (h : .looked .destroy ∈ (s.look call).log) :
      .looked .destroy ∈ s.log ∨ call = .destroy :=
    (Threads.mem_look h).imp_right fun heq => (Note.looked.inj heq).symm
  cases h with
  | swapGone =>
    rcases List.mem_append.mp looked with hold | hnew
    · exact Or.inl hold
    · cases List.mem_singleton.mp hnew
  -- these two look and are done at once
  | takeNone | takeOwn =>
    rcases Threads.mem_done looked with hdone | ⟨hnew, -⟩
    · rcases hlook hdone with hold | rfl
      · exact Or.inl hold
      · exact Or.inr ⟨rfl, rfl⟩
    · cases hnew
  | take =>
    rcases hlook looked with hold | rfl
    · exact Or.inl hold
    · exact Or.inr ⟨rfl, rfl⟩
  | join =>
    rcases Threads.mem_done looked with hold | ⟨hnew, -⟩
    · exact Or.inl hold
    · cases hnew
  | _ => exact Or.inl looked

/-- A look at the slot is not unmade. -/
theorem looked_stays (h : Does s t f s' frames) (looked : .looked .destroy ∈ s.log) :
    .looked .destroy ∈ s'.log :=
  h.log_grows.subset looked

/-- Who waits for a worker has looked at the slot. -/
theorem waits_after (h : Does s t f s' frames) :
    ∀ g ∈ frames, ∀ k, g = .joining .destroy (.wait k) → .looked .destroy ∈ s'.log := by
  cases h with
  | @take call k other distinct =>
    refine List.forall_mem_singleton.mpr fun j hwaits => ?_
    obtain ⟨rfl, -⟩ := Frame.joining.inj hwaits
    exact List.mem_append_right _ (List.mem_singleton_self _)
  -- no other step leads to a wait
  | _ => simp

/-- `destroy` answers `true` after it looked at the slot, and its call is over then. -/
theorem destroyed_after (h : Does s t f s' frames) (answered : .destroyed u true ∈ s'.log) :
    .destroyed u true ∈ s.log ∨
      (u = t ∧ f.ends = true ∧ frames = [] ∧
        (.looked .destroy ∈ s'.log ∨ ∃ k, f = .joining .destroy (.wait k))) := by
  have hlook {call : Joiner} (h : .destroyed u true ∈ (s.look call).log) :
      .destroyed u true ∈ s.log :=
    (Threads.mem_look h).resolve_right fun heq => by cases heq
  cases h with
  | swapGone =>
    rcases List.mem_append.mp answered with hold | hnew
    · exact Or.inl hold
    · cases List.mem_singleton.mp hnew
  -- the answer comes with the look, or after the wait that `join` ends
  | takeNone | takeOwn =>
    rcases Threads.mem_done answered with hdone | ⟨hnew, rfl⟩
    · exact Or.inl (hlook hdone)
    · obtain ⟨rfl, -⟩ := Note.destroyed.inj hnew
      have hlooked : Note.looked .destroy ∈ s.log ++ [.looked .destroy] :=
        List.mem_append_right _ (List.mem_singleton_self _)
      exact Or.inr ⟨rfl, rfl, rfl, Or.inl (List.mem_append_left _ hlooked)⟩
  | take => exact Or.inl (hlook answered)
  | @join call k ended =>
    rcases Threads.mem_done answered with hold | ⟨hnew, rfl⟩
    · exact Or.inl hold
    · obtain ⟨rfl, -⟩ := Note.destroyed.inj hnew
      exact Or.inr ⟨rfl, rfl, rfl, Or.inr ⟨k, rfl⟩⟩
  | _ => exact Or.inl answered

end Does

/-! ## Where the handle is -/

namespace Threads

variable {config : Config} {network : Network} {s s' : Threads} {t u : Thread} {f g : Frame}
  {rest frames : List Frame}

/-- Locks, handles and the engine are where the stacks say. -/
structure Orderly (s : Threads) : Prop where
  /-- Only the innermost frame is in a call. -/
  resting : ∀ t f rest, s.stack t = f :: rest → ∀ g ∈ rest, g.resting = true
  locked : ∀ t, ∀ f ∈ s.stack t, f.locked = true → s.lock = some t
  emptied : ∀ t, ∀ f ∈ s.stack t, f.emptied = true → s.handle = none
  spawned : ∀ k, s.Works k → k < s.spawned
  /-- No handle of a worker is lost. -/
  tracked : ∀ k, s.Works k →
    s.handle = some k ∨ k ∈ s.detached ∨ ∃ t, ∃ f ∈ s.stack t, f.holds k = true
  gone : ∀ t, ∀ f ∈ s.stack t, f.ends = true → s.client.alive = false
  one : ∀ t u, ∀ f ∈ s.stack t, ∀ g ∈ s.stack u, f.ends = true → g.ends = true → t = u
  waits : ∀ t k, .joining .destroy (.wait k) ∈ s.stack t → .looked .destroy ∈ s.log
  /-- Since `destroy` looked at the slot no handle came into it, and none will. -/
  looked : .looked .destroy ∈ s.log →
    s.client.alive = false ∧ s.handle = none ∧ ∀ t, ∀ f ∈ s.stack t, f.starts = false
  answered : ∀ t, .destroyed t true ∈ s.log →
    .looked .destroy ∈ s.log ∧ ∀ u, ∀ f ∈ s.stack u, f.ends = false

/-- A new client has no worker. -/
theorem Orderly.initial : Orderly { client := .new config network } where
  resting := fun _ _ _ h => by cases h
  locked := fun _ _ h => by cases h
  emptied := fun _ _ h => by cases h
  spawned := fun _ h => absurd rfl h
  tracked := fun _ h => absurd rfl h
  gone := fun _ _ h => by cases h
  one := fun _ _ _ h => by cases h
  waits := fun _ _ h => by cases h
  looked := fun h => by cases h
  answered := fun _ h => by cases h

/-- The frames after a step: frames to go on with, the new ones, and those of the others. -/
theorem Orderly.mem_stack (h : Orderly s) (top : s.stack t = f :: rest)
    (does : Does s t f s' frames) (hg : g ∈ (s'.put t (frames ++ rest)).stack u) :
    g.resting = true ∨ (u = t ∧ g ∈ frames) ∨ (u ≠ t ∧ g ∈ s.stack u) := by
  by_cases hu : u = t
  · subst hu
    have hmem : g ∈ frames ++ rest := by simpa using hg
    rcases List.mem_append.mp hmem with hnew | hold
    · exact Or.inr (Or.inl ⟨rfl, hnew⟩)
    · exact Or.inl (h.resting u f rest top g hold)
  · have hmem : g ∈ s'.stack u := by simpa [hu] using hg
    rcases does.stack_other u with hsame | ⟨-, hloop⟩
    · exact Or.inr (Or.inr ⟨hu, hsame ▸ hmem⟩)
    · rw [hloop, List.mem_singleton] at hmem
      exact Or.inl (by rw [hmem]; rfl)

/-- The frames of the others stay. -/
theorem Orderly.stays (h : Orderly s) (does : Does s t f s' frames) (hu : u ≠ t)
    (hg : g ∈ s.stack u) : g ∈ (s'.put t (frames ++ rest)).stack u := by
  have hold : u ≠ .worker s.spawned := by
    rintro rfl
    exact Nat.lt_irrefl _ (h.spawned s.spawned (List.ne_nil_of_mem hg))
  have hsame : (s'.put t (frames ++ rest)).stack u = s'.stack u := by simp [hu]
  rw [hsame, does.stack_same hold]
  exact hg

/-- A frame that a thread goes on with is in no call. -/
theorem plain_of_resting (hg : g.resting = true) :
    g.locked = false ∧ g.emptied = false ∧ g.ends = false ∧ g.starts = false ∧
      ∀ k, g.holds k = false := by
  cases g with
  | calling => exact ⟨rfl, rfl, rfl, rfl, fun _ => rfl⟩
  | looping turn => exact ⟨rfl, rfl, rfl, rfl, fun _ => rfl⟩
  | _ => cases hg

/-- A worker that is in its loop after a step was in it before, or it was just spawned. -/
theorem works_before {k : Nat} (top : s.stack t = f :: rest) (does : Does s t f s' frames)
    (hk : (s'.put t (frames ++ rest)).Works k) :
    s.Works k ∨ (k = s.spawned ∧ s'.spawned = s.spawned + 1 ∧ frames = [.storing k]) := by
  by_cases hself : t = .worker k
  · subst hself
    exact Or.inl (by simp [Works, top])
  · have hworks : s'.stack (.worker k) ≠ [] := by
      simpa [Works, Ne.symm hself] using hk
    by_cases hnew : k = s.spawned
    · subst hnew
      rcases does.stack_new with ⟨hsame, -⟩ | ⟨-, hcount, hframes⟩
      · rw [hsame] at hworks
        exact Or.inl hworks
      · exact Or.inr ⟨rfl, hcount, hframes⟩
    · have hother : Thread.worker k ≠ .worker s.spawned := fun heq => hnew (Thread.worker.inj heq)
      rw [does.stack_same hother] at hworks
      exact Or.inl hworks

/-- Workers that are in their loops were spawned. -/
theorem spawned_after {k : Nat} (old : ∀ k, s.Works k → k < s.spawned)
    (top : s.stack t = f :: rest) (does : Does s t f s' frames)
    (hk : (s'.put t (frames ++ rest)).Works k) : k < s'.spawned := by
  rcases works_before top does hk with hold | ⟨rfl, hcount, -⟩
  · have hlt := old k hold
    rcases does.stack_new with ⟨-, hcount⟩ | ⟨-, hcount, -⟩ <;> omega
  · omega

/-! ### What a step preserves -/

section

variable (h : Orderly s) (top : s.stack t = f :: rest) (does : Does s t f s' frames)

include h top

/-- The thread that steps from a locked frame has the lock. -/
theorem Orderly.has_lock (hf : f.locked = true) : s.lock = some t :=
  h.locked t f (by simp [top]) hf

/-- While another thread is in the call that swapped the engine out, this one neither is nor
    comes to be. -/
theorem Orderly.ends_alone (hu : u ≠ t) (hold : g ∈ s.stack u) (hends : g.ends = true) :
    ¬ (f.ends = true ∨ s.client.alive = true) := by
  rintro (hf | hthere)
  · exact hu (h.one u t g hold f (by simp [top]) hends hf)
  · rw [h.gone u g hold hends] at hthere
    cases hthere

include does

/-- The frames under the innermost one wait for a callback. -/
theorem Orderly.does_resting {f' : Frame} {rest' : List Frame}
    (htop : (s'.put t (frames ++ rest)).stack u = f' :: rest') : ∀ g ∈ rest', g.resting = true := by
  by_cases hu : u = t
  · subst hu
    have hstack : frames ++ rest = f' :: rest' := by simpa using htop
    intro g hg
    cases frames with
    | nil =>
      rw [List.nil_append] at hstack
      exact h.resting u f rest top g (by rw [hstack]; exact List.mem_cons_of_mem _ hg)
    | cons x xs =>
      obtain ⟨-, rfl⟩ := List.cons.inj hstack
      rcases List.mem_append.mp hg with hnew | hold
      · exact does.rest_resting g hnew
      · exact h.resting u f rest top g hold
  · have hstack : s'.stack u = f' :: rest' := by simpa [hu] using htop
    rcases does.stack_other u with hsame | ⟨-, hloop⟩
    · exact h.resting u f' rest' (hsame ▸ hstack)
    · -- a worker that is spawned has one frame only
      obtain ⟨-, rfl⟩ := List.cons.inj (hloop.symm.trans hstack)
      exact fun g hg => by cases hg

/-- Only the thread that has the lock is in a locked frame. -/
theorem Orderly.does_locked (hg : g ∈ (s'.put t (frames ++ rest)).stack u)
    (hlocked : g.locked = true) : s'.lock = some u := by
  rcases h.mem_stack top does hg with hrest | ⟨rfl, hnew⟩ | ⟨hu, hold⟩
  · rw [(plain_of_resting hrest).1] at hlocked
    cases hlocked
  · exact does.locked_after (h.has_lock top) g hnew hlocked
  · have hlock := h.locked u g hold hlocked
    have hf : f.locked = false := by
      rw [← Bool.not_eq_true]
      intro hf
      exact hu (Option.some.inj (hlock.symm.trans (h.has_lock top hf)))
    rw [does.lock_same hf (by rw [hlock]; simp), hlock]

/-- The slot stays empty until the `start` that emptied it stores its handle. -/
theorem Orderly.does_emptied (hg : g ∈ (s'.put t (frames ++ rest)).stack u)
    (hemptied : g.emptied = true) : s'.handle = none := by
  rcases h.mem_stack top does hg with hrest | ⟨rfl, hnew⟩ | ⟨hu, hold⟩
  · rw [(plain_of_resting hrest).2.1] at hemptied
    cases hemptied
  · exact does.emptied_after (h.emptied u f (by simp [top])) g hnew hemptied
  · rcases does.handle_after with hsame | hnone | ⟨k, rfl, -⟩
    · rw [hsame]
      exact h.emptied u g hold hemptied
    · exact hnone
    · -- two calls of `start` are never past the lock together
      have hlock := h.locked u g hold (Frame.locked_of_starts (Frame.starts_of_emptied hemptied))
      exact absurd (Option.some.inj (hlock.symm.trans (h.has_lock top rfl))) hu

/-- A worker that has not left its loop has its handle in the slot, with a call, or dropped. -/
theorem Orderly.does_tracked {k : Nat} (hk : (s'.put t (frames ++ rest)).Works k) :
    s'.handle = some k ∨ k ∈ s'.detached ∨
      ∃ u, ∃ g ∈ (s'.put t (frames ++ rest)).stack u, g.holds k = true := by
  have hnew : (∃ g ∈ frames, g.holds k = true) →
      ∃ u, ∃ g ∈ (s'.put t (frames ++ rest)).stack u, g.holds k = true := by
    rintro ⟨g, hg, hholds⟩
    exact ⟨t, g, by simp [hg], hholds⟩
  rcases works_before top does hk with hworks | ⟨rfl, -, rfl⟩
  · rcases h.tracked k hworks with hslot | hdropped | ⟨u, g, hg, hholds⟩
    · -- a call that emptied the slot would have found the handle there
      have hf : f.emptied = false := by
        rw [← Bool.not_eq_true]
        intro hf
        rw [h.emptied t f (by simp [top]) hf] at hslot
        cases hslot
      rcases does.handle_taken hslot hf with hslot' | hdropped | hheld
      · exact Or.inl hslot'
      · exact Or.inr (Or.inl hdropped)
      · exact Or.inr (Or.inr (hnew hheld))
    · exact Or.inr (Or.inl (does.detached_after hdropped))
    · by_cases hu : u = t
      · subst hu
        rw [top] at hg
        rcases List.mem_cons.mp hg with rfl | hrest
        · rcases does.held_after hholds with hslot | hheld | hover
          · exact Or.inl hslot
          · exact Or.inr (Or.inr (hnew hheld))
          · exact absurd hover hworks
        · have hplain := (plain_of_resting (h.resting u f rest top g hrest)).2.2.2.2 k
          rw [hplain] at hholds
          cases hholds
      · exact Or.inr (Or.inr ⟨u, g, h.stays does hu hg, hholds⟩)
  · exact Or.inr (Or.inr (hnew ⟨_, List.mem_singleton_self _, by simp⟩))

/-- The engine is gone once a `destroy` swapped it out. -/
theorem Orderly.does_gone (hg : g ∈ (s'.put t (frames ++ rest)).stack u) (hends : g.ends = true) :
    s'.client.alive = false := by
  rcases h.mem_stack top does hg with hrest | ⟨rfl, hnew⟩ | ⟨hu, hold⟩
  · rw [(plain_of_resting hrest).2.2.1] at hends
    cases hends
  · rcases does.ends_after g hnew hends with hf | ⟨-, hgone⟩
    · exact does.alive_after (h.gone u f (by simp [top]) hf)
    · exact hgone
  · exact does.alive_after (h.gone u g hold hends)

/-- A frame of the call that swapped the engine out is the thread's own, or that of another thread
    which was in that call before. -/
theorem Orderly.ends_before (hg : g ∈ (s'.put t (frames ++ rest)).stack u)
    (hends : g.ends = true) :
    (u = t ∧ (f.ends = true ∨ s.client.alive = true)) ∨ (u ≠ t ∧ g ∈ s.stack u) := by
  rcases h.mem_stack top does hg with hrest | ⟨rfl, hnew⟩ | ⟨hu, hold⟩
  · rw [(plain_of_resting hrest).2.2.1] at hends
    cases hends
  · refine Or.inl ⟨rfl, ?_⟩
    rcases does.ends_after g hnew hends with hf | ⟨hthere, -⟩
    · exact Or.inl hf
    · exact Or.inr hthere
  · exact Or.inr ⟨hu, hold⟩

/-- One `destroy` at most has the engine. -/
theorem Orderly.does_one {v : Thread} {g' : Frame}
    (hg : g ∈ (s'.put t (frames ++ rest)).stack u) (hg' : g' ∈ (s'.put t (frames ++ rest)).stack v)
    (hends : g.ends = true) (hends' : g'.ends = true) : u = v := by
  rcases h.ends_before top does hg hends with ⟨rfl, hmine⟩ | ⟨hu, hold⟩
  · rcases h.ends_before top does hg' hends' with ⟨rfl, -⟩ | ⟨hv, hold'⟩
    · rfl
    · exact absurd hmine (h.ends_alone top hv hold' hends')
  · rcases h.ends_before top does hg' hends' with ⟨rfl, hmine⟩ | ⟨hv, hold'⟩
    · exact absurd hmine (h.ends_alone top hu hold hends)
    · exact h.one u v g hold g' hold' hends hends'

/-- A `destroy` that waits has looked at the slot. -/
theorem Orderly.does_waits {k : Nat}
    (hg : .joining .destroy (.wait k) ∈ (s'.put t (frames ++ rest)).stack u) :
    .looked .destroy ∈ s'.log := by
  rcases h.mem_stack top does hg with hrest | ⟨rfl, hnew⟩ | ⟨hu, hold⟩
  · simp at hrest
  · exact does.waits_after _ hnew k rfl
  · exact does.looked_stays (h.waits u k hold)

/-- After the look, no handle comes into the slot any more. -/
theorem Orderly.does_looked (looked : .looked .destroy ∈ s'.log) :
    s'.client.alive = false ∧ s'.handle = none ∧
      ∀ u, ∀ g ∈ (s'.put t (frames ++ rest)).stack u, g.starts = false := by
  have hmem : f ∈ s.stack t := by simp [top]
  rcases does.looked_after looked with hbefore | ⟨rfl, hempty⟩
  · obtain ⟨hgone, hnone, hstarts⟩ := h.looked hbefore
    have hf := hstarts t f hmem
    refine ⟨does.alive_after hgone, ?_, fun u g hg => ?_⟩
    · rcases does.handle_after with hsame | hnone' | ⟨k, rfl, -⟩
      · rw [hsame, hnone]
      · exact hnone'
      · cases hf
    · rcases h.mem_stack top does hg with hrest | ⟨rfl, hnew⟩ | ⟨hu, hold⟩
      · exact (plain_of_resting hrest).2.2.2.1
      · exact does.starts_none hgone hf g hnew
      · exact hstarts u g hold
  · have hgone : s.client.alive = false := h.gone t _ hmem rfl
    refine ⟨does.alive_after hgone, hempty, fun u g hg => ?_⟩
    rcases h.mem_stack top does hg with hrest | ⟨rfl, hnew⟩ | ⟨hu, hold⟩
    · exact (plain_of_resting hrest).2.2.2.1
    · exact does.starts_none hgone rfl g hnew
    · -- the lock: no call of `start` is under way while `destroy` looks
      rw [← Bool.not_eq_true]
      intro hg'
      have hlock := h.locked u g hold (Frame.locked_of_starts hg')
      exact hu (Option.some.inj (hlock.symm.trans (h.has_lock top rfl)))

/-- After its answer, no `destroy` has anything left to do. -/
theorem Orderly.does_answered {v : Thread} (answered : .destroyed v true ∈ s'.log) :
    .looked .destroy ∈ s'.log ∧
      ∀ u, ∀ g ∈ (s'.put t (frames ++ rest)).stack u, g.ends = false := by
  have hmem : f ∈ s.stack t := by simp [top]
  rcases does.destroyed_after answered with hbefore | ⟨rfl, hf, rfl, hlooked⟩
  · obtain ⟨hlooked, hends⟩ := h.answered v hbefore
    refine ⟨does.looked_stays hlooked, fun u g hg => ?_⟩
    rw [← Bool.not_eq_true]
    intro hg'
    -- nobody can have the engine again: it was swapped out, and it is gone
    rcases h.ends_before top does hg hg' with ⟨-, hf | hthere⟩ | ⟨-, hold⟩
    · rw [hends t f hmem] at hf
      cases hf
    · rw [(h.looked hlooked).1] at hthere
      cases hthere
    · rw [hends u g hold] at hg'
      cases hg'
  · refine ⟨?_, fun u g hg => ?_⟩
    · rcases hlooked with hlooked | ⟨k, rfl⟩
      · exact hlooked
      · exact does.looked_stays (h.waits v k hmem)
    · rw [← Bool.not_eq_true]
      intro hg'
      -- the call that answers was the only one that had the engine
      rcases h.mem_stack top does hg with hrest | ⟨-, hnew⟩ | ⟨hu, hold⟩
      · rw [(plain_of_resting hrest).2.2.1] at hg'
        cases hg'
      · cases hnew
      · exact hu (h.one u v g hold f hmem hg' hf)

theorem Orderly.after : Orderly (s'.put t (frames ++ rest)) where
  resting := fun _ _ _ htop => h.does_resting top does htop
  locked := fun u _ hg hlocked =>
    show s'.lock = some u from h.does_locked top does hg hlocked
  emptied := fun _ _ hg hemptied =>
    show s'.handle = none from h.does_emptied top does hg hemptied
  spawned := fun k hk =>
    show k < s'.spawned from spawned_after h.spawned top does hk
  tracked := fun _ hk => h.does_tracked top does hk
  gone := fun _ _ hg hends =>
    show s'.client.alive = false from h.does_gone top does hg hends
  one := fun _ _ _ hg _ hg' hends hends' => h.does_one top does hg hg' hends hends'
  waits := fun _ _ hg => show .looked .destroy ∈ s'.log from h.does_waits top does hg
  looked := fun looked => h.does_looked top does looked
  answered := fun _ answered => h.does_answered top does answered

end

/-! ### Calls that begin, and all states -/

/-- A call begins with a frame that has nothing yet. -/
theorem plain_of_first (hf : f.first = true) :
    f.locked = false ∧ f.emptied = false ∧ f.ends = false ∧ f.starts = false ∧
      ∀ k, f.holds k = false := by
  unfold Frame.first at hf
  split at hf
  · exact ⟨rfl, rfl, rfl, rfl, fun _ => rfl⟩
  · exact ⟨rfl, rfl, rfl, rfl, fun _ => rfl⟩
  · exact ⟨rfl, rfl, rfl, rfl, fun _ => rfl⟩
  · exact ⟨rfl, rfl, rfl, rfl, fun _ => rfl⟩
  · exact ⟨rfl, rfl, rfl, rfl, fun _ => rfl⟩
  · cases hf

/-- The frames after a call began: its own, and those from before. -/
theorem mem_call (hg : g ∈ (s.put t (f :: s.stack t)).stack u) : g = f ∨ g ∈ s.stack u := by
  by_cases hu : u = t
  · subst hu
    simpa using hg
  · exact Or.inr (by simpa [hu] using hg)

/-- The frames that were there are there still. -/
theorem mem_call_of_mem (hg : g ∈ s.stack u) : g ∈ (s.put t (f :: s.stack t)).stack u := by
  by_cases hu : u = t
  · subst hu
    simp [hg]
  · simpa [hu] using hg

/-- Of a kind to which the new frame does not belong there are the frames from before. -/
theorem mem_of_kind {kind : Frame → Bool} (hf : kind f = false)
    (hg : g ∈ (s.put t (f :: s.stack t)).stack u) (hkind : kind g = true) : g ∈ s.stack u := by
  rcases mem_call hg with rfl | hold
  · rw [hf] at hkind
    cases hkind
  · exact hold

/-- If there was no frame of that kind, there is none. -/
theorem none_of_kind {kind : Frame → Bool} (hf : kind f = false)
    (hnone : ∀ u, ∀ g ∈ s.stack u, kind g = false) :
    ∀ u, ∀ g ∈ (s.put t (f :: s.stack t)).stack u, kind g = false := by
  intro u g hg
  rcases mem_call hg with rfl | hold
  · exact hf
  · exact hnone u g hold

/-- A worker that has ended makes no call. -/
theorem works_of_call {k : Nat} (free : s.Free t)
    (works : (s.put t (f :: s.stack t)).Works k) : s.Works k := by
  by_cases hself : t = .worker k
  · subst hself
    rcases free with ⟨-, i, hi⟩ | ⟨rest, hrest⟩
    · cases hi
    · simp [Works, hrest]
  · simpa [Works, Ne.symm hself] using works

/-- A call from inside a callback leaves the frames below it to wait. -/
theorem Orderly.call_resting (h : Orderly s) (free : s.Free t) {f' : Frame} {rest' : List Frame}
    (top : (s.put t (f :: s.stack t)).stack u = f' :: rest') : ∀ g ∈ rest', g.resting = true := by
  by_cases hu : u = t
  · subst hu
    have hstack : f :: s.stack u = f' :: rest' := by simpa using top
    obtain ⟨-, rfl⟩ := List.cons.inj hstack
    rcases free with ⟨hempty, -⟩ | ⟨rest, hrest⟩
    · simp [hempty]
    · intro g hg
      rw [hrest] at hg
      rcases List.mem_cons.mp hg with rfl | hbelow
      · rfl
      · exact h.resting u _ rest hrest g hbelow
  · exact h.resting u f' rest' (by simpa [hu] using top)

/-- A call that begins takes no handle. -/
theorem Orderly.call_tracked (h : Orderly s) {k : Nat} (works : s.Works k) :
    s.handle = some k ∨ k ∈ s.detached ∨
      ∃ u, ∃ g ∈ (s.put t (f :: s.stack t)).stack u, g.holds k = true := by
  rcases h.tracked k works with hslot | hdropped | ⟨u, g, hg, hheld⟩
  · exact Or.inl hslot
  · exact Or.inr (Or.inl hdropped)
  · exact Or.inr (Or.inr ⟨u, g, mem_call_of_mem hg, hheld⟩)

/-- A call that begins keeps the handle where it is. -/
theorem Orderly.call (h : Orderly s) (free : s.Free t) (first : f.first = true) :
    Orderly (s.put t (f :: s.stack t)) := by
  obtain ⟨hlocked, hemptied, hends, hstarts, -⟩ := plain_of_first first
  exact {
    resting := fun u f' rest' top => h.call_resting free top
    locked := fun u g hg has => h.locked u g (mem_of_kind hlocked hg has) has
    emptied := fun u g hg has => h.emptied u g (mem_of_kind hemptied hg has) has
    spawned := fun k works => h.spawned k (works_of_call free works)
    tracked := fun k works => h.call_tracked (works_of_call free works)
    gone := fun u g hg has => h.gone u g (mem_of_kind hends hg has) has
    one := fun u v g hg g' hg' has has' =>
      h.one u v g (mem_of_kind hends hg has) g' (mem_of_kind hends hg' has') has has'
    waits := fun u k hg => h.waits u k (mem_of_kind hends hg rfl)
    looked := fun looked => by
      obtain ⟨hgone, hnone, hothers⟩ := h.looked looked
      exact ⟨hgone, hnone, none_of_kind hstarts hothers⟩
    answered := fun v answered => by
      obtain ⟨hlooked, hothers⟩ := h.answered v answered
      exact ⟨hlooked, none_of_kind hends hothers⟩ }

/-- Submissions and news of broadcasts are no business of the stacks. -/
theorem Orderly.withClient {c : Client} (h : Orderly s) (halive : c.alive = s.client.alive) :
    Orderly (s.withClient c) where
  resting := h.resting
  locked := h.locked
  emptied := h.emptied
  spawned := h.spawned
  tracked := h.tracked
  gone := fun t f hf hends => halive.trans (h.gone t f hf hends)
  one := h.one
  waits := h.waits
  looked := fun looked => by
    obtain ⟨hgone, hrest⟩ := h.looked looked
    exact ⟨halive.trans hgone, hrest⟩
  answered := h.answered

/-- A submission does not end the engine. -/
theorem alive_broadcast {c : Client} {rawTx : Bytes} {endpoint : String} {jobId : JobId} :
    (c.broadcast rawTx endpoint jobId).2.alive = c.alive := by
  unfold broadcast
  split
  · rfl
  · split <;> rfl

/-- Every step keeps track of the handle. -/
theorem Orderly.step (h : Orderly s) (next : Step s s') : Orderly s' := by
  cases next with
  | does top does => exact h.after top does
  | call free first => exact h.call free first
  | submit => exact h.withClient alive_broadcast
  | hear => exact h.withClient rfl

/-- The handle is where it should be in every state. -/
theorem Reachable.orderly (h : Reachable config network s) : Orderly s := by
  induction h with
  | initial => exact Orderly.initial
  | step _ next ih => exact ih.step next

end Threads

end TxRelay.Client
