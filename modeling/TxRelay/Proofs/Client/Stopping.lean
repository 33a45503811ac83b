/-
  For whom `stop` waits.

  The order to stop is one flag for all loops.  `stop` sets it, then takes the handle of the worker,
  if there is one, and waits for that worker.  The call that takes the loop clears the flag, in a
  step after the one in which it took the loop.

  1. **Orders that are erased.**  An order that is given before the flag is cleared is lost, also
     one that is given between the two steps.  When the call of `stop` that gave it looks for a
     handle it finds that of the new worker, which nobody told to stop: `waits_in_vain` is the run.

  2. **Orders that stand.**  `Begun` says that a worker's loop has begun, which is after the flag
     was cleared for it.  From there on the flag is not cleared before this loop is over
     (`Exclusive.stands`, `During.stands`), whoever gave the order.

  3. **For whom.**  So a call of `stop` that gives its order while the loop of a worker is under
     way, and waits for this worker, waits for one that is told to stop (`stop_heard`).

  The crux is that the flag is cleared by the one thread that has the right to run the loop, at a
  time when no loop has begun (`Exclusive.erased`): were another loop under way, two threads would
  have the right.
-/
import TxRelay.Proofs.Client.Joining
import TxRelay.Proofs.Client.Owner

namespace TxRelay.Client

open Relation

variable {config : Config} {network : Network} {s s' : Threads} {t u : Thread} {f g : Frame}
  {rest frames : List Frame} {k : Nat}

/-- A call of `start` whose loop forgot the old orders and has no worker yet. -/
def Frame.begins : Frame → Bool
  | .claiming .worker .work | .replacing | .awaiting _ | .spawning => true
  | _ => false

namespace Does

/-- Only a claim erases an order. -/
theorem asked_after (h : Does s t f s' frames) (asked : s.client.stopAsked = true) :
    s'.client.stopAsked = true ∨ ∃ loop, f = .claiming loop .clear := by
  cases h with
  | @claimClear loop => exact Or.inr ⟨loop, rfl⟩
  | order => exact Or.inl rfl
  | _ => exact Or.inl asked

/-- A call of `stop` gives its order before all else. -/
theorem ordered_after (h : Does s t f s' frames) {next : Join}
    (joins : .joining .stop next ∈ frames) :
    (∃ next', f = .joining .stop next') ∨ s'.client.stopAsked = true := by
  cases h with
  | order => exact Or.inr rfl
  | joinLock | take =>
    cases List.mem_singleton.mp joins
    exact Or.inl ⟨_, rfl⟩
  -- no other step leads to the frames of a call of `stop`
  | _ => simp at joins

/-- A loop that looks at its orders and finds one ends. -/
theorem stopped_after (h : Does s t (.looping .orders) s' frames)
    (asked : s.client.stopAsked = true) : frames = [] ∧ s'.client.isRunning = false := by
  cases h with
  | stopped => exact ⟨rfl, rfl⟩
  | go free =>
    rw [asked] at free
    cases free

end Does

namespace Threads

/-- The loop of this worker has begun: the claim forgot the old orders, and the worker will be
    spawned for it or has not left it yet. -/
def Begun (s : Threads) (k : Nat) : Prop :=
  s.Works k ∨ (k = s.spawned ∧ ∃ t, ∃ f ∈ s.stack t, f.begins = true)

/-- Steps while the loop of this worker is begun. -/
def During (k : Nat) : Threads → Threads → Prop :=
  ReflTransGen fun s s' => Step s s' ∧ s'.Begun k

/-! ## Orders that are erased -/

/-- The right to run a loop that has begun is with a thread that has cleared the flag. -/
theorem Exclusive.begun (h : Exclusive s) (begun : s.Begun k) :
    ∃ t, ∃ g ∈ s.stack t, g.owns = true ∧ ∀ loop, g ≠ .claiming loop .clear := by
  rcases begun with works | ⟨-, t, g, hg, hbegins⟩
  · obtain ⟨turn, hturn⟩ := h.works works
    exact ⟨.worker k, _, hturn, rfl, fun loop hloop => by cases hloop⟩
  · refine ⟨t, g, hg, ?_, ?_⟩
    · unfold Frame.begins at hbegins
      split at hbegins <;> first | rfl | cases hbegins
    · rintro loop rfl
      cases loop <;> cases hbegins

/-- An order is erased by the thread that took the loop, and by no other: nobody runs one. -/
theorem Exclusive.erased (h : Exclusive s) (next : Step s s')
    (asked : s.client.stopAsked = true) (erased : s'.client.stopAsked = false) :
    ∃ t loop, .claiming loop .clear ∈ s.stack t ∧
      ∀ u, ∀ g ∈ s.stack u, g.owns = true → u = t ∧ g = .claiming loop .clear := by
  cases next with
  | @does s₁ t f rest frames top does =>
    have herased : s₁.client.stopAsked = false := erased
    -- the flag is cleared in one step of a claim, and whoever is there has the right
    rcases does.asked_after asked with hstands | ⟨loop, rfl⟩
    · rw [hstands] at herased
      cases herased
    · obtain ⟨hrest, hothers⟩ := h.alone top rfl
      refine ⟨t, loop, by simp [top], fun u g hg howns => ?_⟩
      by_cases hu : u = t
      · subst hu
        rw [top] at hg
        rcases List.mem_cons.mp hg with rfl | hbelow
        · exact ⟨rfl, rfl⟩
        · rw [hrest g hbelow] at howns
          cases howns
      · rw [hothers u hu g hg] at howns
        cases howns
  | call => exact absurd asked (by rw [show s.client.stopAsked = false from erased]; simp)
  | @submit rawTx endpoint jobId =>
    obtain ⟨engine, hengine⟩ := broadcast_engine s.client rawTx endpoint jobId
    have hsame : (s.client.broadcast rawTx endpoint jobId).2.stopAsked = false := erased
    rw [hengine] at hsame
    exact absurd asked (by rw [hsame]; exact Bool.false_ne_true)
  | hear => exact absurd asked (by rw [show s.client.stopAsked = false from erased]; simp)

/-! ## Orders that stand -/

/-- While a loop is begun no order is erased. -/
theorem Exclusive.stands (h : Exclusive s) (begun : s.Begun k) (next : Step s s')
    (asked : s.client.stopAsked = true) : s'.client.stopAsked = true := by
  rw [← Bool.not_eq_false]
  intro herased
  obtain ⟨t, loop, -, honly⟩ := h.erased next asked herased
  obtain ⟨u, g, hg, howns, hcleared⟩ := h.begun begun
  exact hcleared loop (honly u g hg howns).2

/-- A call of `stop` that comes to its wait in one step was at it before, or gave its order. -/
theorem Orderly.ordered (h : Orderly s) (next : Step s s') {join : Join}
    (joins : .joining .stop join ∈ s'.stack t) :
    (∃ join', .joining .stop join' ∈ s.stack t) ∨ s'.client.stopAsked = true := by
  cases next with
  | @does s₁ u f rest frames top does =>
    rcases h.mem_stack top does joins with hresting | ⟨rfl, hnew⟩ | ⟨-, hold⟩
    · cases hresting
    · -- the call came to its wait in this step, and has given its order before or now
      rcases does.ordered_after hnew with ⟨join', rfl⟩ | hasked
      · exact Or.inl ⟨join', by simp [top]⟩
      · exact Or.inr hasked
    · exact Or.inl ⟨join, hold⟩
  | @call u f free first =>
    left
    by_cases hu : t = u
    · subst hu
      have hmem : .joining .stop join ∈ f :: s.stack t := by simpa using joins
      rcases List.mem_cons.mp hmem with rfl | hold
      · cases first
      · exact ⟨join, hold⟩
    · exact ⟨join, by simpa [hu] using joins⟩
  | submit => exact Or.inl ⟨join, joins⟩
  | hear => exact Or.inl ⟨join, joins⟩

/-- A time in which a worker does not leave its loop is a run. -/
theorem During.path (during : During k s s') : Path s s' :=
  ReflTransGen.mono (fun _ _ h => h.1) _ _ during

/-- A loop that has begun has begun later on. -/
theorem During.begun (during : During k s s') (begun : s.Begun k) : s'.Begun k := by
  cases during with
  | refl => exact begun
  | tail _ next => exact next.2

/-- An order that is there stands as long as the loop is begun. -/
theorem During.stands (h : Reachable config network s) (begun : s.Begun k)
    (during : During k s s') (asked : s.client.stopAsked = true) :
    s'.client.stopAsked = true := by
  induction during with
  | refl => exact asked
  | @tail s₁ s₂ before next ih =>
    have hbefore : During k s s₁ := before
    exact (h.path hbefore.path).exclusive.stands (hbefore.begun begun) next.1 ih

/-- A call of `stop` that gave its order since the loop began: the order is there. -/
theorem During.ordered (h : Reachable config network s) (begun : s.Begun k)
    (during : During k s s') (fresh : ∀ join, .joining .stop join ∉ s.stack t) {join : Join}
    (joins : .joining .stop join ∈ s'.stack t) : s'.client.stopAsked = true := by
  induction during generalizing join with
  | refl => exact absurd joins (fresh join)
  | @tail s₁ s₂ before next ih =>
    have hbefore : During k s s₁ := before
    have hreached := h.path hbefore.path
    rcases hreached.orderly.ordered next.1 joins with ⟨join', hjoins⟩ | hasked
    · exact hreached.exclusive.stands (hbefore.begun begun) next.1 (ih hjoins)
    · exact hasked

/-! ## A wait in vain -/

/-- A call of `start` took the loop and has not cleared the flag, and another thread is about to
    give its order. -/
theorem order_between : ∃ s, Reachable {} (.standIn {}) s ∧ s.client.alive = true ∧
    s.client.isRunning = true ∧ s.client.engine.phase = .created ∧ s.handle = none ∧
    s.spawned = 0 ∧ s.stack (.outside 0) = [.claiming .worker .clear] ∧
    s.stack (.outside 1) = [.ordering .stop] ∧
    ∀ u, u ≠ .outside 0 → u ≠ .outside 1 → s.stack u = [] := by
  let set : ClientCall := .setCallback "callback" (fun _ => []) (fun _ => false)
  have hset := Reachable.initial.path
    (@set_alone { client := .new {} (.standIn {}) } (.outside 0) _ _ _ (Or.inl ⟨rfl, 0, rfl⟩)
      (show ((Client.new {} (.standIn {})).perform set).1 = .set from rfl))
  have hstart := hset.step (@Step.call _ (.outside 0) .locking (Or.inl ⟨rfl, 0, rfl⟩) rfl)
  have hlock := hstart.step (@Step.does _ _ (.outside 0) _ _ _ rfl (.lock rfl))
  have hengine := hlock.step (@Step.does _ _ (.outside 0) _ _ _ rfl (.claimEngine rfl))
  have hcallback := hengine.step
    (@Step.does _ _ (.outside 0) _ _ _ rfl (.claimCallback fun hnone => by cases hnone))
  have hloop := hcallback.step (@Step.does _ _ (.outside 0) _ _ _ rfl (.claimLoop rfl))
  have hcall := hloop.step (@Step.call _ (.outside 1) (.ordering .stop) (Or.inl ⟨rfl, 1, rfl⟩) rfl)
  refine ⟨_, hcall, rfl, rfl, rfl, rfl, rfl, rfl, rfl, fun u hfirst hsecond => ?_⟩
  simp [hfirst, hsecond]

/-- The order comes while the loop is taken, the claim erases it, and the call of `stop` finds the
    handle of the new worker: it waits for a loop that goes on, and nobody else is in a call. -/
theorem waits_in_vain : ∃ s₀ s, Reachable {} (.standIn {}) s₀ ∧ Path s₀ s ∧
    s₀.client.isRunning = true ∧ s₀.stack (.outside 1) = [.ordering .stop] ∧
    s.stack (.outside 1) = [.joining .stop (.wait 0)] ∧ s.Works 0 ∧
    s.client.stopAsked = false ∧ s.client.alive = true ∧
    ∀ u, u ≠ .outside 1 → u ≠ .worker 0 → s.stack u = [] := by
  obtain ⟨s₀, hs₀, there, taken, hphase, hhandle, hspawned, hfirst, hsecond, hothers⟩ :=
    order_between
  have hworks : s₀.client.engine.startWorking.1 = .ok true := by
    simp [Engine.startWorking, hphase]
  have horder : Path s₀ _ := ReflTransGen.single (Step.does hsecond .order)
  -- the claim erases the order, and `start` goes on to its end
  have hclear := horder.tail
    (@Step.does _ _ (.outside 0) (.claiming .worker .clear) [] _ (by simp [hfirst]) .claimClear)
  have hwork := hclear.tail
    (@Step.does _ _ (.outside 0) (.claiming .worker .work) [] _ (by simp) (.startWork hworks))
  have hreplace := hwork.tail
    (@Step.does _ _ (.outside 0) .replacing [] _ (by simp) (.replaceNone hhandle))
  have hspawn := hreplace.tail
    (@Step.does _ _ (.outside 0) .spawning [] _ (by simp) .spawn)
  have hstore := hspawn.tail
    (@Step.does _ _ (.outside 0) (.storing 0) [] _ (by simp [hspawned]) .store)
  have hunlock := hstore.tail (@Step.does _ _ (.outside 0) .unlocking [] _ (by simp) .unlock)
  -- `stop` takes the handle of the new worker
  have hlock := hunlock.tail
    (@Step.does _ _ (.outside 1) (.joining .stop .lock) [] _ (by simp) (.joinLock rfl))
  have htake := hlock.tail
    (@Step.does _ _ (.outside 1) (.joining .stop .take) [] _ (by simp)
      (.take rfl (fun hself => by cases hself)))
  refine ⟨s₀, _, hs₀, htake, taken, hsecond, ?_, ?_, ?_, ?_, fun u hother hworker => ?_⟩
  · simp
  · simp [Works, hspawned]
  · simp
  · simpa using there
  · by_cases hu : u = .outside 0
    · simp [hu]
    · simp [hother, hworker, hu, hspawned, hothers u hu hother]

/-! ## For whom `stop` waits -/

/-- **For whom `stop` waits.**  Whatever calls were made by any threads and from inside callbacks,
    in any order of their steps: an order to stop is erased only by a claim that has just taken
    the loop, when nobody else has the right to run it.  So while a loop is begun, orders stand:
    one that is there stays, and a call of `stop` that gave its order since then never waits for a
    worker that was not told.  A loop that looks at its orders and finds one ends. -/
theorem stop_heard (h : Reachable config network s) :
    (∀ s', Step s s' → s.client.stopAsked = true → s'.client.stopAsked = false →
      ∃ t loop, .claiming loop .clear ∈ s.stack t ∧
        ∀ u, ∀ g ∈ s.stack u, g.owns = true → u = t ∧ g = .claiming loop .clear) ∧
    (∀ k s', s.Begun k → During k s s' →
      (s.client.stopAsked = true → s'.client.stopAsked = true) ∧
      ∀ t join, (∀ join', .joining .stop join' ∉ s.stack t) → .joining .stop join ∈ s'.stack t →
        s'.client.stopAsked = true) ∧
    (s.client.stopAsked = true → ∀ t s' frames, Does s t (.looping .orders) s' frames →
      frames = [] ∧ s'.client.isRunning = false) := by
  refine ⟨fun s' next asked erased => h.exclusive.erased next asked erased, ?_, ?_⟩
  · intro k s' begun during
    refine ⟨fun asked => during.stands h begun asked, ?_⟩
    intro t join fresh joins
    exact during.ordered h begun fresh joins
  · intro asked t s' frames does
    exact does.stopped_after asked

/-- A call of `stop` on another thread while the worker is in a callback: it waits for the worker,
    and the order is there. -/
theorem stop_heard_busy : ∃ s s', Reachable {} (.standIn {}) s ∧ s.Begun 0 ∧ During 0 s s' ∧
    (∀ join, .joining .stop join ∉ s.stack (.outside 1)) ∧
    .joining .stop (.wait 0) ∈ s'.stack (.outside 1) ∧ .calling ∈ s'.stack (.worker 0) ∧
    s'.client.stopAsked = true := by
  obtain ⟨s, hs, -, unlocked, hhandle, -, hcallback, -, hother⟩ := busy_worker
  have hworks : s.Works 0 := by simp [Works, hcallback]
  have hcall : During 0 s _ := ReflTransGen.single
    ⟨@Step.call s (.outside 1) (.ordering .stop) (Or.inl ⟨hother, 1, rfl⟩) rfl,
      Or.inl (by simp [Works, hcallback])⟩
  have horder := hcall.tail
    ⟨@Step.does _ _ (.outside 1) (.ordering .stop) [] _ (by simp [hother]) .order,
      Or.inl (by simp [Works, hcallback])⟩
  have hlock := horder.tail
    ⟨@Step.does _ _ (.outside 1) (.joining .stop .lock) [] _ (by simp) (.joinLock unlocked),
      Or.inl (by simp [Works, hcallback])⟩
  -- the call has the handle of the worker now, and waits
  have htake := hlock.tail
    ⟨@Step.does _ _ (.outside 1) (.joining .stop .take) [] _ (by simp)
        (.take hhandle (fun hself => by cases hself)),
      Or.inl (by simp [Works, hcallback])⟩
  have hfresh : ∀ join, .joining .stop join ∉ s.stack (.outside 1) := by
    intro join hjoin
    rw [hother] at hjoin
    cases hjoin
  refine ⟨s, _, hs, Or.inl hworks, htake, hfresh, by simp, by simp [hcallback], ?_⟩
  obtain ⟨-, hstand, -⟩ := stop_heard hs
  exact (hstand 0 _ (Or.inl hworks) htake).2 (.outside 1) (.wait 0) hfresh (by simp)

end Threads

end TxRelay.Client
