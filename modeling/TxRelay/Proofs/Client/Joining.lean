/-
  For whom `destroy` waits.

  `destroy` takes the handle out of its slot and waits for the worker that it belongs to.  It waits
  for nobody if the slot is empty, and an empty slot does not mean that no worker is there.

  1. **Overtaken.**  `Missed` are the workers whose handle `destroy` cannot find, and there are two
     kinds of them: a callback that calls `stop` drops the handle of its own worker
     (`overtaken_by_own_stop`), and a call of `stop` on another thread has the handle while it waits
     itself (`overtaken_by_other_stop`).  In both schedules `destroy` returns `true` while the
     callback still runs; both start from one state, a worker in its callback (`busy_worker`).

  2. **All others.**  When `destroy` has answered, every worker that has not left its loop is missed
     (`Orderly.missed`).  For its handle is in the slot, with a call, or dropped, and the first of
     these is ruled out: the slot was looked at, and nothing can come into it any more.

  So `destroy` has waited for all workers exactly if none that it missed is in its loop
  (`destroy_waits`), and nothing better can be said without looking at the calls of `stop`.
-/
import TxRelay.Proofs.Client.Handles
import TxRelay.Proofs.Client.Undisturbed

namespace TxRelay.Client

namespace Threads

variable {config : Config} {network : Network} {s s' : Threads} {t : Thread}

/-! ## A worker that was overtaken -/

/-- What steps lead to from a state that can be reached can be reached. -/
theorem Reachable.path (h : Reachable config network s) (path : Path s s') :
    Reachable config network s' := by
  induction path with
  | refl => exact h
  | tail _ next ih => exact ih.step next

/-- A worker is in a callback, its handle is in the slot, and two other threads do nothing. -/
theorem busy_worker : ∃ s, Reachable {} (.standIn {}) s ∧ s.client.alive = true ∧
    s.lock = none ∧ s.handle = some 0 ∧ s.detached = [] ∧
    s.stack (.worker 0) = [.calling, .looping .orders] ∧
    s.stack (.outside 0) = [] ∧ s.stack (.outside 1) = [] := by
  let set : ClientCall := .setCallback "callback" (fun _ => []) (fun _ => false)
  let ready : Threads := { client := ((Client.new {} (.standIn {})).perform set).2 }
  have hset : Path { client := .new {} (.standIn {}) } ready :=
    @set_alone _ (.outside 0) _ _ _ (Or.inl ⟨rfl, 0, rfl⟩) rfl
  have hstart : Path ready _ :=
    @start_alone _ (.outside 0) _ (Or.inl ⟨rfl, 0, rfl⟩)
      ⟨⟨rfl, rfl⟩, by simp [ready, set, perform, Client.new]⟩ rfl (fun k hk => by cases hk) rfl
  -- a broadcast ends, so that the worker's first poll finds a receipt
  have hwaiting := ((Reachable.initial.path (hset.trans hstart)).step
    (@Step.submit _ [1] "http://[::1]:8545" ⟨"job"⟩)).step
    (@Step.hear _ 0 (.error (.rpc "busy")))
  have hgo := (hwaiting.step (@Step.does _ _ (.worker 0) _ _ _ rfl (.go rfl))).step
    (@Step.does _ _ (.worker 0) _ _ _ rfl (.engine rfl))
  have hpolled := hgo.step (@Step.does _ _ (.worker 0) _ _ _ rfl (.poll rfl))
  have hcalling := hpolled.step
    (@Step.does _ _ (.worker 0) _ _ _ rfl (.begin (fun hnone => by cases hnone)))
  exact ⟨_, hcalling, rfl, rfl, rfl, rfl, rfl, rfl, rfl⟩

/-- The callback calls `stop`, which drops the handle of its own thread; then `destroy` returns on
    another thread while the callback still runs. -/
theorem overtaken_by_own_stop : ∃ s, Reachable {} (.standIn {}) s ∧
    .destroyed (.outside 0) true ∈ s.log ∧ .calling ∈ s.stack (.worker 0) ∧ 0 ∈ s.detached := by
  obtain ⟨s, hs, there, unlocked, hhandle, -, hcallback, hfree, -⟩ := busy_worker
  let stopped : Threads := (s.withClient (s.client.perform .stop).2).joined (.worker 0) .stop
  have hstop : Path s stopped :=
    stop_alone (Or.inr ⟨_, hcallback⟩) unlocked fun k hk => by
      rw [hhandle] at hk
      exact Or.inr (congrArg Thread.worker (Option.some.inj hk))
  have hdestroy : Path stopped
      ((stopped.withClient (stopped.client.perform .destroy).2).joined (.outside 0) .destroy) :=
    destroy_alone (Or.inl ⟨hfree, 0, rfl⟩) rfl (fun k hk => by cases hk) there
  refine ⟨_, (hs.path hstop).path hdestroy, ?_, ?_, ?_⟩
  · simp [joined]
  · show .calling ∈ s.stack (.worker 0)
    simp [hcallback]
  · simp [joined, stopped, hhandle]

/-- A call of `stop` took the handle and waits for the worker; then `destroy` does not find it and
    returns on another thread while the callback still runs. -/
theorem overtaken_by_other_stop : ∃ s, Reachable {} (.standIn {}) s ∧
    .destroyed (.outside 0) true ∈ s.log ∧ .calling ∈ s.stack (.worker 0) ∧
    s.detached = [] ∧ s.stack (.outside 1) = [.joining .stop (.wait 0)] := by
  obtain ⟨s, hs, there, unlocked, hhandle, hdetached, hcallback, hfree, hother⟩ := busy_worker
  let asked : Threads := s.withClient { s.client with stopAsked := true }
  -- the call of `stop` has the handle and waits, so the slot is empty
  let waiting : Threads := (asked.look .stop).put (.outside 1) [.joining .stop (.wait 0)]
  have hcall : Path s (s.put (.outside 1) [.ordering .stop]) := by
    have hcall : Path s (s.put (.outside 1) (.ordering .stop :: s.stack (.outside 1))) :=
      Path.call (Or.inl ⟨hother, 1, rfl⟩) rfl
    rwa [hother] at hcall
  have horder : Path (s.put (.outside 1) [.ordering .stop])
      (asked.put (.outside 1) [.joining .stop .lock]) :=
    Path.goes .order
  have hlock : Path (asked.put (.outside 1) [.joining .stop .lock])
      ({ asked with lock := some (.outside 1) }.put (.outside 1) [.joining .stop .take]) :=
    Path.goes (.joinLock unlocked)
  have htake : Path ({ asked with lock := some (.outside 1) }.put (.outside 1)
      [.joining .stop .take]) waiting :=
    Path.goes (.take hhandle (by simp))
  have hdestroy : Path waiting
      ((waiting.withClient (waiting.client.perform .destroy).2).joined (.outside 0) .destroy) :=
    destroy_alone (Or.inl ⟨hfree, 0, rfl⟩) rfl (fun k hk => by cases hk) there
  have hpath := (((hcall.trans horder).trans hlock).trans htake).trans hdestroy
  refine ⟨_, hs.path hpath, ?_, ?_, ?_, rfl⟩
  · simp [joined]
  · show .calling ∈ s.stack (.worker 0)
    simp [hcallback]
  · show s.detached = []
    exact hdetached

/-! ## For whom `destroy` waits -/

/-- `destroy` cannot find the handle of this worker: the worker's own callback took and dropped
    it, or a call of `stop` has it and waits. -/
def Missed (s : Threads) (k : Nat) : Prop :=
  k ∈ s.detached ∨ ∃ u, .joining .stop (.wait k) ∈ s.stack u

/-- A worker that has not left its loop after `destroy` returned `true` was missed. -/
theorem Orderly.missed (h : Orderly s) (returned : .destroyed t true ∈ s.log) {k : Nat}
    (works : s.Works k) : s.Missed k := by
  obtain ⟨hlooked, hends⟩ := h.answered t returned
  obtain ⟨-, hnone, hstarts⟩ := h.looked hlooked
  rcases h.tracked k works with hslot | hdropped | ⟨u, g, hg, hheld⟩
  · rw [hnone] at hslot
    cases hslot
  · exact Or.inl hdropped
  · refine Or.inr ⟨u, ?_⟩
    have hstart := hstarts u g hg
    have hend := hends u g hg
    -- a call that has the handle is a `start`, a `destroy` or a `stop`; the first two are ruled out
    cases g with
    | awaiting j => cases hstart
    | storing j => cases hstart
    | joining call next =>
      cases call with
      | destroy => cases hend
      | stop =>
        cases next with
        | wait j =>
          obtain rfl : j = k := by simpa using hheld
          exact hg
        | _ => cases hheld
    | _ => cases hheld

/-- **For whom `destroy` waits.**  Whatever calls were made by any threads and from inside
    callbacks, in any order of their steps: since a call of `destroy` returned `true`, every
    worker that has not left its loop was missed, and so all workers have left their loops exactly
    if all missed ones have. -/
theorem destroy_waits (h : Reachable config network s) {t : Thread}
    (returned : .destroyed t true ∈ s.log) :
    (∀ k, s.Works k → k < s.spawned ∧ s.Missed k) ∧
    ((∀ k, ¬ s.Works k) ↔ ∀ k, s.Missed k → ¬ s.Works k) := by
  have orderly := h.orderly
  have hmissed (k : Nat) (works : s.Works k) : s.Missed k := orderly.missed returned works
  refine ⟨fun k works => ⟨orderly.spawned k works, hmissed k works⟩, ?_⟩
  constructor
  · exact fun hleft k _ => hleft k
  · exact fun hleft k works => hleft k (hmissed k works) works

/-- A worker that was overtaken is among those that `destroy` misses. -/
theorem destroy_waits_overtaken : ∃ s, Reachable {} (.standIn {}) s ∧
    .destroyed (.outside 0) true ∈ s.log ∧ s.Works 0 ∧ s.detached = [] ∧
    (∀ k, s.Works k → k < s.spawned ∧ s.Missed k) ∧
    ((∀ k, ¬ s.Works k) ↔ ∀ k, s.Missed k → ¬ s.Works k) := by
  obtain ⟨s, hs, returned, hcallback, hdetached, -⟩ := overtaken_by_other_stop
  exact ⟨s, hs, returned, List.ne_nil_of_mem hcallback, hdetached, destroy_waits hs returned⟩

end Threads

end TxRelay.Client
