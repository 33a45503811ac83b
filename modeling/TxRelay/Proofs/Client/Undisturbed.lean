/-
  A call that nobody disturbs.

  In `Threads` a call is many steps, and `perform` does it in one.  If no other thread moves while a
  call is made, then its steps come to what `perform` does: the slots of the client are the same
  afterwards.

  1. **Walking.**  The lemmas about `Path` take one step of one thread each and leave the rest of
     its stack alone (`Path.does`, `Path.goes`, `Path.ends`), so that a call is written down as the
     chain of its steps.

  2. **Setting, taking, starting.**  `set_alone`, `claim_alone`, `run_alone` and `start_alone`.  The
     claim is one lemma for both calls; `start` adds the lock, the old handle, the thread that is
     spawned and the handle that is stored.

  3. **A round.**  `round_alone` says that a look at the orders, a look at the engine, the poll and
     the begin of the callback, one after another, come to what the round of the client does at
     once.

  4. **Waiting.**  `stop` and `destroy` wait for the worker whose handle they find, unless they are
     called by the worker's own callback; so these lemmas ask that this worker has ended (`joined`).

  The crux of each is to find the state that the chain ends in written as `perform` writes it, and
  the two small laws of `put` do that: what was put last counts, and putting back what is there
  changes nothing.
-/
import Mathlib.Logic.Relation
import TxRelay.Client.Threads
import TxRelay.Proofs.Client.Calls

namespace TxRelay.Client.Threads

open Relation

variable {s s' : Threads} {t : Thread} {f g : Frame} {frames stack : List Frame}

/-- Steps lead from one state to another. -/
abbrev Path : Threads → Threads → Prop := ReflTransGen Step

/-- What is put last on a stack counts. -/
theorem put_put (s : Threads) (t : Thread) (a b : List Frame) :
    (s.put t a).put t b = s.put t b := by
  simp only [put, Threads.mk.injEq, true_and, and_true]
  funext u
  by_cases hu : u = t <;> simp [hu]

/-- A stack that is put back as it is changes nothing. -/
theorem put_self (s : Threads) (t : Thread) : s.put t (s.stack t) = s := by
  have hstack : (fun u => if u = t then s.stack t else s.stack u) = s.stack := by
    funext u
    by_cases hu : u = t <;> simp [hu]
  rw [put, hstack]

/-- A thread does what its innermost frame says. -/
theorem Step.top (does : Does (s.put t (f :: stack)) t f (s'.put t (f :: stack)) frames) :
    Step (s.put t (f :: stack)) (s'.put t (frames ++ stack)) := by
  have top : (s.put t (f :: stack)).stack t = f :: stack := by simp
  have hstep := Step.does top does
  rwa [put_put] at hstep

/-- One step of a thread, with whatever lies below on its stack. -/
theorem Path.does (does : Does (s.put t (f :: stack)) t f (s'.put t (f :: stack)) frames) :
    Path (s.put t (f :: stack)) (s'.put t (frames ++ stack)) :=
  ReflTransGen.single (Step.top does)

/-- A step to the next place of the same call. -/
theorem Path.goes (does : Does (s.put t (f :: stack)) t f (s'.put t (f :: stack)) [g]) :
    Path (s.put t (f :: stack)) (s'.put t (g :: stack)) :=
  Path.does does

/-- The last step of a call. -/
theorem Path.ends (does : Does (s.put t (f :: stack)) t f (s'.put t (f :: stack)) []) :
    Path (s.put t (f :: stack)) (s'.put t stack) :=
  Path.does does

/-- A call begins. -/
theorem Path.call (free : s.Free t) (first : f.first = true) :
    Path s (s.put t (f :: s.stack t)) :=
  ReflTransGen.single (Step.call free first)

/-- A thread that makes calls is no worker that ended. -/
theorem Free.ne_worker {k : Nat} (free : s.Free t) (gone : s.stack (.worker k) = []) :
    t ≠ .worker k := by
  rintro rfl
  rcases free with ⟨-, i, hi⟩ | ⟨rest, hrest⟩
  · cases hi
  · rw [gone] at hrest
    cases hrest

/-! ## Setting the callback -/

/-- Setting the callback comes to what `perform` does. -/
theorem set_alone {tag : String} {calls : JobId → List ClientCall} {panics : JobId → Bool}
    (idle : s.Free t) (goes : (s.client.perform (.setCallback tag calls panics)).1 = .set) :
    Path s (s.withClient (s.client.perform (.setCallback tag calls panics)).2) := by
  have there : s.client.alive = true := by
    cases halive : s.client.alive with
    | true => rfl
    | false => simp [perform, halive] at goes
  have hperform : (s.client.perform (.setCallback tag calls panics)).2 =
      { s.client with callback := some ⟨tag, calls, panics⟩ } := by
    simp [perform, there]
  have hcheck : Path (s.put t (.checking :: s.stack t)) (s.put t (.setting :: s.stack t)) :=
    Path.goes (.check there)
  have hset : Path (s.put t (.setting :: s.stack t))
      ((s.withClient { s.client with callback := some ⟨tag, calls, panics⟩ }).put t (s.stack t)) :=
    Path.ends .set
  have hpath := ((Path.call idle rfl).trans hcheck).trans hset
  rw [hperform, ← put_self (s.withClient _) t]
  exact hpath

/-! ## Taking the loop -/

/-- The client whose loop was taken and whose order to stop was forgotten. -/
def reserved (c : Client) (loop : Loop) : Client := { c with loop := some loop, stopAsked := false }

/-- The loop is taken, up to the start of the engine. -/
theorem claim_alone {loop : Loop} (there : s.client.alive = true)
    (set : s.client.callback ≠ none) (free : s.client.loop = none) :
    Path (s.put t (.claiming loop .engine :: stack))
      ((s.withClient (reserved s.client loop)).put t (.claiming loop .work :: stack)) := by
  have hengine : Path (s.put t (.claiming loop .engine :: stack))
      (s.put t (.claiming loop .callback :: stack)) :=
    Path.goes (.claimEngine there)
  have hcallback : Path (s.put t (.claiming loop .callback :: stack))
      (s.put t (.claiming loop .loop :: stack)) :=
    Path.goes (.claimCallback set)
  have hloop : Path (s.put t (.claiming loop .loop :: stack))
      ((s.withClient { s.client with loop := some loop }).put t (.claiming loop .clear :: stack)) :=
    Path.goes (.claimLoop free)
  have hclear : Path
      ((s.withClient { s.client with loop := some loop }).put t (.claiming loop .clear :: stack))
      ((s.withClient (reserved s.client loop)).put t (.claiming loop .work :: stack)) :=
    Path.goes .claimClear
  exact ((hengine.trans hcallback).trans hloop).trans hclear

/-- A call that took the loop found everything as it should be. -/
theorem claim_free {c d : Client} {loop : Loop} (whole : c.Whole) (goes : c.claim loop = .ok d) :
    (c.alive = true ∧ c.callback ≠ none ∧ c.loop = none ∧ d = c.claimed loop) ∧
      ∃ b, c.engine.startWorking.1 = .ok b := by
  rcases claim_cases whole loop with ⟨-, hclaim⟩ | ⟨-, -, hclaim⟩ | ⟨-, -, hclaim⟩ |
    ⟨hlive, hset, hfree, hclaim⟩
  · cases goes.symm.trans hclaim
  · cases goes.symm.trans hclaim
  · cases goes.symm.trans hclaim
  · refine ⟨⟨hlive, hset, ?_, Except.ok.inj (goes.symm.trans hclaim)⟩, ?_⟩
    · simpa [Client.isRunning] using hfree
    · exact (Engine.startWorking_live (whole.alive.mp hlive)).1

/-- A claim by `run` that succeeds leads to the loop on the caller's thread. -/
theorem run_alone {d : Client} (idle : s.Free t) (whole : s.client.Whole)
    (goes : s.client.claim .caller = .ok d) :
    Path s ((s.withClient d).put t (.looping .orders :: s.stack t)) := by
  obtain ⟨⟨there, set, free, rfl⟩, b, hworks⟩ := claim_free whole goes
  have hwork : Path
      ((s.withClient (reserved s.client .caller)).put t (.claiming .caller .work :: s.stack t))
      ((s.withClient (s.client.claimed .caller)).put t (.looping .orders :: s.stack t)) :=
    Path.goes (.runWork hworks)
  exact ((Path.call idle rfl).trans (claim_alone there set free)).trans hwork

/-- A worker is spawned while another thread stands at a frame. -/
theorem put_spawn (s : Threads) (t : Thread) (a b : List Frame) :
    (s.put t a).spawn.put t b = s.spawn.put t b := by
  simp only [put, spawn, Threads.mk.injEq, true_and, and_true]
  funext u
  by_cases hu : u = t <;> simp [hu]

/-- The state after a call of `start`. -/
def started (s : Threads) (c : Client) : Threads :=
  { s.spawn with client := c, handle := some s.spawned }

/-- A claim by `start` that succeeds leads to a worker in its loop, with its handle in the slot. -/
theorem start_alone {d : Client} (idle : s.Free t) (whole : s.client.Whole)
    (unlocked : s.lock = none) (gone : ∀ k, s.handle = some k → s.stack (.worker k) = [])
    (goes : s.client.claim .worker = .ok d) : Path s ((s.started d).put t (s.stack t)) := by
  obtain ⟨⟨there, set, free, rfl⟩, b, hworks⟩ := claim_free whole goes
  let locked : Threads := { s with lock := some t }
  let claimed : Threads := locked.withClient (s.client.claimed .worker)
  let emptied : Threads := { claimed with handle := none }
  have hlock : Path (s.put t (.locking :: s.stack t))
      (locked.put t (.claiming .worker .engine :: s.stack t)) :=
    Path.goes (.lock unlocked)
  have hclaim : Path (locked.put t (.claiming .worker .engine :: s.stack t))
      ((locked.withClient (reserved s.client .worker)).put t
        (.claiming .worker .work :: s.stack t)) :=
    claim_alone there set free
  have hwork : Path
      ((locked.withClient (reserved s.client .worker)).put t
        (.claiming .worker .work :: s.stack t))
      (claimed.put t (.replacing :: s.stack t)) :=
    Path.goes (.startWork hworks)
  -- the handle that was in the slot is taken, and its worker has ended
  have hreplace : Path (claimed.put t (.replacing :: s.stack t))
      (emptied.put t (.spawning :: s.stack t)) := by
    cases hhandle : s.handle with
    | none =>
      have hsame : emptied = claimed := by
        show { claimed with handle := none } = claimed
        rw [← hhandle]
        rfl
      rw [hsame]
      exact Path.goes (.replaceNone hhandle)
    | some k =>
      have hover := gone k hhandle
      have hother := idle.ne_worker hover
      have htake : Path (claimed.put t (.replacing :: s.stack t))
          (emptied.put t (.awaiting k :: s.stack t)) :=
        Path.goes (.replace hhandle)
      have hjoin : Path (emptied.put t (.awaiting k :: s.stack t))
          (emptied.put t (.spawning :: s.stack t)) := by
        refine Path.goes (.await ?_)
        show (if Thread.worker k = t then _ else s.stack (.worker k)) = []
        rw [if_neg (Ne.symm hother)]
        exact hover
      exact htake.trans hjoin
  have hspawn : Path (emptied.put t (.spawning :: s.stack t))
      (emptied.spawn.put t (.storing s.spawned :: s.stack t)) := by
    have top : (emptied.put t (.spawning :: s.stack t)).stack t = .spawning :: s.stack t := by
      simp
    have hstep : Path (emptied.put t (.spawning :: s.stack t))
        ((emptied.put t (.spawning :: s.stack t)).spawn.put t
          (.storing s.spawned :: s.stack t)) :=
      ReflTransGen.single (Step.does top .spawn)
    rwa [put_spawn emptied] at hstep
  have hstore : Path (emptied.spawn.put t (.storing s.spawned :: s.stack t))
      ({ emptied.spawn with handle := some s.spawned }.put t (.unlocking :: s.stack t)) :=
    Path.goes .store
  have hunlock : Path
      ({ emptied.spawn with handle := some s.spawned }.put t (.unlocking :: s.stack t))
      ({ emptied.spawn with handle := some s.spawned, lock := none }.put t (s.stack t)) :=
    Path.ends .unlock
  have hpath := ((((((Path.call idle rfl).trans hlock).trans hclaim).trans hwork).trans
    hreplace).trans hspawn).trans (hstore.trans hunlock)
  have hend : ({ emptied.spawn with handle := some s.spawned, lock := none } : Threads) =
      s.started (s.client.claimed .worker) := by
    simp [emptied, claimed, locked, started, unlocked]
  rwa [hend] at hpath

/-! ## A round of the loop -/

/-- What the thread of the loop goes on with after a round: the callback began and the loop waits
    for it, or it comes to its next round, or it is over. -/
def goesOn (c : Client) : Round → List Frame
  | .takes _ => if c.callback.isSome then [.calling, .looping .orders] else [.looping .orders]
  | .waits => [.looping .orders]
  | .ends _ => []

/-- A loop that is told to end ends at one of its two looks. -/
theorem end_alone (ends : s.client.mustEnd = true) :
    Path (s.put t (.looping .orders :: stack))
      ((s.withClient (s.client.endLoop (.ok ()))).put t stack) := by
  cases hasked : s.client.stopAsked with
  | true => exact Path.ends (.stopped hasked)
  | false =>
    have hgone : s.client.alive = false := by simpa [mustEnd, hasked] using ends
    have horders : Path (s.put t (.looping .orders :: stack))
        (s.put t (.looping .engine :: stack)) :=
      Path.goes (.go hasked)
    have hengine : Path (s.put t (.looping .engine :: stack))
        ((s.withClient (s.client.endLoop (.ok ()))).put t stack) :=
      Path.ends (.gone hgone)
    exact horders.trans hengine

/-- A loop that nobody told to end comes to its poll. -/
theorem looks_alone (goes : s.client.mustEnd = false) :
    Path (s.put t (.looping .orders :: stack)) (s.put t (.looping .poll :: stack)) := by
  obtain ⟨hfree, hthere⟩ : s.client.stopAsked = false ∧ s.client.alive = true := by
    simpa [mustEnd] using goes
  have horders : Path (s.put t (.looping .orders :: stack)) (s.put t (.looping .engine :: stack)) :=
    Path.goes (.go hfree)
  exact horders.trans (Path.goes (.engine hthere))

/-- A round during which no other thread moves does what `Client.round` says, and the callback
    begins that is set then: the steps of a round come to one step of a `Moment`. -/
theorem round_alone (whole : s.client.Whole) :
    Path (s.put t (.looping .orders :: stack))
      ((s.withClient s.client.round.2).put t
        (goesOn s.client.round.2 s.client.round.1 ++ stack)) := by
  rcases round_cases whole with ⟨hends, hround⟩ | ⟨hgoes, -, hround⟩ |
    ⟨hgoes, r, rest, hreceipts, hround⟩
  · rw [hround]
    exact end_alone hends
  · -- no receipt is there: the time of the poll is over, and the loop looks at its orders again
    rw [hround]
    exact (looks_alone hgoes).trans (Path.goes .pollExpires)
  · rw [hround]
    have hfound : s.client.engine.receive? =
        some (.ok (.ready r), (s.client.taken rest).engine) := by
      rw [Engine.receive?, hreceipts]
      rfl
    have hpoll : Path (s.put t (.looping .poll :: stack))
        ((s.withClient (s.client.taken rest)).put t (.looping .callback :: stack)) :=
      Path.goes (.poll hfound)
    refine ((looks_alone hgoes).trans hpoll).trans ?_
    cases hset : (s.client.taken rest).callback with
    | none =>
      simp only [goesOn, hset, Option.isSome_none, Bool.false_eq_true, if_false]
      exact Path.goes (.drop hset)
    | some callback =>
      simp only [goesOn, hset, Option.isSome_some, if_true]
      exact Path.does (.begin (by
        show (s.client.taken rest).callback ≠ none
        rw [hset]
        exact Option.some_ne_none callback))

/-! ## Waiting for the worker -/

/-- The state after `stop` or `destroy` found a handle, or none, and need not wait. -/
def joined (s : Threads) (t : Thread) (call : Joiner) : Threads :=
  let detached := match s.handle with
    | some k => if t = .worker k then k :: s.detached else s.detached
    | none => s.detached
  ({ s with detached := detached }.look call).done t call

/-- The worker is asked to stop and waited for: it ended, or it is this thread. -/
theorem join_alone {call : Joiner} (unlocked : s.lock = none)
    (gone : ∀ k, s.handle = some k → s.stack (.worker k) = [] ∨ t = .worker k) :
    Path (s.put t (.ordering call :: stack))
      (((s.withClient { s.client with stopAsked := true }).joined t call).put t stack) := by
  let asked : Threads := s.withClient { s.client with stopAsked := true }
  have horder : Path (s.put t (.ordering call :: stack))
      (asked.put t (.joining call .lock :: stack)) :=
    Path.goes .order
  have hlock : Path (asked.put t (.joining call .lock :: stack))
      ({ asked with lock := some t }.put t (.joining call .take :: stack)) :=
    Path.goes (.joinLock unlocked)
  refine (horder.trans hlock).trans ?_
  cases hhandle : s.handle with
  | none =>
    have htake : Path ({ asked with lock := some t }.put t (.joining call .take :: stack))
        (((asked.look call).done t call).put t stack) :=
      Path.ends (.takeNone hhandle)
    simpa [joined, hhandle, asked] using htake
  | some k =>
    by_cases hself : t = .worker k
    · -- the worker's own callback drops the handle, anybody else waits
      have htake : Path ({ asked with lock := some t }.put t (.joining call .take :: stack))
          ((({ asked with detached := k :: s.detached }.look call).done t call).put t stack) :=
        Path.ends (.takeOwn hhandle hself)
      simpa [joined, hhandle, asked, hself] using htake
    · have htake : Path ({ asked with lock := some t }.put t (.joining call .take :: stack))
          ((asked.look call).put t (.joining call (.wait k) :: stack)) :=
        Path.goes (.take hhandle hself)
      have hjoin : Path ((asked.look call).put t (.joining call (.wait k) :: stack))
          (((asked.look call).done t call).put t stack) := by
        refine Path.ends (.join ?_)
        show (if Thread.worker k = t then _ else s.stack (.worker k)) = []
        rw [if_neg (Ne.symm hself)]
        exact (gone k hhandle).resolve_right hself
      have hpath := htake.trans hjoin
      simpa [joined, hhandle, asked, hself] using hpath

/-- `stop` gives its order, and takes the handle that it finds. -/
theorem stop_alone (idle : s.Free t) (unlocked : s.lock = none)
    (gone : ∀ k, s.handle = some k → s.stack (.worker k) = [] ∨ t = .worker k) :
    Path s ((s.withClient (s.client.perform .stop).2).joined t .stop) := by
  let after : Threads := (s.withClient (s.client.perform .stop).2).joined t .stop
  have hpath : Path s (after.put t (s.stack t)) :=
    (Path.call idle rfl).trans (join_alone unlocked gone)
  have hsame : after.put t (s.stack t) = after := put_self after t
  rwa [hsame] at hpath

/-- `destroy` ends the engine, and takes the handle that it finds. -/
theorem destroy_alone (idle : s.Free t) (unlocked : s.lock = none)
    (gone : ∀ k, s.handle = some k → s.stack (.worker k) = [] ∨ t = .worker k)
    (there : s.client.alive = true) :
    Path s ((s.withClient (s.client.perform .destroy).2).joined t .destroy) := by
  let swapped : Threads := s.withClient { s.client with alive := false }
  let ended : Threads :=
    s.withClient { s.client with alive := false, engine := s.client.engine.destroy.2 }
  let after : Threads :=
    (ended.withClient { ended.client with stopAsked := true }).joined t .destroy
  have hswap : Path (s.put t (.swapping :: s.stack t)) (swapped.put t (.ending :: s.stack t)) :=
    Path.goes (.swap there)
  have hend : Path (swapped.put t (.ending :: s.stack t))
      (ended.put t (.ordering .destroy :: s.stack t)) :=
    Path.goes .finish
  have hjoin : Path (ended.put t (.ordering .destroy :: s.stack t)) (after.put t (s.stack t)) :=
    join_alone unlocked gone
  have hpath := (((Path.call idle rfl).trans hswap).trans hend).trans hjoin
  have hsame : after.put t (s.stack t) = after := put_self after t
  have hperform : (s.client.perform .destroy).2 = { ended.client with stopAsked := true } := by
    simp [perform, Client.destroy, there, ended]
  rw [hsame] at hpath
  rw [hperform]
  exact hpath

end TxRelay.Client.Threads
