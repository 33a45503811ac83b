/-
  A claim that is refused, among other threads.

  Until a call of `start` or `run` has the loop it only looks: is the engine there, is a callback
  set, does a loop run.  The first answer that does not suit it ends the call.  Meanwhile other
  threads take their steps, and all that they can notice of a call that asks is the lock that
  `start` has.

  So a refused call can be taken out of the run.  `without` is the state as it is if the thread had
  not made its call: the call is off the stack, and its lock is free.  The crux is that a step of
  another thread leads from the one state without the call to the other (`Does.without`): a thread
  that finds the lock taken has to wait, and no step is there only because a lock is taken.  The
  call's own steps lead nowhere, and with the last of them the state without the call is the state
  (`Asked.next`).

  A call that has the loop has passed its checks.  What can end it from there on, a client that is
  destroyed meanwhile or a system that has no thread to give, is no refusal.
-/
import TxRelay.Proofs.Client.Joining
import TxRelay.Proofs.Client.Owner

namespace TxRelay

open Client (Frame)

/-- The beginning of the call that takes the loop for this one. -/
def Loop.first : Loop → Frame
  | worker => .locking
  | caller => .claiming .caller .engine

/-- A call of either kind may begin with its first check. -/
theorem Loop.first_begins (loop : Loop) : loop.first.first = true := by cases loop <;> rfl

/-- A call that begins does not have the lock. -/
theorem Loop.first_unlocked (loop : Loop) : loop.first.locked = false := by cases loop <;> rfl

namespace Client

open Relation

variable {config : Config} {network : Network} {s s' s₁ s₂ : Threads} {t u : Thread}
  {f g : Frame} {rest below frames : List Frame} {loop : Loop}

/-! ## Calls that ask -/

/-- The call has not taken the loop yet. -/
def Frame.asks : Loop → Frame → Prop
  | loop, locking => loop = .worker
  | loop, claiming loop' next =>
    loop' = loop ∧ (next = .engine ∨ next = .callback ∨ next = .loop)
  | _, _ => False

/-- What a check finds that bars the claim, and the error for it. -/
inductive Bars (c : Client) : Claim → ClientError → Prop where
  | destroyed (gone : c.alive = false) : Bars c .engine .destroyed
  | noCallback (unset : c.callback = none) : Bars c .callback .noCallback
  | alreadyRunning (runs : c.isRunning = true) : Bars c .loop .alreadyRunning

/-- Such a call asks, to begin with. -/
theorem first_asks (loop : Loop) : loop.first.asks loop := by
  cases loop with
  | worker => rfl
  | caller => exact ⟨rfl, Or.inl rfl⟩

namespace Threads

/-- The state as it is if the thread had not made the call that it is at: `f` is what it does, and
    `rest` what it goes on with. -/
def without (s : Threads) (t : Thread) (f : Frame) (rest : List Frame) : Threads :=
  { s.put t rest with lock := if f.locked then none else s.lock }

/-- Without a lock, taking the call out is taking its frame off. -/
theorem without_unlocked (unlocked : f.locked = false) : s.without t f rest = s.put t rest := by
  rw [without, unlocked]
  rfl

/-- With the lock, the lock is free as well. -/
theorem without_locked (locked : f.locked = true) :
    s.without t f rest = { s.put t rest with lock := none } := by
  rw [without, locked]
  rfl

/-- What is on the stack of the thread does not matter. -/
theorem put_without (s : Threads) (t : Thread) (frames rest : List Frame) (f : Frame) :
    (s.put t frames).without t f rest = s.without t f rest :=
  congrArg (fun s' : Threads => { s' with lock := if f.locked then none else s.lock })
    (put_put s t frames rest)

/-- What other threads go on with does. -/
theorem put_without_comm (other : u ≠ t) :
    (s.without t f rest).put u frames = (s.put u frames).without t f rest := by
  simp only [without, put, Threads.mk.injEq, true_and, and_true]
  funext v
  by_cases hv : v = u
  · subst hv
    simp [other]
  · simp [hv]

end Threads

open Threads (Orderly put_without without_locked without_unlocked)

/-! ## The call's own steps -/

/-- A step of a call that asks: it goes on asking, it is refused for what it found, or it takes the
    loop, which it found free. -/
theorem Does.asking (h : Does s t f s' frames) (asks : f.asks loop) (rest : List Frame) :
    (∃ g, frames = [g] ∧ g.asks loop ∧
      (s'.put t (frames ++ rest)).without t g rest = s.without t f rest) ∨
    (frames = [] ∧ s' = s.refuse loop ∧ ∃ next e, f = .claiming loop next ∧ Bars s.client next e) ∨
    (f = .claiming loop .loop ∧ s.client.loop = none ∧ frames = [.claiming loop .clear]) := by
  cases h with
  | lock free =>
    -- the lock was free, as it is in the state without the call
    obtain rfl : loop = .worker := asks
    refine Or.inl ⟨_, rfl, ⟨rfl, Or.inl rfl⟩, ?_⟩
    rw [put_without]
    simp [Threads.without, free]
  | claimGone gone =>
    obtain ⟨rfl, -⟩ := asks
    exact Or.inr (Or.inl ⟨rfl, rfl, _, _, rfl, .destroyed gone⟩)
  | claimEngine there =>
    obtain ⟨rfl, -⟩ := asks
    refine Or.inl ⟨_, rfl, ⟨rfl, Or.inr (Or.inl rfl)⟩, ?_⟩
    rw [put_without]
    simp [Threads.without]
  | claimUnset unset =>
    obtain ⟨rfl, -⟩ := asks
    exact Or.inr (Or.inl ⟨rfl, rfl, _, _, rfl, .noCallback unset⟩)
  | claimCallback set =>
    obtain ⟨rfl, -⟩ := asks
    refine Or.inl ⟨_, rfl, ⟨rfl, Or.inr (Or.inr rfl)⟩, ?_⟩
    rw [put_without]
    simp [Threads.without]
  | claimRunning runs =>
    obtain ⟨rfl, -⟩ := asks
    exact Or.inr (Or.inl ⟨rfl, rfl, _, _, rfl, .alreadyRunning runs⟩)
  | claimLoop free =>
    obtain ⟨rfl, -⟩ := asks
    exact Or.inr (Or.inr ⟨rfl, free, rfl⟩)
  | _ => simp [Frame.asks] at asks

/-- With the refusal the state is that without the call. -/
theorem refused_without (check : Claim) :
    (s.refuse loop).put t rest = s.without t (.claiming loop check) rest := by
  cases loop <;> simp [Threads.without]

/-! ## The steps of the others -/

/-- What is on the stack of a thread that takes no step matters only to those who wait for the end
    of its thread. -/
theorem Does.put_other (h : Does s u g s' frames) (rest : List Frame) (other : u ≠ t)
    (busy : s.stack t ≠ []) (old : t ≠ .worker s.spawned) :
    Does (s.put t rest) u g (s'.put t rest) frames := by
  -- who waits for a thread waits for another one: this one is busy
  have hended {k : Nat} (ended : s.stack (.worker k) = []) :
      (s.put t rest).stack (.worker k) = [] := by
    have hdistinct : Thread.worker k ≠ t := by
      rintro rfl
      exact busy ended
    simp [hdistinct, ended]
  cases h with
  | await ended => exact .await (hended ended)
  | join ended => exact .join (hended ended)
  | spawn =>
    have hspawn : s.spawn.put t rest = (s.put t rest).spawn := by
      simp only [Threads.spawn, Threads.put, Threads.mk.injEq, true_and, and_true]
      funext v
      by_cases hv : v = t
      · subst hv
        simp [old]
      · simp [hv]
    rw [hspawn]
    exact .spawn
  | _ => constructor <;> assumption

/-- What a thread does while the lock is taken, it does while the lock is free. -/
theorem Does.unlocked (h : Does s u g s' frames) (taken : s.lock ≠ none) :
    Does { s with lock := none } u g { s' with lock := none } frames := by
  cases h with
  | lock free => exact absurd free taken
  | joinLock free => exact absurd free taken
  | @claimGone loop gone => cases loop <;> exact .claimGone gone
  | @claimUnset loop unset => cases loop <;> exact .claimUnset unset
  | @claimRunning loop runs => cases loop <;> exact .claimRunning runs
  | @claimLate loop e late => cases loop <;> exact .claimLate late
  | _ => constructor <;> assumption

/-- What another thread does beside a call that asks, it does without it. -/
theorem Does.without (h : Does s u g s' frames) (orderly : Orderly s)
    (top : s.stack t = f :: rest) (other : u ≠ t) :
    Does (s.without t f rest) u g (s'.without t f rest) frames := by
  have hbusy : s.stack t ≠ [] := by simp [top]
  have hold : t ≠ .worker s.spawned := by
    rintro rfl
    exact Nat.lt_irrefl _ (orderly.spawned s.spawned hbusy)
  have hput := h.put_other rest other hbusy hold
  cases hf : f.locked with
  | false => rwa [without_unlocked hf, without_unlocked hf]
  | true =>
    -- the call has the lock, so that this step does not take it
    have htaken : (s.put t rest).lock ≠ none := by simp [orderly.has_lock top hf]
    rw [without_locked hf, without_locked hf]
    exact hput.unlocked htaken

namespace Threads

/-! ## The call taken out of the run -/

/-- Steps that leave what the thread does as it is. -/
def Elsewhere (t : Thread) (s s' : Threads) : Prop := Step s s' ∧ s'.stack t = s.stack t

/-- The call that takes the loop for this one was made in the first state, by a thread that was
    free, and asks since then. -/
inductive Asked (s : Threads) (t : Thread) (loop : Loop) : Threads → Prop where
  | begins (free : s.Free t) : Asked s t loop (s.put t (loop.first :: s.stack t))
  | goes {s₁ s₂ : Threads} {f : Frame} (before : Asked s t loop s₁) (next : Step s₁ s₂)
      (top : s₂.stack t = f :: s.stack t) (asks : f.asks loop) : Asked s t loop s₂

/-- A thread that asks does not begin another call. -/
theorem asks_not_free (top : s.stack t = f :: rest) (asks : f.asks loop) : ¬ s.Free t := by
  rintro (⟨hnone, -⟩ | ⟨below, hcalling⟩)
  · cases hnone.symm.trans top
  · obtain ⟨rfl, -⟩ := List.cons.inj (hcalling.symm.trans top)
    exact asks

/-- One step while a call asks: another thread's, which is one without the call as well; or the
    call's own, which goes on asking, is refused, or takes the loop. -/
theorem Orderly.asking (orderly : Orderly s) (top : s.stack t = f :: rest) (asks : f.asks loop)
    (next : Step s s') :
    (s'.stack t = f :: rest ∧ Elsewhere t (s.without t f rest) (s'.without t f rest)) ∨
    (∃ g, s'.stack t = g :: rest ∧ g.asks loop ∧ s'.without t g rest = s.without t f rest) ∨
    (s' = s.without t f rest ∧ ∃ next e, f = .claiming loop next ∧ Bars s.client next e) ∨
    (f = .claiming loop .loop ∧ s.client.loop = none ∧
      s'.stack t = .claiming loop .clear :: rest) := by
  have hstack (s : Threads) : (s.without t f rest).stack t = rest := by simp [without]
  cases next with
  | @does s₁ u g below frames utop does =>
    by_cases hu : u = t
    · subst hu
      -- the step is the call's own
      obtain ⟨rfl, rfl⟩ := List.cons.inj (utop.symm.trans top)
      rcases does.asking asks below with ⟨g', rfl, hasks, hsame⟩ | ⟨rfl, rfl, next, e, rfl, hbars⟩ |
        ⟨rfl, hfree, rfl⟩
      · exact Or.inr (Or.inl ⟨g', by simp, hasks, hsame⟩)
      · exact Or.inr (Or.inr (Or.inl ⟨refused_without next, next, e, rfl, hbars⟩))
      · exact Or.inr (Or.inr (Or.inr ⟨rfl, hfree, by simp⟩))
    · -- a worker that is spawned is a new thread, and not the one that asks
      have hold : t ≠ .worker s.spawned := by
        rintro rfl
        exact Nat.lt_irrefl _ (orderly.spawned s.spawned (by simp [Works, top]))
      have htop : (s.without t f rest).stack u = g :: below := by simp [without, hu, utop]
      have hstep := Step.does htop (does.without orderly top hu)
      rw [put_without_comm hu] at hstep
      refine Or.inl ⟨?_, hstep, (hstack _).trans (hstack _).symm⟩
      simp [Ne.symm hu, does.stack_same hold, top]
  | @call u g free first =>
    have hu : u ≠ t := by
      rintro rfl
      exact asks_not_free top asks free
    have hfree : (s.without t f rest).Free u := by simpa [Free, without, hu] using free
    have hcall := Step.call hfree first
    have hsame : (s.without t f rest).stack u = s.stack u := by simp [without, hu]
    rw [hsame, put_without_comm hu] at hcall
    exact Or.inl ⟨by simp [Ne.symm hu, top], hcall, (hstack _).trans (hstack _).symm⟩
  | submit => exact Or.inl ⟨top, .submit, (hstack _).trans (hstack _).symm⟩
  | hear => exact Or.inl ⟨top, .hear, (hstack _).trans (hstack _).symm⟩

/-- A run in which a call asks is a run. -/
theorem Asked.path (asked : Asked s t loop s₁) : Path s s₁ := by
  induction asked with
  | begins free => exact Path.call free loop.first_begins
  | goes _ next _ _ ih => exact ih.tail next

/-- While a call asks, the state without it is one that the others come to by themselves. -/
theorem Asked.without (h : Reachable config network s) (asked : Asked s t loop s₁) :
    ∃ f, s₁.stack t = f :: s.stack t ∧ f.asks loop ∧
      ReflTransGen (Elsewhere t) s (s₁.without t f (s.stack t)) := by
  induction asked with
  | begins free =>
    refine ⟨loop.first, by simp, first_asks loop, ?_⟩
    rw [put_without, without_unlocked loop.first_unlocked, put_self]
  | @goes s₁ s₂ g before next top asks ih =>
    obtain ⟨f, hf, hasks, hpath⟩ := ih
    rcases (h.path before.path).orderly.asking hf hasks next with ⟨hsame, hstep⟩ |
      ⟨g', hg', -, hsame⟩ | ⟨hover, -⟩ | ⟨-, -, htaken⟩
    · obtain ⟨rfl, -⟩ := List.cons.inj (top.symm.trans hsame)
      exact ⟨g, top, asks, hpath.tail hstep⟩
    · obtain ⟨rfl, -⟩ := List.cons.inj (top.symm.trans hg')
      exact ⟨g, top, asks, hsame ▸ hpath⟩
    · -- a call that is refused does not ask any more
      have hrest : s₂.stack t = s.stack t := by rw [hover]; simp [Threads.without]
      exact absurd (top.symm.trans hrest) (List.cons_ne_self _ _)
    · obtain ⟨rfl, -⟩ := List.cons.inj (top.symm.trans htaken)
      simp [Frame.asks] at asks

/-- **A refused call can be taken out of the run.**  Whatever step comes next, a call that asks
    goes on asking; or it is refused for what it found, and the state is one that the others come
    to without it; or it takes the loop, which it found free. -/
theorem Asked.next (h : Reachable config network s) (asked : Asked s t loop s₁)
    (next : Step s₁ s₂) :
    Asked s t loop s₂ ∨
    (s₂.stack t = s.stack t ∧ ReflTransGen (Elsewhere t) s s₂ ∧
      ∃ check e, s₁.stack t = .claiming loop check :: s.stack t ∧ Bars s₁.client check e) ∨
    (s₁.stack t = .claiming loop .loop :: s.stack t ∧ s₁.client.loop = none ∧
      s₂.stack t = .claiming loop .clear :: s.stack t) := by
  obtain ⟨f, hf, hasks, hpath⟩ := asked.without h
  rcases (h.path asked.path).orderly.asking hf hasks next with ⟨hsame, -⟩ | ⟨g, hg, hasks', -⟩ |
    ⟨hover, check, e, rfl, hbars⟩ | ⟨rfl, hfree, htaken⟩
  · exact Or.inl (asked.goes next hsame hasks)
  · exact Or.inl (asked.goes next hg hasks')
  · refine Or.inr (Or.inl ⟨?_, hover ▸ hpath, check, e, hf, hbars⟩)
    rw [hover]
    simp [Threads.without]
  · exact Or.inr (Or.inr ⟨hf, hfree, htaken⟩)

/-! ## A refused call that nobody disturbs -/

/-- The state in which the call begins to ask: `start` has the lock. -/
def entered (s : Threads) (t : Thread) (loop : Loop) : Threads :=
  { s with lock := if loop = .worker then some t else s.lock }

/-- A call that has just begun can be taken out. -/
theorem entered_without {check : Claim} (unlocked : loop = .worker → s.lock = none) :
    (s.entered t loop).without t (.claiming loop check) (s.stack t) = s := by
  have hself := put_self s t
  cases loop with
  | worker =>
    have hlock : ({ s with lock := none } : Threads) = s := by rw [← unlocked rfl]
    have hput : ({ s.put t (s.stack t) with lock := none } : Threads) = { s with lock := none } :=
      congrArg (fun s' : Threads => { s' with lock := none }) hself
    exact hput.trans hlock
  | caller => exact hself

/-- A call that asks goes to its next check. -/
theorem Asked.goesOn (asked : Asked s t loop (s₁.put t (f :: s.stack t)))
    (does : Does (s₁.put t (f :: s.stack t)) t f (s₂.put t (f :: s.stack t)) [g])
    (asks : g.asks loop) : Asked s t loop (s₂.put t (g :: s.stack t)) :=
  .goes asked (Step.top does) (by simp) asks

/-- A call that has just begun asks. -/
theorem entered_asked (free : s.Free t) (unlocked : loop = .worker → s.lock = none) :
    Asked s t loop ((s.entered t loop).put t (.claiming loop .engine :: s.stack t)) := by
  have hbegins : Asked s t loop (s.put t (loop.first :: s.stack t)) := .begins free
  cases loop with
  | worker => exact hbegins.goesOn (.lock (unlocked rfl)) ⟨rfl, Or.inl rfl⟩
  | caller => exact hbegins

/-- A call that `perform` refuses is refused for the same reason if no other thread moves, and
    then the state is what it was. -/
theorem refused_alone {e : ClientError} (free : s.Free t) (whole : s.client.Whole)
    (unlocked : loop = .worker → s.lock = none) (fails : s.client.claim loop = .error e) :
    ∃ s₁ check, Asked s t loop s₁ ∧ s₁.stack t = .claiming loop check :: s.stack t ∧
      Bars s₁.client check e ∧ Step s₁ s := by
  let asking (check : Claim) : Threads :=
    (s.entered t loop).put t (.claiming loop check :: s.stack t)
  have hengine : Asked s t loop (asking .engine) := entered_asked free unlocked
  -- the step with which a check ends the call
  have hends {check : Claim} (does : Does (asking check) t (.claiming loop check)
      ((asking check).refuse loop) []) : Step (asking check) s := by
    have top : (asking check).stack t = .claiming loop check :: s.stack t := by simp [asking]
    have hstep := Step.does top does
    rwa [List.nil_append, refused_without check, put_without, entered_without unlocked] at hstep
  rcases claim_cases whole loop with ⟨hdead, hclaim⟩ | ⟨hlive, hunset, hclaim⟩ |
    ⟨hlive, hruns, hclaim⟩ | ⟨-, -, -, hclaim⟩
  · obtain rfl := Except.error.inj (fails.symm.trans hclaim)
    exact ⟨asking .engine, .engine, hengine, by simp [asking], .destroyed hdead,
      hends (.claimGone hdead)⟩
  · obtain rfl := Except.error.inj (fails.symm.trans hclaim)
    have hcallback : Asked s t loop (asking .callback) :=
      hengine.goesOn (.claimEngine hlive) ⟨rfl, Or.inr (Or.inl rfl)⟩
    exact ⟨asking .callback, .callback, hcallback, by simp [asking], .noCallback hunset,
      hends (.claimUnset hunset)⟩
  · obtain rfl := Except.error.inj (fails.symm.trans hclaim)
    have hset : s.client.callback ≠ none := by
      intro hunset
      simp [claim, hlive, hunset] at hclaim
    have hcallback : Asked s t loop (asking .callback) :=
      hengine.goesOn (.claimEngine hlive) ⟨rfl, Or.inr (Or.inl rfl)⟩
    have hloop : Asked s t loop (asking .loop) :=
      hcallback.goesOn (.claimCallback hset) ⟨rfl, Or.inr (Or.inr rfl)⟩
    exact ⟨asking .loop, .loop, hloop, by simp [asking], .alreadyRunning hruns,
      hends (.claimRunning hruns)⟩
  · cases fails.symm.trans hclaim

end Threads

end Client

end TxRelay
