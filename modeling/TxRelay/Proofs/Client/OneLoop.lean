/-
  One loop at a time, and the right to run it is always given back.

  A flag says whether a loop runs.  It is set by the step in which a call takes the loop, and
  cleared in a later one, by whoever has the right by then: the call that failed, the loop that
  ended.  In between the right goes from `start` to the thread that it spawns, callbacks make calls
  of their own, and other threads try to take the loop.

  1. **Callbacks.**  A callback is always the one that the loop below it called (`Layered`), so in a
     stack there are no more callbacks than loops.

  2. **Leaving.**  `Guards` adds a step to every way out: a thread finds out that it does not go on
     (`leave`), and gives the right back later (`giveBack`).  `Single` says that whoever is leaving
     still has the right with the innermost frame, so the flag is cleared for a loop that is over
     and for no other one (`Single.given`).

  3. **Ways out.**  `Exits` are the ends of a claimed call: the engine is gone, no thread can be
     had, the loop ended.  Each of them gives the right back (`Single.exits`).

  4. **Same program.**  The steps of `Threads` are made of these (`Reachable.ends`,
     `Reachable.of_threads`): where nobody comes between leaving and giving back, the two are one
     step.

  The crux is that between leaving and giving back the flag still says that a loop runs, so every
  other claim is refused, and the refused call has nothing that it could give back.
-/
import TxRelay.Client.Guards
import TxRelay.Proofs.Client.Joining
import TxRelay.Proofs.Client.Owner

namespace TxRelay.Client

variable {config : Config} {network : Network} {g g' : Guards} {s s' : Threads} {t u : Thread}
  {f : Frame} {rest frames : List Frame}

/-! ## Callbacks above their loop -/

/-- Each callback was called by the loop below it. -/
def Layered (stack : List Frame) : Prop :=
  ∀ rest, .calling :: rest <:+ stack → rest.head? = some (.looping .orders)

/-- What lies below a callback is layered too. -/
theorem Layered.below (h : Layered (f :: rest)) : Layered rest :=
  fun _ hsuffix => h _ (hsuffix.trans (List.suffix_cons f rest))

/-- A frame that is no callback may lie on anything. -/
theorem Layered.cons (h : Layered rest) (other : f ≠ .calling) : Layered (f :: rest) := by
  intro after hsuffix
  rcases List.suffix_cons_iff.mp hsuffix with heq | hbelow
  · exact absurd (List.cons.inj heq).1.symm other
  · exact h after hbelow

/-- There are no more callbacks than loops, and fewer if a loop is innermost. -/
theorem Layered.count_le {stack : List Frame} (h : Layered stack) :
    stack.count .calling ≤ stack.countP Frame.owns ∧
    (stack.head? = some (.looping .orders) →
      stack.count .calling < stack.countP Frame.owns) := by
  induction stack with
  | nil => simp
  | cons f rest ih =>
    obtain ⟨hle, hlt⟩ := ih h.below
    by_cases hcalling : f = .calling
    · subst hcalling
      have hless := hlt (h rest (List.suffix_refl _))
      rw [List.count_cons_self, List.countP_cons_of_neg (by simp [Frame.owns])]
      exact ⟨hless, by simp⟩
    · rw [List.count_cons_of_ne (by simpa using hcalling)]
      have hmore : rest.countP Frame.owns ≤ (f :: rest).countP Frame.owns :=
        (List.sublist_cons_self f rest).countP_le
      refine ⟨Nat.le_trans hle hmore, fun hloop => ?_⟩
      obtain rfl := Option.some.inj hloop
      rw [List.countP_cons_of_pos rfl]
      exact Nat.lt_succ_of_le hle

namespace Does

/-- What takes the place of a frame is in no callback, or it is a callback that begins above its
    loop. -/
theorem callback_above (h : Does s t f s' frames) :
    frames = [] ∨ (∃ f', frames = [f'] ∧ f' ≠ .calling) ∨
      frames = [.calling, .looping .orders] := by
  cases h with
  | begin set => exact Or.inr (Or.inr rfl)
  -- calls and loops that are over
  | checkGone | set | claimGone | claimUnset | claimRunning | claimLate | spawnFails | unlock
  | swapGone | takeNone | takeOwn | join | stopped | gone | pollGone | pollFails | «return» =>
    exact Or.inl rfl
  | _ => exact Or.inr (Or.inl ⟨_, rfl, nofun⟩)

/-- A step keeps every callback on its loop. -/
theorem layered (h : Does s t f s' frames) (layered : Layered (f :: rest)) :
    Layered (frames ++ rest) := by
  rcases h.callback_above with rfl | ⟨f', rfl, hother⟩ | rfl
  · exact layered.below
  · exact layered.below.cons hother
  · have hloop : Layered (.looping .orders :: rest) := layered.below.cons (by simp)
    intro after hsuffix
    rcases List.suffix_cons_iff.mp hsuffix with heq | hbelow
    · rw [(List.cons.inj heq).2]
      rfl
    · exact hloop after hbelow

/-- The step that gives the right back is that of a thread which has it, and does nothing else but
    to unlock the slot of the handle. -/
theorem ends_cases (h : Does s t f s' frames) (ends : s.Ends s') :
    f.owns = true ∧ frames = [] ∧ s'.client.loop = none ∧
    s' = { s.withClient s'.client with lock := if f.onward = [] then s.lock else none } := by
  obtain ⟨hruns, hover⟩ := ends
  cases h with
  | @claimLate loop e late => cases loop <;> simp [Frame.owns, Frame.onward]
  | spawnFails => simp [Frame.owns, Frame.onward]
  | stopped asked => simp [Frame.owns, Frame.onward, endLoop]
  | gone gone => simp [Frame.owns, Frame.onward, endLoop]
  | pollGone gone => simp [Frame.owns, Frame.onward, endLoop]
  | pollFails fails => simp [Frame.owns, Frame.onward, endLoop]
  | claimLoop free =>
    rw [isRunning, free] at hruns
    cases hruns
  -- no other step changes whether a loop runs
  | _ => exact Bool.noConfusion (hruns.symm.trans hover)

end Does

/-- What is left to do for a thread that gave the right back is to unlock. -/
theorem Frame.onward_cases (f : Frame) : f.onward = [] ∨ f.onward = [.unlocking] := by
  unfold Frame.onward
  split
  · exact Or.inr rfl
  · exact Or.inr rfl
  · exact Or.inl rfl

/-- A step that leaves the flag as it is gives nothing back. -/
theorem Threads.not_ends (same : s'.client.loop = s.client.loop) : ¬ s.Ends s' := by
  rintro ⟨hruns, hover⟩
  rw [isRunning, same] at hover
  exact absurd (hruns.symm.trans hover) (by simp)

namespace Guards

open Threads (Exclusive spawned_after founded_top)

/-! ## Who has the right, and who gives it back -/

/-- One thread has the right to run the loop while one runs; who is about to give it back has
    it. -/
structure Single (g : Guards) : Prop where
  exclusive : Exclusive g.threads
  spawned : ∀ k, g.threads.Works k → k < g.threads.spawned
  leaving : ∀ t, g.leaving t = true → ∃ f rest, g.threads.stack t = f :: rest ∧ f.owns = true
  layered : ∀ t, Layered (g.threads.stack t)

/-- Nobody has the right, nobody is leaving. -/
theorem Single.initial : Single { threads := { client := .new config network } } where
  exclusive := Exclusive.initial
  spawned := fun _ h => absurd rfl h
  leaving := fun _ h => by cases h
  layered := fun _ _ h => by simp at h

/-- The slots of the client change, but not whether a loop runs. -/
theorem Single.withClient {c : Client} (h : Single g) (loop : c.loop = g.threads.client.loop) :
    Single { g with threads := g.threads.withClient c } :=
  ⟨h.exclusive.withClient loop, h.spawned, h.leaving, h.layered⟩

/-- A step of a thread that is not leaving. -/
theorem Single.does (h : Single g) (top : g.threads.stack t = f :: rest)
    (stays : g.leaving t = false) (does : Does g.threads t f s' frames) :
    Single { g with threads := s'.put t (frames ++ rest) } where
  exclusive :=
    ⟨h.exclusive.does_owner top does h.spawned, fun _ => h.exclusive.does_founded top does⟩
  spawned := fun k works =>
    show k < s'.spawned from spawned_after h.spawned top does works
  leaving := by
    intro u leaves
    obtain ⟨f', rest', hstack, howns⟩ := h.leaving u leaves
    -- a thread that is leaving does nothing but give back
    have hother : u ≠ t := by
      rintro rfl
      exact absurd (leaves.symm.trans stays) (by simp)
    have hold : u ≠ .worker g.threads.spawned := by
      rintro rfl
      exact Nat.lt_irrefl _ (h.spawned _ (by simp [Threads.Works, hstack]))
    exact ⟨f', rest', by simp [hother, does.stack_same hold, hstack], howns⟩
  layered := by
    intro u
    by_cases hu : u = t
    · subst hu
      have hlayered := h.layered u
      rw [top] at hlayered
      simpa using does.layered hlayered
    · have hstack : (s'.put t (frames ++ rest)).stack u = s'.stack u := by simp [hu]
      show Layered ((s'.put t (frames ++ rest)).stack u)
      rw [hstack]
      rcases does.stack_other u with hsame | ⟨-, hloop⟩
      · rw [hsame]
        exact h.layered u
      · rw [hloop]
        exact Layered.cons (fun _ hsuffix => by simp at hsuffix) (by simp)

/-- A callback that panics is over, like one that returns. -/
theorem Single.over (h : Single g) (top : g.threads.stack t = .calling :: rest) :
    Single { g with threads := g.threads.put t rest } := by
  have hstays : g.leaving t = false := by
    rw [← Bool.not_eq_true]
    intro leaves
    obtain ⟨f, rest', hstack, howns⟩ := h.leaving t leaves
    obtain ⟨rfl, -⟩ := List.cons.inj (top.symm.trans hstack)
    cases howns
  exact h.does top hstays .return

/-- A thread finds out that it does not go on, and keeps the right until it gives it back. -/
theorem Single.leave (h : Single g) (top : g.threads.stack t = f :: rest)
    (does : Does g.threads t f s' frames) (ends : g.threads.Ends s') : Single (g.leave t s') := by
  have hsame : Single { g with threads := (g.leave t s').threads } := h.withClient rfl
  refine ⟨hsame.exclusive, hsame.spawned, fun u leaves => ?_, hsame.layered⟩
  have hleaves : u = t ∨ g.leaving u = true := by simpa [Guards.leave] using leaves
  rcases hleaves with rfl | hbefore
  · exact ⟨f, rest, top, (does.ends_cases ends).1⟩
  · exact h.leaving u hbefore

/-- Nobody has the right any more when it was given back. -/
theorem Single.given (h : Single g) (top : g.threads.stack t = f :: rest)
    (leaves : g.leaving t = true) (u : Thread) :
    ((g.giveBack t (f.onward ++ rest)).threads.stack u).countP Frame.owns = 0 := by
  obtain ⟨f', rest', hstack, howns⟩ := h.leaving t leaves
  obtain ⟨rfl, rfl⟩ := List.cons.inj (top.symm.trans hstack)
  have hnone : f.onward.countP Frame.owns = 0 := by
    rcases f.onward_cases with honward | honward <;> rw [honward] <;> rfl
  have hstill : (g.threads.withClient { g.threads.client with loop := none }).stack =
      g.threads.stack := rfl
  exact h.exclusive.given_up top howns hstill hnone u

/-- The right is given back by the one who has it. -/
theorem Single.giveBack (h : Single g) (top : g.threads.stack t = f :: rest)
    (leaves : g.leaving t = true) : Single (g.giveBack t (f.onward ++ rest)) where
  exclusive := by
    refine ⟨⟨none, rfl, fun u => h.given top leaves u⟩, fun k => ?_⟩
    have hold := h.exclusive.founded k
    by_cases hself : t = .worker k
    · subst hself
      rw [top] at hold
      have hlast : ∀ x ∈ (f.onward ++ rest).getLast?, ∃ turn, x = .looping turn :=
        founded_top hold fun turn hturn x hx => by
          subst hturn
          cases hx
      simpa [Guards.giveBack] using hlast
    · simpa [Guards.giveBack, Ne.symm hself] using hold
  spawned := by
    intro k works
    by_cases hself : t = .worker k
    · subst hself
      exact h.spawned k (by simp [Threads.Works, top])
    · exact h.spawned k (by simpa [Guards.giveBack, Threads.Works, Ne.symm hself] using works)
  leaving := by
    intro u hleaving
    obtain ⟨hu, hbefore⟩ : u ≠ t ∧ g.leaving u = true := by
      simpa [Guards.giveBack] using hleaving
    obtain ⟨f', rest', hstack, howns⟩ := h.leaving u hbefore
    exact ⟨f', rest', by simp [Guards.giveBack, hu, hstack], howns⟩
  layered := by
    intro u
    by_cases hu : u = t
    · subst hu
      have hlayered := h.layered u
      rw [top] at hlayered
      have hstack : (g.giveBack u (f.onward ++ rest)).threads.stack u = f.onward ++ rest := by
        simp [Guards.giveBack]
      rw [hstack]
      -- a `start` that failed has its lock to free
      rcases f.onward_cases with hnone | hunlocks
      · rw [hnone]
        exact hlayered.below
      · rw [hunlocks]
        exact hlayered.below.cons (by simp)
    · simpa [Guards.giveBack, hu] using h.layered u

/-- A call that begins, on a thread that is free for it. -/
theorem Single.call (h : Single g) (free : g.threads.Free t) (first : f.first = true) :
    Single { g with threads := g.threads.put t (f :: g.threads.stack t) } where
  exclusive := h.exclusive.call free first
  spawned := by
    intro k works
    by_cases hself : t = .worker k
    · subst hself
      rcases free with ⟨-, i, hi⟩ | ⟨rest, hrest⟩
      · cases hi
      · exact h.spawned k (by simp [Threads.Works, hrest])
    · exact h.spawned k (by simpa [Threads.Works, Ne.symm hself] using works)
  leaving := by
    intro u leaves
    obtain ⟨f', rest', hstack, howns⟩ := h.leaving u leaves
    have hother : u ≠ t := by
      rintro rfl
      -- a thread that is leaving is free for no call
      rcases free with ⟨hnone, -⟩ | ⟨below, hcalling⟩
      · cases hnone.symm.trans hstack
      · obtain ⟨rfl, -⟩ := List.cons.inj (hcalling.symm.trans hstack)
        cases howns
    exact ⟨f', rest', by simp [hother, hstack], howns⟩
  layered := by
    intro u
    by_cases hu : u = t
    · subst hu
      have hother : f ≠ .calling := by
        rintro rfl
        cases first
      simpa using (h.layered u).cons hother
    · simpa [hu] using h.layered u

/-- Every step keeps the right in one hand. -/
theorem Single.step (h : Single g) (next : Step g g') : Single g' := by
  cases next with
  | does top stays does keeps => exact h.does top stays does
  | leave top stays does ends => exact h.leave top does ends
  | giveBack top leaves => exact h.giveBack top leaves
  | panic top => exact (h.over top).withClient rfl
  | @unwind t rest top =>
    have hover := h.over top
    refine ⟨hover.exclusive, hover.spawned, fun u leaves => ?_, hover.layered⟩
    have hleaves : u = t ∨ g.leaving u = true := by simpa using leaves
    rcases hleaves with rfl | hbefore
    · -- the loop below the callback is unwound
      have hlayered := h.layered u
      rw [top] at hlayered
      obtain ⟨more, hloop⟩ := List.head?_eq_some_iff.mp (hlayered rest (List.suffix_refl _))
      exact ⟨.looping .orders, more, by simpa using hloop, rfl⟩
    · exact hover.leaving u hbefore
  | call free first => exact h.call free first
  | @submit rawTx endpoint jobId =>
    obtain ⟨engine, hengine⟩ :=
      Threads.broadcast_engine g.threads.client rawTx endpoint jobId
    exact h.withClient (by rw [hengine])
  | hear => exact h.withClient rfl

/-- In every state one thread at most has the right. -/
theorem Reachable.single (h : Reachable config network g) : Single g := by
  induction h with
  | initial => exact Single.initial
  | step _ next ih => exact ih.step next

/-- The loop is free, and nobody has the right to run one. -/
def Released (g : Guards) : Prop :=
  g.threads.client.isRunning = false ∧ ∀ u, ∀ f ∈ g.threads.stack u, f.owns = false

/-- When the right is given back nobody has it. -/
theorem Single.released (h : Single g) (top : g.threads.stack t = f :: rest)
    (leaves : g.leaving t = true) : (g.giveBack t (f.onward ++ rest)).Released :=
  ⟨rfl, fun u => Frame.none_owns.mp (h.given top leaves u)⟩

/-- Whoever is about to give the right back does so before all else. -/
theorem Single.leaving_after (h : Single g) (next : Step g g') (leaves : g.leaving t = true) :
    g'.leaving t = true ∨ g'.Released := by
  cases next with
  | @giveBack u f rest top hleaves =>
    by_cases hu : t = u
    · subst hu
      exact Or.inr (h.released top hleaves)
    · exact Or.inl (by simp [Guards.giveBack, hu, leaves])
  | leave => exact Or.inl (by simp [Guards.leave, leaves])
  | unwind => exact Or.inl (by simp [leaves])
  | does | panic | call | submit | hear => exact Or.inl leaves

/-! ## The ways out -/

/-- The ways out for a thread that has the right to run the loop. -/
inductive Exits (s : Threads) (t : Thread) : Prop where
  | stopped {rest : List Frame} (top : s.stack t = .looping .orders :: rest)
      (asked : s.client.stopAsked = true)
  /-- A destroyed client: the loop finds no engine, or its poll learns of it. -/
  | gone {rest : List Frame} (top : s.stack t = .looping .engine :: rest)
      (gone : s.client.alive = false)
  | pollGone {rest : List Frame} (top : s.stack t = .looping .poll :: rest)
      (gone : s.client.engine.phase = .destroyed)
  /-- The engine was destroyed after the claim loaded it. -/
  | late {loop : Loop} {rest : List Frame} (top : s.stack t = .claiming loop .work :: rest)
      (gone : s.client.engine.phase = .destroyed)
  /-- No thread can be spawned. -/
  | unspawned {rest : List Frame} (top : s.stack t = .spawning :: rest)
  | panicked {rest : List Frame} (top : s.stack t = .calling :: rest)

/-- Who finds out that it is over is about to give the right back. -/
theorem Single.leaves (h : Single g) (stays : g.leaving t = false) (owns : f.owns = true)
    (top : g.threads.stack t = f :: rest) (does : Does g.threads t f s' [])
    (ended : s'.client.loop = none) : ∃ g', Step g g' ∧ g'.leaving t = true := by
  have hruns : g.threads.client.isRunning = true :=
    h.exclusive.runs_iff.mpr ⟨t, f, by simp [top], owns⟩
  have hends : g.threads.Ends s' := ⟨hruns, by rw [isRunning, ended]; rfl⟩
  exact ⟨g.leave t s', .leave top stays does hends, by simp [Guards.leave]⟩

/-- Each way out comes to giving the right back. -/
theorem Single.exits (h : Single g) (exits : Exits g.threads t) (stays : g.leaving t = false) :
    ∃ g', Step g g' ∧ g'.leaving t = true := by
  cases exits with
  | stopped top asked => exact h.leaves stays rfl top (.stopped asked) rfl
  | gone top gone => exact h.leaves stays rfl top (.gone gone) rfl
  | pollGone top gone => exact h.leaves stays rfl top (.pollGone gone) rfl
  | late top gone =>
    have hlate : g.threads.client.engine.startWorking.1 = .error .destroyed := by
      simp [Engine.startWorking, gone]
    exact h.leaves stays rfl top (.claimLate hlate) rfl
  | unspawned top => exact h.leaves stays rfl top .spawnFails rfl
  | panicked top => exact ⟨_, .unwind top, by simp⟩

/-! ## The steps of `Threads` are made of these -/

/-- A thread gives the right back as soon as it found out that it does not go on. -/
theorem Reachable.ends (h : Reachable config network ⟨s, fun _ => false⟩)
    (top : s.stack t = f :: rest) (does : Does s t f s' frames) (ends : s.Ends s') :
    Reachable config network ⟨s'.put t (frames ++ rest), fun _ => false⟩ := by
  obtain ⟨-, rfl, hloop, hsame⟩ := does.ends_cases ends
  have hleft := h.step (.leave top rfl does ends)
  -- to leave and to give back, one right after the other
  have hgiven := hleft.step (@Step.giveBack _ t f rest top (by simp [Guards.leave]))
  have hclient : ({ s'.client with loop := none } : Client) = s'.client := by rw [← hloop]
  have hnobody : (fun u => decide (u ≠ t) && (decide (u = t) || false)) = fun _ => false := by
    funext u
    by_cases hu : u = t <;> simp [hu]
  have hthreads : Reachable config network
      ⟨(s.withClient s'.client).put t (f.onward ++ rest), fun _ => false⟩ := by
    rw [← hclient, ← hnobody]
    exact hgiven
  rcases f.onward_cases with honward | honward
  · rw [honward] at hthreads
    rw [hsame, if_pos honward]
    exact hthreads
  · rw [honward] at hthreads
    have hunlocked := hthreads.step (@Step.does _ t _ .unlocking rest [] (by simp) rfl .unlock
      (Threads.not_ends rfl))
    rw [hsame, if_neg (by simp [honward])]
    have hput := Threads.put_put
      { s.withClient s'.client with lock := none } t ([.unlocking] ++ rest) rest
    rw [List.nil_append, ← hput]
    exact hunlocked

/-- What `Threads` can come to, this can come to, with nobody leaving. -/
theorem Reachable.of_threads (h : Threads.Reachable config network s) :
    Reachable config network ⟨s, fun _ => false⟩ := by
  induction h with
  | initial => exact .initial
  | @step s _ _ next ih =>
    cases next with
    | @does s' t f rest frames top does =>
      by_cases hends : s.Ends s'
      · exact ih.ends top does hends
      · exact ih.step (.does top rfl does hends)
    | call free first => exact ih.step (.call free first)
    | submit => exact ih.step .submit
    | hear => exact ih.step .hear

/-! ## One loop -/

/-- **One loop at a time, and it is always given back.**  Whatever calls of `start`, `run`, `stop`
    and `destroy` were made by any threads and from inside callbacks, in any order of their steps:
    one thread at most has the right to run the loop, once, and the flag says whether one has it;
    so callbacks never run side by side.  Each way out leads to giving the right back, which
    nothing can keep a thread from and which clears the flag; until then the thread does nothing
    else.  A claim is refused only while a thread has the right, and changes nothing then. -/
theorem one_loop (h : Reachable config network g) :
    (∃ owner : Option Thread, owner.isSome = g.threads.client.isRunning ∧
      ∀ t, (g.threads.stack t).countP Frame.owns = if owner = some t then 1 else 0) ∧
    (∀ t, (g.threads.stack t).count .calling ≤ 1 ∧
      (.calling ∈ g.threads.stack t → g.threads.client.isRunning = true ∧
        ∀ u, .calling ∈ g.threads.stack u → u = t)) ∧
    (∀ t, Exits g.threads t → g.leaving t = false → ∃ g', Step g g' ∧ g'.leaving t = true) ∧
    (∀ t, g.leaving t = true → (∃ g', Step g g' ∧ g'.Released) ∧
      ∀ g', Step g g' → g'.leaving t = true ∨ g'.Released) ∧
    (∀ t loop s' frames, Does g.threads t (.claiming loop .loop) s' frames →
      (frames = [] ∧ s'.client = g.threads.client ∧
        ∃ u, ∃ f ∈ g.threads.stack u, f.owns = true) ∨
      (frames = [.claiming loop .clear] ∧ s'.client.isRunning = true ∧ g.Released)) := by
  have single := h.single
  obtain ⟨owner, hloop, hcount⟩ := single.exclusive.owner
  -- a callback has a loop below it, and the loop has the right
  have hcalls (t : Thread) :
      (g.threads.stack t).count .calling ≤ if owner = some t then 1 else 0 := by
    rw [← hcount t]
    exact (single.layered t).count_le.1
  have howner (t : Thread) (calls : .calling ∈ g.threads.stack t) : owner = some t := by
    have hpos := List.count_pos_iff.mpr calls
    have hle := hcalls t
    by_contra hother
    rw [if_neg hother] at hle
    omega
  refine ⟨⟨owner, hloop, hcount⟩, fun t => ⟨?_, fun calls => ⟨?_, fun u hu => ?_⟩⟩,
    fun t exits stays => single.exits exits stays, fun t leaves => ⟨?_, ?_⟩, ?_⟩
  · have hle := hcalls t
    split at hle <;> omega
  · rw [isRunning, ← hloop, howner t calls]
    rfl
  · exact Option.some.inj ((howner u hu).symm.trans (howner t calls))
  · obtain ⟨f, rest, hstack, -⟩ := single.leaving t leaves
    exact ⟨_, .giveBack hstack leaves, single.released hstack leaves⟩
  · exact fun g' next => single.leaving_after next leaves
  · intro t loop s' frames does
    cases does with
    | claimRunning runs => exact Or.inl ⟨rfl, rfl, single.exclusive.runs_iff.mp runs⟩
    | claimLoop free =>
      have hidle : g.threads.client.isRunning = false := by rw [isRunning, free]; rfl
      refine Or.inr ⟨rfl, rfl, hidle, fun u f hf => ?_⟩
      rw [← Bool.not_eq_true]
      intro howns
      have hruns := single.exclusive.runs_iff.mpr ⟨u, f, hf, howns⟩
      exact absurd (hruns.symm.trans hidle) (by simp)

/-- A worker is in a callback, and two other threads do nothing. -/
theorem busy_loop : ∃ s, Threads.Reachable {} (.standIn {}) s ∧ s.client.alive = true ∧
    s.client.callback ≠ none ∧ s.stack (.worker 0) = [.calling, .looping .orders] ∧
    s.stack (.outside 0) = [] ∧ s.stack (.outside 1) = [] := by
  obtain ⟨s, hs, there, -, -, -, hcallback, hfree, hother⟩ := Threads.busy_worker
  let set : ClientCall := .setCallback "callback" (fun _ => []) (fun _ => true)
  have hset : Threads.Path s (s.withClient (s.client.perform set).2) :=
    Threads.set_alone (t := .outside 0) (Or.inl ⟨hfree, 0, rfl⟩) (by simp [perform, there])
  refine ⟨_, hs.path hset, ?_, ?_, hcallback, hfree, hother⟩
  · simp [set, perform, there]
  · simp [set, perform, there]

/-- A callback panicked, and its loop found the order to stop and is about to give the right back;
    in between another thread finds the loop taken. -/
theorem one_loop_contended : ∃ g, Reachable {} (.standIn {}) g ∧
    g.leaving (.worker 0) = true ∧ g.threads.stack (.outside 0) = [.claiming .caller .loop] ∧
    (∃ g', Step g g' ∧ g'.Released) ∧
    ∀ s' frames, Does g.threads (.outside 0) (.claiming .caller .loop) s' frames →
      frames = [] ∧ s'.client = g.threads.client := by
  obtain ⟨s, hs, there, set, hcallback, hfree, hother⟩ := busy_loop
  have hbusy := Reachable.of_threads hs
  have hruns : s.client.isRunning = true :=
    hbusy.single.exclusive.runs_iff.mpr ⟨.worker 0, .looping .orders, by simp [hcallback], rfl⟩
  -- one thread orders the loop to stop, the callback panics, and the loop finds the order
  have hcall := hbusy.step
    (@Step.call _ (.outside 1) (.ordering .stop) (Or.inl ⟨hother, 1, rfl⟩) rfl)
  have horder := hcall.step
    (@Step.does _ (.outside 1) _ _ _ _ rfl rfl .order (Threads.not_ends rfl))
  have hpanic := horder.step (@Step.panic _ (.worker 0) [.looping .orders] hcallback)
  have hleave := hpanic.step
    (@Step.leave _ (.worker 0) _ _ _ _ rfl rfl (.stopped rfl) ⟨hruns, rfl⟩)
  -- another thread comes as far as the taking of the loop
  have hrun := hleave.step
    (@Step.call _ (.outside 0) (.claiming .caller .engine) (Or.inl ⟨hfree, 0, rfl⟩) rfl)
  have hengine := hrun.step
    (@Step.does _ (.outside 0) _ _ _ _ rfl rfl (.claimEngine there) (Threads.not_ends rfl))
  have hclaim := hengine.step
    (@Step.does _ (.outside 0) _ _ _ _ rfl rfl (.claimCallback set) (Threads.not_ends rfl))
  obtain ⟨-, -, -, hgives, hrefused⟩ := one_loop hclaim
  refine ⟨_, hclaim, rfl, ?_, (hgives (.worker 0) rfl).1, fun s' frames does => ?_⟩
  · exact congrArg (Frame.claiming .caller .loop :: ·) hfree
  · rcases hrefused _ _ s' frames does with ⟨hover, hsame, -⟩ | ⟨-, -, -, hnobody⟩
    · exact ⟨hover, hsame⟩
    · -- the loop that is over still has the right
      have howns := hnobody (.worker 0) (.looping .orders) (by simp [Guards.leave])
      cases howns

end Guards

end TxRelay.Client
