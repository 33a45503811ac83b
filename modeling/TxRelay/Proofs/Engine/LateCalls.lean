/-
  Calls of the network after the end of the engine.

  Once `destroy` has returned, whoever looks at the signal finds it.  But a select that is not
  biased may begin with its work: the dispatcher still receives the requests that were queued, and
  their tasks call the network (`broadcast_after_destroy`).  What holds is a bound.  A job is called
  at most once, and only the jobs that waited for their call, or were just being submitted, can
  still be called.  Were the selects biased, only the tasks caught in the middle of a poll could.

  A step has many parts, and each invariant needs few of them; so a step is seen from two sides, and
  every invariant is derived from one of them.

  1. **Seen from the signal.**  `Tends` says what a step does to the waits of the selects and to the
     signal: a wait is made, polled, over or dropped.  A step of an engine is a few of these one
     after the other (`Step.tends`).  From them: every select has a wait of its own which is there
     (`Manned`), the flag stays set, and what was heard stays heard.  The steps of `destroy` are the
     only others, and `Step.closing` lists them.  `Signalled` puts this together.

  2. **Seen from the jobs.**  `Moves` says what a step does to the jobs that were not called: it
     keeps them or loses some, accepts one, or calls one.  From this: each number is called once
     (`Numbered`), and after the end each call uses up a job of the backlog (`Step.backlog`).

  3. **Biased selects.**  A task is caught if its select polls the broadcast now and has not done so
     before.  After the signal a biased select begins with the signal, and finds it; so no further
     task is caught (`Step.caught`).

  4. **The run.**  `After` relates a state to a later one, and is kept by one more step; the theorem
     reads off it what was called in between.

  The crux is that one induction carries all of it: the bounds need that the engine is destroyed and
  the signal heard at every step on the way, and both come with `Signalled`.
-/
import Mathlib.Data.List.Perm.Subperm
import Mathlib.Logic.Relation
import TxRelay.Engine.Tasks
import TxRelay.Proofs.Engine.Alone
import TxRelay.Proofs.Shutdown

namespace TxRelay.Engine

open Relation (ReflTransGen)

/-! ## Seen from the signal -/

/-- The wait of the dispatcher's select. -/
def Dispatcher.waits : Dispatcher → List Nat
  | .selecting select => [select.wait]
  | _ => []

/-- What a step does to the waits of the selects. -/
inductive Tends : List Nat × Shutdown → List Nat × Shutdown → Prop where
  | make {waits : List Nat} {shutdown : Shutdown} :
      Tends (waits, shutdown) (shutdown.wait.1 :: waits, shutdown.wait.2)
  | unheard {waits : List Nat} {shutdown : Shutdown} {i : Nat}
      (pending : (shutdown.poll i).1 = .pending) :
      Tends (waits, shutdown) (waits, (shutdown.poll i).2)
  | hear {waits : List Nat} {shutdown : Shutdown} {i : Nat} :
      Tends (i :: waits, shutdown) (waits, (shutdown.poll i).2)
  | drop {waits : List Nat} {shutdown : Shutdown} {i : Nat} :
      Tends (i :: waits, shutdown) (waits, (shutdown.cancel i).2)
  | shuffle {waits waits' : List Nat} {shutdown : Shutdown} (perm : waits.Perm waits') :
      Tends (waits, shutdown) (waits', shutdown)

/-- Each select has a wait of its own, which is not over. -/
structure Manned (waits : List Nat) (shutdown : Shutdown) : Prop where
  alive : ∀ i ∈ waits, shutdown.Waits i
  distinct : waits.Nodup

/-- One select is done, and the waits of the others are as they were. -/
theorem Manned.less {waits : List Nat} {shutdown shutdown' : Shutdown} {i : Nat}
    (h : Manned (i :: waits) shutdown)
    (others : ∀ j, i ≠ j → shutdown.Waits j → shutdown'.Waits j) : Manned waits shutdown' := by
  obtain ⟨hfresh, hdistinct⟩ := List.nodup_cons.mp h.distinct
  refine ⟨fun j hj => others j ?_ (h.alive j (List.mem_cons_of_mem i hj)), hdistinct⟩
  rintro rfl
  exact hfresh hj

/-- Each select keeps a wait of its own: one that is made is new, one that is done takes its wait
    with it. -/
theorem Tends.manned {p q : List Nat × Shutdown} (tends : Tends p q) (h : Manned p.1 p.2) :
    Manned q.1 q.2 := by
  cases tends with
  | @make waits shutdown =>
    refine ⟨fun i hi => ?_, List.nodup_cons.mpr ⟨fun hmem => ?_, h.distinct⟩⟩
    · rcases List.mem_cons.mp hi with rfl | hold
      · exact .new shutdown
      · exact (h.alive i hold).wait
    · -- a new wait has the next number, which no other one has
      exact Nat.lt_irrefl _ (h.alive _ hmem).lt
  | @unheard waits shutdown i pending =>
    refine ⟨fun j hj => ?_, h.distinct⟩
    by_cases hij : i = j
    · subst hij
      exact .pending pending
    · exact (h.alive j hj).poll hij
  | hear => exact h.less fun _ other waits => waits.poll other
  | drop => exact h.less fun _ other waits => waits.cancel other
  | shuffle perm =>
    exact ⟨fun i hi => h.alive i (perm.mem_iff.mpr hi), perm.nodup_iff.mp h.distinct⟩

/-- What was heard stays heard. -/
theorem Tends.heard {p q : List Nat × Shutdown} (tends : Tends p q) (h : p.2.Heard) :
    q.2.Heard := by
  cases tends with
  | make => exact h.wait
  | unheard => exact h.poll _
  | hear => exact h.poll _
  | drop => exact h.cancel _
  | shuffle => exact h

/-- The waits do not touch the flag. -/
theorem Tends.triggered {p q : List Nat × Shutdown} (tends : Tends p q) :
    q.2.triggered = p.2.triggered := by
  cases tends with
  | make => rfl
  | unheard | hear => exact Shutdown.triggered_poll
  | drop => exact Shutdown.triggered_cancel
  | shuffle => rfl

/-- What each of them keeps holds in the end. -/
theorem Tends.path {Law : List Nat × Shutdown → Prop} {p q : List Nat × Shutdown}
    (keeps : ∀ {p q}, Tends p q → Law p → Law q) (path : ReflTransGen Tends p q) (h : Law p) :
    Law q := by
  induction path with
  | refl => exact h
  | tail _ last ih => exact keeps last ih

/-- A poll of a select goes on, among other waits. -/
theorem Select.Polls.tends {opening : Branch → Prop} {select select' : Select}
    {shutdown shutdown' : Shutdown} (polls : select.Polls opening shutdown shutdown' select')
    (before after : List Nat) :
    ReflTransGen Tends (before ++ select.wait :: after, shutdown)
      (before ++ select'.wait :: after, shutdown') := by
  cases polls with
  | turn opens => exact .refl
  | unheard looks pending => exact .single (.unheard pending)

/-- A biased select looks at the signal first, and finds it once it was sent. -/
theorem Select.Polls.heeds {opening : Branch → Prop} {select select' : Select}
    {shutdown shutdown' : Shutdown} (polls : select.Polls opening shutdown shutdown' select')
    (heard : shutdown.Heard) (biased : ∀ b, opening b → b = .signal) :
    select'.look.branch? = some .signal := by
  cases polls with
  | turn opens => rw [biased _ opens]; rfl
  | unheard looks pending => exact absurd pending heard.not_pending

/-- The task polls its broadcast now, and has not done so before. -/
def JobTask.about (task : JobTask) : Bool :=
  !task.begun && decide (task.select.look.branch? = some .work)

namespace Tasks

variable {validate : Validate} {opening : Branch → Prop} {pollInterval : UInt64}
  {s s' : Tasks}

/-- The waits of all selects. -/
def waits (s : Tasks) : List Nat := s.dispatcher.waits ++ s.jobs.map (·.select.wait)

/-- While there is no select of the dispatcher, the waits are those of the tasks. -/
theorem waits_unspawned (none : s.dispatcher.waits = []) :
    s.waits = s.jobs.map (·.select.wait) := by
  rw [waits, none, List.nil_append]

/-- The dispatcher's wait stands in front. -/
theorem waits_selecting {select : Select} (selects : s.dispatcher = .selecting select) :
    s.waits = select.wait :: s.jobs.map (·.select.wait) := by
  rw [waits, selects]
  rfl

theorem waits_append {before after : List JobTask} (held : s.jobs = before ++ after) :
    s.waits = s.dispatcher.waits ++ before.map (·.select.wait) ++ after.map (·.select.wait) := by
  rw [waits, held, List.map_append, List.append_assoc]

/-- The wait of one task stands among the others. -/
theorem waits_task {before after : List JobTask} {task : JobTask}
    (held : s.jobs = before ++ task :: after) :
    s.waits = s.dispatcher.waits ++ before.map (·.select.wait) ++
      task.select.wait :: after.map (·.select.wait) :=
  waits_append held

/-- A step that is not one of `destroy`, seen from the signal. -/
theorem Step.tends (next : Step validate opening s s') (same : s'.closing = s.closing) :
    ReflTransGen Tends (s.waits, s.shutdown) (s'.waits, s'.shutdown) := by
  cases next with
  | pass | refuse | send | bounce | swap => exact .refl
  | take there =>
    rw [waits_unspawned (by rw [there]; rfl)]
    exact .refl
  | start has fresh =>
    rw [waits_unspawned (by rw [has]; rfl)]
    exact .refl
  | startLate has late =>
    rw [waits_unspawned (by rw [has]; rfl)]
    exact .refl
  | spawn due =>
    rw [waits_unspawned (by rw [due]; rfl)]
    exact .single .make
  | dispatcherPolls selects polls =>
    rw [waits_selecting selects]
    exact polls.tends [] (s.jobs.map (·.select.wait))
  | idle selects looks empty =>
    rw [waits_selecting selects]
    exact .refl
  | @receive select job rest selects looks head =>
    rw [waits_selecting selects]
    have hdropped := ReflTransGen.single (@Tends.drop (s.jobs.map (·.select.wait)) s.shutdown
      select.wait)
    have hmade := (hdropped.tail .make).tail .make
    refine hmade.tail (.shuffle ?_)
    -- the new task stands at the end
    show List.Perm (_ :: _ :: s.jobs.map (·.select.wait)) (_ :: (s.jobs ++ [_]).map _)
    rw [List.map_append]
    exact (List.perm_append_singleton _ _).symm.cons _
  | quit selects hears =>
    rw [waits_selecting selects]
    exact .single .hear
  | @taskPolls before after task select' shutdown held polls =>
    rw [waits_task held]
    have hpolls := polls.tends (s.dispatcher.waits ++ before.map (·.select.wait))
      (after.map (·.select.wait))
    rwa [← waits_task (s := { s with
      shutdown := shutdown, jobs := before ++ { task with select := select' } :: after }) rfl]
      at hpolls
  | call held looks first =>
    rw [waits_task held, waits_task rfl]
    exact .refl
  | wait held looks begun => rw [waits_task held, waits_task rfl]
  | answer held looks begun =>
    -- the wait of a task that ends comes to the front and goes
    rw [waits_task held]
    refine (ReflTransGen.single (.shuffle List.perm_middle)).trans ?_
    rw [waits_append rfl]
    exact .single .drop
  | abandon held hears =>
    rw [waits_task held]
    refine (ReflTransGen.single (.shuffle List.perm_middle)).trans ?_
    rw [waits_append rfl]
    exact .single .hear
  | flag swapped => cases same.trans swapped
  | signal flagged => cases same.trans flagged

/-! ### The signal and those who wait for it -/

/-- Who waits is there, and how far the end of the engine has come shows in its phase and in the
    signal. -/
structure Signalled (s : Tasks) : Prop where
  manned : Manned s.waits s.shutdown
  gone : s.closing ≠ .before → s.engine.phase = .destroyed
  flagged : s.closing = .flagged → s.shutdown.triggered = true
  heard : s.closing = .returned → s.shutdown.Heard

/-- The phase is moved forward by those who start and destroy the engine. -/
theorem Step.phase (next : Step validate opening s s') :
    s'.engine.phase = s.engine.phase ∨ s.engine.phase = .created ∨
      s'.engine.phase = .destroyed := by
  cases next with
  | start has fresh => exact Or.inr (Or.inl fresh)
  | swap live => exact Or.inr (Or.inr rfl)
  | pass | refuse | send | bounce | take | startLate | spawn | dispatcherPolls | idle | receive
  | quit | taskPolls | call | wait | answer | abandon | flag | signal => exact Or.inl rfl

/-- Only the call that destroys the engine moves on in its own steps. -/
theorem Step.closing (next : Step validate opening s s') :
    s'.closing = s.closing ∨
    (s.engine.phase ≠ .destroyed ∧
      s' = { s with engine := { s.engine with phase := .destroyed }, closing := .swapped }) ∨
    (s.closing = .swapped ∧
      s' = { s with shutdown := { s.shutdown with triggered := true }, closing := .flagged }) ∨
    (s.closing = .flagged ∧ s' = ({ s with
        shutdown := { s.shutdown with channel := s.shutdown.channel.send }
        closing := .returned }.note .destroyed)) := by
  cases next with
  | swap live => exact Or.inr (Or.inl ⟨live, rfl⟩)
  | flag swapped => exact Or.inr (Or.inr (Or.inl ⟨swapped, rfl⟩))
  | signal flagged => exact Or.inr (Or.inr (Or.inr ⟨flagged, rfl⟩))
  | pass | refuse | send | bounce | take | start | startLate | spawn | dispatcherPolls | idle
  | receive | quit | taskPolls | call | wait | answer | abandon => exact Or.inl rfl

/-- A step keeps it, whether it is one of `destroy` or not. -/
theorem Signalled.step (h : Signalled s) (next : Step validate opening s s') : Signalled s' := by
  rcases next.closing with hsame | ⟨live, rfl⟩ | ⟨hswapped, rfl⟩ | ⟨hflagged, rfl⟩
  · -- no step of `destroy`: what it has done so far stands
    have htends := next.tends hsame
    refine ⟨Tends.path Tends.manned htends h.manned, ?_, ?_, ?_⟩
    · rw [hsame]
      intro hclosing
      have hgone := h.gone hclosing
      rcases next.phase with hphase | hcreated | hdestroyed
      · exact hphase.trans hgone
      · exact absurd (hcreated.symm.trans hgone) (by simp)
      · exact hdestroyed
    · rw [hsame]
      intro hclosing
      exact Tends.path (fun tends flag => tends.triggered.trans flag) htends (h.flagged hclosing)
    · rw [hsame]
      intro hclosing
      exact Tends.path Tends.heard htends (h.heard hclosing)
  · exact ⟨h.manned, fun _ => rfl, fun hflag => (by cases hflag), fun hreturn => (by cases hreturn)⟩
  · have hgone := h.gone (by simp [hswapped])
    exact ⟨⟨h.manned.alive, h.manned.distinct⟩, fun _ => hgone, fun _ => rfl,
      fun hreturn => (by cases hreturn)⟩
  · have hgone := h.gone (by simp [hflagged])
    exact ⟨⟨h.manned.alive, h.manned.distinct⟩, fun _ => hgone, fun hflag => (by cases hflag),
      fun _ => .send (h.flagged hflagged)⟩

/-- At every moment the waits are there, and the signal is as far as `destroy` has come. -/
theorem Reachable.signalled (h : Reachable validate pollInterval s) : Signalled s := by
  induction h with
  | initial =>
    exact ⟨⟨fun _ hi => (by cases hi), List.nodup_nil⟩, fun hmoved => absurd rfl hmoved,
      fun hflag => (by cases hflag), fun hreturn => (by cases hreturn)⟩
  | step _ next ih => exact ih.step next

/-! ## Seen from the jobs -/

/-- The jobs whose tasks have not called the network. -/
def uncalled (tasks : List JobTask) : List Job :=
  (tasks.filter fun task => !task.begun).map (·.job)

theorem uncalled_append (tasks tasks' : List JobTask) :
    uncalled (tasks ++ tasks') = uncalled tasks ++ uncalled tasks' := by
  rw [uncalled, List.filter_append, List.map_append]
  rfl

/-- A task counts until it calls. -/
theorem uncalled_cons (task : JobTask) (tasks : List JobTask) :
    uncalled (task :: tasks) =
      if task.begun then uncalled tasks else task.job :: uncalled tasks := by
  rw [uncalled, List.filter_cons]
  cases task.begun <;> rfl

/-- The jobs for which the network was not called. -/
def awaiting (s : Tasks) : List Job := uncalled s.jobs ++ s.engine.queue

/-- The job waits for its call, or its request is just being submitted. -/
def Pending (s : Tasks) (job : Job) : Prop := job ∈ s.awaiting ∨ job.request ∈ s.submitting

/-- How many jobs are pending. -/
def backlog (s : Tasks) : Nat := s.submitting.length + s.awaiting.length

/-- What a step does to the jobs. -/
inductive Moves (s s' : Tasks) : Prop where
  | keeps (log : calls s'.log = calls s.log) (accepted : s'.engine.accepted = s.engine.accepted)
      (awaiting : s'.awaiting.Sublist s.awaiting)
      (submitting : s'.submitting.Sublist s.submitting ∨ s.engine.phase ≠ .destroyed)
  | accepts (r : Request) (log : calls s'.log = calls s.log)
      (accepted : s'.engine.accepted = s.engine.accepted + 1)
      (awaiting : s'.awaiting = s.awaiting ++ [⟨s.engine.accepted, r⟩])
      (submitting : s.submitting.Perm (r :: s'.submitting))
  | calls (job : Job) (log : calls s'.log = calls s.log ++ [callOf job])
      (accepted : s'.engine.accepted = s.engine.accepted)
      (awaiting : s.awaiting.Perm (job :: s'.awaiting))
      (submitting : s'.submitting = s.submitting)

/-- A task that goes on with its select still has its job to call. -/
theorem awaiting_select {before after : List JobTask} {task : JobTask}
    (held : s.jobs = before ++ task :: after) (select : Select) :
    (uncalled (before ++ { task with select := select } :: after) ++ s.engine.queue).Sublist
      s.awaiting := by
  rw [awaiting, held, uncalled_append, uncalled_append, uncalled_cons, uncalled_cons]

/-- A task that ends makes no call. -/
theorem awaiting_without {before after : List JobTask} {task : JobTask}
    (held : s.jobs = before ++ task :: after) :
    (uncalled (before ++ after) ++ s.engine.queue).Sublist s.awaiting := by
  have hless : (uncalled after).Sublist (uncalled (task :: after)) := by
    rw [uncalled_cons]
    split
    · exact .refl _
    · exact List.sublist_cons_self _ _
  rw [awaiting, held, uncalled_append, uncalled_append]
  exact ((List.Sublist.refl _).append hless).append (.refl _)

theorem Step.moves (next : Step validate opening s s') : Moves s s' := by
  have same : s.awaiting.Sublist s.awaiting := .refl _
  cases next with
  | pass live ok => exact .keeps rfl rfl same (Or.inr live)
  | refuse live bad => exact .keeps (by simp) rfl same (Or.inr live)
  -- a request that was looked at becomes a job
  | @send before after r held receives =>
    refine .accepts r (by simp) rfl (List.append_assoc _ _ _).symm ?_
    rw [held]
    exact List.perm_middle
  | @bounce before after r held gone =>
    refine .keeps (by simp) rfl same (Or.inl ?_)
    rw [held]
    exact (List.Sublist.refl _).append (List.sublist_cons_self _ _)
  | take | start | spawn | dispatcherPolls | idle | swap | flag | signal =>
    exact .keeps (by simp) rfl same (Or.inl (.refl _))
  | startLate | quit =>
    exact .keeps rfl rfl ((List.Sublist.refl _).append (List.nil_sublist _))
      (Or.inl (.refl _))
  | @receive select job rest selects looks head =>
    refine .keeps rfl rfl ?_ (Or.inl (.refl _))
    show (uncalled (s.jobs ++ [_]) ++ rest).Sublist (uncalled s.jobs ++ s.engine.queue)
    rw [uncalled_append, head, List.append_assoc]
    exact .refl _
  | taskPolls held polls =>
    exact .keeps rfl rfl (awaiting_select held _) (Or.inl (.refl _))
  -- the one step that calls the network, with a job that waited for it
  | @call before after task held looks first =>
    refine .calls task.job (by simp [callOf]) rfl ?_ rfl
    show (uncalled s.jobs ++ _).Perm
      (task.job :: (uncalled (before ++ { task with begun := true } :: after) ++ _))
    rw [held, uncalled_append, uncalled_append, uncalled_cons, uncalled_cons, first]
    simp only [List.append_assoc]
    exact List.perm_middle
  | wait held looks begun =>
    exact .keeps rfl rfl (awaiting_select held _) (Or.inl (.refl _))
  | answer held looks begun =>
    exact .keeps (by simp) rfl (awaiting_without held) (Or.inl (.refl _))
  | abandon held hears =>
    exact .keeps rfl rfl (awaiting_without held) (Or.inl (.refl _))

/-! ### Each job is called once -/

/-- The numbers of the jobs that were called, and of those that wait for it. -/
def numbers (s : Tasks) : List Nat := (calls s.log).map Prod.fst ++ s.awaiting.map Job.number

/-- Every number was given once. -/
structure Numbered (s : Tasks) : Prop where
  distinct : s.numbers.Nodup
  given : ∀ n ∈ s.numbers, n < s.engine.accepted

/-- A step gives a new number, or moves one from those that wait to those that were called, or loses
    some. -/
theorem Numbered.step (h : Numbered s) (next : Step validate opening s s') : Numbered s' := by
  cases next.moves with
  | keeps log accepted awaiting submitting =>
    have hless : s'.numbers.Sublist s.numbers := by
      rw [numbers, log]
      exact (List.Sublist.refl _).append (awaiting.map _)
    refine ⟨h.distinct.sublist hless, fun n hn => ?_⟩
    rw [accepted]
    exact h.given n (hless.subset hn)
  | accepts r log accepted awaiting submitting =>
    have hmore : s'.numbers = s.numbers ++ [s.engine.accepted] := by
      rw [numbers, log, awaiting, List.map_append, ← List.append_assoc]
      rfl
    refine ⟨?_, fun n hn => ?_⟩
    · rw [hmore]
      -- the new job has the next number
      refine List.nodup_append.mpr ⟨h.distinct, by simp, fun n hold m hnew => ?_⟩
      rw [List.mem_singleton.mp hnew]
      exact Nat.ne_of_lt (h.given n hold)
    · rw [hmore] at hn
      rcases List.mem_append.mp hn with hold | hnew
      · exact accepted ▸ Nat.lt_succ_of_lt (h.given n hold)
      · rw [List.mem_singleton.mp hnew, accepted]
        exact Nat.lt_succ_self _
  | calls job log accepted awaiting submitting =>
    have hsame : s.numbers.Perm s'.numbers := by
      rw [numbers, numbers, log, List.map_append, List.append_assoc]
      exact (awaiting.map Job.number).append_left _
    refine ⟨hsame.nodup_iff.mp h.distinct, fun n hn => ?_⟩
    rw [accepted]
    exact h.given n (hsame.mem_iff.mpr hn)

/-- At every moment each number was called once at most. -/
theorem Reachable.numbered (h : Reachable validate pollInterval s) : Numbered s := by
  induction h with
  | initial => exact ⟨List.nodup_nil, fun _ hn => by cases hn⟩
  | step _ next ih => exact ih.step next

/-! ## After the end -/

/-- How many tasks are caught in the middle of a poll, before their call. -/
def caught (s : Tasks) : Nat := s.jobs.countP JobTask.about

/-- Nothing new is accepted once the engine is destroyed, so each call uses up a job. -/
theorem Step.backlog (next : Step validate opening s s') (gone : s.engine.phase = .destroyed) :
    (calls s'.log).length + s'.backlog ≤ (calls s.log).length + s.backlog := by
  cases next.moves with
  | keeps log accepted awaiting submitting =>
    have hawaiting := awaiting.length_le
    have hsubmitting := (submitting.resolve_right fun live => live gone).length_le
    rw [log, Tasks.backlog, Tasks.backlog]
    omega
  | accepts r log accepted awaiting submitting =>
    have hsubmitting := submitting.length_eq
    rw [List.length_cons] at hsubmitting
    rw [log, Tasks.backlog, Tasks.backlog, awaiting, List.length_append, List.length_singleton]
    omega
  -- one call more, and one job less that waits for it
  | calls job log accepted awaiting submitting =>
    have hawaiting := awaiting.length_eq
    rw [List.length_cons] at hawaiting
    rw [log, Tasks.backlog, Tasks.backlog, submitting, List.length_append,
      List.length_singleton]
    omega

/-- Who is caught, seen from one task. -/
theorem caught_task {before after : List JobTask} {task : JobTask}
    (held : s.jobs = before ++ task :: after) :
    s.caught = before.countP JobTask.about + after.countP JobTask.about + task.about.toNat := by
  rw [caught, held, List.countP_append, List.countP_cons, Nat.add_assoc]
  cases task.about <;> rfl

/-- If every select begins with the signal, then nobody comes to his first broadcast any more. -/
theorem Step.caught (next : Step validate opening s s') (heard : s.shutdown.Heard)
    (biased : ∀ b, opening b → b = .signal) :
    (calls s'.log).length + s'.caught ≤ (calls s.log).length + s.caught := by
  cases next with
  | pass | take | startLate | spawn | dispatcherPolls | idle | quit | swap | flag =>
    exact Nat.le_refl _
  | refuse | send | bounce | start | signal => simp [Tasks.caught, enqueue]
  | receive selects looks head =>
    -- the new task rests
    simp [Tasks.caught, JobTask.about, Look.branch?]
  | @taskPolls before after task select' shutdown held polls =>
    have hheeds := polls.heeds heard biased
    have hsafe : JobTask.about { task with select := select' } = false := by
      simp [JobTask.about, hheeds]
    rw [caught_task held, caught_task rfl, hsafe]
    simp
  | @call before after task held looks first =>
    -- the call is paid for by the task that was about to make it
    have habout : task.about = true := by simp [JobTask.about, looks, first]
    have hdone : JobTask.about { task with begun := true } = false := rfl
    rw [caught_task held, caught_task rfl, habout, hdone]
    simp
    omega
  | @wait before after task held looks begun =>
    have hdone (select : Select) : JobTask.about { task with select := select } = false := by
      simp [JobTask.about, begun]
    rw [caught_task held, caught_task rfl, hdone]
    simp
  | @answer before after task outcome held looks begun =>
    rw [caught_task held]
    simp [Tasks.caught]
  | @abandon before after task held hears =>
    rw [caught_task held]
    simp [Tasks.caught]

/-- What was called later, and what is pending later, was pending before. -/
theorem Step.pending (next : Step validate opening s s') (gone : s.engine.phase = .destroyed) :
    (∀ job, s'.Pending job → s.Pending job) ∧
    (calls s'.log = calls s.log ∨
      ∃ job, s.Pending job ∧ calls s'.log = calls s.log ++ [callOf job]) := by
  cases next.moves with
  | keeps log accepted awaiting submitting =>
    -- nobody passes the look at a destroyed engine
    have hsubmitting := submitting.resolve_right fun live => live gone
    exact ⟨fun job hjob => hjob.imp (fun h => awaiting.subset h) (fun h => hsubmitting.subset h),
      Or.inl log⟩
  | accepts r log accepted awaiting submitting =>
    refine ⟨fun job hjob => ?_, Or.inl log⟩
    rcases hjob with hjob | hjob
    · rw [awaiting] at hjob
      rcases List.mem_append.mp hjob with hold | hnew
      · exact Or.inl hold
      · rw [List.mem_singleton.mp hnew]
        exact Or.inr (submitting.mem_iff.mpr List.mem_cons_self)
    · exact Or.inr (submitting.mem_iff.mpr (List.mem_cons_of_mem r hjob))
  | calls job log accepted awaiting submitting =>
    refine ⟨fun other hother => ?_,
      Or.inr ⟨job, Or.inl (awaiting.mem_iff.mpr List.mem_cons_self), log⟩⟩
    rcases hother with hother | hother
    · exact Or.inl (awaiting.mem_iff.mpr (List.mem_cons_of_mem job hother))
    · exact Or.inr (submitting ▸ hother)

/-- Nobody destroys the engine again. -/
theorem Step.returned (next : Step validate opening s s') (h : Signalled s)
    (returned : s.closing = .returned) : s'.closing = .returned := by
  rcases next.closing with hsame | ⟨live, -⟩ | ⟨hswapped, -⟩ | ⟨hflagged, -⟩
  · exact hsame.trans returned
  · exact absurd (h.gone (by simp [returned])) live
  · cases returned.symm.trans hswapped
  · cases returned.symm.trans hflagged

/-- The state `s'` comes after `s`, in which the engine was destroyed. -/
structure After (opening : Branch → Prop) (s s' : Tasks) : Prop where
  signalled : Signalled s'
  numbered : Numbered s'
  returned : s'.closing = .returned
  pending : ∀ job, s'.Pending job → s.Pending job
  calls : ∃ late, calls s'.log = calls s.log ++ late ∧
    (∀ call ∈ late, ∃ job, s.Pending job ∧ call = callOf job) ∧
    late.length + s'.backlog ≤ s.backlog ∧
    ((∀ b, opening b → b = .signal) → late.length + s'.caught ≤ s.caught)

/-- Nothing came after the state itself. -/
theorem After.refl (reached : Reachable validate pollInterval s)
    (returned : s.closing = .returned) : After opening s s :=
  ⟨reached.signalled, reached.numbered, returned, fun _ h => h, [], by simp⟩

/-- One more step adds one call at most, of a job that was pending from the start. -/
theorem After.step {s₀ : Tasks} (h : After opening s₀ s) (next : Step validate opening s s') :
    After opening s₀ s' := by
  have hgone := h.signalled.gone (by simp [h.returned])
  have hheard := h.signalled.heard h.returned
  obtain ⟨hpending, hcalls⟩ := next.pending hgone
  have hbacklog := next.backlog hgone
  refine ⟨h.signalled.step next, h.numbered.step next, next.returned h.signalled h.returned,
    fun job hjob => h.pending job (hpending job hjob), ?_⟩
  obtain ⟨late, hlate, hfrom, hbound, hcaught⟩ := h.calls
  -- a step adds one call at most
  rcases hcalls with hsame | ⟨job, hjob, hmore⟩
  · refine ⟨late, hsame.trans hlate, hfrom, ?_, fun biased => ?_⟩
    · rw [hsame] at hbacklog
      omega
    · have hstep := next.caught hheard biased
      have hbefore := hcaught biased
      rw [hsame] at hstep
      omega
  · refine ⟨late ++ [callOf job], ?_, fun call hcall => ?_, ?_, fun biased => ?_⟩
    · rw [hmore, hlate, List.append_assoc]
    · rcases List.mem_append.mp hcall with hold | hnew
      · exact hfrom call hold
      · exact ⟨job, h.pending job hjob, List.mem_singleton.mp hnew⟩
    · rw [hmore, List.length_append, List.length_singleton] at hbacklog
      rw [List.length_append, List.length_singleton]
      omega
    · have hstep := next.caught hheard biased
      have hbefore := hcaught biased
      rw [hmore, List.length_append, List.length_singleton] at hstep
      rw [List.length_append, List.length_singleton]
      omega

/-! ### A call after the end -/

/-- A request that waits in the queue. -/
def leftBehind : Job := ⟨0, [1], "http://[::1]:8545", ⟨"job"⟩⟩

/-- `destroy` has returned, and the dispatcher was not polled yet. -/
def backlogged : Tasks :=
  { engine :=
      { pollInterval := 5, phase := .destroyed, accepted := 1, queue := [leftBehind]
        tally := ({} : Tally).submitted }
    shutdown := { triggered := true, waits := [.idle] }
    dispatcher := .selecting ⟨0, .rest⟩
    closing := .returned
    log := [.accepted leftBehind, .started, .destroyed] }

/-- A request is sent, the engine works, and is destroyed before its dispatcher is polled. -/
theorem backlogged_reachable : Reachable (fun _ => .ok ()) 5 backlogged := by
  have haddress : (Endpoint.parse "http://[::1]:8545").toBool = true := by decide +kernel
  have hcheck : check (fun _ => .ok ()) leftBehind.request = .ok () := check_ok rfl haddress rfl
  have hpassed : Reachable (fun _ => .ok ()) 5 _ :=
    Reachable.initial.step (.pass (by simp [initial]) hcheck)
  have hsent := hpassed.step (@Step.send _ _ _ [] [] _ rfl (by simp [initial]))
  have hstarted := (hsent.step (.take rfl)).step (.start rfl rfl)
  have hspawned := hstarted.step (.spawn rfl)
  have hswapped := hspawned.step (.swap (by simp))
  exact (hswapped.step (.flag rfl)).step (.signal rfl)

/-- The dispatcher took the request, and its task called the network. -/
def leaked : Tasks :=
  { backlogged with
    engine := { backlogged.engine with queue := [], broadcasting := [leftBehind] }
    shutdown := { triggered := true, waits := [.ended, .idle, .idle] }
    dispatcher := .selecting ⟨2, .rest⟩
    jobs := [⟨leftBehind, ⟨1, .first .work⟩, true⟩]
    log := backlogged.log ++ [.called 0 [1] "http://[::1]:8545"] }

/-- The dispatcher receives the request all the same, and its task begins with the broadcast. -/
theorem leaked_path :
    ReflTransGen (Step (fun _ => .ok ()) fun _ => True) backlogged leaked := by
  -- both selects begin with their work
  have hturned : Step (fun _ => .ok ()) (fun _ => True) backlogged _ :=
    .dispatcherPolls rfl (.turn (b := .work) trivial)
  have hreceived := (ReflTransGen.single hturned).tail (.receive rfl rfl rfl)
  have hpolled := hreceived.tail
    (@Step.taskPolls _ _ _ [] [] _ _ _ rfl (.turn (b := .work) trivial))
  have hcalled := hpolled.tail (@Step.call _ _ _ [] [] _ rfl rfl rfl)
  exact hcalled

/-- **A call begins after `destroy` returned.** -/
theorem broadcast_after_destroy : ∃ s s', Reachable (fun _ => .ok ()) 5 s ∧
    s.closing = .returned ∧ ReflTransGen (Step (fun _ => .ok ()) fun _ => True) s s' ∧
    calls s.log = [] ∧ calls s'.log = [(0, [1], "http://[::1]:8545")] :=
  ⟨backlogged, leaked, backlogged_reachable, rfl, leaked_path, rfl, rfl⟩

/-- **What still leaves after the end.**  Once `destroy` has returned, every select that looks at
    the signal finds it.  Only jobs that were pending are called any more, each at most once; of
    biased selects only those that were caught in the middle of a poll call. -/
theorem calls_after_destroy (reached : Reachable validate pollInterval s)
    (returned : s.closing = .returned) (path : ReflTransGen (Step validate opening) s s') :
    (∀ i ∈ s'.waits, (s'.shutdown.poll i).1 = .ready) ∧
    ((calls s'.log).map Prod.fst).Nodup ∧
    ∃ late, calls s'.log = calls s.log ++ late ∧
      (∀ call ∈ late, ∃ job, s.Pending job ∧ call = callOf job) ∧
      late.length ≤ s.backlog ∧
      ((∀ b, opening b → b = .signal) → late.length ≤ s.caught) := by
  have hafter : After opening s s' := by
    -- on the path, with all that is known of the state it came to
    induction path with
    | refl => exact .refl reached returned
    | tail _ next ih => exact ih.step next
  have hheard := hafter.signalled.heard hafter.returned
  refine ⟨fun i hi => hheard.ready (hafter.signalled.manned.alive i hi), ?_, ?_⟩
  · exact hafter.numbered.distinct.sublist (List.sublist_append_left _ _)
  · obtain ⟨late, hlate, hfrom, hbound, hcaught⟩ := hafter.calls
    exact ⟨late, hlate, hfrom, by omega, fun biased => by have := hcaught biased; omega⟩

theorem calls_after_destroy_leaked :
    Reachable (fun _ => .ok ()) 5 backlogged ∧ backlogged.closing = .returned ∧
    ReflTransGen (Step (fun _ => .ok ()) fun _ => True) backlogged leaked ∧
    (∀ i ∈ leaked.waits, (leaked.shutdown.poll i).1 = .ready) ∧
    ((calls leaked.log).map Prod.fst).Nodup ∧
    ∃ late, calls leaked.log = calls backlogged.log ++ late ∧
      (∀ call ∈ late, ∃ job, backlogged.Pending job ∧ call = callOf job) ∧
      late.length ≤ backlogged.backlog ∧
      ((∀ b, (fun _ : Branch => True) b → b = .signal) → late.length ≤ backlogged.caught) :=
  ⟨backlogged_reachable, rfl, leaked_path,
    calls_after_destroy backlogged_reachable rfl leaked_path⟩

end Tasks

end TxRelay.Engine
