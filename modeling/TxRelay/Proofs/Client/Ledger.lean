/-
  The log of a client, against the client.

  What a client tells, one after another, is its log, and two invariants say what the log has to do
  with the client at every moment.

  1. **What is due.**  `completed` reads off a log which receipts are due by then, in the order in
     which their broadcasts ended.  An event that is no end of a broadcast changes nothing in it
     (`completed_other`), and an end adds one receipt (`completed_snoc`).

  2. **Roles.**  `Roles` ties the client's slots to the log: the callback is the one that was set
     last, a loop runs only if it was taken, and the client lives as long as nobody called
     `destroy`. A call changes the one slot that it is there for (`Roles.make`); what happens by
     itself changes none of them but the loop's (`Roles.happens`).

  3. **The ledger.**  `Ledger` follows the jobs.  Numbers count the acceptances; a number leaves the
     engine when its broadcast ends and never comes back; and the receipts that were handed over,
     followed by those that wait, are those that were due.

  4. **Rest.**  A moment in which nothing can happen has no callback under way, and its loop, if it
     runs, has nothing to take (`Moment.Settled.idle`).

  The crux is the last clause of `Ledger`, an equation between lists.  A broadcast that ends adds
  the same receipt at the end of both sides (`Ledger.hear`), and a callback that begins only moves
  one from those that wait to those handed over (`Ledger.begin`); everything else leaves both sides
  alone.
-/
import Mathlib.Data.List.Nodup
import TxRelay.Client.Moment
import TxRelay.Proofs.Client.Calls

namespace TxRelay.Client

variable {config : Config} {network : Network} {m m' : Moment}

/-! ## What is due -/

/-- Every broadcast that ended was a job's. -/
def Counted (log : List Event) : Prop :=
  ∀ ending ∈ endings log, ending.1 < (queuedJobs log).length

/-- More jobs do not change what was due, and the end of a broadcast adds its own receipt. -/
theorem completed_snoc {log : List Event} (counted : Counted log) (event : Event) :
    completed (log ++ [event]) =
      completed log ++
        (event.ending?.toList.filterMap (due (queuedJobs log ++ event.queued?.toList))) := by
  rw [completed, endings_snoc, queuedJobs_snoc, List.filterMap_append, completed]
  congr 1
  refine List.filterMap_congr fun ending hending => ?_
  rw [due, due, List.getElem?_append_left (counted ending hending)]

/-- Only the end of a broadcast makes a receipt due. -/
theorem completed_other {log : List Event} (counted : Counted log) {event : Event}
    (hevent : event.ending? = none) : completed (log ++ [event]) = completed log := by
  rw [completed_snoc counted, hevent]
  exact List.append_nil _

/-! ## Roles -/

/-- The client's slots are what the log says. -/
structure Roles (m : Moment) : Prop where
  whole : m.client.Whole
  callback : m.client.callback = lastSet m.log
  set : m.client.isRunning = true → m.client.callback ≠ none
  claimed : m.client.isRunning = true → Claimed m.log
  waiting : m.busy ≠ none → m.client.isRunning = true
  alive : m.client.alive = true ↔ ¬ DestroyCalled m.log

/-- A new client has no callback and no loop, and lives. -/
theorem Roles.initial : Roles (.initial config network) where
  whole := whole_new config network
  callback := rfl
  set := fun h => by simp [Moment.initial, new, isRunning] at h
  claimed := fun h => by simp [Moment.initial, new, isRunning] at h
  waiting := fun h => absurd rfl h
  alive := by simp [Moment.initial, new, DestroyCalled]

/-- A call whose answer says that nothing was set, taken or destroyed. -/
theorem Roles.same {event : Event} {c : Client} (h : Roles m) (whole : c.Whole)
    (hcallback : c.callback = m.client.callback) (hloop : c.loop = m.client.loop)
    (halive : c.alive = m.client.alive) (hset : event.set? = none)
    (hdestroys : ¬ event.Destroys) : Roles ({ m with client := c }.note event) where
  whole := whole
  -- the event sets no callback, so the last one that was set is the same
  callback := by
    simp only [Moment.note, lastSet_snoc, hset, Option.none_or]
    rw [hcallback]
    exact h.callback
  set := fun hrunning => by
    have hrunning' : m.client.isRunning = true := by rwa [isRunning, ← hloop]
    show c.callback ≠ none
    rw [hcallback]
    exact h.set hrunning'
  claimed := fun hrunning => by
    have hrunning' : m.client.isRunning = true := by rwa [isRunning, ← hloop]
    exact (claimed_snoc m.log event).mpr (Or.inl (h.claimed hrunning'))
  waiting := fun hbusy => by
    have hrunning := h.waiting hbusy
    show c.isRunning = true
    rwa [isRunning, hloop]
  alive := by
    simp only [Moment.note, destroyCalled_snoc, hdestroys, or_false]
    rw [halive]
    exact h.alive

/-- The loop is taken. -/
theorem Roles.take {event : Event} {loop : Loop} (h : Roles m)
    (whole : (m.client.claimed loop).Whole) (set : m.client.callback ≠ none)
    (hclaims : event.Claims) (hset : event.set? = none) (hdestroys : ¬ event.Destroys) :
    Roles ({ m with client := m.client.claimed loop }.note event) where
  whole := whole
  callback := by
    simp only [Moment.note, lastSet_snoc, hset, Option.none_or]
    exact h.callback
  set := fun _ => set
  claimed := fun _ => (claimed_snoc m.log event).mpr (Or.inr hclaims)
  waiting := fun _ => rfl
  alive := by
    simp only [Moment.note, destroyCalled_snoc, hdestroys, or_false]
    exact h.alive

/-- A call changes the slot that it is there for, and the log says so. -/
theorem Roles.make (h : Roles m) (call : ClientCall) : Roles (m.make call) := by
  have heffect := perform_effect h.whole call
  have hwhole := heffect.whole h.whole
  unfold Moment.make
  generalize (m.client.perform call).1 = answer at heffect ⊢
  generalize (m.client.perform call).2 = d at heffect hwhole ⊢
  cases heffect with
  | gone guarded dead =>
    refine h.same hwhole rfl rfl rfl ?_ ?_
    · cases call <;> rfl
    · cases call <;> simp [Guarded] at guarded ⊢
  -- the callback is exchanged
  | set live =>
    refine ⟨hwhole, ?_, fun _ => by simp, fun hrunning => ?_, h.waiting, ?_⟩
    · simp [lastSet_snoc]
    · exact (claimed_snoc _ _).mpr (Or.inl (h.claimed hrunning))
    · simpa using h.alive
  | start live set free => exact h.take hwhole set trivial rfl id
  | run live set free => exact h.take hwhole set trivial rfl id
  | barred takes live why =>
    rcases takes with rfl | rfl
    · exact h.same hwhole rfl rfl rfl rfl id
    · exact h.same hwhole rfl rfl rfl rfl id
  | stop => exact h.same hwhole rfl rfl rfl rfl id
  | queued live => exact h.same hwhole rfl rfl rfl rfl id
  | rejected live why => exact h.same hwhole rfl rfl rfl rfl id
  | balance live tells => exact h.same hwhole rfl rfl rfl rfl id
  | stats live => exact h.same hwhole rfl rfl rfl rfl id
  | state => exact h.same hwhole rfl rfl rfl rfl id
  | isRunning => exact h.same hwhole rfl rfl rfl rfl id
  | defaultEndpoint => exact h.same hwhole rfl rfl rfl rfl id
  | debug => exact h.same hwhole rfl rfl rfl rfl id
  | destroy live =>
    refine ⟨hwhole, ?_, h.set, fun hrunning => ?_, h.waiting, ?_⟩
    · simpa using h.callback
    · exact (claimed_snoc _ _).mpr (Or.inl (h.claimed hrunning))
    · simp
  | destroyAgain dead =>
    have hcalled : ¬ m.client.alive = true := by simp [dead]
    refine ⟨hwhole, ?_, h.set, fun hrunning => ?_, h.waiting, ?_⟩
    · simpa using h.callback
    · exact (claimed_snoc _ _).mpr (Or.inl (h.claimed hrunning))
    · simpa using hcalled

/-- A broadcast that ends changes nothing about the roles. -/
theorem Roles.hear {network : Network} {number : Nat} {outcome : BroadcastResult} (h : Roles m) :
    Roles (m.hear network number outcome) := by
  have hwhole : Whole { m.client with
      network := network, engine := (m.client.engine.finish number outcome).2 } := by
    rcases Engine.finish_alone h.whole.alone number outcome with ⟨job, -, -, hfinish⟩ | hfinish
    · rw [hfinish]
      exact ⟨⟨h.whole.alone.pollers, h.whole.alone.sender⟩, h.whole.alive⟩
    · rw [hfinish]
      exact ⟨h.whole.alone, h.whole.alive⟩
  exact h.same hwhole rfl rfl rfl rfl id

/-- What happens by itself ends a loop or leaves the slots alone. -/
theorem Roles.happens (h : Roles m) (next : Happens m m') : Roles m' := by
  cases next with
  | @begin r d callback free runs round set =>
    obtain ⟨-, rest, -, rfl⟩ := round_takes h.whole round
    have hsame : Roles ({ m with client := m.client.taken rest }.note (.began callback r)) :=
      h.same h.whole.taken rfl rfl rfl rfl id
    exact ⟨hsame.whole, hsame.callback, hsame.set, hsame.claimed, fun _ => runs, hsame.alive⟩
  | drop free runs round unset =>
    obtain ⟨-, rest, -, rfl⟩ := round_takes h.whole round
    exact absurd unset (h.set runs)
  -- the loop is over, and with it all that a running loop needs
  | stop free runs round =>
    obtain ⟨-, -, rfl⟩ := round_ends h.whole round
    refine ⟨⟨h.whole.alone, h.whole.alive⟩, ?_, ?_, ?_, fun hbusy => absurd free hbusy, ?_⟩
    · simpa [endLoop] using h.callback
    · exact fun hrunning => by cases hrunning
    · exact fun hrunning => by cases hrunning
    · simpa [endLoop] using h.alive
  | @call call rest panics busy =>
    have hcalling : Roles { m with busy := some ⟨rest, panics⟩ } :=
      ⟨h.whole, h.callback, h.set, h.claimed, fun _ => h.waiting (by simp [busy]), h.alive⟩
    exact hcalling.make call
  | @«return» panics busy =>
    have hwhole := h.whole.afterwards panics
    cases panics with
    | false => exact ⟨hwhole, h.callback, h.set, h.claimed, fun hb => absurd rfl hb, h.alive⟩
    | true => exact ⟨hwhole, h.callback, h.set, h.claimed, fun hb => absurd rfl hb, h.alive⟩
  | hear head answer => exact h.hear

/-- Every step keeps slots and log together. -/
theorem Roles.step (h : Roles m) (next : Step m m') : Roles m' := by
  cases next with
  | happens next => exact h.happens next
  | call call => exact h.make call
  | finish goes => exact h.hear

/-- Slots and log agree at every moment. -/
theorem Reachable.roles (h : Reachable config network m) : Roles m := by
  induction h with
  | initial => exact Roles.initial
  | step _ next ih => exact ih.step next

/-! ## Nothing is left to happen -/

/-- At a settled moment no callback runs, and a loop that runs waits for receipts. -/
theorem Moment.Settled.idle (settled : m.Settled) (roles : Roles m) :
    m.busy = none ∧
      (m.client.isRunning = true → m.client.mustEnd = false ∧ m.client.engine.receipts = []) := by
  have hfree : m.busy = none := by
    cases hbusy : m.busy with
    | none => rfl
    | some busy =>
      obtain ⟨calls, panics⟩ := busy
      cases calls with
      | nil => exact absurd (Happens.return hbusy) (settled _)
      | cons call rest => exact absurd (Happens.call hbusy) (settled _)
  refine ⟨hfree, fun runs => ?_⟩
  rcases round_cases roles.whole with ⟨-, hround⟩ | ⟨hgoes, hnone, -⟩ | ⟨-, r, rest, -, hround⟩
  · exact absurd (Happens.stop hfree runs hround) (settled _)
  · exact ⟨hgoes, hnone⟩
  · cases hcallback : m.client.callback with
    | none => exact absurd hcallback (roles.set runs)
    | some callback => exact absurd (Happens.begin hfree runs hround hcallback) (settled _)

/-! ## The ledger -/

/-- Where the accepted jobs are. -/
structure Ledger (m : Moment) : Prop where
  accepted : m.client.engine.accepted = (queuedJobs m.log).length
  named : ∀ job ∈ m.client.engine.pending, (queuedJobs m.log)[job.number]? = some job.request.jobId
  counted : Counted m.log
  once : (m.client.engine.pending.map Job.number ++ (endings m.log).map Prod.fst).Nodup
  handed : delivered m.log ++ m.client.engine.receipts = completed m.log

/-- Nothing is due, nothing waits. -/
theorem Ledger.initial : Ledger (.initial config network) where
  accepted := rfl
  named := fun _ h => by simp [Moment.initial, new, Engine.pending] at h
  counted := fun _ h => by simp [Moment.initial, endings] at h
  once := List.nodup_nil
  handed := rfl

/-- Nothing was accepted, answered or handed over. -/
theorem Ledger.keeps (h : Ledger m) (keeps : m.client.engine.Keeps m'.client.engine)
    (hqueued : queuedJobs m'.log = queuedJobs m.log) (hendings : endings m'.log = endings m.log)
    (hdelivered : delivered m'.log = delivered m.log) : Ledger m' := by
  constructor
  · rw [keeps.accepted, hqueued]
    exact h.accepted
  · intro job hjob
    rw [hqueued]
    exact h.named job (keeps.pending.mem_iff.mp hjob)
  · intro ending hending
    rw [hqueued]
    exact h.counted ending (hendings ▸ hending)
  · rw [hendings, ((keeps.pending.map Job.number).append_right _).nodup_iff]
    exact h.once
  · rw [hdelivered, keeps.receipts, completed, hqueued, hendings]
    exact h.handed

/-- A call whose answer says that nothing was accepted. -/
theorem Ledger.note {c : Client} {event : Event} (h : Ledger m)
    (keeps : m.client.engine.Keeps c.engine) (hqueued : event.queued? = none)
    (hending : event.ending? = none) (hdelivered : event.delivered? = none) :
    Ledger ({ m with client := c }.note event) := by
  refine h.keeps keeps ?_ ?_ ?_
  · rw [Moment.note, queuedJobs_snoc, hqueued]
    exact List.append_nil _
  · rw [Moment.note, endings_snoc, hending]
    exact List.append_nil _
  · rw [Moment.note, delivered_snoc, hdelivered]
    exact List.append_nil _

/-- A job is accepted: its number is new. -/
theorem Ledger.queued {rawTx : Bytes} {endpoint : Option String} {jobId : JobId} {e : Engine}
    {r : Request} (h : Ledger m) (name : r.jobId = jobId) (engine : e = m.client.engine.accept r) :
    Ledger ({ m with client := { m.client with engine := e } }.note
      (.called (.broadcast rawTx endpoint jobId) .queued)) := by
  subst engine
  have hkeeps : Engine.Keeps (m.client.engine.enqueue r) (m.client.engine.accept r) :=
    Engine.keeps_dispatch
  have hpending := @Engine.pending_accept m.client.engine r
  constructor
  · simp [hkeeps.accepted, Engine.enqueue, h.accepted]
  · intro job hjob
    simp only [Moment.note, queuedJobs_snoc, Event.queued?, Option.toList_some]
    rcases List.mem_cons.mp (hpending.mem_iff.mp hjob) with rfl | hold
    · show (queuedJobs m.log ++ [jobId])[m.client.engine.accepted]? = some r.jobId
      rw [h.accepted, List.getElem?_concat_length, name]
    · -- an older job has its name where it was, before the new one
      have hnamed := h.named job hold
      have hlt := (List.getElem?_eq_some_iff.mp hnamed).1
      rw [List.getElem?_append_left hlt]
      exact hnamed
  · intro ending hending
    have hold : ending ∈ endings m.log := by simpa using hending
    have hlt := h.counted ending hold
    simp only [Moment.note, queuedJobs_snoc, List.length_append]
    omega
  · -- the engine counts up: all numbers given so far are smaller
    have hnew : m.client.engine.accepted ∉
        m.client.engine.pending.map Job.number ++ (endings m.log).map Prod.fst := by
      rw [List.mem_append, List.mem_map, List.mem_map, h.accepted]
      rintro (⟨job, hjob, hnumber⟩ | ⟨ending, hending, hnumber⟩)
      · have hlt := (List.getElem?_eq_some_iff.mp (h.named job hjob)).1
        omega
      · have hlt := h.counted ending hending
        omega
    have hperm := (hpending.map Job.number).append_right ((endings m.log).map Prod.fst)
    simp only [Moment.note, endings_snoc, Event.ending?, Option.toList_none, List.append_nil]
    rw [hperm.nodup_iff]
    exact List.nodup_cons.mpr ⟨hnew, h.once⟩
  · simp only [Moment.note, delivered_snoc, Event.delivered?, Option.toList_none, List.append_nil]
    rw [completed_other h.counted rfl, hkeeps.receipts]
    exact h.handed

/-- The jobs without a receipt are given up, and their numbers with them. -/
theorem Ledger.destroy {c : Client} {answer : ClientAnswer} (h : Ledger m) (roles : Roles m)
    (live : m.client.alive = true) (engine : c.engine = m.client.engine.destroy.2) :
    Ledger ({ m with client := c }.note (.called .destroy answer)) := by
  have hdestroy := Engine.destroy_live (roles.whole.alive.mp live)
  rw [hdestroy] at engine
  constructor
  · simpa [engine] using h.accepted
  · intro job hjob
    simp [Engine.pending, engine] at hjob
  · intro ending hending
    simpa using h.counted ending (by simpa using hending)
  · have hleft := (List.nodup_append.mp h.once).2.1
    simpa [Engine.pending, engine] using hleft
  · simp only [Moment.note, delivered_snoc, Event.delivered?, Option.toList_none, List.append_nil]
    rw [completed_other h.counted rfl, engine]
    exact h.handed

/-- Of the calls, one that is accepted adds a job, and `destroy` takes the jobs away. -/
theorem Ledger.make (h : Ledger m) (roles : Roles m) (call : ClientCall) :
    Ledger (m.make call) := by
  have heffect := perform_effect roles.whole call
  unfold Moment.make
  generalize (m.client.perform call).1 = answer at heffect ⊢
  generalize (m.client.perform call).2 = d at heffect ⊢
  cases heffect with
  | gone guarded dead => exact h.note .refl (by cases call <;> rfl) rfl rfl
  | set live => exact h.note .refl rfl rfl rfl
  | start live set free => exact h.note Engine.keeps_startWorking rfl rfl rfl
  | run live set free => exact h.note Engine.keeps_startWorking rfl rfl rfl
  | barred takes live why => exact h.note .refl (by rcases takes with rfl | rfl <;> rfl) rfl rfl
  | stop => exact h.note .refl rfl rfl rfl
  | queued live => exact h.queued rfl rfl
  | rejected live why => exact h.note ⟨rfl, rfl, rfl, rfl, List.Perm.refl _⟩ rfl rfl rfl
  | balance live tells => exact h.note .refl rfl rfl rfl
  | stats live => exact h.note .refl rfl rfl rfl
  | state => exact h.note .refl rfl rfl rfl
  | isRunning => exact h.note .refl rfl rfl rfl
  | defaultEndpoint => exact h.note .refl rfl rfl rfl
  | debug => exact h.note .refl rfl rfl rfl
  -- the one call that takes jobs away
  | destroy live => exact h.destroy roles live rfl
  | destroyAgain dead => exact h.note .refl rfl rfl rfl

/-- A broadcast ends: its number moves to the endings, and its receipt is due. -/
theorem Ledger.hear {network : Network} {job : Job} {outcome : BroadcastResult} (h : Ledger m)
    (held : job ∈ m.client.engine.broadcasting)
    (finish : m.client.engine.finish job.number outcome =
      (true, m.client.engine.complete job outcome)) :
    Ledger (m.hear network job.number outcome) := by
  have hpending := @Engine.pending_complete m.client.engine job outcome held
  have hnamed := h.named job (hpending.mem_iff.mpr List.mem_cons_self)
  have hlt := (List.getElem?_eq_some_iff.mp hnamed).1
  unfold Moment.hear
  rw [finish]
  constructor
  · simpa [Engine.complete] using h.accepted
  · intro other hother
    simpa using h.named other (hpending.mem_iff.mpr (List.mem_cons_of_mem _ hother))
  · intro ending hending
    simp only [Moment.note, endings_snoc, Event.ending?, Option.toList_some, List.mem_append,
      List.mem_singleton] at hending
    rcases hending with hold | rfl
    · simpa using h.counted ending hold
    · simpa using hlt
  · -- the number only moves, so that it still occurs once
    have hperm : (m.client.engine.pending.map Job.number ++ (endings m.log).map Prod.fst).Perm
        ((m.client.engine.complete job outcome).pending.map Job.number ++
          ((endings m.log).map Prod.fst ++ [job.number])) := by
      refine ((hpending.map Job.number).append_right _).trans ?_
      rw [List.map_cons, List.cons_append, ← List.append_assoc]
      exact (List.perm_append_singleton _ _).symm
    have honce := hperm.nodup_iff.mp h.once
    simpa using honce
  · -- the same receipt comes to the end of what is due and of what waits
    have hdue : due (queuedJobs m.log) (job.number, outcome) =
        some (Receipt.ofOutcome job.request.jobId outcome) := by
      rw [due, hnamed]
      rfl
    simp only [Moment.note, delivered_snoc, Event.delivered?, Option.toList_none, List.append_nil]
    rw [completed_snoc h.counted]
    simp only [Event.ending?, Event.queued?, Option.toList_some, Option.toList_none,
      List.append_nil, List.filterMap_cons, List.filterMap_nil, hdue]
    rw [← h.handed, List.append_assoc]
    rfl

/-- The oldest receipt is handed over. -/
theorem Ledger.begin {callback : Callback} {r : Receipt} {rest : List Receipt} (h : Ledger m)
    (head : m.client.engine.receipts = r :: rest) :
    Ledger ({ m with client := m.client.taken rest }.begin callback r) := by
  constructor
  · simpa [Moment.begin, taken] using h.accepted
  · intro job hjob
    simpa [Moment.begin] using h.named job hjob
  · intro ending hending
    simpa [Moment.begin] using h.counted ending (by simpa [Moment.begin] using hending)
  · have honce : ((m.client.taken rest).engine.pending.map Job.number ++
        (endings m.log).map Prod.fst).Nodup := h.once
    simpa [Moment.begin] using honce
  · have hhanded := h.handed
    rw [head, List.append_cons] at hhanded
    simp only [Moment.begin, Moment.note, delivered_snoc, Event.delivered?, Option.toList_some]
    rw [completed_other h.counted rfl]
    exact hhanded

/-- What happens by itself ends a broadcast, hands a receipt over, or moves no job. -/
theorem Ledger.happens (h : Ledger m) (roles : Roles m) (next : Happens m m') : Ledger m' := by
  cases next with
  | begin free runs round set =>
    obtain ⟨-, rest, head, rfl⟩ := round_takes roles.whole round
    exact h.begin head
  | drop free runs round unset =>
    obtain ⟨-, rest, -, rfl⟩ := round_takes roles.whole round
    exact absurd unset (roles.set runs)
  | stop free runs round =>
    obtain ⟨-, -, rfl⟩ := round_ends roles.whole round
    exact h.note .refl rfl rfl rfl
  | @call call rest panics busy =>
    have hcalling : Ledger { m with busy := some ⟨rest, panics⟩ } := h.keeps .refl rfl rfl rfl
    have hroles : Roles { m with busy := some ⟨rest, panics⟩ } :=
      ⟨roles.whole, roles.callback, roles.set, roles.claimed,
        fun _ => roles.waiting (by simp [busy]), roles.alive⟩
    exact hcalling.make hroles call
  | @«return» panics busy =>
    cases panics with
    | false => exact h.keeps .refl rfl rfl rfl
    | true => exact h.keeps ⟨rfl, rfl, rfl, rfl, List.Perm.refl _⟩ rfl rfl rfl
  | @hear job rest outcome network head answer =>
    have held : job ∈ m.client.engine.broadcasting := by simp [head]
    exact h.hear held (Engine.finish_head roles.whole.alone outcome head)

/-- Every step keeps the ledger. -/
theorem Ledger.step (h : Ledger m) (roles : Roles m) (next : Step m m') : Ledger m' := by
  cases next with
  | happens next => exact h.happens roles next
  | call call => exact h.make roles call
  | @finish number outcome goes =>
    rcases Engine.finish_alone roles.whole.alone number outcome with
      ⟨job, held, rfl, hfinish⟩ | hfinish
    · exact h.hear held hfinish
    · rw [hfinish] at goes
      cases goes

/-- The ledger is right at every moment. -/
theorem Reachable.ledger (h : Reachable config network m) : Ledger m := by
  induction h with
  | initial => exact Ledger.initial
  | step before next ih => exact ih.step before.roles next

end TxRelay.Client
