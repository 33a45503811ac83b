/-
  The gauge of jobs in flight.

  A record sets the gauge to the difference of two counters that it loaded before.  The record that
  sets it last need not be the one that loaded last, and then the gauge shows an old difference
  until something else is recorded (`gauge_outdated`).

  1. **Any records.**  What is true of every gauge is that its two loads were right when they were
     made, the load of the submissions first.  Both counters only grow, so the gauge is off by what
     was counted since; this is the second clause of `gauge_at_rest`.

  2. **Records that exclude each other.**  If no record begins while another one is midway, then
     nothing is counted between a load and the setting of the gauge.  `Serial` is the invariant:
     there is at most one record midway, what it has copied is what the counters are now, and if
     there is none the gauge is right.  A step of a party that does not record passes by
     (`Serial.pass`); the record that is midway begins, goes on or sets the gauge (`serial_begin`,
     `Serial.goOn`, `Serial.set`).

  3. **At rest.**  Once no record is in progress, no request waits to be counted, so no more jobs
     are completed than submitted, and the difference is one of numbers.

  The crux is the middle clause of `Serial`.  That the gauge is right while nobody records cannot be
  kept by itself: the record that sets it must know that its copy is still fresh.
-/
import TxRelay.Proofs.Engine.Counters

namespace TxRelay

/-- What the gauge is read from is what the counters are now. -/
def Copying.Fresh (now : Stats) : Copying → Prop
  | begun => True
  | submitted a => a = now.submitted
  | rejected a _ => a = now.submitted
  | completed a _ c => a = now.submitted ∧ c = now.completed
  | done copy => copy.submitted = now.submitted ∧ copy.completed = now.completed

/-- What is loaded now is fresh. -/
theorem Copying.Fresh.load {now : Stats} {c : Copying} (h : c.Fresh now) :
    (c.load now).Fresh now := by
  cases c with
  | begun => rfl
  | submitted a => exact h
  | rejected a b => exact ⟨h, rfl⟩
  | completed a b c => exact h
  | done copy => exact h

/-- A fresh copy has the same difference as the counters. -/
theorem Copying.Fresh.inFlight {now copy : Stats} (h : (Copying.done copy).Fresh now) :
    copy.inFlight = now.inFlight := by
  obtain ⟨hsubmitted, hcompleted⟩ := h
  rw [Stats.inFlight, Stats.inFlight, hsubmitted, hcompleted]

/-- Only the two counters of the gauge matter. -/
theorem Copying.Fresh.congr {now now' : Stats} {c : Copying} (h : c.Fresh now)
    (submitted : now'.submitted = now.submitted) (completed : now'.completed = now.completed) :
    c.Fresh now' := by
  cases c with
  | begun => trivial
  | submitted a => exact h.trans submitted.symm
  | rejected a b => exact h.trans submitted.symm
  | completed a b c => exact ⟨h.1.trans submitted.symm, h.2.trans completed.symm⟩
  | done copy => exact ⟨h.1.trans submitted.symm, h.2.trans completed.symm⟩

namespace Engine

/-- Its record has counted and has not set the gauge. -/
def Party.midway : Party → Bool
  | recording _ .publishing | recording _ (.copying _) => true
  | _ => false

/-- It records. -/
def Party.records : Party → Bool
  | recording _ _ => true
  | _ => false

namespace Counters

open Callers (countP_set)

variable {validate : Validate} {opening : Counters → Prop} {pollInterval : UInt64}
  {s s' : Counters} {i : Nat} {p p' : Party} {e : Engine}

/-- No record is in progress. -/
def Resting (s : Counters) : Prop := ∀ p ∈ s.parties, p.records = false

/-- Something was recorded. -/
def Recorded (s : Counters) : Prop := ∃ p ∈ s.parties, p.recorded = true

/-- Records wait for each other. -/
def Exclusive (opening : Counters → Prop) : Prop := ∀ s, opening s → s.number Party.midway = 0

/-! ## Records that exclude each other -/

/-- At most one record is midway, and its copy is fresh; if none is, the gauge is right. -/
structure Serial (s : Counters) : Prop where
  one : s.number Party.midway ≤ 1
  fresh : ∀ p ∈ s.parties, p.midway = true → ∀ c, p.copy? = some c → c.Fresh s.stats
  right : s.number Party.midway = 0 → s.Recorded → s.tally.metrics.inFlight = some s.stats.inFlight

/-- Nobody records in a new engine. -/
theorem Serial.initial : Serial (.initial pollInterval) where
  one := Nat.zero_le _
  fresh := fun _ h => by cases h
  right := fun _ ⟨_, h, _⟩ => by cases h

/-- Nothing is counted or recorded, by parties that were there or come. -/
theorem Serial.still (h : Serial s) (midway : s'.number Party.midway = s.number Party.midway)
    (parties : ∀ p ∈ s'.parties, (p.midway = true → p ∈ s.parties) ∧
      (p.recorded = true → s.Recorded))
    (submitted : s'.stats.submitted = s.stats.submitted)
    (completed : s'.stats.completed = s.stats.completed)
    (gauge : s'.tally.metrics.inFlight = s.tally.metrics.inFlight) : Serial s' where
  one := midway ▸ h.one
  fresh := by
    intro p hp hmidway c hc
    exact (h.fresh p ((parties p hp).1 hmidway) hmidway c hc).congr submitted completed
  right := by
    rintro hnone ⟨p, hp, hrecorded⟩
    have hbefore := h.right (midway ▸ hnone) ((parties p hp).2 hrecorded)
    rw [gauge, hbefore, Stats.inFlight, Stats.inFlight, submitted, completed]

/-- A party that has nothing to do with records goes on. -/
theorem Serial.pass (h : Serial s) (held : s.parties[i]? = some p) (was : p.midway = false)
    (is : p'.midway = false) (recorded : p'.recorded = true → p.recorded = true)
    (submitted : e.tally.stats.submitted = s.stats.submitted)
    (completed : e.tally.stats.completed = s.stats.completed)
    (gauge : e.tally.metrics.inFlight = s.tally.metrics.inFlight) :
    Serial { s with engine := e, parties := s.parties.set i p' } := by
  have hset : (s.parties.set i p').countP Party.midway + p.midway.toNat =
      s.number Party.midway + p'.midway.toNat := countP_set Party.midway held
  rw [was, is] at hset
  refine h.still hset ?_ submitted completed gauge
  intro q hq
  rcases List.mem_or_eq_of_mem_set hq with hold | rfl
  · exact ⟨fun _ => hold, fun hrecorded => ⟨q, hold, hrecorded⟩⟩
  · refine ⟨fun hmidway => ?_, fun hrecorded => ⟨p, List.mem_of_getElem? held, recorded hrecorded⟩⟩
    rw [is] at hmidway
    cases hmidway

/-- A record begins while no other is midway. -/
theorem serial_begin {o : Occurrence} (alone : s.number Party.midway = 0)
    (held : s.parties[i]? = some (.recording o .counting)) {t : Tally} :
    Serial { s with
      engine := s.engine.withTally t, parties := s.parties.set i (.recording o .publishing) } := by
  have hset : (s.parties.set i (.recording o .publishing)).countP Party.midway =
      s.number Party.midway + 1 := countP_set Party.midway held
  refine ⟨?one, ?fresh, fun hnone => ?right⟩
  case one =>
    show (s.parties.set i (.recording o .publishing)).countP Party.midway ≤ 1
    omega
  case fresh =>
    intro q hq hmidway c hc
    -- the counters move, but nobody else has a copy of them, and this record has none yet
    rcases List.mem_or_eq_of_mem_set hq with hold | rfl
    · exact absurd hmidway (List.countP_eq_zero.mp alone q hold)
    · cases hc
  case right =>
    have hnone : (s.parties.set i (.recording o .publishing)).countP Party.midway = 0 := hnone
    omega

/-- A record that is midway goes on. -/
theorem Serial.goOn (h : Serial s) (held : s.parties[i]? = some p) (was : p.midway = true)
    (is : p'.midway = true) (fresh : ∀ c, p'.copy? = some c → c.Fresh s.stats)
    (stats : e.tally.stats = s.stats) :
    Serial { s with engine := e, parties := s.parties.set i p' } := by
  -- one that is midway goes on, and is midway still
  have hset : (s.parties.set i p').countP Party.midway + p.midway.toNat =
      s.number Party.midway + p'.midway.toNat := countP_set Party.midway held
  have hpositive : 0 < s.number Party.midway :=
    List.countP_pos_iff.mpr ⟨p, List.mem_of_getElem? held, was⟩
  rw [was, is] at hset
  refine ⟨?one, ?fresh, fun hnone => ?right⟩
  case one =>
    have hone := h.one
    show (s.parties.set i p').countP Party.midway ≤ 1
    omega
  case fresh =>
    intro q hq hmidway c hc
    show c.Fresh e.tally.stats
    rw [stats]
    rcases List.mem_or_eq_of_mem_set hq with hold | rfl
    · exact h.fresh q hold hmidway c hc
    · exact fresh c hc
  case right =>
    have hnone : (s.parties.set i p').countP Party.midway = 0 := hnone
    omega

/-- The record that is midway sets the gauge, and nothing was counted since its copy. -/
theorem Serial.set (h : Serial s) {o : Occurrence} {copy : Stats}
    (held : s.parties[i]? = some (.recording o (.copying (.done copy)))) :
    Serial { s with
      engine := s.engine.withTally
        { s.tally with metrics := { s.tally.metrics with inFlight := some copy.inFlight } }
      parties := s.parties.set i (.after o) } := by
  have hset : (s.parties.set i (.after o)).countP Party.midway + 1 =
      s.number Party.midway + (Party.after o).midway.toNat := countP_set Party.midway held
  have hafter : (Party.after o).midway = false := by cases o <;> rfl
  have hone := h.one
  -- this record was the only one midway, so that none is any more
  rw [hafter, Bool.toNat_false] at hset
  have hnone : (s.parties.set i (.after o)).countP Party.midway = 0 := by omega
  refine ⟨?one, fun q hq hmidway => ?fresh, fun _ _ => ?right⟩
  case one =>
    show (s.parties.set i (.after o)).countP Party.midway ≤ 1
    omega
  case fresh => exact absurd hmidway (List.countP_eq_zero.mp hnone q hq)
  case right => exact congrArg some (h.fresh _ (List.mem_of_getElem? held) rfl _ rfl).inFlight

/-- A party takes a step, and begins a record only if no other one is midway. -/
theorem Serial.does (h : Serial s) (held : s.parties[i]? = some p) (does : Does validate s p e p')
    (alone : p.begins = true → s.number Party.midway = 0) :
    Serial { s with engine := e, parties := s.parties.set i p' } := by
  cases does with
  | count => exact serial_begin (alone rfl) held
  | publish => exact h.goOn held rfl rfl (fun c hc => by cases hc; trivial) rfl
  | @copy o c =>
    have hfresh := h.fresh _ (List.mem_of_getElem? held) rfl c rfl
    exact h.goOn held rfl rfl (fun c' hc => by cases hc; exact hfresh.load) rfl
  | setGauge => exact h.set held
  | labelRefusal =>
    exact h.pass held rfl rfl (fun hrecorded => by cases hrecorded) rfl rfl
      (Metrics.inFlight_countRejected _ _)
  | queue => exact h.pass held rfl rfl (fun _ => rfl) rfl rfl rfl
  | _ => exact h.pass held rfl rfl (fun hrecorded => by cases hrecorded) rfl rfl rfl

/-- Parties come, and none of them is midway or over. -/
theorem Serial.join (h : Serial s) {more : List Party} (parties : s'.parties = s.parties ++ more)
    (fresh : ∀ p ∈ more, p.midway = false ∧ p.recorded = false) (tally : s'.tally = s.tally) :
    Serial s' := by
  -- whoever joins is not midway
  have hnone : more.countP Party.midway = 0 := by
    refine List.countP_eq_zero.mpr fun p hp => ?_
    rw [(fresh p hp).1]
    exact Bool.false_ne_true
  have hsame : s'.number Party.midway = s.number Party.midway := by
    rw [number, parties, List.countP_append, hnone]
    rfl
  refine h.still hsame ?_ (congrArg (·.stats.submitted) tally) (congrArg (·.stats.completed) tally)
    (congrArg (·.metrics.inFlight) tally)
  intro p hp
  rw [parties] at hp
  rcases List.mem_append.mp hp with hold | hnew
  · exact ⟨fun _ => hold, fun hrecorded => ⟨p, hold, hrecorded⟩⟩
  · refine ⟨fun hmidway => ?_, fun hrecorded => ?_⟩
    · rw [(fresh p hnew).1] at hmidway
      cases hmidway
    · rw [(fresh p hnew).2] at hrecorded
      cases hrecorded

/-- Every step keeps it, if records exclude each other. -/
theorem Serial.step (h : Serial s) (exclusive : Exclusive opening)
    (next : Step validate opening s s') : Serial s' := by
  cases next with
  | @call q first =>
    refine h.join rfl (List.forall_mem_singleton.mpr ?_) rfl
    cases q <;> first | exact ⟨rfl, rfl⟩ | cases first
  | does held does opens => exact h.does held does fun begins => exclusive s (opens begins)
  | answer held => exact h.join rfl (List.forall_mem_singleton.mpr ⟨rfl, rfl⟩) rfl
  | _ => exact h.join (List.append_nil _).symm (by simp) rfl

/-- If records exclude each other, they do so at every moment. -/
theorem Reachable.serial (h : Reachable validate opening pollInterval s)
    (exclusive : Exclusive opening) : Serial s := by
  induction h with
  | initial => exact .initial
  | step _ next ih => exact ih.step exclusive next

/-! ## The gauge at rest -/

/-- At rest no request waits to be counted. -/
theorem Resting.uncounted (rest : s.Resting) : s.uncounted = 0 := by
  refine List.countP_eq_zero.mpr fun p hp huncounted => ?_
  have hrecords := rest p hp
  cases p with
  | recording o step => cases hrecords
  | _ => cases huncounted

/-- The difference that is shown is that of numbers, cut off at zero. -/
theorem toNat_inFlight (now : Stats) :
    now.inFlight.toNat = now.submitted.toNat - now.completed.toNat := by
  unfold Stats.inFlight
  split
  · rename_i hle
    exact UInt64.toNat_sub_of_le _ _ hle
  · rename_i hgt
    rw [UInt64.le_iff_toNat_le] at hgt
    show 0 = _
    omega

/-- **The gauge at rest.**  Whatever calls were made and however their steps were mixed: once no
    record is in progress and one was made, no more jobs are completed than submitted, and the
    gauge shows the difference of two counters that were right at two earlier moments, first the
    submissions and later the completions.  What was counted since is missing from it.  If
    records exclude each other, then nothing is missing. -/
theorem gauge_at_rest (reached : Reachable validate opening pollInterval s)
    (short : s.parties.length < UInt64.size) (rest : s.Resting) (made : s.Recorded) :
    s.stats.completed ≤ s.stats.submitted ∧
    (∃ s₁ s₂ g, Reachable validate opening pollInterval s₁ ∧ Path validate opening s₁ s₂ ∧
      Path validate opening s₂ s ∧ s.tally.metrics.inFlight = some g ∧
      g.toNat = s₁.stats.submitted.toNat - s₂.stats.completed.toNat ∧
      s₁.stats.submitted ≤ s.stats.submitted ∧ s₂.stats.completed ≤ s.stats.completed) ∧
    (Exclusive opening →
      s.tally.metrics.inFlight = some (s.stats.submitted - s.stats.completed)) := by
  have hordered := (reached.counted.ordered short).2
  rw [rest.uncounted, Nat.add_zero] at hordered
  have hle : s.stats.completed ≤ s.stats.submitted := UInt64.le_iff_toNat_le.mpr hordered
  refine ⟨hle, ?_, fun exclusive => ?_⟩
  · obtain ⟨g, hg⟩ := Option.ne_none_iff_exists'.mp (reached.sighted.set made)
    obtain ⟨copy, ⟨s₁, s₂, s₃, s₄, hreached, hpath, hpath', hpath'', hlast, rfl⟩, rfl⟩ :=
      reached.sighted.gauge g hg
    have hthird : Path validate opening s₃ s := hpath''.trans hlast
    have hfirst : Path validate opening s₁ s₃ := hpath.trans hpath'
    exact ⟨s₁, s₃, _, hreached, hfirst, hthird, hg, toNat_inFlight _,
      (Path.stats_le hreached (hfirst.trans hthird) short).1,
      (Path.stats_le (hreached.path hfirst) hthird short).2⟩
  · -- at rest nobody is midway, and then an exclusive record has left the gauge right
    have hnone : s.number Party.midway = 0 := by
      refine List.countP_eq_zero.mpr fun p hp hmidway => ?_
      have hrecords := rest p hp
      cases p with
      | recording o step => cases hrecords
      | _ => cases hmidway
    rw [(reached.serial exclusive).right hnone made, Stats.inFlight, if_pos hle]

/-! ## An outdated gauge -/

/-- `submit` has copied the counters while its job was in flight, and sets the gauge next. -/
def slow : Counters where
  engine :=
    { pollInterval := 5, phase := .working, accepted := 1, broadcasting := [lone]
      tally := ⟨⟨1, 0, 0, 0⟩, { submitted := 1 }⟩ }
  dispatching := true
  parties := [.recording .acceptance (.copying (.done ⟨1, 0, 0, 0⟩))]

/-- The submission is counted and copied, and its gauge is not set yet. -/
theorem slow_reachable : Reachable (fun _ => .ok ()) (fun _ => True) 5 slow := by
  -- its counter, its metric, then the four loads
  have hcounted : Reachable (fun _ => .ok ()) (fun _ => True) 5 _ :=
    handedOn_reachable.step (.does (i := 0) rfl .count fun _ => trivial)
  have hpublished := hcounted.step (.does (i := 0) rfl .publish nofun)
  have hloaded := (hpublished.step (.does (i := 0) rfl .copy nofun)).step
    (.does (i := 0) rfl .copy nofun)
  exact (hloaded.step (.does (i := 0) rfl .copy nofun)).step (.does (i := 0) rfl .copy nofun)

/-- The job was completed in between, and everything is over. -/
def outdated : Counters where
  engine :=
    { pollInterval := 5, phase := .working, accepted := 1
      receipts := [.ofOutcome ⟨"job"⟩ lonePending]
      tally := ⟨⟨1, 0, 1, 0⟩, { submitted := 1, failed := 1, inFlight := some 1 }⟩ }
  dispatching := true
  parties := [.submitted (.ok ()), .completed]

/-- The job completes, sets the gauge to zero, and then the old copy is written over it. -/
theorem outdated_reachable : Reachable (fun _ => .ok ()) (fun _ => True) 5 outdated := by
  have hcompleted : Reachable (fun _ => .ok ()) (fun _ => True) 5 _ :=
    slow_reachable.path (@path_complete _ _ _ lone (by simp [slow]) lonePending trivial)
  exact hcompleted.step (.does (i := 0) rfl .setGauge nofun)

theorem outdated_resting : outdated.Resting := by
  intro p hp
  simp only [outdated, List.mem_cons, List.not_mem_nil, or_false] at hp
  rcases hp with rfl | rfl <;> rfl

theorem outdated_recorded : outdated.Recorded := ⟨.completed, by simp [outdated], rfl⟩

/-- **The gauge can stay wrong.**  A job was submitted and completed, nothing is in progress, and
    the gauge says that it is in flight. -/
theorem gauge_outdated : ∃ s, Reachable (fun _ => .ok ()) (fun _ => True) 5 s ∧ s.Resting ∧
    s.Recorded ∧ s.engine.phase = .working ∧ s.stats.submitted = 1 ∧ s.stats.completed = 1 ∧
    s.tally.metrics.inFlight = some 1 ∧
    s.tally.metrics.inFlight ≠ some (s.stats.submitted - s.stats.completed) :=
  ⟨outdated, outdated_reachable, outdated_resting, outdated_recorded, rfl, rfl, rfl, rfl,
    by decide⟩

/-- A record begins when no other is midway. -/
def patient (s : Counters) : Prop := s.number Party.midway = 0

/-- The same calls, one record after the other. -/
def upToDate : Counters :=
  { outdated with engine := { outdated.engine with
      tally := ⟨⟨1, 0, 1, 0⟩, { submitted := 1, failed := 1, inFlight := some 0 }⟩ } }

/-- The submission is recorded to its end before the job completes. -/
theorem upToDate_reachable : Reachable (fun _ => .ok ()) patient 5 upToDate := by
  have hrecorded : Reachable (fun _ => .ok ()) patient 5 _ :=
    handedOn_reachable.path (path_record (i := 0) rfl rfl)
  exact hrecorded.path (@path_complete _ _ _ lone List.mem_cons_self lonePending rfl)

theorem gauge_at_rest_outdated :
    Reachable (fun _ => .ok ()) (fun _ => True) 5 outdated ∧
    outdated.parties.length < UInt64.size ∧ outdated.Resting ∧ outdated.Recorded ∧
    outdated.stats.completed ≤ outdated.stats.submitted ∧
    (∃ s₁ s₂ g, Reachable (fun _ => .ok ()) (fun _ => True) 5 s₁ ∧
      Path (fun _ => .ok ()) (fun _ => True) s₁ s₂ ∧
      Path (fun _ => .ok ()) (fun _ => True) s₂ outdated ∧
      outdated.tally.metrics.inFlight = some g ∧
      g.toNat = s₁.stats.submitted.toNat - s₂.stats.completed.toNat ∧
      s₁.stats.submitted ≤ outdated.stats.submitted ∧
      s₂.stats.completed ≤ outdated.stats.completed) ∧
    Reachable (fun _ => .ok ()) patient 5 upToDate ∧ Exclusive patient ∧
    upToDate.tally.metrics.inFlight =
      some (upToDate.stats.submitted - upToDate.stats.completed) := by
  have hshort : outdated.parties.length < UInt64.size := by decide
  have houtdated := gauge_at_rest outdated_reachable hshort outdated_resting outdated_recorded
  have hupToDate := gauge_at_rest upToDate_reachable (by decide) outdated_resting outdated_recorded
  have hexclusive : Exclusive patient := fun _ hnone => hnone
  exact ⟨outdated_reachable, hshort, outdated_resting, outdated_recorded, houtdated.1,
    houtdated.2.1, upToDate_reachable, hexclusive, hupToDate.2.2 hexclusive⟩

end Counters

end Engine

end TxRelay
