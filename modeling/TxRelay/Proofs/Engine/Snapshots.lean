/-
  Snapshots of a running engine.

  A snapshot loads four counters one after the other, and a job may be quick.  It may pass a counter
  that was loaded already and then be counted at one that was not; and since a request is sent
  before it is counted, it may even be completed before it is submitted.  So a snapshot can say that
  more jobs were completed than submitted, or that more receipts were delivered than completed
  (`snapshot_disordered`): the copy is not one of any moment.

  1. **What does hold.**  Each counter of a snapshot was right at a moment of its own, and these
     moments follow each other (`Loaded`).  At each of them the counters were in order but for the
     requests that were sent and not counted (`Counted.ordered`).  Between them the two counters of
     the gauge only grow.  So a snapshot is out of order by no more than what was counted between
     the loads, and what was sent and not counted (`snapshot_moments`).

  2. **When it is in order.**  If nothing of this kind happened, the four moments may be taken for
     one; the last clause of `snapshot_moments` says so.

  3. **Out of order.**  Two states with such snapshots, each with its path.  In one the request is
     sent and counted only later; in the other the whole life of a job passes between two loads.
-/
import TxRelay.Proofs.Engine.Gauge

namespace TxRelay.Engine.Counters

variable {validate : Validate} {opening : Counters → Prop} {pollInterval : UInt64}
  {s : Counters}

/-- Somebody has this snapshot. -/
def Shows (s : Counters) (copy : Stats) : Prop := .reading (.done copy) ∈ s.parties

/-- **What a snapshot tells.**  The counters of a snapshot were right at four moments, one after
    the other.  More receipts are delivered than completed by no more than were completed between
    the loads of the two; more jobs are completed than submitted by no more than were submitted
    between their loads, and those that were sent and not counted.  So a snapshot is in order if
    nothing of this kind happened. -/
theorem snapshot_moments (reached : Reachable validate opening pollInterval s)
    (short : s.parties.length < UInt64.size) {copy : Stats} (shows : s.Shows copy) :
    ∃ s₁ s₂ s₃ s₄, Reachable validate opening pollInterval s₁ ∧
      Path validate opening s₁ s₂ ∧ Path validate opening s₂ s₃ ∧ Path validate opening s₃ s₄ ∧
      Path validate opening s₄ s ∧
      copy = ⟨s₁.stats.submitted, s₂.stats.rejected, s₃.stats.completed, s₄.stats.delivered⟩ ∧
      copy.delivered.toNat ≤
        copy.completed.toNat + (s₄.stats.completed.toNat - s₃.stats.completed.toNat) ∧
      copy.completed.toNat ≤ copy.submitted.toNat +
        (s₃.stats.submitted.toNat - s₁.stats.submitted.toNat) + s₃.uncounted ∧
      (s₁.stats = s₄.stats → s₃.uncounted = 0 →
        copy.delivered ≤ copy.completed ∧ copy.completed ≤ copy.submitted) := by
  obtain ⟨s₁, s₂, s₃, s₄, hreached, hpath, hpath', hpath'', hlast, rfl⟩ :=
    reached.sighted.copies _ shows _ rfl
  have hreached₃ := (hreached.path hpath).path hpath'
  have hshort₄ : s₄.parties.length < UInt64.size :=
    Nat.lt_of_le_of_lt (Path.grows hlast).parties short
  have hshort₃ : s₃.parties.length < UInt64.size :=
    Nat.lt_of_le_of_lt (Path.grows hpath'').parties hshort₄
  have hdelivered := ((hreached₃.path hpath'').counted.ordered hshort₄).1
  have hcompleted := (hreached₃.counted.ordered hshort₃).2
  refine ⟨s₁, s₂, s₃, s₄, hreached, hpath, hpath', hpath'', hlast, rfl, ?_, ?_, ?_⟩
  · show s₄.stats.delivered.toNat ≤ s₃.stats.completed.toNat + _
    omega
  · show s₃.stats.completed.toNat ≤ s₁.stats.submitted.toNat + _ + _
    omega
  · -- the four moments have the same counters, so the order of one of them is that of the copy
    intro hsame hnone
    -- what is the same at both ends was the same in between
    have hfirst := (Path.stats_le hreached (hpath.trans hpath') hshort₃).2
    have hsecond := (Path.stats_le hreached₃ hpath'' hshort₄).1
    rw [hsame, UInt64.le_iff_toNat_le] at hfirst
    rw [UInt64.le_iff_toNat_le] at hsecond
    rw [UInt64.le_iff_toNat_le, UInt64.le_iff_toNat_le, hsame]
    show s₄.stats.delivered.toNat ≤ s₃.stats.completed.toNat ∧
      s₃.stats.completed.toNat ≤ s₄.stats.submitted.toNat
    omega

/-! ## Out of order -/

/-- The job is completed, `submit` has not counted it, and somebody has a snapshot. -/
def overtaken : Counters where
  engine :=
    { pollInterval := 5, phase := .working, accepted := 1
      receipts := [.ofOutcome ⟨"job"⟩ lonePending]
      tally := ⟨⟨0, 0, 1, 0⟩, { failed := 1, inFlight := some 0 }⟩ }
  dispatching := true
  parties := [.recording .acceptance .counting, .completed, .reading (.done ⟨0, 0, 1, 0⟩)]

/-- The job is through before its submission is counted, and the snapshot is taken then. -/
theorem overtaken_reachable : Reachable (fun _ => .ok ()) (fun _ => True) 5 overtaken := by
  have hcompleted : Reachable (fun _ => .ok ()) (fun _ => True) 5 _ :=
    handedOn_reachable.path (@path_complete _ _ _ lone List.mem_cons_self lonePending trivial)
  have hcalled := hcompleted.step (@Step.call _ _ _ (.reading .begun) rfl)
  exact hcalled.path (path_read (i := 2) rfl)

/-- The job is submitted, completed and delivered while somebody copies the counters. -/
def torn : Counters where
  engine :=
    { pollInterval := 5, phase := .working, accepted := 1
      tally := ⟨⟨1, 0, 1, 1⟩, { submitted := 1, failed := 1, inFlight := some 0 }⟩ }
  dispatching := true
  parties := [.submitted (.ok ()), .reading (.done ⟨1, 0, 0, 1⟩), .completed,
    .polled (.ok (.ready (.ofOutcome ⟨"job"⟩ lonePending)))]

/-- Three counters are loaded before the job's broadcast ends, the fourth after its receipt was
    taken. -/
theorem torn_reachable : Reachable (fun _ => .ok ()) (fun _ => True) 5 torn := by
  have hcounted : Reachable (fun _ => .ok ()) (fun _ => True) 5 _ :=
    handedOn_reachable.path (path_record (i := 0) rfl trivial)
  have hcalled := hcounted.step (@Step.call _ _ _ (.reading .begun) rfl)
  have hloaded := ((hcalled.step (.does (i := 1) rfl .load nofun)).step
    (.does (i := 1) rfl .load nofun)).step (.does (i := 1) rfl .load nofun)
  have hcompleted := hloaded.path
    (@path_complete _ _ _ lone List.mem_cons_self lonePending trivial)
  have hpolling := hcompleted.step (@Step.call _ _ _ .polling rfl)
  have hdelivered := (hpolling.step (.does (i := 3) rfl (.take rfl) nofun)).step
    (.does (i := 3) rfl .deliver nofun)
  exact hdelivered.step (.does (i := 1) rfl .load nofun)

/-- **A snapshot can be out of order.**  Of a working engine one snapshot says that a job was
    completed and none submitted, another that a receipt was delivered and no job completed. -/
theorem snapshot_disordered :
    (∃ s, Reachable (fun _ => .ok ()) (fun _ => True) 5 s ∧ s.engine.phase = .working ∧
      s.Shows ⟨0, 0, 1, 0⟩) ∧
    (∃ s, Reachable (fun _ => .ok ()) (fun _ => True) 5 s ∧ s.engine.phase = .working ∧
      s.Shows ⟨1, 0, 0, 1⟩) :=
  ⟨⟨overtaken, overtaken_reachable, rfl, by simp [Shows, overtaken]⟩,
    ⟨torn, torn_reachable, rfl, by simp [Shows, torn]⟩⟩

theorem snapshot_moments_torn :
    Reachable (fun _ => .ok ()) (fun _ => True) 5 torn ∧ torn.parties.length < UInt64.size ∧
    torn.Shows ⟨1, 0, 0, 1⟩ ∧
    ∃ s₁ s₂ s₃ s₄, Reachable (fun _ => .ok ()) (fun _ => True) 5 s₁ ∧
      Path (fun _ => .ok ()) (fun _ => True) s₁ s₂ ∧
      Path (fun _ => .ok ()) (fun _ => True) s₂ s₃ ∧
      Path (fun _ => .ok ()) (fun _ => True) s₃ s₄ ∧
      Path (fun _ => .ok ()) (fun _ => True) s₄ torn ∧
      (⟨1, 0, 0, 1⟩ : Stats) =
        ⟨s₁.stats.submitted, s₂.stats.rejected, s₃.stats.completed, s₄.stats.delivered⟩ ∧
      1 ≤ 0 + (s₄.stats.completed.toNat - s₃.stats.completed.toNat) ∧
      0 ≤ 1 + (s₃.stats.submitted.toNat - s₁.stats.submitted.toNat) + s₃.uncounted := by
  have hshows : torn.Shows ⟨1, 0, 0, 1⟩ := by simp [Shows, torn]
  obtain ⟨s₁, s₂, s₃, s₄, hreached, hpath, hpath', hpath'', hlast, hcopy, hdelivered, hcompleted,
    -⟩ := snapshot_moments torn_reachable (by decide) hshows
  exact ⟨torn_reachable, by decide, hshows, s₁, s₂, s₃, s₄, hreached, hpath, hpath', hpath'',
    hlast, hcopy, hdelivered, hcompleted⟩

end TxRelay.Engine.Counters
