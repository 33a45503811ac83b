/-
  Schedules and steps.

  A schedule is a list of deeds, and a deed does something or nothing; a step is a relation.  Runs
  are easier as schedules, inductions are easier over steps, and here the two meet.

  1. **Deeds are steps.**  A plain deed is a step, or it cannot be done and nothing happens
     (`advance_steps`, with one lemma for each kind of deed).

  2. **Steps are deeds.**  Each step is a plain deed (`Step.deed`).  Going on is what a client does
     by itself, so a step that happens by itself is the deed of going on or of listening.

  So schedules of plain deeds lead to the moments that a new client can come to, and to no others
  (`reachable_iff_run`).  A deed that upsets a callback is not plain: it changes the callback under
  way, and stands for a panic of which the callback itself does not tell.
-/
import TxRelay.Client.Schedule

namespace TxRelay.Client

namespace Moment

/-- A round begins a callback, drops a receipt, ends the loop or waits. -/
theorem round_steps {m : Moment} (free : m.busy = none) (runs : m.client.isRunning = true) :
    m.round = m ∨ Step m m.round := by
  unfold round
  split
  · rename_i r c hround
    split
    · rename_i callback hset
      exact Or.inr (.happens (.begin free runs hround hset))
    · rename_i hunset
      exact Or.inr (.happens (.drop free runs hround hunset))
  · exact Or.inl rfl
  · rename_i result c hround
    exact Or.inr (.happens (.stop free runs hround))

/-- A client that goes on makes a call of its callback, ends the callback or does a round. -/
theorem goOn_steps (m : Moment) : m.goOn = m ∨ Step m m.goOn := by
  unfold goOn
  split
  · rename_i hbusy
    exact Or.inr (.happens (.call hbusy))
  · rename_i hbusy
    exact Or.inr (.happens (.return hbusy))
  · rename_i hfree
    split
    · rename_i hruns
      exact round_steps hfree hruns
    · exact Or.inl rfl

/-- The network answers for its first job, or does not. -/
theorem listen_steps (m : Moment) : m.listen = m ∨ Step m m.listen := by
  unfold listen
  split
  · exact Or.inl rfl
  · rename_i hhead
    split
    · exact Or.inl rfl
    · rename_i hanswer
      exact Or.inr (.happens (.hear hhead hanswer))

/-- An answer from outside is for a job that is known, or is not heard. -/
theorem learn_steps (m : Moment) (job : Nat) (outcome : BroadcastResult) :
    m.learn job outcome = m ∨ Step m (m.learn job outcome) := by
  unfold learn
  split
  · rename_i hgoes
    exact Or.inr (.finish hgoes)
  · exact Or.inl rfl

/-- A plain deed is a step, or it cannot be done. -/
theorem advance_steps (m : Moment) {deed : Deed} (plain : deed.isPlain = true) :
    m.advance deed = m ∨ Step m (m.advance deed) := by
  cases deed with
  | call call => exact Or.inr (.call call)
  | finish job outcome => exact m.learn_steps job outcome
  | hear => exact m.listen_steps
  | goOn => exact m.goOn_steps
  | upset => cases plain

end Moment

/-- Each step is a deed. -/
theorem Step.deed {m m' : Moment} (next : Step m m') :
    ∃ deed : Deed, deed.isPlain = true ∧ m.advance deed = m' := by
  cases next with
  | call call => exact ⟨.call call, rfl, rfl⟩
  | @finish job outcome goes => exact ⟨.finish job outcome, rfl, if_pos goes⟩
  | happens next =>
    cases next with
    | begin free runs round set =>
      exact ⟨.goOn, rfl, by simp only [Moment.advance, Moment.goOn, Moment.round, free, runs,
        round, set, if_true]⟩
    | drop free runs round unset =>
      exact ⟨.goOn, rfl, by simp only [Moment.advance, Moment.goOn, Moment.round, free, runs,
        round, unset, if_true]⟩
    | stop free runs round =>
      exact ⟨.goOn, rfl, by simp only [Moment.advance, Moment.goOn, Moment.round, free, runs,
        round, if_true]⟩
    | call busy => exact ⟨.goOn, rfl, by simp only [Moment.advance, Moment.goOn, busy]⟩
    | «return» busy => exact ⟨.goOn, rfl, by simp only [Moment.advance, Moment.goOn, busy]⟩
    | hear head answer =>
      exact ⟨.hear, rfl, by simp only [Moment.advance, Moment.listen, head, answer]⟩

/-- A schedule of plain deeds leads to what can be reached. -/
theorem Reachable.run {config : Config} {network : Network} {m : Moment}
    (h : Reachable config network m) {deeds : List Deed}
    (plain : ∀ deed ∈ deeds, deed.isPlain = true) : Reachable config network (m.run deeds) := by
  induction deeds generalizing m with
  | nil => exact h
  | cons deed deeds ih =>
    have hlater : ∀ d ∈ deeds, d.isPlain = true := fun d hd => plain d (List.mem_cons_of_mem _ hd)
    rw [Moment.run_cons]
    rcases m.advance_steps (plain deed List.mem_cons_self) with hsame | hstep
    · rw [hsame]
      exact ih h hlater
    · exact ih (h.step hstep) hlater

/-- **What a new client can come to is what schedules of plain deeds bring it to.** -/
theorem reachable_iff_run {config : Config} {network : Network} {m : Moment} :
    Reachable config network m ↔ ∃ deeds : List Deed,
      (∀ deed ∈ deeds, deed.isPlain = true) ∧ (Moment.initial config network).run deeds = m := by
  constructor
  · intro h
    induction h with
    | initial => exact ⟨[], by simp, rfl⟩
    | step before next ih =>
      obtain ⟨deeds, hplain, rfl⟩ := ih
      obtain ⟨deed, hdeed, rfl⟩ := next.deed
      refine ⟨deeds ++ [deed], ?_, Moment.run_append _ _ _⟩
      intro d hd
      rcases List.mem_append.mp hd with hd | hd
      · exact hplain d hd
      · rwa [List.mem_singleton.mp hd]
  · rintro ⟨deeds, hplain, rfl⟩
    exact Reachable.initial.run hplain

end TxRelay.Client
