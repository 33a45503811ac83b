/-
  What was written down, in order.

  A log grows at its end.  Many laws of the relay say of each entry what must have been written
  before it: no payload leaves before the engine was started, no call is refused before the
  client was destroyed.  `Each` states such a law for a whole log, and `Each.snoc` keeps it when
  one entry is added.  `each_run` is the induction over a run that writes its steps down.
-/

namespace TxRelay.Log

variable {α : Type}

/-- What is read off a log grows with what is read off the new entry. -/
theorem filterMap_snoc {β : Type} (read : α → Option β) (log : List α) (x : α) :
    (log ++ [x]).filterMap read = log.filterMap read ++ (read x).toList := by
  cases h : read x <;> simp [h]

/-- Every entry of the log stands in this relation to what was written before it. -/
def Each (Law : List α → α → Prop) (log : List α) : Prop :=
  ∀ before x after, log = before ++ x :: after → Law before x

theorem Each.nil {Law : List α → α → Prop} : Each Law [] := by
  intro before x after h
  simp at h

/-- An entry of a log that grew was there before, or it is the one that was added. -/
theorem split_snoc {log before after : List α} {x y : α}
    (h : log ++ [y] = before ++ x :: after) :
    (∃ rest, log = before ++ x :: rest) ∨ (log = before ∧ y = x) := by
  rcases List.append_eq_append_iff.mp h with ⟨more, hbefore, hy⟩ | ⟨rest, hlog, hrest⟩
  · cases more with
    | nil => exact Or.inr ⟨by simpa using hbefore.symm, by simp at hy; exact hy.1⟩
    | cons z more => simp at hy
  · cases rest with
    | nil => exact Or.inr ⟨by simpa using hlog, by simp at hrest; exact hrest.1.symm⟩
    | cons z rest =>
      rw [List.cons_append] at hrest
      obtain ⟨rfl, -⟩ := List.cons.inj hrest
      exact Or.inl ⟨rest, hlog⟩

/-- A law is kept if the new entry obeys it. -/
theorem Each.snoc {Law : List α → α → Prop} {log : List α} {y : α}
    (hlog : Each Law log) (hy : Law log y) : Each Law (log ++ [y]) := by
  intro before x after h
  rcases split_snoc h with ⟨rest, hrest⟩ | ⟨rfl, rfl⟩
  · exact hlog before x rest hrest
  · exact hy

/-- A law that holds of a log held of the log before its last entry, and of that entry. -/
theorem Each.of_snoc {Law : List α → α → Prop} {log : List α} {y : α}
    (h : Each Law (log ++ [y])) : Each Law log ∧ Law log y := by
  refine ⟨fun before x after hlog => h before x (after ++ [y]) ?_, h log y [] rfl⟩
  rw [hlog, List.append_assoc, List.cons_append]

/-- A law of all steps of a run, if each step obeys it and keeps what must be known for the
    next. -/
theorem each_run {σ ι ω : Type} {step : σ → ι → ω × σ} {run : σ → List ι → List (ω × σ)}
    (stops : ∀ s, run s [] = [])
    (goes : ∀ s i is, run s (i :: is) = step s i :: run (step s i).2 is)
    {entry : ι → ω × σ → α} {Law : List α → α → Prop} {Known : List α → σ → Prop}
    (keeps : ∀ log s i, Known log s →
      Law log (entry i (step s i)) ∧ Known (log ++ [entry i (step s i)]) (step s i).2)
    {s : σ} (known : Known [] s) (is : List ι) :
    Each Law (List.zipWith entry is (run s is)) := by
  have hrun (log : List α) (s : σ) (hlaw : Each Law log) (hknown : Known log s) :
      Each Law (log ++ List.zipWith entry is (run s is)) := by
    induction is generalizing log s with
    | nil =>
      rw [stops, List.zipWith_nil_left, List.append_nil]
      exact hlaw
    | cons i is ih =>
      obtain ⟨hobeys, hnext⟩ := keeps log s i hknown
      have hall := ih (log ++ [entry i (step s i)]) _ (hlaw.snoc hobeys) hnext
      rw [List.append_assoc] at hall
      rw [goes]
      exact hall
  exact hrun [] s Each.nil known

end TxRelay.Log
