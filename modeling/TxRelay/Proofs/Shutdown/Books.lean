/-
  The books of the shutdown signal.

  `learnt` says what one learns from an answer.  From the news so far one reads who is subscribed,
  who waits, and who has yet to find the signal (`due`):

      subscribed ──▶ left                 begun ──▶ pending ──▶ ended
           │                                └───────────────────▲
           └── tried, once the signal is sent

  Nothing else is known here: no box, no receiver, no flag.  `expected` is the answer that the books
  make of the next call.

  1. **Books.**  Each is the set of those of whom some news tells (`those`), so that an entry in a
     book is a piece of news (`mem_those`, and one line for each book).

  2. **The first trigger.**  It splits the news: who was subscribed before it is `early`, and who
     tried since is `served`.  More news changes the one set no more and the other at its end only
     (`split_snoc`).

  3. **What the next news changes.**  Each book grows by those of whom the news tells
     (`those_snoc`), so news of one kind leaves the books of the other kind alone, and `live`,
     `listening` and `due` gain or lose one at most.

  The crux is that `due` is told by the order of the news, not by its set: it is who subscribed
  before the first trigger and has not tried since, and every later lemma goes back to the place
  where the trigger stands.
-/
import Mathlib.Data.Finset.Card
import Mathlib.Data.Finset.Range
import Mathlib.Data.List.TakeWhile
import TxRelay.Shutdown

namespace TxRelay.Shutdown

/-! ## News -/

/-- What is learnt from an answer. -/
inductive News where
  | triggered
  | subscribed (i : Nat)
  | left (i : Nat)
  /-- A subscriber looked into its box. -/
  | tried (i : Nat)
  | begun (i : Nat)
  /-- A wait was polled and goes on. -/
  | pending (i : Nat)
  /-- A wait is ready or cancelled. -/
  | ended (i : Nat)
deriving DecidableEq

/-- What is learnt from an operation and its answer. -/
def learnt : Op → Answer → Option News
  | .trigger, _ => some .triggered
  | .subscribe, .number i => some (.subscribed i)
  | .unsubscribe i, .flag true => some (.left i)
  | .tryRecv i, .received _ => some (.tried i)
  | .wait, .number i => some (.begun i)
  | .poll i, .pending => some (.pending i)
  | .poll i, .ready => some (.ended i)
  | .cancel i, .flag true => some (.ended i)
  | _, _ => none

/-- It is about a subscriber, and who is subscribed. -/
def News.ofSubscriber : News → Bool
  | .subscribed _ | .left _ => true
  | _ => false

/-- It is about a wait. -/
def News.ofWait : News → Bool
  | .begun _ | .pending _ | .ended _ => true
  | _ => false

/-! ## Books -/

namespace Books

variable {ns : List News} {n : News} {i : Nat}

/-- The signal was triggered. -/
def triggered (ns : List News) : Bool := decide (.triggered ∈ ns)

/-- Those of whom there is such news. -/
def those (read : News → Option Nat) (ns : List News) : Finset Nat := (ns.filterMap read).toFinset

/-- The subscribers so far. -/
def subscribed : List News → Finset Nat := those fun | .subscribed i => some i | _ => none

/-- The subscribers that are gone. -/
def left : List News → Finset Nat := those fun | .left i => some i | _ => none

/-- The subscribers that looked into their boxes. -/
def tried : List News → Finset Nat := those fun | .tried i => some i | _ => none

/-- The waits so far. -/
def begun : List News → Finset Nat := those fun | .begun i => some i | _ => none

/-- The waits that a poll left pending. -/
def pending : List News → Finset Nat := those fun | .pending i => some i | _ => none

/-- The waits that are ready or cancelled. -/
def ended : List News → Finset Nat := those fun | .ended i => some i | _ => none

/-- The subscribers that are there. -/
def live (ns : List News) : Finset Nat := subscribed ns \ left ns

/-- The waits that are not over. -/
def waiting (ns : List News) : Finset Nat := begun ns \ ended ns

/-- The waits that have been polled and are not over. -/
def listening (ns : List News) : Finset Nat := pending ns \ ended ns

/-- The subscribers so far when the signal was first triggered. -/
def early (ns : List News) : Finset Nat := subscribed (ns.takeWhile (· ≠ .triggered))

/-- The subscribers that looked into their boxes since then. -/
def served (ns : List News) : Finset Nat := tried (ns.dropWhile (· ≠ .triggered))

/-- The subscribers that have yet to find the signal. -/
def due (ns : List News) : Finset Nat := if triggered ns then early ns \ served ns else ∅

/-- The answer to the next operation. -/
def expected (ns : List News) : Op → Answer
  | .trigger => .flag !triggered ns
  | .subscribe => .number (subscribed ns).card
  | .unsubscribe i => .flag (decide (i ∈ live ns))
  | .tryRecv i =>
    if i ∈ live ns then .received (if i ∈ due ns then .signal else .empty) else .gone
  | .wait => .number (begun ns).card
  | .poll i => if i ∈ waiting ns then if triggered ns then .ready else .pending else .gone
  | .cancel i => .flag (decide (i ∈ waiting ns))

/-! ## Who is in which book -/

/-- Somebody is in a book if there is news of it. -/
theorem mem_those {read : News → Option Nat} {made : Nat → News}
    (reads : ∀ n i, read n = some i ↔ n = made i) :
    i ∈ those read ns ↔ made i ∈ ns := by
  simp [those, reads]

@[simp] theorem mem_subscribed : i ∈ subscribed ns ↔ .subscribed i ∈ ns :=
  mem_those fun n i => by cases n <;> simp

@[simp] theorem mem_left : i ∈ left ns ↔ .left i ∈ ns :=
  mem_those fun n i => by cases n <;> simp

@[simp] theorem mem_tried : i ∈ tried ns ↔ .tried i ∈ ns :=
  mem_those fun n i => by cases n <;> simp

@[simp] theorem mem_begun : i ∈ begun ns ↔ .begun i ∈ ns :=
  mem_those fun n i => by cases n <;> simp

@[simp] theorem mem_pending : i ∈ pending ns ↔ .pending i ∈ ns :=
  mem_those fun n i => by cases n <;> simp

@[simp] theorem mem_ended : i ∈ ended ns ↔ .ended i ∈ ns :=
  mem_those fun n i => by cases n <;> simp

/-- The signal is sent once there is news of it. -/
theorem triggered_snoc : triggered (ns ++ [n]) = (triggered ns || decide (n = .triggered)) := by
  simp [triggered, eq_comm]

/-- Other news does not send it. -/
theorem triggered_other (other : n ≠ .triggered) : triggered (ns ++ [n]) = triggered ns := by
  rw [triggered_snoc, decide_eq_false other, Bool.or_false]

/-- The news up to the first trigger, and those from there on. -/
theorem split_at {before after : List News} (first : .triggered ∉ before) :
    (before ++ .triggered :: after).takeWhile (· ≠ .triggered) = before ∧
    (before ++ .triggered :: after).dropWhile (· ≠ .triggered) = .triggered :: after := by
  have hbefore : ∀ n ∈ before, decide (n ≠ News.triggered) = true := fun n hn =>
    decide_eq_true fun hsame => first (hsame ▸ hn)
  rw [List.takeWhile_append_of_pos hbefore, List.dropWhile_append_of_pos hbefore]
  simp

/-- Once the signal is triggered, it is settled who was early. -/
theorem split_snoc (h : triggered ns = true) :
    (ns ++ [n]).takeWhile (· ≠ .triggered) = ns.takeWhile (· ≠ .triggered) ∧
    (ns ++ [n]).dropWhile (· ≠ .triggered) = ns.dropWhile (· ≠ .triggered) ++ [n] := by
  obtain ⟨before, after, rfl, hfirst⟩ := List.eq_append_cons_of_mem (of_decide_eq_true h)
  rw [List.append_assoc, List.cons_append, (split_at hfirst).1, (split_at hfirst).2,
    (split_at hfirst).1, (split_at hfirst).2]
  exact ⟨rfl, rfl⟩

/-- After the trigger nobody is early any more. -/
theorem early_snoc (h : triggered ns = true) : early (ns ++ [n]) = early ns := by
  rw [early, early, (split_snoc h).1]

/-- After the trigger whoever tries is served. -/
theorem served_snoc (h : triggered ns = true) : served (ns ++ [n]) = served ns ∪ tried [n] := by
  rw [served, served, (split_snoc h).2]
  ext i
  simp

/-- The signal that is sent first finds everybody early, and nobody served. -/
theorem first_trigger (h : triggered ns = false) :
    early (ns ++ [.triggered]) = subscribed ns ∧ served (ns ++ [.triggered]) = ∅ := by
  have hfirst : .triggered ∉ ns := of_decide_eq_false h
  rw [early, served, (split_at hfirst).1, (split_at hfirst).2]
  exact ⟨rfl, rfl⟩

/-- Before it nobody is served, -/
theorem served_of_not (h : triggered ns = false) : served ns = ∅ := by
  have hnone : ns.dropWhile (· ≠ .triggered) = [] := List.dropWhile_eq_nil_iff.mpr fun n hn =>
    decide_eq_true fun hsame => of_decide_eq_false h (hsame ▸ hn)
  rw [served, hnone]
  rfl

/-- and to nobody the signal is due. -/
theorem due_of_not (h : triggered ns = false) : due ns = ∅ := by
  simp [due, h]

/-- It is due to subscribers only, -/
theorem due_subset : due ns ⊆ subscribed ns := by
  intro i hi
  unfold due at hi
  split at hi
  · have hearly := (Finset.mem_sdiff.mp hi).1
    rw [early, mem_subscribed] at hearly
    exact mem_subscribed.mpr ((List.takeWhile_sublist _).mem hearly)
  · cases Finset.notMem_empty i hi

/-- who have not found it yet. -/
theorem not_served_of_due (due : i ∈ due ns) : i ∉ served ns := by
  unfold Books.due at due
  split at due
  · exact (Finset.mem_sdiff.mp due).2
  · cases Finset.notMem_empty i due

/-- Once the signal is triggered, who tries the box is no longer due, and nobody else becomes so. -/
theorem due_of_triggered (h : triggered ns = true) : due (ns ++ [n]) = due ns \ tried [n] := by
  have hstill : triggered (ns ++ [n]) = true := by rw [triggered_snoc, h, Bool.true_or]
  rw [due, due, if_pos h, if_pos hstill, early_snoc h, served_snoc h, sdiff_sdiff]
  rfl

/-- The signal is due to those who are there when it is sent. -/
theorem due_first (h : triggered ns = false) : due (ns ++ [.triggered]) = subscribed ns := by
  have hset : triggered (ns ++ [.triggered]) = true := by rw [triggered_snoc, h]; rfl
  rw [due, if_pos hset, (first_trigger h).1, (first_trigger h).2, Finset.sdiff_empty]

/-- Whoever tries has found it. -/
theorem due_snoc (other : n ≠ .triggered) : due (ns ++ [n]) = due ns \ tried [n] := by
  cases h : triggered ns with
  | true => exact due_of_triggered h
  | false =>
    rw [due_of_not h, due_of_not ((triggered_other other).trans h), Finset.empty_sdiff]

/-! ## What the next news changes -/

/-- News that a book does not read leaves it as it is. -/
theorem those_snoc {read : News → Option Nat} (unread : read n = none) :
    those read (ns ++ [n]) = those read ns := by
  rw [those, those, List.filterMap_append, List.filterMap_cons_none unread, List.filterMap_nil,
    List.append_nil]

/-- News of a wait is none of a subscriber. -/
theorem subscribers_other (other : n.ofSubscriber = false) :
    subscribed (ns ++ [n]) = subscribed ns ∧ left (ns ++ [n]) = left ns := by
  cases n with
  | subscribed i | left i => cases other
  | _ => exact ⟨those_snoc rfl, those_snoc rfl⟩

/-- So the same are subscribed, -/
theorem live_other (other : n.ofSubscriber = false) : live (ns ++ [n]) = live ns := by
  rw [live, live, (subscribers_other other).1, (subscribers_other other).2]

/-- until one subscribes -/
theorem live_subscribed (new : i ∉ left ns) :
    live (ns ++ [.subscribed i]) = insert i (live ns) := by
  rw [live, live, ← Finset.insert_sdiff_of_notMem _ new]
  ext j
  simp [or_comm]

/-- or leaves. -/
theorem live_left : live (ns ++ [.left i]) = (live ns).erase i := by
  rw [live, live, ← Finset.sdiff_insert]
  ext j
  simp [or_comm]

/-- News of a subscriber is none of a wait. -/
theorem waits_other (other : n.ofWait = false) :
    begun (ns ++ [n]) = begun ns ∧ pending (ns ++ [n]) = pending ns ∧
      ended (ns ++ [n]) = ended ns := by
  cases n with
  | begun i | pending i | ended i => cases other
  | _ => exact ⟨those_snoc rfl, those_snoc rfl, those_snoc rfl⟩

/-- So the same wait, -/
theorem listening_other (other : n.ofWait = false) :
    listening (ns ++ [n]) = listening ns := by
  rw [listening, listening, (waits_other other).2.1, (waits_other other).2.2]

/-- until one begins to -/
theorem listening_pending (still : i ∉ ended ns) :
    listening (ns ++ [.pending i]) = insert i (listening ns) := by
  rw [listening, listening, ← Finset.insert_sdiff_of_notMem _ still]
  ext j
  simp [or_comm]

/-- or is over. -/
theorem listening_ended : listening (ns ++ [.ended i]) = (listening ns).erase i := by
  rw [listening, listening, ← Finset.sdiff_insert]
  ext j
  simp [or_comm]

/-- Who is served now was served before, or tries while the signal is due to it. -/
theorem served_iff :
    i ∈ early (ns ++ [n]) ∧ i ∈ served (ns ++ [n]) ↔
      (i ∈ early ns ∧ i ∈ served ns) ∨ (n = .tried i ∧ i ∈ due ns) := by
  cases h : triggered ns with
  | true =>
    rw [early_snoc h, served_snoc h, due, if_pos h]
    simp
    tauto
  | false =>
    rw [served_of_not h, due_of_not h]
    by_cases hn : n = .triggered
    · subst hn
      simp [(first_trigger h).2]
    · simp [served_of_not ((triggered_other hn).trans h)]

end Books

/-- One learns of a try from an answer to it that something or nothing was there. -/
theorem learnt_tried {op : Op} {answer : Answer} :
    learnt op answer = some (.tried i) ↔ op = .tryRecv i ∧ ∃ r, answer = .received r := by
  constructor
  · intro h
    unfold learnt at h
    split at h
    case h_4 j r =>
      cases h
      exact ⟨rfl, r, rfl⟩
    all_goals cases h
  · rintro ⟨rfl, r, rfl⟩
    rfl

end TxRelay.Shutdown
