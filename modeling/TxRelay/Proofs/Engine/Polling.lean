/-
  What a blocking poll comes to.

  Whichever branch its select polls first, and whenever the time is over, a blocking poll that
  nobody disturbs ends with what a poll that does not wait finds at once, and leaves the same engine
  behind (`polling_agrees`).  If something is to be found, it does not wait for the time to be over;
  if nothing is, it ends when the time is over.

  1. **The signal.**  Of the signal only one thing matters: as long as it was not sent, the wait of
     the select is pending, at its first poll and at every later one (`Unsent`).  The wait changes
     all the same, from one that was not polled to one that listens, so this is an invariant and not
     an equation.

  2. **How far it has come.**  `Stands` compares a poll under way with the engine that it began
     with: the engine is the same until the poll is over, and what it is over with is what a poll
     that does not wait finds.  Each step keeps it, and it always allows a step (`Stands.goes`).

  3. **That it ends.**  `todo` counts the looks that are left to a select that ends at its next look
     at its work, and whether the time is still running.  It falls with every step once it is clear
     how the poll ends (`Decided.step`); until then a poll may look for ever, so termination is
     claimed from there on only, as accessibility.

  The crux is that the work of the select looks at the lock and the receipts, not at the time first:
  a receipt that is there is taken even if the time is over from the beginning.
-/
import Mathlib.Logic.Relation
import TxRelay.Engine.Polling
import TxRelay.Proofs.Engine.Session
import TxRelay.Proofs.Shutdown

namespace TxRelay

/-! ## A signal that was not sent -/

namespace Shutdown

variable {s : Shutdown} {i : Nat}

/-- Nobody sent the signal: the wait was not polled yet, or listens at an empty box. -/
structure Unsent (s : Shutdown) (i : Nat) : Prop where
  flag : s.triggered = false
  sender : s.channel.isOpen = true
  waits : s.waits[i]? = some .idle ∨
    ∃ k, s.waits[i]? = some (.listening k) ∧ s.channel.box? k = some .empty

/-- The wait of a new select was not polled yet. -/
theorem Unsent.new (flag : s.triggered = false) (sender : s.channel.isOpen = true) :
    s.wait.2.Unsent s.wait.1 :=
  ⟨flag, sender, Or.inl (by simp [wait])⟩

/-- A poll of the wait is pending, and the signal is as little sent as before. -/
theorem Unsent.poll (h : s.Unsent i) : (s.poll i).1 = .pending ∧ (s.poll i).2.Unsent i := by
  rcases h.waits with hidle | ⟨k, hlistens, hempty⟩
  · have hpoll : s.poll i =
        listen { s with channel := s.channel.subscribe.2 } i s.channel.subscribe.1 := by
      simp [Shutdown.poll, hidle, h.flag]
    have hempty : s.channel.subscribe.2.box? s.channel.subscribe.1 = some .empty := by
      simp [Channel.subscribe, Channel.box?]
    have hlisten := @listen_empty { s with channel := s.channel.subscribe.2 } i _ h.sender hempty
    have hplace := (List.getElem?_eq_some_iff.mp hidle).1
    rw [hpoll, hlisten]
    exact ⟨rfl, h.flag, h.sender, Or.inr ⟨_, List.getElem?_set_self hplace, hempty⟩⟩
  · have hpoll : s.poll i = listen s i k := by simp [Shutdown.poll, hlistens]
    have hplace := (List.getElem?_eq_some_iff.mp hlistens).1
    rw [hpoll, listen_empty h.sender hempty]
    exact ⟨rfl, h.flag, h.sender, Or.inr ⟨k, List.getElem?_set_self hplace, hempty⟩⟩

end Shutdown

namespace Engine

variable {e : Engine}

/-! ## A poll that does not wait -/

/-- A poll that does not wait fails on a destroyed engine. -/
theorem pollNonblocking_gone (gone : e.phase = .destroyed) :
    e.pollNonblocking = (.error .destroyed, e) := by
  simp [pollNonblocking, gone]

/-- What a poll that does not wait finds in a live engine. -/
theorem pollNonblocking_live (live : e.phase ≠ .destroyed) :
    e.pollNonblocking =
      (if e.someoneWaits then none else e.receive?).getD (.ok .notReady, e) := by
  unfold pollNonblocking
  split
  · rename_i hgone
    exact absurd hgone live
  · cases e.someoneWaits <;> rfl

/-! ## A poll under way -/

namespace Polling

open Relation (ReflTransGen)

variable {p p' : Polling} {shutdown : Shutdown}

/-- Steps one after the other. -/
abbrev Path : Polling → Polling → Prop := ReflTransGen Step

/-- The signal was not sent, unless the engine is destroyed. -/
def Undisturbed (e : Engine) (shutdown : Shutdown) : Prop :=
  e.phase ≠ .destroyed → shutdown.triggered = false ∧ shutdown.channel.isOpen = true

/-- How far a poll has come that begins with this engine. -/
def Stands (e : Engine) (p : Polling) : Prop :=
  match p.stage with
  | .called => p.engine = e ∧ Undisturbed e p.shutdown
  | .selecting select => p.engine = e ∧ e.phase ≠ .destroyed ∧ p.shutdown.Unsent select.wait
  | .returned result => (result, p.engine) = e.pollNonblocking

/-- The work of a live engine finds what a poll that does not wait finds. -/
theorem work?_eq (live : p.engine.phase ≠ .destroyed) :
    p.engine.pollNonblocking = p.work?.getD (.ok .notReady, p.engine) :=
  pollNonblocking_live live

/-- A step changes nothing of the engine, or ends the poll as it must. -/
theorem Stands.step (h : Stands e p) (next : Step p p') : Stands e p' := by
  unfold Stands at h
  cases next with
  | refuse called gone =>
    rw [called] at h
    obtain ⟨rfl, -⟩ := h
    exact (pollNonblocking_gone gone).symm
  | select called live =>
    rw [called] at h
    obtain ⟨rfl, hquiet⟩ := h
    obtain ⟨hflag, hsender⟩ := hquiet live
    exact ⟨rfl, live, .new hflag hsender⟩
  | polls selects polls =>
    rw [selects] at h
    obtain ⟨hengine, hlive, hunsent⟩ := h
    cases polls with
    | turn opens => exact ⟨hengine, hlive, hunsent⟩
    | unheard looks pending => exact ⟨hengine, hlive, hunsent.poll.2⟩
  | hear selects hears =>
    -- the wait is pending as long as the signal was not sent
    rw [selects] at h
    cases h.2.2.poll.1.symm.trans hears.ready
  | take works found =>
    rw [works.selects] at h
    obtain ⟨rfl, hlive, -⟩ := h
    show (_, _) = p.engine.pollNonblocking
    rw [work?_eq hlive, found]
    rfl
  | wait works nothing early =>
    rw [works.selects] at h
    exact h
  | giveUp works nothing late =>
    rw [works.selects] at h
    obtain ⟨rfl, hlive, -⟩ := h
    show (_, _) = p.engine.pollNonblocking
    rw [work?_eq hlive, nothing]
    rfl
  | expire runs early => exact h

/-- So do steps one after the other. -/
theorem Stands.path (h : Stands e p) (path : Path p p') : Stands e p' := by
  induction path with
  | refl => exact h
  | tail _ next ih => exact ih.step next

/-- A poll that is not over goes on. -/
theorem Stands.goes (h : Stands e p) (runs : ∀ result, p.stage ≠ .returned result) :
    ∃ p', Step p p' := by
  unfold Stands at h
  cases hstage : p.stage with
  | returned result => exact absurd hstage (runs result)
  | called =>
    by_cases hgone : p.engine.phase = .destroyed
    · exact ⟨_, .refuse hstage hgone⟩
    · exact ⟨_, .select hstage hgone⟩
  | selecting select =>
    rw [hstage] at h
    obtain ⟨wait, look⟩ := select
    cases hbranch : look.branch? with
    -- the select is not being polled, and any branch may come first
    | none =>
      cases look with
      | rest => exact ⟨_, .polls hstage (.turn (b := .work) trivial)⟩
      | first b | second b => cases hbranch
    | some b =>
      cases b with
      | signal => exact ⟨_, .polls hstage (.unheard hbranch h.2.2.poll.1)⟩
      | work =>
        have hworks : p.Works ⟨wait, look⟩ := ⟨hstage, hbranch⟩
        cases hfound : p.work? with
        | some found => exact ⟨_, .take hworks hfound⟩
        | none =>
          cases hlate : p.late with
          | true => exact ⟨_, .giveUp hworks hfound hlate⟩
          | false => exact ⟨_, .wait hworks hfound hlate⟩

/-! ### The end -/

/-- It is clear how the poll ends: the time is over, or something is there. -/
def Decided (p : Polling) : Prop := p.late = true ∨ p.work?.isSome = true

/-- How many looks are left to a select that ends at its next look at its work. -/
def looksLeft : Look → Nat
  | .first .work | .second .work => 1
  | .first .signal => 2
  | .rest => 3
  | .second .signal => 4

/-- How many steps are left to a poll of which it is clear how it ends. -/
def todo (p : Polling) : Nat :=
  2 * (match p.stage with
    | .called => 4
    | .selecting select => looksLeft select.look
    | .returned _ => 0) + (!p.late).toNat

/-- A look at the signal that is pending brings the next look at the work nearer. -/
theorem looksLeft_onward {look : Look} (looks : look.branch? = some .signal) :
    looksLeft look.onward < looksLeft look := by
  cases look with
  | rest => cases looks
  | first b | second b =>
    cases b with
    | signal => decide
    | work => cases looks

/-- A look is left to every select. -/
theorem looksLeft_pos (look : Look) : 0 < looksLeft look := by
  cases look with
  | rest => decide
  | first b | second b => cases b <;> decide

/-- If it is clear how the poll ends, then each step brings the end nearer. -/
theorem Decided.step (h : p.Decided) (next : Step p p') :
    p'.todo < p.todo ∧ (p'.Decided ∨ ∃ result, p'.stage = .returned result) := by
  cases next with
  | refuse called gone =>
    refine ⟨?_, Or.inr ⟨_, rfl⟩⟩
    simp only [todo, called]
    omega
  | select called live =>
    refine ⟨?_, Or.inl h⟩
    simp only [todo, called, looksLeft]
    omega
  | polls selects polls =>
    refine ⟨?_, Or.inl h⟩
    simp only [todo, selects]
    cases polls with
    | @turn _ b opens =>
      cases b <;> simp only [looksLeft] <;> omega
    | unheard looks pending =>
      have hless := looksLeft_onward looks
      dsimp only at hless ⊢
      omega
  | @hear select selects hears =>
    have hpos := looksLeft_pos select.look
    refine ⟨?_, Or.inr ⟨_, rfl⟩⟩
    simp only [todo, selects]
    omega
  | @take select result e works found =>
    have hpos := looksLeft_pos select.look
    refine ⟨?_, Or.inr ⟨result, rfl⟩⟩
    simp only [todo, leave, works.selects]
    omega
  | wait works nothing early =>
    rcases h with hlate | hfound
    · cases early.symm.trans hlate
    · rw [nothing] at hfound
      cases hfound
  | @giveUp select works nothing late =>
    have hpos := looksLeft_pos select.look
    refine ⟨?_, Or.inr ⟨_, rfl⟩⟩
    simp only [todo, leave, works.selects]
    omega
  -- the looks stay, and the time is no longer running
  | expire runs early =>
    refine ⟨?_, Or.inl (Or.inl rfl)⟩
    simp [todo, early]

/-- A poll that is over takes no step. -/
theorem Step.runs (next : Step p p') (result : PollResult) : p.stage ≠ .returned result := by
  cases next with
  | refuse called => simp [called]
  | select called => simp [called]
  | polls selects => simp [selects]
  | hear selects => simp [selects]
  | take works => simp [works.selects]
  | wait works => simp [works.selects]
  | giveUp works => simp [works.selects]
  | expire runs => exact runs result

/-- So every way to go on is finite. -/
theorem Decided.ends (h : p.Decided) : Acc (fun p'' p' => Step p' p'') p := by
  induction hn : p.todo using Nat.strongRecOn generalizing p with
  | ind n ih =>
    refine ⟨p, fun p' next => ?_⟩
    obtain ⟨hless, hdecided | ⟨result, hover⟩⟩ := h.step next
    · exact ih _ (hn ▸ hless) hdecided rfl
    · exact ⟨p', fun p'' next' => absurd hover (next'.runs result)⟩

/-! ### What a poll comes to -/

/-- How a blocking poll goes that begins with this engine. -/
structure Goes (e : Engine) (p : Polling) : Prop where
  /-- It ends as a poll that does not wait. -/
  agrees : ∀ result, p.stage = .returned result → (result, p.engine) = e.pollNonblocking
  /-- Until then it changes nothing. -/
  keeps : (∀ result, p.stage ≠ .returned result) → p.engine = e
  /-- It gets on until it is over. -/
  goes : (∀ result, p.stage ≠ .returned result) → ∃ p', Step p p'
  /-- It ends once the time is over, or if something is there. -/
  ends : p.Decided → Acc (fun p'' p' => Step p' p'') p

/-- From how far a poll has come follows how it goes. -/
theorem Stands.polled (h : Stands e p) : Goes e p where
  agrees := by
    intro result hover
    unfold Stands at h
    rw [hover] at h
    exact h
  keeps := by
    intro runs
    unfold Stands at h
    cases hstage : p.stage with
    | called =>
      rw [hstage] at h
      exact h.1
    | selecting select =>
      rw [hstage] at h
      exact h.1
    | returned result => exact absurd hstage (runs result)
  goes := h.goes
  ends := Decided.ends

/-- **A blocking poll that nobody disturbs.**  Whichever branches its select polls first, and
    whenever the time is over, it ends with what a poll that does not wait finds at once. -/
theorem polling_agrees (quiet : Undisturbed e shutdown)
    (path : Path { engine := e, shutdown := shutdown } p) : Goes e p := by
  have hbegin : Stands e { engine := e, shutdown := shutdown } := ⟨rfl, quiet⟩
  exact (hbegin.path path).polled

end Polling

end Engine

end TxRelay
