/-
  No signal is lost.

  `trigger` sets the flag and then sends the signal.  A wait subscribes, then looks at the flag,
  then at its box.  The steps of any number of these calls come in any order, and still no wait
  sleeps through the signal.

  1. **Boxes.**  What subscribing, sending and receiving do to one box (`box?_subscribe`,
     `tryRecv_cases`).

  2. **What no wait has.**  Calls that are done at once, of subscribers and such, go by beside the
     waits: they touch no wait, no box that belongs to one, and not the flag (`Beside`).

  3. **What one step does.**  `Moves` lists what a step can be to the waits: a trigger's two halves,
     a wait that begins, listens, looks or is over, or something beside.  Every step is one of these
     (`Step.moves`), and the invariants look at `Moves` only.

  4. **A receiver for each wait.**  `Wired` says that each wait has a receiver of its own, which no
     other wait and no subscriber has.  So its box stays empty until the signal is sent, and no wait
     is over before (`Wired.empty`); and it is not empty from then on, until the wait looks into it
     (`Wired.full`).

  5. **Alone.**  A call that nobody disturbs does what the operation of the signal says.

  The crux is in the order of the two halves on each side.  A wait that read the flag before it was
  set has subscribed before the signal is sent, so that the signal lies in its box when it looks.  A
  wait that subscribes later than that reads the flag when it is set.
-/
import Mathlib.Logic.Relation
import TxRelay.Proofs.Shutdown
import TxRelay.Shutdown.Moment

namespace TxRelay.Shutdown

open Relation (ReflTransGen)

variable {s s' : Shutdown} {m m' : Moment} {i j k : Nat}

/-! ## Boxes -/

/-- There is no box yet with this number. -/
theorem box?_of_le {c : Channel} (h : c.boxes.length ≤ k) : c.box? k = none := by
  rw [Channel.box?, List.getElem?_eq_none h]
  rfl

/-- Subscribing adds an empty box at the end. -/
theorem box?_subscribe (c : Channel) (k : Nat) :
    c.subscribe.2.box? k = if k = c.boxes.length then some .empty else c.box? k := by
  show ((c.boxes ++ [some .empty])[k]?).join = _
  split
  · rename_i hk
    subst hk
    simp
  · rename_i hk
    rw [List.getElem?_append]
    split
    · rfl
    · rw [List.getElem?_eq_none (by simp; omega), box?_of_le (by omega)]
      rfl

/-- A look into a box changes that box at most. -/
theorem tryRecv_cases {c c' : Channel} {r : Received} (h : c.tryRecv k = some (r, c')) :
    c' = c ∨ ∃ box, c' = { c with boxes := c.boxes.set k box } := by
  obtain ⟨box, -, hfound⟩ := Option.map_eq_some_iff.mp h
  cases box with
  | empty => exact Or.inl (congrArg Prod.snd hfound).symm
  | message => exact Or.inr ⟨some .empty, (congrArg Prod.snd hfound).symm⟩
  | overrun => exact Or.inr ⟨some .message, (congrArg Prod.snd hfound).symm⟩

/-- A box to which a signal came is not empty. -/
theorem arrive_ne_empty (box : Option Mailbox) : box.map Channel.arrive ≠ some .empty := by
  cases box with
  | none => simp
  | some box => cases box <;> simp [Channel.arrive]

/-! ## What no wait has -/

/-- The two differ in nothing that a wait has. -/
structure Beside (s s' : Shutdown) : Prop where
  waits : s.waits.length ≤ s'.waits.length
  isOpen : s'.channel.isOpen = s.channel.isOpen
  listening : ∀ i k : Nat,
    s'.waits[i]? = some (.listening k) ↔ s.waits[i]? = some (.listening k)
  boxes : ∀ k, k ∉ s.subscribers → s.channel.box? k ≠ none →
    s'.channel.box? k = s.channel.box? k
  length : s.channel.boxes.length ≤ s'.channel.boxes.length
  subscribers : ∀ k ∈ s'.subscribers, k ∈ s.subscribers ∨
    (s.channel.boxes.length ≤ k ∧ k < s'.channel.boxes.length)

/-- Nothing but the channel changes, and there at most the box of a subscriber. -/
theorem Beside.channel {c : Channel} (isOpen : c.isOpen = s.channel.isOpen)
    (length : c.boxes.length = s.channel.boxes.length)
    (boxes : ∀ k, k ∉ s.subscribers → c.box? k = s.channel.box? k) :
    Beside s { s with channel := c } where
  waits := Nat.le_refl _
  isOpen := isOpen
  listening := fun _ _ => Iff.rfl
  boxes := fun k hk _ => boxes k hk
  length := Nat.le_of_eq length.symm
  subscribers := fun _ h => Or.inl h

/-- Nothing goes by beside everything. -/
theorem Beside.refl (s : Shutdown) : Beside s s := Beside.channel rfl rfl fun _ _ => rfl

/-- A receiver that is found is one of a subscriber. -/
theorem receiver?_mem (h : s.receiver? i = some k) : k ∈ s.subscribers := by
  obtain ⟨hk, -⟩ := Option.filter_eq_some_iff.mp h
  exact List.mem_of_getElem? hk

/-- A call that is done at once goes by beside the waits. -/
theorem beside_once {op : Op} (quick : op.quick = true) : Beside s (s.step op).2 := by
  cases op with
  | trigger | poll | cancel => cases quick
  | wait =>
    refine { Beside.refl s with waits := ?_, listening := fun i k => ?_ }
    · show s.waits.length ≤ (s.waits ++ [Wait.idle]).length
      simp
    show (s.waits ++ [Wait.idle])[i]? = _ ↔ _
    rw [List.getElem?_append]
    split
    · exact Iff.rfl
    · rename_i hi
      -- the new wait does not listen
      rw [List.getElem?_eq_none (Nat.le_of_not_lt hi)]
      refine ⟨fun hnew => ?_, fun hnone => by cases hnone⟩
      cases List.mem_singleton.mp (List.mem_of_getElem? hnew)
  | subscribe =>
    refine { Beside.refl s with boxes := fun k hk there => ?_, length := ?_, subscribers := ?_ }
    · show s.channel.subscribe.2.box? k = _
      rw [box?_subscribe, if_neg]
      rintro rfl
      exact there (box?_of_le (Nat.le_refl _))
    · show _ ≤ (s.channel.boxes ++ [some Mailbox.empty]).length
      simp
    · intro k hk
      rcases List.mem_append.mp (show k ∈ s.subscribers ++ [s.channel.boxes.length] from hk)
        with hold | hnew
      · exact Or.inl hold
      · obtain rfl := List.mem_singleton.mp hnew
        exact Or.inr ⟨Nat.le_refl _, by simp [step, subscribe, Channel.subscribe]⟩
  | unsubscribe i =>
    show Beside s (s.unsubscribe i).2
    unfold unsubscribe
    split
    · exact Beside.refl s
    · rename_i k hreceiver
      refine Beside.channel rfl (by simp [Channel.unsubscribe]) fun l hl => ?_
      rw [box?_unsubscribe, if_neg]
      rintro rfl
      exact hl (receiver?_mem hreceiver)
  | tryRecv i =>
    show Beside s (s.tryRecv i).2
    unfold tryRecv
    split
    · exact Beside.refl s
    · rename_i r channel hlook
      obtain ⟨k, hreceiver, hrecv⟩ := Option.bind_eq_some_iff.mp hlook
      rcases tryRecv_cases hrecv with rfl | ⟨box, rfl⟩
      · exact Beside.refl s
      · refine Beside.channel rfl (by simp) fun l hl => ?_
        have hother : k ≠ l := fun heq => hl (heq ▸ receiver?_mem hreceiver)
        rw [Channel.box?, List.getElem?_set_ne hother]
        rfl

/-! ## What one step does to the waits -/

/-- A call of `trigger` returned `true`. -/
def Moment.Sent (m : Moment) : Prop := .triggered true ∈ m.log

/-- What one step does to the waits and to their boxes. -/
inductive Moves (m m' : Moment) : Prop where
  | beside (same : ∀ j, m'.next? j = m.next? j) (beside : Beside m.shutdown m'.shutdown)
      (log : m'.Sent ↔ m.Sent)
  | sends (same : ∀ j, m'.next? j = m.next? j) (log : m'.Sent)
      (send : m'.shutdown = { m.shutdown with channel := m.shutdown.channel.send })
  | subscribes {i : Nat} (others : ∀ j, j ≠ i → m'.next? j = m.next? j)
      (new : m'.next? i = some (.checking m.shutdown.channel.boxes.length))
      (subscribe : m'.shutdown = { m.shutdown with channel := m.shutdown.channel.subscribe.2 })
      (log : m'.Sent ↔ m.Sent)
  /-- A wait learns nothing of the signal, and looks into its box next. -/
  | keeps {i : Nat} {p : Polling} (others : ∀ j, j ≠ i → m'.next? j = m.next? j)
      (held : m.next? i = some p) (looks : m'.next? i = some (.receiving p.receiver))
      (unheard : m.shutdown.triggered = false ∨
        p = .receiving p.receiver ∧ m.shutdown.channel.box? p.receiver = some .empty)
      (waits : List Wait) (same : m'.shutdown = { m.shutdown with waits := waits })
      (log : m'.Sent ↔ m.Sent)
  /-- A wait is over, and its receiver gone. -/
  | leaves {i : Nat} (others : ∀ j, j ≠ i → m'.next? j = m.next? j) (ended : m'.next? i = none)
      (channel : Channel) (waits : List Wait)
      (same : m'.shutdown = { m.shutdown with channel := channel, waits := waits })
      (gone : channel = m.shutdown.channel ∨
        ∃ p, m.next? i = some p ∧ channel = m.shutdown.channel.unsubscribe p.receiver)
      (log : m'.Sent ↔ m.Sent)

/-- A step that does not write down that `trigger` returned `true`. -/
theorem sent_snoc {e : Event} (other : e ≠ .triggered true) (h : m'.log = m.log ++ [e]) :
    m'.Sent ↔ m.Sent := by
  simp [Moment.Sent, h, Ne.symm other]

/-- What a wait does next depends on its own poll and its own place. -/
theorem next?_congr (polls : m'.polls j = m.polls j)
    (waits : m'.shutdown.waits[j]? = m.shutdown.waits[j]?) : m'.next? j = m.next? j := by
  rw [Moment.next?, Moment.next?, polls, waits]

/-- A wait has a step to do if it is under way, or if it sleeps with a box of its own. -/
theorem next?_eq_some {p : Polling} : m.next? j = some p ↔
    m.polls j = some p ∨
      m.polls j = none ∧ ∃ k, m.shutdown.waits[j]? = some (.listening k) ∧ p = .receiving k := by
  unfold Moment.next?
  split
  · rename_i q hq
    simp [hq]
  · rename_i k hnone hk
    simp [hnone, hk, eq_comm]
  · rename_i hnone hother
    constructor
    · intro h
      cases h
    · rintro (h | ⟨-, k, hk, -⟩)
      · cases h.symm.trans hnone
      · exact absurd hk (hother k)

/-- What goes by beside moves no wait. -/
theorem Beside.next? (h : Beside m.shutdown m'.shutdown) (polls : m'.polls = m.polls) (j : Nat) :
    m'.next? j = m.next? j := by
  refine Option.ext fun p => ?_
  simp only [next?_eq_some, polls, h.listening]

/-- Polls under way are polls of waits that were made. -/
def Moment.Made (m : Moment) : Prop := ∀ i, m.polls i ≠ none → i < m.shutdown.waits.length

/-- The place and the poll of one wait change. -/
theorem next?_other {w : Wait} (waits : m'.shutdown.waits = m.shutdown.waits.set i w)
    (polls : ∀ j, j ≠ i → m'.polls j = m.polls j) (other : j ≠ i) : m'.next? j = m.next? j :=
  next?_congr (polls j other) (by rw [waits, List.getElem?_set_ne (Ne.symm other)])

/-- A wait that is over has nothing to do. -/
theorem next?_over (waits : m'.shutdown.waits = m.shutdown.waits.set i .ended)
    (polls : m'.polls i = none) : m'.next? i = none := by
  refine Option.eq_none_iff_forall_ne_some.mpr fun p hp => ?_
  rcases next?_eq_some.mp hp with hpolls | ⟨-, k, hwaits, -⟩
  · cases polls.symm.trans hpolls
  · simp [waits, List.getElem?_set] at hwaits

/-- The answer to one wait is none to another. -/
theorem answer_polls {result : Answer × Shutdown} (other : j ≠ i) :
    (m.answer i result).polls j = m.polls j := by
  simp [Moment.answer, other]

/-- A wait that is over leaves its receiver. -/
theorem Moves.answer {k : Nat} {p : Polling}
    (held : m.next? i = some p) (receiver : p.receiver = k) :
    Moves m (m.answer i
      (.ready,
        { m.shutdown with
          channel := m.shutdown.channel.unsubscribe k
          waits := m.shutdown.waits.set i .ended })) := by
  subst receiver
  refine .leaves (fun j => next?_other rfl fun _ => answer_polls) (next?_over rfl ?_) _ _ rfl
    (Or.inr ⟨p, held, rfl⟩) (sent_snoc (by simp) rfl)
  simp [Moment.answer]

/-- A wait that is given up while it sleeps. -/
theorem cancel_moves (still : m.polls i = none) :
    Moves m { m with shutdown := (m.shutdown.cancel i).2 } := by
  unfold cancel
  split
  · exact .leaves (fun j => next?_other rfl fun _ _ => rfl) (next?_over rfl still) _ _ rfl
      (Or.inl rfl) Iff.rfl
  · rename_i k hwait
    have hheld : m.next? i = some (.receiving k) :=
      next?_eq_some.mpr (Or.inr ⟨still, k, hwait, rfl⟩)
    exact .leaves (fun j => next?_other rfl fun _ _ => rfl) (next?_over rfl still) _ _ rfl
      (Or.inr ⟨_, hheld, rfl⟩) Iff.rfl
  · exact .beside (fun _ => rfl) (Beside.refl _) Iff.rfl
  · exact .beside (fun _ => rfl) (Beside.refl _) Iff.rfl

/-- Each step of a wait is a move. -/
theorem Polls.moves (h : Polls m i m') (made : m.Made) : Moves m m' := by
  cases h with
  | subscribe idle first =>
    refine .subscribes (i := i) (fun j hj => ?_) ?_ rfl Iff.rfl
    · exact next?_congr (by simp [Moment.polling, hj]) rfl
    · exact next?_eq_some.mpr (Or.inl (by simp [Moment.polling, Channel.subscribe]))
  | @set k checks set =>
    exact .answer checks rfl
  | @clear k checks clear =>
    refine .keeps (i := i) (fun j hj => ?_) checks ?_ (Or.inl clear) m.shutdown.waits rfl Iff.rfl
    · exact next?_congr (by simp [Moment.polling, hj]) rfl
    · exact next?_eq_some.mpr (Or.inl (by simp [Moment.polling, Polling.receiver]))
  | @look k looks =>
    -- the box is empty and the wait sleeps on, or it wakes up
    rcases listen_cases m.shutdown i k with ⟨hpending, hempty⟩ | hready
    · rw [hpending]
      have hthere : i < m.shutdown.waits.length := by
        rcases next?_eq_some.mp looks with hpolls | ⟨-, l, hwaits, -⟩
        · exact made i (by simp [hpolls])
        · exact (List.getElem?_eq_some_iff.mp hwaits).1
      refine .keeps (fun j => next?_other rfl fun _ => answer_polls) looks ?_
        (Or.inr ⟨rfl, hempty⟩) _ rfl (sent_snoc (by simp) rfl)
      have hlistens : (m.shutdown.waits.set i (.listening k))[i]? = some (.listening k) := by
        simp [hthere]
      exact next?_eq_some.mpr (Or.inr ⟨by simp [Moment.answer], k, hlistens, rfl⟩)
    · rw [hready]
      exact .answer looks rfl

/-- Each step is a move of one wait, or beside all of them. -/
theorem Step.moves (h : Step m m') (made : m.Made) : Moves m m' := by
  cases h with
  | late set => exact .beside (fun _ => rfl) (Beside.refl _) (sent_snoc (by simp) rfl)
  | swap clear => exact .beside (fun _ => rfl) { Beside.refl m.shutdown with } Iff.rfl
  | send next => exact .sends (fun _ => rfl) (by simp [Moment.Sent]) rfl
  | poll polls => exact polls.moves made
  | cancel still => exact cancel_moves still
  | @once op quick =>
    have hbeside : Beside m.shutdown (m.shutdown.step op).2 := beside_once quick
    exact .beside (@Beside.next? m { m with shutdown := _ } hbeside rfl) hbeside Iff.rfl

/-! ## A receiver for each wait -/

/-- Each wait has a receiver of its own, whose box is empty until the signal is sent. -/
structure Wired (m : Moment) : Prop where
  isOpen : m.shutdown.channel.isOpen = true
  there : ∀ i p, m.next? i = some p → m.shutdown.channel.box? p.receiver ≠ none
  distinct : ∀ i j p q, m.next? i = some p → m.next? j = some q → p.receiver = q.receiver → i = j
  apart : ∀ i p, m.next? i = some p → p.receiver ∉ m.shutdown.subscribers
  subscribers : ∀ k ∈ m.shutdown.subscribers, k < m.shutdown.channel.boxes.length
  triggered : m.Sent → m.shutdown.triggered = true
  empty : ¬ m.Sent → ∀ i p, m.next? i = some p →
    m.shutdown.channel.box? p.receiver = some .empty
  full : m.Sent → ∀ i k, m.next? i = some (.receiving k) →
    m.shutdown.channel.box? k ≠ some .empty

/-- There are no waits yet. -/
theorem Wired.initial : Wired {} where
  isOpen := rfl
  there := fun _ _ h => by cases h
  distinct := fun _ _ _ _ h => by cases h
  apart := fun _ _ h => by cases h
  subscribers := fun _ h => by cases h
  triggered := fun h => by cases h
  empty := fun _ _ _ h => by cases h
  full := fun h => by cases h

/-- The box of a wait exists. -/
theorem Wired.lt {p : Polling} (h : Wired m) (held : m.next? i = some p) :
    p.receiver < m.shutdown.channel.boxes.length :=
  Nat.lt_of_not_le fun hle => h.there i p held (box?_of_le hle)

/-- Where the receiver of a wait comes from, and what became of its box. -/
theorem Moves.held {q : Polling} (moves : Moves m m') (h : Wired m) (held : m'.next? j = some q) :
    (∃ p, m.next? j = some p ∧ p.receiver = q.receiver ∧
      (m'.shutdown.channel.box? q.receiver = m.shutdown.channel.box? q.receiver ∨
        m'.Sent ∧ m'.shutdown.channel.box? q.receiver =
          (m.shutdown.channel.box? q.receiver).map Channel.arrive)) ∨
    (q.receiver = m.shutdown.channel.boxes.length ∧
      m'.shutdown.channel.box? q.receiver = some .empty ∧
      m'.shutdown.subscribers = m.shutdown.subscribers ∧
      ∀ i, i ≠ j → m'.next? i = m.next? i) := by
  cases moves with
  | beside same beside log =>
    have hbefore : m.next? j = some q := (same j).symm.trans held
    exact Or.inl ⟨q, hbefore, rfl, Or.inl
      (beside.boxes _ (h.apart j q hbefore) (h.there j q hbefore))⟩
  | sends same log send =>
    have hbefore : m.next? j = some q := (same j).symm.trans held
    refine Or.inl ⟨q, hbefore, rfl, Or.inr ⟨log, ?_⟩⟩
    rw [send]
    exact box?_send _ _
  | @subscribes i others new subscribe log =>
    by_cases hj : j = i
    · subst hj
      obtain rfl := Option.some.inj (held.symm.trans new)
      refine Or.inr ⟨rfl, ?_, by rw [subscribe], others⟩
      rw [subscribe]
      exact (box?_subscribe _ _).trans (if_pos rfl)
    · have hbefore : m.next? j = some q := (others j hj).symm.trans held
      refine Or.inl ⟨q, hbefore, rfl, Or.inl ?_⟩
      rw [subscribe]
      exact (box?_subscribe _ _).trans (if_neg (Nat.ne_of_lt (h.lt hbefore)))
  | @keeps i p others before looks unheard waits same log =>
    by_cases hj : j = i
    · subst hj
      obtain rfl := Option.some.inj (held.symm.trans looks)
      exact Or.inl ⟨p, before, rfl, Or.inl (by rw [same])⟩
    · exact Or.inl ⟨q, (others j hj).symm.trans held, rfl, Or.inl (by rw [same])⟩
  | @leaves i others ended channel waits same gone log =>
    have hj : j ≠ i := by
      rintro rfl
      cases ended.symm.trans held
    have hbefore : m.next? j = some q := (others j hj).symm.trans held
    refine Or.inl ⟨q, hbefore, rfl, Or.inl ?_⟩
    rw [same]
    rcases gone with rfl | ⟨p, hp, rfl⟩
    · rfl
    · -- the box that is put away is not that of another wait
      refine (box?_unsubscribe _ _ _).trans (if_neg fun heq => ?_)
      exact hj (h.distinct j i q p hbefore hp heq.symm)

/-- A signal that was sent stays so. -/
theorem Moves.sent (moves : Moves m m') (sent : m.Sent) : m'.Sent := by
  cases moves with
  | sends same log send => exact log
  | beside _ _ log | subscribes _ _ _ log | keeps _ _ _ _ _ _ log | leaves _ _ _ _ _ _ log =>
    exact log.mpr sent

/-- A step after which the signal was sent is that which sent it, or it was sent before. -/
theorem Moves.sent_before (moves : Moves m m') (sent : m'.Sent) :
    m.Sent ∨ m'.shutdown = { m.shutdown with channel := m.shutdown.channel.send } := by
  cases moves with
  | sends same log send => exact Or.inr send
  | beside _ _ log | subscribes _ _ _ log | keeps _ _ _ _ _ _ log | leaves _ _ _ _ _ _ log =>
    exact Or.inl (log.mp sent)

/-- A receiver of a subscriber is an old one or a new one, never that of a wait. -/
theorem Moves.subscribers (moves : Moves m m') : ∀ k ∈ m'.shutdown.subscribers,
    k ∈ m.shutdown.subscribers ∨
      m.shutdown.channel.boxes.length ≤ k ∧ k < m'.shutdown.channel.boxes.length := by
  cases moves with
  | beside same beside log => exact beside.subscribers
  | sends same log send => exact fun k hk => Or.inl (by rwa [send] at hk)
  | subscribes others new subscribe log => exact fun k hk => Or.inl (by rwa [subscribe] at hk)
  | keeps others held looks unheard waits same log => exact fun k hk => Or.inl (by rwa [same] at hk)
  | leaves others ended channel waits same gone log =>
    exact fun k hk => Or.inl (by rwa [same] at hk)

/-- Receivers are numbered on and on, and the channel stays open. -/
theorem Moves.length (moves : Moves m m') :
    m.shutdown.channel.boxes.length ≤ m'.shutdown.channel.boxes.length ∧
    m'.shutdown.channel.isOpen = m.shutdown.channel.isOpen := by
  cases moves with
  | beside same beside log => exact ⟨beside.length, beside.isOpen⟩
  | sends same log send =>
    rw [send]
    exact ⟨by simp [Channel.send], rfl⟩
  | subscribes others new subscribe log =>
    rw [subscribe]
    exact ⟨by simp [Channel.subscribe], rfl⟩
  | keeps others held looks unheard waits same log =>
    rw [same]
    exact ⟨Nat.le_refl _, rfl⟩
  | leaves others ended channel waits same gone log =>
    rw [same]
    rcases gone with rfl | ⟨p, -, rfl⟩
    · exact ⟨Nat.le_refl _, rfl⟩
    · exact ⟨by simp [Channel.unsubscribe], rfl⟩

/-- A wait that looks into its box next did so before, unless it found the flag clear. -/
theorem Moves.looking (moves : Moves m m') (h : Wired m) (sent : m.Sent)
    (looks : m'.next? j = some (.receiving k)) : m.next? j = some (.receiving k) := by
  cases moves with
  | beside same beside log => exact (same j).symm.trans looks
  | sends same log send => exact (same j).symm.trans looks
  | @subscribes i others new subscribe log =>
    by_cases hj : j = i
    · subst hj
      cases new.symm.trans looks
    · exact (others j hj).symm.trans looks
  | @keeps i p others held keeps unheard waits same log =>
    by_cases hj : j = i
    · subst hj
      -- after the signal neither the flag is clear nor the box is empty
      rcases unheard with hclear | ⟨hlooks, hempty⟩
      · exact absurd ((h.triggered sent).symm.trans hclear) (by simp)
      · exact absurd hempty (h.full sent j p.receiver (hlooks ▸ held))
    · exact (others j hj).symm.trans looks
  | @leaves i others ended channel waits same gone log =>
    have hj : j ≠ i := by
      rintro rfl
      cases ended.symm.trans looks
    exact (others j hj).symm.trans looks

/-- Every move leaves each wait a receiver of its own. -/
theorem Wired.moves (h : Wired m) (moves : Moves m m')
    (triggered : m'.Sent → m'.shutdown.triggered = true) : Wired m' where
  isOpen := moves.length.2.trans h.isOpen
  there := by
    intro j q held hnone
    rcases moves.held h held with ⟨p, hp, hreceiver, hbox⟩ | ⟨-, hbox, -⟩
    · have hthere := h.there j p hp
      rw [hreceiver] at hthere
      rcases hbox with hbox | ⟨-, hbox⟩
      · exact hthere (hbox.symm.trans hnone)
      · exact hthere (Option.map_eq_none_iff.mp (hbox.symm.trans hnone))
    · cases hbox.symm.trans hnone
  distinct := by
    intro i j p q hi hj heq
    rcases moves.held h hi with ⟨p', hp, hp', -⟩ | ⟨hnew, -, -, hothers⟩
    · rcases moves.held h hj with ⟨q', hq, hq', -⟩ | ⟨hnew, -⟩
      · exact h.distinct i j p' q' hp hq ((hp'.trans heq).trans hq'.symm)
      · exact absurd (h.lt hp) (by omega)
    · -- a new receiver is nobody else's
      rcases moves.held h hj with ⟨q', hq, hq', -⟩ | ⟨-, -, -, hothers'⟩
      · exact absurd (h.lt hq) (by omega)
      · by_cases hij : i = j
        · exact hij
        · have hbefore : m.next? j = some q := (hothers j (Ne.symm hij)).symm.trans hj
          exact absurd (h.lt hbefore) (by omega)
  apart := by
    intro j q held hmem
    rcases moves.held h held with ⟨p, hp, hreceiver, -⟩ | ⟨hnew, -, hsubs, -⟩
    · rcases moves.subscribers _ hmem with hold | ⟨hle, -⟩
      · exact h.apart j p hp (hreceiver ▸ hold)
      · exact absurd (h.lt hp) (by omega)
    · rw [hsubs] at hmem
      exact absurd (h.subscribers _ hmem) (by omega)
  subscribers := by
    intro k hk
    rcases moves.subscribers k hk with hold | ⟨-, hlt⟩
    · exact Nat.lt_of_lt_of_le (h.subscribers k hold) moves.length.1
    · exact hlt
  triggered := triggered
  empty := by
    intro unsent j q held
    rcases moves.held h held with ⟨p, hp, hreceiver, hbox⟩ | ⟨-, hbox, -⟩
    · have hempty := h.empty (fun sent => unsent (moves.sent sent)) j p hp
      rw [hreceiver] at hempty
      rcases hbox with hbox | ⟨hsent, -⟩
      · exact hbox.trans hempty
      · exact absurd hsent unsent
    · exact hbox
  full := by
    intro sent j k looks hempty
    rcases moves.sent_before sent with hbefore | hsend
    · have hlooked := moves.looking h hbefore looks
      rcases moves.held h looks with ⟨p, -, -, hbox | ⟨-, hbox⟩⟩ | ⟨hnew, -⟩
      · exact h.full hbefore j k hlooked (hbox.symm.trans hempty)
      · exact arrive_ne_empty _ (hbox.symm.trans hempty)
      · exact absurd (h.lt hlooked) (by omega)
    · rw [hsend] at hempty
      exact arrive_ne_empty _ ((box?_send _ _).symm.trans hempty)

/-! ## Calls of `trigger` and answers of polls -/

/-- Waits are never forgotten. -/
theorem Polls.waits_length (h : Polls m i m') :
    m.shutdown.waits.length ≤ m'.shutdown.waits.length := by
  cases h with
  | subscribe | clear => exact Nat.le_refl _
  | set => simp [Moment.answer]
  | @look k =>
    rcases listen_cases m.shutdown i k with ⟨hlisten, -⟩ | hlisten <;>
      simp [Moment.answer, hlisten]

/-- Waits are never forgotten, whatever is done. -/
theorem Step.waits_length (h : Step m m') :
    m.shutdown.waits.length ≤ m'.shutdown.waits.length := by
  cases h with
  | late | swap | send => exact Nat.le_refl _
  | poll polls => exact polls.waits_length
  | @cancel i =>
    rcases cancel_cases m.shutdown i with hsame | ⟨channel, hsame, -⟩ <;> simp [hsame]
  | once quick => exact (beside_once quick).waits

/-- A first poll is under way after a step if it was before, or the step is its own. -/
theorem Moment.Made.step (made : m.Made) (h : Step m m') : m'.Made := by
  intro j hpolls
  refine Nat.lt_of_lt_of_le ?_ h.waits_length
  cases h with
  | late | swap | send | cancel | once => exact made j hpolls
  | @poll i _ polls =>
    by_cases hj : j = i
    · subst hj
      cases polls with
      | subscribe idle => exact (List.getElem?_eq_some_iff.mp idle).1
      | set | look => simp [Moment.answer] at hpolls
      | clear checks clear =>
        rcases next?_eq_some.mp checks with hchecks | ⟨-, l, -, hlooks⟩
        · exact made j (by simp [hchecks])
        · cases hlooks
    · refine made j ?_
      cases polls with
      | subscribe | clear => simpa [Moment.polling, hj] using hpolls
      | set | look => simpa [Moment.answer, hj] using hpolls

/-- The flag was set by one call of `trigger`, which returned `true` or is about to send. -/
structure Answered (m : Moment) : Prop where
  once : m.sending + m.log.count (.triggered true) = if m.shutdown.triggered then 1 else 0
  set : ∀ b, .triggered b ∈ m.log → m.shutdown.triggered = true
  ready : ∀ i, .polled i .ready ∈ m.log → m.shutdown.triggered = true

/-- Before the signal is sent a wait that looks into its box is pending. -/
theorem Wired.pending (h : Wired m) (unsent : ¬ m.Sent) (looks : m.next? i = some (.receiving k)) :
    (m.shutdown.listen i k).1 = .pending := by
  have hempty : m.shutdown.channel.box? k = some .empty := h.empty unsent i _ looks
  rw [listen_empty h.isOpen hempty]

/-- A poll of a wait leaves the flag as it is, and it is ready only if the flag is set. -/
theorem Polls.answers (h : Polls m i m') (wired : Wired m) :
    m'.shutdown.triggered = m.shutdown.triggered ∧ m'.sending = m.sending ∧
    (m'.log = m.log ∨ ∃ a, m'.log = m.log ++ [.polled i a] ∧
      (a = .ready → m.shutdown.triggered = true)) := by
  cases h with
  | subscribe idle first => exact ⟨rfl, rfl, Or.inl rfl⟩
  | set checks set => exact ⟨rfl, rfl, Or.inr ⟨.ready, rfl, fun _ => set⟩⟩
  | clear checks clear => exact ⟨rfl, rfl, Or.inl rfl⟩
  | @look k looks =>
    have hflag : (m.shutdown.listen i k).2.triggered = m.shutdown.triggered := by
      rcases listen_cases m.shutdown i k with ⟨hlisten, -⟩ | hlisten <;> rw [hlisten]
    refine ⟨hflag, rfl, Or.inr ⟨_, rfl, fun hready => ?_⟩⟩
    by_cases hsent : m.Sent
    · exact wired.triggered hsent
    · cases hready.symm.trans (wired.pending hsent looks)

/-- Only a trigger sets the flag. -/
theorem triggered_once {op : Op} (quick : op.quick = true) :
    (s.step op).2.triggered = s.triggered := by
  cases op with
  | trigger | poll | cancel => cases quick
  | wait | subscribe => rfl
  | unsubscribe i =>
    show (s.unsubscribe i).2.triggered = _
    unfold unsubscribe
    split <;> rfl
  | tryRecv i =>
    show (s.tryRecv i).2.triggered = _
    unfold tryRecv
    split <;> rfl

/-- A step after which flag and answers of `trigger` are the same. -/
theorem Answered.same (h : Answered m) (flag : m'.shutdown.triggered = m.shutdown.triggered)
    (sending : m'.sending = m.sending)
    (log : m'.log = m.log ∨ ∃ i a, m'.log = m.log ++ [.polled i a] ∧
      (a = .ready → m.shutdown.triggered = true)) : Answered m' := by
  rcases log with hlog | ⟨i, a, hlog, hready⟩
  · refine ⟨?_, ?_, ?_⟩
    · rw [flag, sending, hlog]
      exact h.once
    · rw [flag, hlog]
      exact h.set
    · rw [flag, hlog]
      exact h.ready
  · -- an answer was written down, and it is in order
    refine ⟨?_, fun b hb => ?_, fun j hj => ?_⟩
    · rw [flag, sending, hlog]
      simpa [List.count_append] using h.once
    · rw [hlog] at hb
      rw [flag]
      exact h.set b (by simpa using hb)
    · rw [hlog] at hj
      rw [flag]
      rcases List.mem_append.mp hj with hold | hnew
      · exact h.ready j hold
      · obtain ⟨-, hanswer⟩ := Event.polled.inj (List.mem_singleton.mp hnew)
        exact hready hanswer.symm

/-- Every step keeps answers and flag together. -/
theorem Answered.step (h : Answered m) (wired : Wired m) (next : Step m m') : Answered m' := by
  cases next with
  | late set =>
    refine ⟨?_, fun _ _ => set, fun _ _ => set⟩
    have honce := h.once
    simpa [List.count_append] using honce
  | swap clear =>
    refine ⟨?_, fun _ _ => rfl, fun _ _ => rfl⟩
    have honce := h.once
    rw [clear] at honce
    simp at honce ⊢
    omega
  | send next =>
    have honce := h.once
    -- a half that is to be done counts, so the flag was set
    have hset : m.shutdown.triggered = true := by
      cases hflag : m.shutdown.triggered with
      | true => rfl
      | false =>
        rw [hflag] at honce
        exact absurd (Nat.eq_zero_of_add_eq_zero_right honce) next
    refine ⟨?_, fun _ _ => hset, fun _ _ => hset⟩
    rw [hset] at honce ⊢
    simp [List.count_append] at honce ⊢
    omega
  | @poll i _ polls =>
    obtain ⟨hflag, hsending, hlog | ⟨a, hlog, hready⟩⟩ := polls.answers wired
    · exact h.same hflag hsending (Or.inl hlog)
    · exact h.same hflag hsending (Or.inr ⟨i, a, hlog, hready⟩)
  | cancel still => exact h.same triggered_cancel rfl (Or.inl rfl)
  | once quick => exact h.same (triggered_once quick) rfl (Or.inl rfl)

/-- A wait under way has begun. -/
theorem Reachable.made (h : Reachable m) : m.Made := by
  induction h with
  | initial => exact fun _ hnone => absurd rfl hnone
  | step _ next ih => exact ih.step next

/-- Each wait has a receiver of its own, at every moment. -/
theorem Reachable.wired (h : Reachable m) : Wired m ∧ Answered m := by
  induction h with
  | initial => exact ⟨Wired.initial, ⟨rfl, fun _ h => (by cases h), fun _ h => (by cases h)⟩⟩
  | step before next ih =>
    obtain ⟨wired, answered⟩ := ih
    have hanswered := answered.step wired next
    exact ⟨wired.moves (next.moves before.made) fun sent => hanswered.set true sent, hanswered⟩

/-! ## Calls that nobody disturbs -/

/-- Steps lead from one moment to another. -/
abbrev Path : Moment → Moment → Prop := ReflTransGen Step

/-- What steps lead to can be reached. -/
theorem Reachable.path (h : Reachable m) (path : Path m m') : Reachable m' := by
  induction path with
  | refl => exact h
  | tail _ next ih => exact ih.step next

/-- A trigger whose halves nobody comes between. -/
theorem trigger_alone : Path m { m with
    shutdown := m.shutdown.trigger.2, log := m.log ++ [.triggered m.shutdown.trigger.1] } := by
  cases hflag : m.shutdown.triggered with
  | true =>
    have htrigger : m.shutdown.trigger = (false, m.shutdown) := by simp [trigger, hflag]
    rw [htrigger]
    exact ReflTransGen.single (.late hflag)
  | false =>
    have htrigger : m.shutdown.trigger = (true,
        { m.shutdown with triggered := true, channel := m.shutdown.channel.send }) := by
      simp [trigger, hflag]
    rw [htrigger]
    have hsend := Step.send
      (m := { m with
        shutdown := { m.shutdown with triggered := true }
        sending := m.sending + 1 }) (Nat.succ_ne_zero m.sending)
    exact (ReflTransGen.single (.swap hflag)).tail hsend

/-- A poll that is done leaves nothing under way. -/
theorem answer_alone {result : Answer × Shutdown} (polls : m'.polls i = none) :
    m'.answer i result =
      { m' with shutdown := result.2, log := m'.log ++ [.polled i result.1] } := by
  have hpolls : (fun j => if j = i then none else m'.polls j) = m'.polls := by
    funext j
    by_cases hj : j = i
    · rw [if_pos hj, hj, polls]
    · rw [if_neg hj]
  rw [Moment.answer, hpolls]

/-- What a wait did before its answer does not matter after it. -/
theorem polling_answer {p : Polling} {result : Answer × Shutdown} :
    (({ m with shutdown := s } : Moment).polling i p).answer i result = m.answer i result := by
  have hpolls : (fun j => if j = i then none else if j = i then some p else m.polls j) =
      fun j => if j = i then none else m.polls j := by
    funext j
    by_cases hj : j = i <;> simp [hj]
  simp [Moment.answer, Moment.polling, hpolls]

/-- The latest stage of a wait counts. -/
theorem polling_polling {p q : Polling} : (m.polling i p).polling i q = m.polling i q := by
  have hpolls : (fun j => if j = i then some q else if j = i then some p else m.polls j) =
      fun j => if j = i then some q else m.polls j := by
    funext j
    by_cases hj : j = i <;> simp [hj]
  simp [Moment.polling, hpolls]

/-- A wait that reads the flag when it is set leaves a receiver behind that is gone. -/
theorem poll_alone (still : m.polls i = none) (waits : m.shutdown.Waits i) : ∃ channel : Channel,
    Path m { m with
      shutdown := { (m.shutdown.poll i).2 with channel := channel }
      log := m.log ++ [.polled i (m.shutdown.poll i).1] } ∧
    ∀ k, channel.box? k = (m.shutdown.poll i).2.channel.box? k := by
  obtain ⟨w, hwait, hlives⟩ := waits
  cases w with
  | ended => exact absurd rfl hlives
  | listening k =>
    have hpoll : m.shutdown.poll i = m.shutdown.listen i k := by simp [poll, hwait]
    have hlook := Step.poll (Polls.look (next?_eq_some.mpr (Or.inr ⟨still, k, hwait, rfl⟩)))
    rw [answer_alone still] at hlook
    rw [hpoll]
    exact ⟨_, ReflTransGen.single hlook, fun _ => rfl⟩
  | idle =>
    let c : Channel := m.shutdown.channel
    let joined : Moment := { m with shutdown := { m.shutdown with channel := c.subscribe.2 } }
    have hjoin : Path m (joined.polling i (.checking c.subscribe.1)) :=
      ReflTransGen.single (.poll (.subscribe hwait still))
    have hnext (p : Polling) : (joined.polling i p).next? i = some p :=
      next?_eq_some.mpr (Or.inl (if_pos rfl))
    cases hflag : m.shutdown.triggered with
    | true =>
      have hset := hjoin.tail (.poll (.set (hnext _) hflag))
      rw [polling_answer, answer_alone still] at hset
      have hpoll : m.shutdown.poll i =
          (.ready, { m.shutdown with waits := m.shutdown.waits.set i .ended }) := by
        simp [poll, hwait, hflag]
      rw [hpoll]
      exact ⟨_, hset, box?_subscribe_unsubscribe c⟩
    | false =>
      -- the flag is clear, so the wait looks into its box and sleeps
      have hclear := hjoin.tail (.poll (.clear (hnext _) hflag))
      rw [polling_polling] at hclear
      have hlook := hclear.tail (.poll (.look (hnext _)))
      rw [polling_answer, answer_alone still] at hlook
      have hpoll : m.shutdown.poll i =
          listen { m.shutdown with channel := c.subscribe.2 } i c.subscribe.1 := by
        simp [poll, hwait, hflag, c]
      rw [hpoll]
      exact ⟨_, hlook, fun _ => rfl⟩

/-! ## No signal is lost -/

/-- A poll of a wait can always take its next step. -/
theorem Moment.polls_next (m : Moment) (waits : m.shutdown.Waits i) : ∃ next, Polls m i next := by
  cases hnext : m.next? i with
  | some p =>
    cases p with
    | checking k =>
      cases hflag : m.shutdown.triggered with
      | true => exact ⟨_, .set hnext hflag⟩
      | false => exact ⟨_, .clear hnext hflag⟩
    | receiving k => exact ⟨_, .look hnext⟩
  | none =>
    obtain ⟨w, hwait, hlives⟩ := waits
    -- a wait with nothing to do next is at its beginning
    have hfirst : m.polls i = none := by
      cases hpolls : m.polls i with
      | none => rfl
      | some p => cases hnext.symm.trans (next?_eq_some.mpr (Or.inl hpolls))
    cases w with
    | idle => exact ⟨_, .subscribe hwait hfirst⟩
    | listening k => cases hnext.symm.trans (next?_eq_some.mpr (Or.inr ⟨hfirst, k, hwait, rfl⟩))
    | ended => exact absurd rfl hlives

/-- A wait that is over waits no more. -/
theorem over_waits (waits : s'.waits = s.waits.set i .ended) : ¬ s'.Waits i := by
  rintro ⟨w, hw, hlives⟩
  rw [waits, List.getElem?_set_self'] at hw
  cases hwait : s.waits[i]? with
  | none => simp [hwait] at hw
  | some v =>
    rw [hwait] at hw
    exact hlives (Option.some.inj hw).symm

/-- After the signal was sent, a step of a poll is the last one of that poll, or it is the one with
    which a wait subscribes. -/
theorem Wired.polls (h : Wired m) (sent : m.Sent) (polls : Polls m i m') :
    (m'.log = m.log ++ [.polled i .ready] ∧ ¬ m'.shutdown.Waits i) ∨
    (m'.log = m.log ∧ m.next? i = none ∧ ∃ k, m'.next? i = some (.checking k)) := by
  cases polls with
  | subscribe idle first =>
    refine Or.inr ⟨rfl, ?_, _, next?_eq_some.mpr (Or.inl (if_pos rfl))⟩
    refine Option.eq_none_iff_forall_ne_some.mpr fun p hp => ?_
    rcases next?_eq_some.mp hp with hpolls | ⟨-, k, hwait, -⟩
    · cases hpolls.symm.trans first
    · cases hwait.symm.trans idle
  | set checks set => exact Or.inl ⟨rfl, over_waits rfl⟩
  | clear checks clear => exact absurd ((h.triggered sent).symm.trans clear) (by simp)
  | @look k looks =>
    rcases listen_cases m.shutdown i k with ⟨-, hempty⟩ | hready
    · exact absurd hempty (h.full sent i k looks)
    · rw [hready]
      exact Or.inl ⟨rfl, over_waits rfl⟩

/-- After the signal was sent, every poll that answers is ready. -/
theorem Wired.log (h : Wired m) (sent : m.Sent) (next : Step m m') :
    ∃ more, m'.log = m.log ++ more ∧ ∀ i a, .polled i a ∈ more → a = .ready := by
  cases next with
  | late => exact ⟨[.triggered false], rfl, fun i a ha => by cases List.mem_singleton.mp ha⟩
  | swap | cancel | once => exact ⟨[], (List.append_nil _).symm, fun i a ha => by cases ha⟩
  | send => exact ⟨[.triggered true], rfl, fun i a ha => by cases List.mem_singleton.mp ha⟩
  | poll polls =>
    rcases h.polls sent polls with ⟨hlog, -⟩ | ⟨hlog, -⟩
    · refine ⟨_, hlog, fun i a ha => ?_⟩
      exact (Event.polled.inj (List.mem_singleton.mp ha)).2
    · exact ⟨[], by rw [hlog, List.append_nil], fun i a ha => by cases ha⟩

/-- Once the signal is sent every look of a wait finds it. -/
theorem Reachable.log (h : Reachable m) (sent : m.Sent) (path : Path m m') :
    ∃ more, m'.log = m.log ++ more ∧ ∀ i a, .polled i a ∈ more → a = .ready := by
  induction path with
  | refl => exact ⟨[], (List.append_nil _).symm, fun i a ha => by cases ha⟩
  | @tail b c before next ih =>
    obtain ⟨more, hlog, hready⟩ := ih
    have hsent : b.Sent := by
      rw [Moment.Sent, hlog]
      exact List.mem_append_left _ sent
    obtain ⟨last, hlast, hready'⟩ := (h.path before).wired.1.log hsent next
    refine ⟨more ++ last, by rw [hlast, hlog, List.append_assoc], fun i a ha => ?_⟩
    rcases List.mem_append.mp ha with hold | hnew
    · exact hready i a hold
    · exact hready' i a hnew

/-- **No signal is lost.**  Whatever calls of `trigger` and of waits are made, in any order of
    their steps: since a call of `trigger` returned `true`, every poll that answers is ready; the
    next step of a wait, which is always possible, makes it ready, unless the wait was never
    polled and subscribes with it, and then the step after that does.  No wait is ready before the
    flag is set.  If `trigger` was called, one call returned `true` or is about to, and no other
    does. -/
theorem no_lost_wakeup (h : Reachable m) :
    (.triggered true ∈ m.log → ∀ later, Path m later →
      (∃ more, later.log = m.log ++ more ∧ ∀ i a, .polled i a ∈ more → a = .ready) ∧
      ∀ i, later.shutdown.Waits i → (∃ next, Polls later i next) ∧
        ∀ next, Polls later i next →
          (next.log = later.log ++ [.polled i .ready] ∧ ¬ next.shutdown.Waits i) ∨
          (next.log = later.log ∧ later.next? i = none ∧
            ∃ k, next.next? i = some (.checking k))) ∧
    (∀ i, .polled i .ready ∈ m.log → m.shutdown.triggered = true) ∧
    m.log.count (.triggered true) ≤ 1 ∧
    ((m.sending ≠ 0 ∨ ∃ b, .triggered b ∈ m.log) →
      m.sending + m.log.count (.triggered true) = 1) := by
  obtain ⟨wired, answered⟩ := h.wired
  have honce := answered.once
  refine ⟨fun sent later path => ⟨h.log sent path, fun i waits => ?_⟩, answered.ready, ?_, ?_⟩
  · obtain ⟨more, hlog, -⟩ := h.log sent path
    have hsent : later.Sent := by
      rw [Moment.Sent, hlog]
      exact List.mem_append_left _ sent
    exact ⟨later.polls_next waits, fun next polls => (h.path path).wired.1.polls hsent polls⟩
  · split at honce <;> omega
  · rintro (hsending | ⟨b, hb⟩)
    · split at honce <;> omega
    · rw [answered.set b hb] at honce
      exact honce

/-- A wait reads the flag before it is set, and looks into its box before the signal is sent: it
    is pending, and ready when it is polled again. -/
theorem no_lost_wakeup_raced : ∃ m, Reachable m ∧
    m.log = [.polled 0 .pending, .triggered true] ∧
    ∃ next, Polls m 0 next ∧ next.log = m.log ++ [.polled 0 .ready] := by
  have hwait := Reachable.initial.step (@Step.once _ .wait rfl)
  have hjoin := hwait.step (.poll (@Polls.subscribe _ 0 rfl rfl))
  have hclear := hjoin.step (.poll (@Polls.clear _ 0 _ rfl rfl))
  have hswap := hclear.step (.swap rfl)
  have hlook := hswap.step (.poll (@Polls.look _ 0 _ rfl))
  have hsend := hlook.step (.send (Nat.succ_ne_zero 0))
  obtain ⟨hpolls, -⟩ := no_lost_wakeup hsend
  obtain ⟨-, hdone⟩ := hpolls (by decide) _ ReflTransGen.refl
  obtain ⟨⟨next, hnext⟩, hlast⟩ := hdone 0 ⟨.listening 0, rfl, by decide⟩
  refine ⟨_, hsend, rfl, next, hnext, ?_⟩
  rcases hlast next hnext with ⟨hready, -⟩ | ⟨-, hfirst, -⟩
  · exact hready
  · cases hfirst

end TxRelay.Shutdown
