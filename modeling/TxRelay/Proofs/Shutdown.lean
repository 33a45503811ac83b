/-
  Who waits for the signal gets it.

  A wait that begins after the flag was set looks at the flag.  A wait that began before listens,
  and the signal lies in its box.  Between the two there is a gap that must not exist: a wait that
  looks at the flag, finds nothing, and then listens for a signal that was sent in between.  A wait
  therefore subscribes before it looks.

  1. **Boxes.**  What sending, subscribing and leaving do to the box of each receiver.  A wait that
     looks, finds the flag and leaves again leaves nothing behind (`box?_subscribe_unsubscribe`).

  2. **What a poll can come to.**  `Polled` lists it: the wait is not there, it is over, or it is
     pending; `polled` is the one proof that opens a poll.  Everything below is three cases.

  3. **Other waits.**  A wait that moves on leaves the others as they are (`Waits.set`).

  4. **After the signal.**  `Heard` says that the flag is set and that no wait listens at an empty
     box.  Sending makes it so (`Heard.send`), and it stays so whatever waits are made, polled and
     dropped; while it holds no poll is pending, so every wait that is polled is over
     (`Heard.ready`).

  The crux is that `Heard` says nothing of waits that do not listen: they look at the flag.
-/
import TxRelay.Shutdown

namespace TxRelay.Shutdown

variable {s : Shutdown} {i j : Nat}

/-- The wait is there and not over. -/
def Waits (s : Shutdown) (i : Nat) : Prop := ∃ w, s.waits[i]? = some w ∧ w ≠ .ended

/-- The flag is set, and no wait listens at an empty box. -/
structure Heard (s : Shutdown) : Prop where
  triggered : s.triggered = true
  boxes : ∀ i k : Nat, s.waits[i]? = some (Wait.listening k) → s.channel.box? k ≠ some .empty

/-! ## Boxes -/

/-- A signal arrives in every box that is there. -/
theorem box?_send (c : Channel) (k : Nat) : c.send.box? k = (c.box? k).map Channel.arrive := by
  rw [Channel.send, Channel.box?, Channel.box?, List.getElem?_map]
  cases c.boxes[k]? <;> rfl

/-- A receiver that leaves takes its box away, and no other. -/
theorem box?_unsubscribe (c : Channel) (k l : Nat) :
    (c.unsubscribe k).box? l = if k = l then none else c.box? l := by
  rw [Channel.unsubscribe, Channel.box?, Channel.box?, List.getElem?_set]
  split
  · split <;> rfl
  · rfl

/-- Nothing is left of a receiver that came and went. -/
theorem box?_subscribe_unsubscribe (c : Channel) (l : Nat) :
    (c.subscribe.2.unsubscribe c.subscribe.1).box? l = c.box? l := by
  rw [box?_unsubscribe, Channel.box?]
  show (if c.boxes.length = l then none else ((c.boxes ++ [some .empty])[l]?).join) = c.box? l
  split
  · rename_i hl
    rw [Channel.box?, List.getElem?_eq_none (Nat.le_of_eq hl)]
    rfl
  · rename_i hl
    rw [List.getElem?_append]
    split
    · rfl
    · rw [List.getElem?_eq_none (by simp; omega), Channel.box?, List.getElem?_eq_none (by omega)]

/-- The signal fills every box. -/
theorem Heard.send (triggered : s.triggered = true) :
    Heard { s with channel := s.channel.send } where
  triggered := triggered
  boxes := by
    intro i k _
    show s.channel.send.box? k ≠ _
    rw [box?_send]
    cases s.channel.box? k with
    | none => simp
    | some box => cases box <;> simp [Channel.arrive]

/-! ## Polls of a wait -/

/-- A listening wait is pending if its box is empty, and over otherwise. -/
theorem listen_cases (s : Shutdown) (i k : Nat) :
    (listen s i k = (.pending, { s with waits := s.waits.set i (.listening k) }) ∧
      s.channel.box? k = some .empty) ∨
    listen s i k =
      (.ready, { s with channel := s.channel.unsubscribe k, waits := s.waits.set i .ended }) := by
  unfold listen
  split
  · rename_i channel hrecv
    refine Or.inl ⟨rfl, ?_⟩
    rw [Channel.tryRecv] at hrecv
    cases hbox : s.channel.box? k with
    | none => simp [hbox] at hrecv
    | some box => cases box <;> simp [hbox] at hrecv ⊢
  · exact Or.inr rfl

/-- A wait that looks into an empty box is pending. -/
theorem listen_empty {k : Nat} (isOpen : s.channel.isOpen = true)
    (empty : s.channel.box? k = some .empty) :
    listen s i k = (.pending, { s with waits := s.waits.set i (.listening k) }) := by
  simp [listen, Channel.tryRecv, empty, isOpen]

/-- What a poll of a wait can come to. -/
inductive Polled (s : Shutdown) (i : Nat) : Prop where
  | gone (absent : ¬ s.Waits i) (same : s.poll i = (.gone, s))
  | ready (waits : s.Waits i) (channel : Channel)
      (boxes : ∀ k, channel.box? k = some .empty → s.channel.box? k = some .empty)
      (same : s.poll i = (.ready, { s with channel := channel, waits := s.waits.set i .ended }))
  | pending (waits : s.Waits i) (unheard : ¬ s.Heard) (channel : Channel) (k : Nat)
      (same : s.poll i =
        (.pending, { s with channel := channel, waits := s.waits.set i (.listening k) }))

/-- A poll of a wait comes to one of the three. -/
theorem polled (s : Shutdown) (i : Nat) : s.Polled i := by
  cases hwait : s.waits[i]? with
  | none =>
    refine .gone ?_ (by simp [poll, hwait])
    rintro ⟨w, hw, -⟩
    cases hwait.symm.trans hw
  | some w =>
    cases w with
    | ended =>
      refine .gone ?_ (by simp [poll, hwait])
      rintro ⟨w, hw, hover⟩
      exact hover (Option.some.inj (hw.symm.trans hwait))
    | idle =>
      have hwaits : s.Waits i := ⟨.idle, hwait, by simp⟩
      cases hflag : s.triggered with
      -- the flag is set, so the wait needs no receiver
      | true => exact .ready hwaits s.channel (fun _ h => h) (by simp [poll, hwait, hflag])
      | false =>
        have hpoll : s.poll i =
            listen { s with channel := s.channel.subscribe.2 } i s.channel.subscribe.1 := by
          simp [poll, hwait, hflag]
        rcases listen_cases { s with channel := s.channel.subscribe.2 } i s.channel.subscribe.1
          with ⟨hlisten, -⟩ | hlisten
        · refine .pending hwaits (fun heard => ?_) _ _ (hpoll.trans hlisten)
          exact absurd (heard.triggered.symm.trans hflag) (by simp)
        · refine .ready hwaits _ (fun k hk => ?_) (hpoll.trans hlisten)
          -- the wait subscribed and was told at once: its box came and went
          rwa [box?_subscribe_unsubscribe] at hk
    | listening k =>
      have hwaits : s.Waits i := ⟨.listening k, hwait, by simp⟩
      have hpoll : s.poll i = listen s i k := by simp [poll, hwait]
      rcases listen_cases s i k with ⟨hlisten, hempty⟩ | hlisten
      · exact .pending hwaits (fun heard => heard.boxes i k hwait hempty) _ _
          (hpoll.trans hlisten)
      · refine .ready hwaits _ (fun l hl => ?_) (hpoll.trans hlisten)
        rw [box?_unsubscribe] at hl
        split at hl
        · cases hl
        · exact hl

/-- Other waits are as they were when one of them moves on. -/
theorem Waits.set {w : Wait} {channel : Channel} (h : s.Waits j) (other : i ≠ j) :
    Waits { s with channel := channel, waits := s.waits.set i w } j := by
  obtain ⟨v, hv, hlives⟩ := h
  refine ⟨v, ?_, hlives⟩
  show (s.waits.set i w)[j]? = some v
  rwa [List.getElem?_set_ne other]

/-- A poll of one wait leaves the others. -/
theorem Waits.poll (h : s.Waits j) (other : i ≠ j) : (s.poll i).2.Waits j := by
  cases s.polled i with
  | gone absent same => rwa [same]
  | ready waits channel boxes same => rw [same]; exact h.set other
  | pending waits unheard channel k same => rw [same]; exact h.set other

/-- A wait that is pending goes on. -/
theorem Waits.pending (pending : (s.poll i).1 = .pending) : (s.poll i).2.Waits i := by
  cases s.polled i with
  | gone absent same => rw [same] at pending; cases pending
  | ready waits channel boxes same => rw [same] at pending; cases pending
  | pending waits unheard channel k same =>
    obtain ⟨w, hw, -⟩ := waits
    rw [same]
    refine ⟨.listening k, ?_, by simp⟩
    show (s.waits.set i (.listening k))[i]? = some (.listening k)
    rw [List.getElem?_set_self', hw]
    rfl

/-- A new wait is there. -/
theorem Waits.new (s : Shutdown) : s.wait.2.Waits s.wait.1 :=
  ⟨.idle, by simp [wait], by simp⟩

/-- A new wait takes no place that was given before. -/
theorem Waits.wait (h : s.Waits j) : s.wait.2.Waits j := by
  obtain ⟨w, hw, hlives⟩ := h
  obtain ⟨hj, -⟩ := List.getElem?_eq_some_iff.mp hw
  exact ⟨w, by rw [Shutdown.wait, List.getElem?_append_left hj]; exact hw, hlives⟩

/-- A wait that is there was made before the next one. -/
theorem Waits.lt (h : s.Waits j) : j < s.wait.1 := by
  obtain ⟨w, hw, -⟩ := h
  obtain ⟨hj, -⟩ := List.getElem?_eq_some_iff.mp hw
  exact hj

/-- What dropping a wait does. -/
theorem cancel_cases (s : Shutdown) (i : Nat) :
    (s.cancel i).2 = s ∨ ∃ channel,
      (s.cancel i).2 = { s with channel := channel, waits := s.waits.set i .ended } ∧
      ∀ k, channel.box? k = some .empty → s.channel.box? k = some .empty := by
  unfold cancel
  split
  · exact Or.inr ⟨s.channel, rfl, fun _ h => h⟩
  · rename_i k _
    refine Or.inr ⟨_, rfl, fun l hl => ?_⟩
    rw [box?_unsubscribe] at hl
    split at hl
    · cases hl
    · exact hl
  · exact Or.inl rfl
  · exact Or.inl rfl

/-- Dropping a wait leaves the others. -/
theorem Waits.cancel (h : s.Waits j) (other : i ≠ j) : (s.cancel i).2.Waits j := by
  rcases cancel_cases s i with hsame | ⟨channel, hsame, -⟩
  · rwa [hsame]
  · rw [hsame]
    exact h.set other

/-! ## The flag -/

/-- No poll sets the flag. -/
theorem triggered_poll : (s.poll i).2.triggered = s.triggered := by
  cases s.polled i with
  | gone absent same => rw [same]
  | ready waits channel boxes same => rw [same]
  | pending waits unheard channel k same => rw [same]

/-- Dropping a wait does not set it either. -/
theorem triggered_cancel : (s.cancel i).2.triggered = s.triggered := by
  rcases cancel_cases s i with hsame | ⟨channel, hsame, -⟩ <;> rw [hsame]

/-! ## After the signal -/

/-- One wait is over, and no box was emptied. -/
theorem Heard.settled {channel : Channel} (h : s.Heard)
    (boxes : ∀ k, channel.box? k = some .empty → s.channel.box? k = some .empty) :
    Heard { s with channel := channel, waits := s.waits.set i .ended } where
  triggered := h.triggered
  boxes := by
    intro j k hj hempty
    rw [List.getElem?_set] at hj
    split at hj
    · split at hj <;> simp at hj
    · exact h.boxes j k hj (boxes k hempty)

/-- A wait that is new does not listen, so it listens at no empty box. -/
theorem Heard.wait (h : s.Heard) : s.wait.2.Heard where
  triggered := h.triggered
  boxes := by
    intro j k hj
    rw [Shutdown.wait, List.getElem?_append] at hj
    split at hj
    · exact h.boxes j k hj
    · -- the new wait does not listen
      cases List.mem_singleton.mp (List.mem_of_getElem? hj)

/-- A wait that is dropped empties no box of another one. -/
theorem Heard.cancel (h : s.Heard) (i : Nat) : (s.cancel i).2.Heard := by
  rcases cancel_cases s i with hsame | ⟨channel, hsame, hboxes⟩
  · rwa [hsame]
  · rw [hsame]
    exact h.settled hboxes

/-- A poll ends its wait, since it finds the flag or the signal. -/
theorem Heard.poll (h : s.Heard) (i : Nat) : (s.poll i).2.Heard := by
  cases s.polled i with
  | gone absent same => rwa [same]
  | ready waits channel boxes same => rw [same]; exact h.settled boxes
  | pending waits unheard channel k same => exact absurd h unheard

/-- After the signal no poll is pending. -/
theorem Heard.not_pending (h : s.Heard) : (s.poll i).1 ≠ .pending := by
  cases s.polled i with
  | gone absent same => rw [same]; simp
  | ready waits channel boxes same => rw [same]; simp
  | pending waits unheard channel k same => exact absurd h unheard

/-- **A wait that is polled after the signal is over.** -/
theorem Heard.ready (h : s.Heard) (waits : s.Waits i) : (s.poll i).1 = .ready := by
  cases s.polled i with
  | gone absent same => exact absurd waits absent
  | ready waits channel boxes same => rw [same]
  | pending waits unheard channel k same => exact absurd h unheard

end TxRelay.Shutdown
