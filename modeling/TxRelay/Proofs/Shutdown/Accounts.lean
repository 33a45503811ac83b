/-
  The accounts of the shutdown signal.

  What a call answers follows from the answers before it, whatever is done with the signal and in
  whatever order: it is what the books make of it (`Books.expected`).

  1. **Boxes** — each party, a subscriber or a wait, has a box of its own (`Boxed`), and one party
     at a time gets a box, leaves it, or takes what is in it (`Boxed.change`).  Sending is the one
     thing that reaches all boxes (`Boxed.send`).

  2. **Books** — what lies in a box, the books say (`boxOf`): the signal, for a subscriber to whom
     it is due, and for a wait once it is sent; otherwise nothing.  So no box is ever overrun.

  3. **One step** — every operation keeps the books (`Kept`) and answers what is expected
     (`Performs`).  There is one lemma for each kind of news (`Kept.trigger` up to
     `Kept.endListening`), and one for each operation, which picks the news that it is.

  4. **Runs** — so every entry of a log is `Accounted` for, and one counts how often a subscriber
     finds the signal (`signals_of_accounted`).

  The crux is the number of receivers.  It is a count over boxes in the program and the size of two
  sets in the books, and the two agree because parties and boxes that are in use go together one to
  one; each change of a box is a change of one party (`Boxed.join`, `Boxed.leave`).
-/
import TxRelay.Log
import TxRelay.Proofs.Shutdown.Books
import TxRelay.Proofs.Shutdown.Wakeups

namespace TxRelay.Shutdown

/-! ## Boxes of their own -/

section Boxed

/-- Who may have a box. -/
inductive Party where
  | subscriber (i : Nat)
  | wait (i : Nat)

/-- The number of a party's receiver. -/
def receiverOf (s : Shutdown) : Party → Option Nat
  | .subscriber i => s.subscribers[i]?
  | .wait i =>
    match s.waits[i]? with
    | some (.listening k) => some k
    | _ => none

/-- Each party has a receiver of its own, and this lies in its box. -/
structure Boxed (c : Channel) (receiver : Party → Option Nat) (content : Party → Option Mailbox)
    (count : Nat) : Prop where
  isOpen : c.isOpen = true
  alone : ∀ p q k, receiver p = some k → receiver q = some k → p = q
  boxes : ∀ p k, receiver p = some k → k < c.boxes.length ∧ c.box? k = content p
  count : c.receivers = count

variable {c c' : Channel} {receiver receiver' : Party → Option Nat}
  {content content' : Party → Option Mailbox} {count k : Nat}

/-- One party's box changes, and nothing else. -/
theorem Boxed.change {count' : Nat} (h : Boxed c receiver content count) (p₀ : Party)
    (isOpen : c'.isOpen = true) (length : c.boxes.length ≤ c'.boxes.length)
    (others : ∀ p k, p ≠ p₀ → receiver' p = some k →
      receiver p = some k ∧ content' p = content p)
    (boxes : ∀ p k, p ≠ p₀ → receiver p = some k → c'.box? k = c.box? k)
    (own : ∀ k, receiver' p₀ = some k →
      k < c'.boxes.length ∧ c'.box? k = content' p₀ ∧ ∀ p, p ≠ p₀ → receiver p ≠ some k)
    (counts : c'.receivers = count') : Boxed c' receiver' content' count' where
  isOpen := isOpen
  count := counts
  alone := by
    intro p q k hp hq
    -- the box of `p₀` was nobody else's, and two others had boxes of their own before
    by_cases hp₀ : p = p₀
    · subst hp₀
      by_cases hq₀ : q = p
      · exact hq₀.symm
      · exact absurd (others q k hq₀ hq).1 ((own k hp).2.2 q hq₀)
    · by_cases hq₀ : q = p₀
      · subst hq₀
        exact absurd (others p k hp₀ hp).1 ((own k hq).2.2 p hp₀)
      · exact h.alone p q k (others p k hp₀ hp).1 (others q k hq₀ hq).1
  boxes := by
    intro p k hp
    by_cases hp₀ : p = p₀
    · subst hp₀
      exact ⟨(own k hp).1, (own k hp).2.1⟩
    · obtain ⟨hbefore, hsame⟩ := others p k hp₀ hp
      obtain ⟨hlt, hbox⟩ := h.boxes p k hbefore
      exact ⟨hlt.trans_le length, (boxes p k hp₀ hbefore).trans (hbox.trans hsame.symm)⟩

/-- Nothing happens to the boxes. -/
theorem Boxed.same (h : Boxed c receiver content count)
    (same : ∀ p k, receiver' p = some k → receiver p = some k ∧ content' p = content p) :
    Boxed c receiver' content' count where
  isOpen := h.isOpen
  alone := fun p q k hp hq => h.alone p q k (same p k hp).1 (same q k hq).1
  boxes := fun p k hp => by rw [(same p k hp).2]; exact h.boxes p k (same p k hp).1
  count := h.count

/-- The signal is sent. -/
theorem Boxed.send (h : Boxed c receiver content count)
    (content' : Party → Option Mailbox)
    (arrives : ∀ p k, receiver p = some k → content' p = (content p).map Channel.arrive) :
    Boxed c.send receiver content' count where
  isOpen := h.isOpen
  alone := h.alone
  boxes := by
    intro p k hp
    obtain ⟨hlt, hbox⟩ := h.boxes p k hp
    refine ⟨by simpa [Channel.send] using hlt, ?_⟩
    rw [box?_send, hbox, arrives p k hp]
  count := by
    rw [← h.count, Channel.receivers, Channel.receivers, Channel.send, List.countP_map]
    congr 1
    funext box
    simp

/-- A party gets a new box. -/
theorem Boxed.join (h : Boxed c receiver content count) (p₀ : Party)
    (others : ∀ p k, p ≠ p₀ → receiver' p = some k →
      receiver p = some k ∧ content' p = content p)
    (new : receiver' p₀ = some c.boxes.length) (empty : content' p₀ = some .empty) :
    Boxed c.subscribe.2 receiver' content' (count + 1) := by
  refine h.change p₀ h.isOpen (by simp [Channel.subscribe]) others ?_ ?_ ?_
  · intro p k _ hp
    exact (box?_subscribe c k).trans (if_neg (Nat.ne_of_lt (h.boxes p k hp).1))
  · intro k hk
    obtain rfl := Option.some.inj (new.symm.trans hk)
    refine ⟨by simp [Channel.subscribe], ?_, fun p _ hp => ?_⟩
    · exact (box?_subscribe c _).trans ((if_pos rfl).trans empty.symm)
    · exact Nat.lt_irrefl _ (h.boxes p _ hp).1
  · simp [Channel.receivers, Channel.subscribe, ← h.count]

/-- A box that is put away is one receiver less. -/
theorem receivers_set {box : Mailbox} (there : c.box? k = some box) (new : Option Mailbox) :
    Channel.receivers { c with boxes := c.boxes.set k new } + 1 =
      c.receivers + new.isSome.toNat := by
  obtain ⟨hk, hheld⟩ := List.getElem?_eq_some_iff.mp (Option.join_eq_some_iff.mp there)
  have hpos : 0 < c.boxes.countP Option.isSome :=
    List.countP_pos_iff.mpr ⟨_, List.getElem_mem hk, by rw [hheld]; rfl⟩
  rw [Channel.receivers, Channel.receivers, List.countP_set hk, hheld]
  cases new <;> simp <;> omega

/-- A party goes away. -/
theorem Boxed.leave (h : Boxed c receiver content (count + 1)) (p₀ : Party)
    (held : receiver p₀ = some k)
    (there : content p₀ ≠ none)
    (others : ∀ p k, p ≠ p₀ → receiver' p = some k →
      receiver p = some k ∧ content' p = content p)
    (own : ∀ l, receiver' p₀ = some l → l = k ∧ content' p₀ = none) :
    Boxed (c.unsubscribe k) receiver' content' count := by
  obtain ⟨hlt, hbox⟩ := h.boxes p₀ k held
  refine h.change p₀ h.isOpen (by simp [Channel.unsubscribe]) others ?_ ?_ ?_
  · intro p l hp hl
    rw [box?_unsubscribe, if_neg]
    rintro rfl
    exact hp (h.alone p p₀ k hl held)
  · intro l hl
    obtain ⟨rfl, hnone⟩ := own l hl
    refine ⟨by simpa [Channel.unsubscribe] using hlt, ?_, fun p hp hother => ?_⟩
    · rw [box?_unsubscribe, if_pos rfl, hnone]
    · exact hp (h.alone p p₀ l hother held)
  · obtain ⟨box, hthere⟩ := Option.ne_none_iff_exists'.mp there
    have hcount := receivers_set (hbox.trans hthere) none
    rw [h.count] at hcount
    exact Nat.succ.inj hcount

/-- A party takes what is in its box. -/
theorem Boxed.take {box : Mailbox} (h : Boxed c receiver content count) (p₀ : Party)
    (held : receiver p₀ = some k) (there : content p₀ = some box)
    (others : ∀ p, p ≠ p₀ → content' p = content p) (empty : content' p₀ = some .empty) :
    Boxed { c with boxes := c.boxes.set k (some .empty) } receiver content' count := by
  obtain ⟨hlt, hbox⟩ := h.boxes p₀ k held
  refine h.change p₀ h.isOpen (by simp) (fun p l hp hl => ⟨hl, others p hp⟩) ?_ ?_ ?_
  · intro p l hp hl
    have hkl : k ≠ l := fun hsame => hp (h.alone p p₀ l hl (hsame ▸ held))
    rw [Channel.box?, List.getElem?_set_ne hkl]
    rfl
  · intro l hl
    obtain rfl := Option.some.inj (held.symm.trans hl)
    refine ⟨by simpa using hlt, ?_, fun p hp hother => hp (h.alone p p₀ k hother held)⟩
    rw [Channel.box?, List.getElem?_set_self hlt, empty]
    rfl
  · have hcount := receivers_set (hbox.trans there) (some .empty)
    rw [h.count] at hcount
    exact Nat.succ.inj hcount

end Boxed

/-! ## The books are kept -/

/-- What lies in a party's box, by the books. -/
def boxOf (ns : List News) : Party → Option Mailbox
  | .subscriber i =>
    if i ∈ Books.live ns then some (if i ∈ Books.due ns then .message else .empty) else none
  | .wait _ => some (if Books.triggered ns then .message else .empty)

/-- The books have these subscribers. -/
structure Subscribed (ns : List News) (receivers : List Nat) : Prop where
  all : Books.subscribed ns = Finset.range receivers.length
  left : Books.left ns ⊆ Books.subscribed ns

/-- How far a wait is, by the books. -/
def Stage (ns : List News) (i : Nat) : Option Wait → Prop
  | none | some .idle => i ∉ Books.pending ns ∧ i ∉ Books.ended ns
  | some (.listening _) => i ∈ Books.pending ns ∧ i ∉ Books.ended ns
  | some .ended => i ∈ Books.ended ns

/-- The books have these waits. -/
structure Begun (ns : List News) (waits : List Wait) : Prop where
  all : Books.begun ns = Finset.range waits.length
  stage : ∀ i : Nat, Stage ns i waits[i]?

/-- The books are kept. -/
structure Kept (ns : List News) (s : Shutdown) : Prop where
  triggered : s.triggered = Books.triggered ns
  subscribers : Subscribed ns s.subscribers
  waits : Begun ns s.waits
  boxed : Boxed s.channel s.receiverOf (boxOf ns)
    ((Books.live ns).card + (Books.listening ns).card)

variable {s : Shutdown} {ns : List News} {n : News} {i k : Nat}

/-- Nobody has subscribed and nothing was sent. -/
theorem Kept.new : Kept [] {} where
  triggered := rfl
  subscribers := ⟨rfl, fun _ h => h⟩
  waits := ⟨rfl, fun _ => by simp [Stage]⟩
  boxed :=
    { isOpen := rfl
      alone := fun p q k hp => by cases p <;> simp [receiverOf] at hp
      boxes := fun p k hp => by cases p <;> simp [receiverOf] at hp
      count := rfl }

/-- A wait has a box while it sleeps. -/
theorem receiverOf_wait : s.receiverOf (.wait i) = some k ↔ s.waits[i]? = some (.listening k) := by
  cases hwait : s.waits[i]? with
  | none => simp [receiverOf, hwait]
  | some w =>
    cases w with
    | listening j => simp [receiverOf, hwait]
    | idle | ended => simp [receiverOf, hwait]

/-- A wait that is not over is there, by the books. -/
theorem Kept.waiting_iff (h : Kept ns s) : i ∈ Books.waiting ns ↔ s.Waits i := by
  rw [Books.waiting, Finset.mem_sdiff, h.waits.all, Finset.mem_range, Waits]
  have hstage := h.waits.stage i
  cases hwait : s.waits[i]? with
  | none => simpa using fun hi => absurd hwait (by simpa using hi)
  | some w =>
    have hi := (List.getElem?_eq_some_iff.mp hwait).1
    rw [hwait] at hstage
    cases w with
    | idle => simpa [hi] using hstage.2
    | listening k => simpa [hi] using hstage.2
    | ended =>
      have hended : .ended i ∈ ns := Books.mem_ended.mp hstage
      simp [hended]

/-- A subscriber that is there, by the books, has a receiver. -/
theorem Kept.receiver (h : Kept ns s) (live : i ∈ Books.live ns) :
    ∃ k, s.receiver? i = some k ∧ s.receiverOf (.subscriber i) = some k := by
  have hi : i < s.subscribers.length := by
    have hsub := (Finset.mem_sdiff.mp live).1
    rwa [h.subscribers.all, Finset.mem_range] at hsub
  have hheld : s.receiverOf (.subscriber i) = some s.subscribers[i] := List.getElem?_eq_getElem hi
  have hbox := (h.boxed.boxes _ _ hheld).2
  refine ⟨_, ?_, hheld⟩
  rw [receiver?, List.getElem?_eq_getElem hi]
  simp [hbox, boxOf, live]

/-- Who is not subscribed has no receiver. -/
theorem Kept.no_receiver (h : Kept ns s) (gone : i ∉ Books.live ns) : s.receiver? i = none := by
  refine Option.filter_eq_none_iff.mpr fun k hk => ?_
  have hbox := (h.boxed.boxes (.subscriber i) k hk).2
  simp [hbox, boxOf, gone]

/-! ## What news leaves alone -/

/-- Other news leaves the flag alone. -/
theorem Kept.flag_other (h : Kept ns s) (other : n ≠ .triggered) :
    s.triggered = Books.triggered (ns ++ [n]) :=
  h.triggered.trans (Books.triggered_other other).symm

/-- News of waits leaves the subscribers alone. -/
theorem Subscribed.other {receivers : List Nat} (h : Subscribed ns receivers)
    (other : n.ofSubscriber = false) : Subscribed (ns ++ [n]) receivers := by
  obtain ⟨hsubscribed, hleft⟩ := @Books.subscribers_other ns n other
  exact ⟨hsubscribed.trans h.all, by rw [hsubscribed, hleft]; exact h.left⟩

/-- A wait is as far as it was if there is no news of it. -/
theorem Stage.other {w : Option Wait} (h : Stage ns i w) (pending : n ≠ .pending i)
    (ended : n ≠ .ended i) : Stage (ns ++ [n]) i w := by
  cases w with
  | none => simpa [Stage, pending.symm, ended.symm] using h
  | some w => cases w <;> simpa [Stage, pending.symm, ended.symm] using h

/-- News of subscribers leaves the waits alone. -/
theorem Begun.other {waits : List Wait} (h : Begun ns waits) (other : n.ofWait = false) :
    Begun (ns ++ [n]) waits where
  all := (Books.waits_other other).1.trans h.all
  stage := fun i => (h.stage i).other (by rintro rfl; cases other) (by rintro rfl; cases other)

/-- One wait is at another stage. -/
theorem Begun.set {waits : List Wait} {w : Wait} (h : Begun ns waits) (there : i < waits.length)
    (all : Books.begun (ns ++ [n]) = Books.begun ns)
    (others : ∀ j, j ≠ i → n ≠ .pending j ∧ n ≠ .ended j) (own : Stage (ns ++ [n]) i (some w)) :
    Begun (ns ++ [n]) (waits.set i w) where
  all := by rw [all, h.all, List.length_set]
  stage := fun j => by
    rw [List.getElem?_set]
    split
    · rename_i hsame
      subst hsame
      simpa only [there, if_true] using own
    · rename_i hother
      exact (h.stage j).other (others j (Ne.symm hother)).1 (others j (Ne.symm hother)).2

/-- The boxes of the others stay as they are, if it is not the signal that is sent. -/
theorem boxOf_other {p : Party} (other : n ≠ .triggered)
    (apart : ∀ i, p = .subscriber i → n ≠ .subscribed i ∧ n ≠ .left i ∧ n ≠ .tried i) :
    boxOf (ns ++ [n]) p = boxOf ns p := by
  cases p with
  | wait i => rw [boxOf, boxOf, Books.triggered_other other]
  | subscriber i =>
    obtain ⟨hsubscribed, hleft, htried⟩ := apart i rfl
    have hlive : i ∈ Books.live (ns ++ [n]) ↔ i ∈ Books.live ns := by
      simp [Books.live, hsubscribed.symm, hleft.symm]
    have hdue : i ∈ Books.due (ns ++ [n]) ↔ i ∈ Books.due ns := by
      rw [Books.due_snoc other]
      simp [htried.symm]
    simp only [boxOf, hlive, hdue]

/-- The receivers of the others stay theirs when one wait is at another stage. -/
theorem receiverOf_set {p : Party} {channel : Channel} {w : Wait} (other : p ≠ .wait i) :
    receiverOf { s with channel := channel, waits := s.waits.set i w } p = s.receiverOf p := by
  cases p with
  | subscriber j => rfl
  | wait j =>
    have hij : i ≠ j := fun hsame => other (hsame ▸ rfl)
    refine Option.ext fun k => ?_
    rw [receiverOf_wait, receiverOf_wait]
    show (s.waits.set i w)[j]? = _ ↔ _
    rw [List.getElem?_set_ne hij]

/-- A wait that is over has no box. -/
theorem receiverOf_ended {channel : Channel} :
    receiverOf { s with channel := channel, waits := s.waits.set i .ended } (.wait i) = none := by
  refine Option.eq_none_iff_forall_ne_some.mpr fun k hk => ?_
  have hended : (s.waits.set i .ended)[i]? = some (.listening k) := receiverOf_wait.mp hk
  rw [List.getElem?_set, if_pos rfl] at hended
  split at hended <;> cases hended

/-- What the books put into the box of a subscriber. -/
theorem boxOf_subscriber (live : i ∈ Books.live ns) :
    boxOf ns (.subscriber i) = some (if i ∈ Books.due ns then .message else .empty) := if_pos live

/-! ## One operation -/

/-- `trigger` sends the signal once. -/
theorem Kept.trigger (h : Kept ns s) : Kept (ns ++ [.triggered]) s.trigger.2 := by
  have hset : Books.triggered (ns ++ [.triggered]) = true := by simp [Books.triggered_snoc]
  have hlive : Books.live (ns ++ [.triggered]) = Books.live ns := Books.live_other rfl
  have hlistening : Books.listening (ns ++ [.triggered]) = Books.listening ns :=
    Books.listening_other rfl
  have hboxed := h.boxed
  rw [← hlive, ← hlistening] at hboxed
  cases hflag : s.triggered with
  | true =>
    -- a second trigger sends nothing, and the first one has split the news
    have hbefore : Books.triggered ns = true := h.triggered.symm.trans hflag
    have hdue : Books.due (ns ++ [.triggered]) = Books.due ns := by
      rw [Books.due_of_triggered hbefore]
      ext i
      simp
    have hsame : s.trigger.2 = s := by simp [Shutdown.trigger, hflag]
    rw [hsame]
    refine ⟨hflag.trans hset.symm, h.subscribers.other rfl, h.waits.other rfl,
      hboxed.same fun p k hp => ⟨hp, ?_⟩⟩
    cases p <;> simp only [boxOf, hlive, hdue, hset, hbefore]
  | false =>
    have hbefore : Books.triggered ns = false := h.triggered.symm.trans hflag
    -- the signal comes into every box, and is due to all who are subscribed
    have hsent : s.trigger.2 = { s with triggered := true, channel := s.channel.send } := by
      simp [Shutdown.trigger, hflag]
    rw [hsent]
    refine ⟨hset.symm, h.subscribers.other rfl, h.waits.other rfl, hboxed.send _ fun p k _ => ?_⟩
    cases p with
    | wait i => simp [boxOf, hset, hbefore, Channel.arrive]
    | subscriber i =>
      rw [boxOf, boxOf, hlive, Books.due_first hbefore, Books.due_of_not hbefore]
      by_cases hi : i ∈ Books.live ns
      · have hsub := (Finset.mem_sdiff.mp hi).1
        simp only [if_pos hi, if_pos hsub, Finset.notMem_empty, if_false]
        rfl
      · rw [if_neg hi, if_neg hi]
        rfl

/-- A new subscriber has an empty box. -/
theorem Kept.subscribe (h : Kept ns s) :
    Kept (ns ++ [.subscribed s.subscribers.length]) s.subscribe.2 := by
  have hnew : s.subscribers.length ∉ Books.subscribed ns := by simp [h.subscribers.all]
  have hstays : s.subscribers.length ∉ Books.left ns := fun hleft => hnew (h.subscribers.left hleft)
  have hsubscribed : Books.subscribed (ns ++ [.subscribed s.subscribers.length]) =
      insert s.subscribers.length (Books.subscribed ns) := by
    ext i
    simp [or_comm]
  have hleft : Books.left (ns ++ [.subscribed s.subscribers.length]) = Books.left ns := by
    ext i
    simp
  have hlive : Books.live (ns ++ [.subscribed s.subscribers.length]) =
      insert s.subscribers.length (Books.live ns) := Books.live_subscribed hstays
  -- whoever subscribes now is not early
  have hdue : s.subscribers.length ∉ Books.due (ns ++ [.subscribed s.subscribers.length]) := by
    rw [Books.due_snoc (by simp)]
    exact fun hi => hnew (Books.due_subset (Finset.mem_sdiff.mp hi).1)
  refine ⟨h.flag_other (by simp), ⟨?_, ?_⟩, h.waits.other rfl, ?_⟩
  · rw [hsubscribed, h.subscribers.all]
    simp [Shutdown.subscribe, Channel.subscribe, Finset.range_add_one]
  · rw [hsubscribed, hleft]
    exact h.subscribers.left.trans (Finset.subset_insert _ _)
  · have hfresh : s.subscribers.length ∉ Books.live ns := fun hi =>
      hnew (Finset.mem_sdiff.mp hi).1
    have hthere : s.subscribers.length ∈ Books.live (ns ++ [.subscribed s.subscribers.length]) :=
      hlive ▸ Finset.mem_insert_self _ _
    rw [hlive, Books.listening_other rfl, Finset.card_insert_of_notMem hfresh, Nat.add_right_comm]
    refine h.boxed.join (.subscriber s.subscribers.length) (fun p k hp hk => ⟨?_, ?_⟩) ?_ ?_
    · cases p with
      | wait i => exact hk
      | subscriber i =>
        have hi : i ≠ s.subscribers.length := fun hsame => hp (hsame ▸ rfl)
        have hheld : (s.subscribers ++ [s.channel.boxes.length])[i]? = some k := hk
        rw [List.getElem?_append] at hheld
        split at hheld
        · exact hheld
        · rw [List.getElem?_eq_none (by simp; omega)] at hheld
          cases hheld
    · refine boxOf_other (by simp) fun i hi => ⟨fun hsame => ?_, by simp, by simp⟩
      exact hp (hi.trans (congrArg _ (News.subscribed.inj hsame).symm))
    · exact List.getElem?_concat_length
    · rw [boxOf_subscriber hthere, if_neg hdue]

/-- A subscriber goes away. -/
theorem Kept.leave (h : Kept ns s) (live : i ∈ Books.live ns)
    (held : s.receiverOf (.subscriber i) = some k) :
    Kept (ns ++ [.left i]) { s with channel := s.channel.unsubscribe k } := by
  have hsubscribed : Books.subscribed (ns ++ [.left i]) = Books.subscribed ns := by
    ext j
    simp
  have hleft : Books.left (ns ++ [.left i]) = insert i (Books.left ns) := by
    ext j
    simp [or_comm]
  refine ⟨h.flag_other (by simp), ⟨hsubscribed.trans h.subscribers.all, ?_⟩,
    h.waits.other rfl, ?_⟩
  · rw [hsubscribed, hleft]
    exact Finset.insert_subset (Finset.mem_sdiff.mp live).1 h.subscribers.left
  · have hboxed := h.boxed
    -- one party less, and one receiver less
    rw [← Finset.card_erase_add_one live, Nat.add_right_comm] at hboxed
    rw [Books.live_left, Books.listening_other rfl]
    refine hboxed.leave (.subscriber i) held ?_ (fun p l hp hl => ⟨hl, ?_⟩) fun l hl => ⟨?_, ?_⟩
    · rw [boxOf_subscriber live]
      simp
    · refine boxOf_other (by simp) fun j hj => ⟨by simp, fun hsame => ?_, by simp⟩
      exact hp (hj.trans (congrArg _ (News.left.inj hsame).symm))
    · exact (Option.some.inj (held.symm.trans hl)).symm
    · rw [boxOf, Books.live_left, if_neg (Finset.notMem_erase _ _)]

/-- A subscriber looks into its box. -/
theorem Kept.look {box : Mailbox} (h : Kept ns s) (live : i ∈ Books.live ns)
    (held : s.receiverOf (.subscriber i) = some k) (there : s.channel.box? k = some box) :
    Kept (ns ++ [.tried i])
      { s with channel := { s.channel with boxes := s.channel.boxes.set k (some .empty) } } := by
  have hlive : Books.live (ns ++ [.tried i]) = Books.live ns := Books.live_other rfl
  have hdue : i ∉ Books.due (ns ++ [.tried i]) := by
    rw [Books.due_snoc (by simp)]
    simp
  refine ⟨h.flag_other (by simp), h.subscribers.other rfl, h.waits.other rfl, ?_⟩
  rw [hlive, Books.listening_other rfl]
  refine h.boxed.take (.subscriber i) held ((h.boxed.boxes _ _ held).2.symm.trans there)
    (fun p hp => ?_) ?_
  · refine boxOf_other (by simp) fun j hj => ⟨by simp, by simp, fun hsame => ?_⟩
    exact hp (hj.trans (congrArg _ (News.tried.inj hsame).symm))
  · rw [boxOf_subscriber (hlive ▸ live), if_neg hdue]

/-- A new wait. -/
theorem Kept.begin (h : Kept ns s) : Kept (ns ++ [.begun s.waits.length]) s.wait.2 := by
  have hlistening : Books.listening (ns ++ [.begun s.waits.length]) = Books.listening ns := by
    ext i
    simp [Books.listening]
  refine ⟨h.flag_other (by simp), h.subscribers.other rfl, ⟨?_, fun i => ?_⟩, ?_⟩
  · have hbegun : Books.begun (ns ++ [.begun s.waits.length]) =
        insert s.waits.length (Books.begun ns) := by
      ext i
      simp [or_comm]
    rw [hbegun, h.waits.all]
    simp [Shutdown.wait, Finset.range_add_one]
  · refine Stage.other ?_ (by simp) (by simp)
    have hstage := h.waits.stage i
    show Stage ns i (s.waits ++ [.idle])[i]?
    rw [List.getElem?_append]
    split
    · exact hstage
    · rename_i hi
      rw [List.getElem?_eq_none (Nat.le_of_not_lt hi)] at hstage
      -- the new wait is as far as none
      cases hnew : [Wait.idle][i - s.waits.length]? with
      | none => exact hstage
      | some w =>
        obtain rfl := List.mem_singleton.mp (List.mem_of_getElem? hnew)
        exact hstage
  · rw [Books.live_other rfl, hlistening]
    refine h.boxed.same fun p k hp => ⟨?_, boxOf_other (by simp) (by simp)⟩
    cases p with
    | subscriber i => exact hp
    | wait i =>
      have hbeside : Beside s s.wait.2 := @beside_once s .wait rfl
      exact receiverOf_wait.mpr ((hbeside.listening i k).mp (receiverOf_wait.mp hp))

/-- A wait is polled or cancelled. -/
theorem Kept.moves {w₀ w : Wait} {c : Channel} (h : Kept ns s) (there : s.waits[i]? = some w₀)
    (news : n = .pending i ∨ n = .ended i) (own : Stage (ns ++ [n]) i (some w))
    (boxed : Boxed c (receiverOf { s with channel := c, waits := s.waits.set i w }) (boxOf ns)
      ((Books.live ns).card + (Books.listening (ns ++ [n])).card)) :
    Kept (ns ++ [n]) { s with channel := c, waits := s.waits.set i w } := by
  have hthere := (List.getElem?_eq_some_iff.mp there).1
  have hsame : boxOf (ns ++ [n]) = boxOf ns := by
    funext p
    rcases news with rfl | rfl <;> exact boxOf_other (by simp) (by simp)
  constructor
  · rcases news with rfl | rfl <;> exact h.flag_other (by simp)
  · rcases news with rfl | rfl <;> exact h.subscribers.other rfl
  · refine h.waits.set hthere ?_ (fun j hj => ?_) own
    · rcases news with rfl | rfl <;> ext <;> simp
    · rcases news with rfl | rfl <;> simp [hj.symm]
  · rw [hsame]
    rcases news with rfl | rfl <;> rw [Books.live_other rfl] <;> exact boxed

/-- A wait that nobody has polled gets a receiver. -/
theorem Kept.listen (h : Kept ns s) (idle : s.waits[i]? = some .idle)
    (untriggered : s.triggered = false) :
    Kept (ns ++ [.pending i])
      { s with
        channel := s.channel.subscribe.2
        waits := s.waits.set i (.listening s.channel.boxes.length) } := by
  have hstage := h.waits.stage i
  rw [idle] at hstage
  have hfresh : i ∉ Books.listening ns := fun hi => hstage.1 (Finset.mem_sdiff.mp hi).1
  refine h.moves idle (Or.inl rfl) ⟨by simp, by simpa using hstage.2⟩ ?_
  rw [Books.listening_pending hstage.2, Finset.card_insert_of_notMem hfresh, ← Nat.add_assoc]
  refine h.boxed.join (.wait i) (fun p k hp hk => ⟨?_, rfl⟩) ?_ ?_
  · rwa [receiverOf_set hp] at hk
  · exact receiverOf_wait.mpr (List.getElem?_set_self (List.getElem?_eq_some_iff.mp idle).1)
  · rw [boxOf, ← h.triggered, untriggered]
    rfl

/-- A wait that has a receiver is polled and goes on. -/
theorem Kept.goOn (h : Kept ns s) (listens : s.waits[i]? = some (.listening k)) :
    Kept (ns ++ [.pending i]) { s with waits := s.waits.set i (.listening k) } := by
  have hstage := h.waits.stage i
  rw [listens] at hstage
  have hlistens : i ∈ Books.listening ns := Finset.mem_sdiff.mpr hstage
  refine h.moves listens (Or.inl rfl) ⟨by simp, by simpa using hstage.2⟩ ?_
  obtain ⟨hi, hheld⟩ := List.getElem?_eq_some_iff.mp listens
  rw [Books.listening_pending hstage.2, Finset.insert_eq_of_mem hlistens, ← hheld,
    List.set_getElem_self]
  exact h.boxed

/-- A wait is over that nobody has polled. -/
theorem Kept.endIdle (h : Kept ns s) (idle : s.waits[i]? = some .idle) :
    Kept (ns ++ [.ended i]) { s with waits := s.waits.set i .ended } := by
  have hstage := h.waits.stage i
  rw [idle] at hstage
  have hnever : i ∉ Books.listening ns := fun hi => hstage.1 (Finset.mem_sdiff.mp hi).1
  refine h.moves idle (Or.inr rfl) (by simp [Stage]) ?_
  rw [Books.listening_ended, Finset.erase_eq_of_notMem hnever]
  refine h.boxed.same fun p l hl => ⟨?_, rfl⟩
  have hp : p ≠ .wait i := by
    rintro rfl
    cases receiverOf_ended.symm.trans hl
  rwa [receiverOf_set hp] at hl

/-- A wait is over, and its receiver gone. -/
theorem Kept.endListening (h : Kept ns s) (listens : s.waits[i]? = some (.listening k)) :
    Kept (ns ++ [.ended i])
      { s with channel := s.channel.unsubscribe k, waits := s.waits.set i .ended } := by
  have hstage := h.waits.stage i
  rw [listens] at hstage
  have hlistens : i ∈ Books.listening ns := Finset.mem_sdiff.mpr hstage
  have hboxed := h.boxed
  rw [← Finset.card_erase_add_one hlistens, ← Nat.add_assoc] at hboxed
  refine h.moves listens (Or.inr rfl) (by simp [Stage]) ?_
  rw [Books.listening_ended]
  refine hboxed.leave (.wait i) (receiverOf_wait.mpr listens) (by simp [boxOf])
    (fun p l hp hl => ⟨?_, rfl⟩) fun l hl => ?_
  · rwa [receiverOf_set hp] at hl
  · cases receiverOf_ended.symm.trans hl

/-- The operation answers what is expected, and the books are kept. -/
structure Performs (ns : List News) (op : Op) (r : Answer × Shutdown) : Prop where
  answer : r.1 = Books.expected ns op
  kept : Kept (ns ++ (learnt op r.1).toList) r.2

/-- Nothing is learnt from an operation on somebody who is not there. -/
theorem Kept.nothing (h : Kept ns s) {op : Op} {answer : Answer}
    (expected : answer = Books.expected ns op) (nothing : learnt op answer = none) :
    Performs ns op (answer, s) where
  answer := expected
  kept := by
    rw [nothing]
    simpa using h

/-- Leaving, by somebody who is subscribed or by somebody who is not. -/
theorem Kept.performs_unsubscribe (h : Kept ns s) (i : Nat) :
    Performs ns (.unsubscribe i) (s.step (.unsubscribe i)) := by
  by_cases hlive : i ∈ Books.live ns
  · obtain ⟨k, hreceiver, hheld⟩ := h.receiver hlive
    have hstep : s.step (.unsubscribe i) =
        (.flag true, { s with channel := s.channel.unsubscribe k }) := by
      simp [step, unsubscribe, hreceiver]
    rw [hstep]
    exact ⟨by simp [Books.expected, hlive], h.leave hlive hheld⟩
  · have hstep : s.step (.unsubscribe i) = (.flag false, s) := by
      simp [step, unsubscribe, h.no_receiver hlive]
    rw [hstep]
    exact h.nothing (by simp [Books.expected, hlive]) rfl

/-- A look into the box finds the signal if it is due. -/
theorem Kept.performs_tryRecv (h : Kept ns s) (i : Nat) :
    Performs ns (.tryRecv i) (s.step (.tryRecv i)) := by
  by_cases hlive : i ∈ Books.live ns
  · obtain ⟨k, hreceiver, hheld⟩ := h.receiver hlive
    have hbox := (h.boxed.boxes _ _ hheld).2
    rw [boxOf_subscriber hlive] at hbox
    by_cases hdue : i ∈ Books.due ns
    · -- the signal is in the box, and is taken out
      rw [if_pos hdue] at hbox
      have hstep : s.step (.tryRecv i) = (.received .signal, { s with
          channel := { s.channel with boxes := s.channel.boxes.set k (some .empty) } }) := by
        simp [step, tryRecv, hreceiver, Channel.tryRecv, hbox]
      rw [hstep]
      exact ⟨by simp [Books.expected, hlive, hdue], h.look hlive hheld hbox⟩
    · rw [if_neg hdue] at hbox
      have hstep : s.step (.tryRecv i) = (.received .empty, s) := by
        simp [step, tryRecv, hreceiver, Channel.tryRecv, hbox, h.boxed.isOpen]
      have hlook := h.look hlive hheld hbox
      obtain ⟨hk, hempty⟩ := List.getElem?_eq_some_iff.mp (Option.join_eq_some_iff.mp hbox)
      rw [← hempty, List.set_getElem_self] at hlook
      rw [hstep]
      exact ⟨by simp [Books.expected, hlive, hdue], hlook⟩
  · have hstep : s.step (.tryRecv i) = (.gone, s) := by
      simp [step, tryRecv, h.no_receiver hlive]
    rw [hstep]
    exact h.nothing (by simp [Books.expected, hlive]) rfl

/-- A poll of a wait that is there. -/
theorem Kept.performs_waits (h : Kept ns s) (waits : s.Waits i) :
    Performs ns (.poll i) (s.poll i) := by
  have hwaiting : i ∈ Books.waiting ns := h.waiting_iff.mpr waits
  obtain ⟨w, hwait, hlives⟩ := waits
  have hready (hset : s.triggered = true) : .ready = Books.expected ns (.poll i) := by
    rw [Books.expected, if_pos hwaiting, ← h.triggered, hset, if_pos rfl]
  have hpending (hclear : s.triggered = false) : .pending = Books.expected ns (.poll i) := by
    rw [Books.expected, if_pos hwaiting, ← h.triggered, hclear]
    rfl
  -- a wait that is polled first looks at the flag, a later poll looks into the box; the books say
  -- that the box of a wait holds the signal exactly if the flag is set
  cases w with
  | ended => exact absurd rfl hlives
  | idle =>
    cases hflag : s.triggered with
    | true =>
      have hpoll : s.poll i = (.ready, { s with waits := s.waits.set i .ended }) := by
        simp [poll, hwait, hflag]
      rw [hpoll]
      exact ⟨hready hflag, h.endIdle hwait⟩
    | false =>
      have hpoll : s.poll i =
          Shutdown.listen { s with channel := s.channel.subscribe.2 } i s.channel.boxes.length := by
        simp [poll, hwait, hflag, Channel.subscribe]
      rw [hpoll, @listen_empty { s with channel := s.channel.subscribe.2 } i _ h.boxed.isOpen
        ((box?_subscribe _ _).trans (if_pos rfl))]
      exact ⟨hpending hflag, h.listen hwait hflag⟩
  | listening k =>
    have hbox := (h.boxed.boxes _ _ (receiverOf_wait.mpr hwait)).2
    rw [boxOf, ← h.triggered] at hbox
    have hpoll : s.poll i = Shutdown.listen s i k := by simp [poll, hwait]
    cases hflag : s.triggered with
    | true =>
      rw [hflag, if_pos rfl] at hbox
      have hlisten : Shutdown.listen s i k = (.ready,
          { s with channel := s.channel.unsubscribe k, waits := s.waits.set i .ended }) := by
        simp [Shutdown.listen, Channel.tryRecv, hbox]
      rw [hpoll, hlisten]
      exact ⟨hready hflag, h.endListening hwait⟩
    | false =>
      rw [hflag] at hbox
      rw [hpoll, listen_empty h.boxed.isOpen hbox]
      exact ⟨hpending hflag, h.goOn hwait⟩

/-- A wait is given up, whatever its stage. -/
theorem Kept.performs_cancel (h : Kept ns s) (i : Nat) :
    Performs ns (.cancel i) (s.step (.cancel i)) := by
  have hanswer (b : Bool) (hb : b = true ↔ s.Waits i) :
      Answer.flag b = Books.expected ns (.cancel i) := by
    have hsame : b = decide (i ∈ Books.waiting ns) :=
      Bool.eq_iff_iff.mpr (hb.trans (h.waiting_iff.symm.trans decide_eq_true_iff.symm))
    rw [Books.expected, hsame]
  -- a wait that is over is not given up again
  have hgone (hstep : s.step (.cancel i) = (.flag false, s)) (absent : ¬ s.Waits i) :
      Performs ns (.cancel i) (s.step (.cancel i)) := by
    rw [hstep]
    exact h.nothing (hanswer false (by simpa using absent)) rfl
  cases hwait : s.waits[i]? with
  | none => exact hgone (by simp [step, cancel, hwait]) (by simp [Waits, hwait])
  | some w =>
    cases w with
    | ended => exact hgone (by simp [step, cancel, hwait]) (by simp [Waits, hwait])
    | idle =>
      have hstep : s.step (.cancel i) = (.flag true, { s with waits := s.waits.set i .ended }) := by
        simp [step, cancel, hwait]
      rw [hstep]
      exact ⟨hanswer true (by simp [Waits, hwait]), h.endIdle hwait⟩
    | listening k =>
      have hstep : s.step (.cancel i) = (.flag true,
          { s with channel := s.channel.unsubscribe k, waits := s.waits.set i .ended }) := by
        simp [step, cancel, hwait]
      rw [hstep]
      exact ⟨hanswer true (by simp [Waits, hwait]), h.endListening hwait⟩

/-- **Every operation answers what the books say, and keeps them.** -/
theorem Kept.performs (h : Kept ns s) (op : Op) : Performs ns op (s.step op) := by
  cases op with
  | trigger =>
    refine ⟨?_, h.trigger⟩
    show Answer.flag s.trigger.1 = .flag !Books.triggered ns
    rw [← h.triggered]
    cases hflag : s.triggered <;> simp [Shutdown.trigger, hflag]
  | subscribe =>
    refine ⟨?_, h.subscribe⟩
    show Answer.number s.subscribers.length = .number (Books.subscribed ns).card
    rw [h.subscribers.all, Finset.card_range]
  | wait =>
    refine ⟨?_, h.begin⟩
    show Answer.number s.waits.length = .number (Books.begun ns).card
    rw [h.waits.all, Finset.card_range]
  | unsubscribe i => exact h.performs_unsubscribe i
  | tryRecv i => exact h.performs_tryRecv i
  | poll i =>
    cases s.polled i with
    | gone absent same =>
      have hover : i ∉ Books.waiting ns := fun hi => absent (h.waiting_iff.mp hi)
      rw [step, same]
      exact h.nothing (by simp [Books.expected, hover]) rfl
    | ready waits | pending waits => exact h.performs_waits waits
  | cancel i => exact h.performs_cancel i

/-! ## Runs -/

/-- A step of a run: the operation, its answer, and the signal after it. -/
structure Entry where
  op : Op
  answer : Answer
  after : Shutdown

/-- The steps of a run. -/
def session (s : Shutdown) (ops : List Op) : List Entry :=
  List.zipWith (fun op r => ⟨op, r.1, r.2⟩) ops (s.run ops)

/-- The news in a log. -/
def news (log : List Entry) : List News := log.filterMap fun x => learnt x.op x.answer

/-- An answer is what the answers before it make it; and when it is given, the flag and the count
    of receivers are what the answers so far make them. -/
structure Accounted (before : List Entry) (x : Entry) : Prop where
  answer : x.answer = Books.expected (news before) x.op
  triggered : x.after.triggered = Books.triggered (news (before ++ [x]))
  receivers : x.after.receiverCount =
    (Books.live (news (before ++ [x]))).card + (Books.listening (news (before ++ [x]))).card

/-- An entry adds what is learnt from it. -/
theorem news_snoc (log : List Entry) (x : Entry) :
    news (log ++ [x]) = news log ++ (learnt x.op x.answer).toList :=
  Log.filterMap_snoc _ log x

/-- Every entry of a session is as the entries before it lead one to expect. -/
theorem session_accounted (ops : List Op) : Log.Each Accounted (session {} ops) := by
  refine @Log.each_run _ _ _ _ step run (fun _ => rfl) (fun _ _ _ => rfl) _ Accounted
    (fun log s => Kept (news log) s) (fun log s op h => ?_) _ Kept.new ops
  obtain ⟨hanswer, hkept⟩ := h.performs op
  rw [← news_snoc log ⟨op, (s.step op).1, (s.step op).2⟩] at hkept
  exact ⟨⟨hanswer, hkept.triggered, hkept.boxed.count⟩, hkept⟩

/-- A subscriber that looks into its box found the signal. -/
def Entry.signals (i : Nat) (x : Entry) : Bool :=
  decide (x.op = .tryRecv i ∧ x.answer = .received .signal)

/-- Who finds the signal looks into its box while the signal is due to it. -/
theorem Accounted.signals_iff {log : List Entry} {x : Entry} (h : Accounted log x) :
    x.signals i = true ↔ learnt x.op x.answer = some (.tried i) ∧ i ∈ Books.due (news log) := by
  rw [Entry.signals, decide_eq_true_iff, learnt_tried, and_assoc]
  refine and_congr_right fun hop => ?_
  rw [h.answer, hop, Books.expected]
  by_cases hlive : i ∈ Books.live (news log) <;> by_cases hdue : i ∈ Books.due (news log) <;>
    simp [hlive, hdue]

/-- Each subscriber finds the signal once at most, and does so if it was there in time and looks. -/
theorem signals_of_accounted {log : List Entry} (h : Log.Each Accounted log) (i : Nat) :
    log.countP (Entry.signals i) =
      if i ∈ Books.early (news log) ∧ i ∈ Books.served (news log) then 1 else 0 := by
  -- from entry to entry: the count grows when `i` looks while the signal is due, and only then
  -- does `i` become served
  induction log using List.reverseRecOn with
  | nil => rfl
  | append_singleton log x ih =>
    obtain ⟨hlog, hx⟩ := h.of_snoc
    have hsignals := @hx.signals_iff i
    rw [List.countP_append, ih hlog, news_snoc, List.countP_singleton]
    cases hlearnt : learnt x.op x.answer with
    | none => simp [hsignals, hlearnt]
    | some n =>
      have hnot (hdue : i ∈ Books.due (news log)) :
          ¬ (i ∈ Books.early (news log) ∧ i ∈ Books.served (news log)) := fun h =>
        Books.not_served_of_due hdue h.2
      simp only [hsignals, hlearnt, Option.toList_some, Books.served_iff, Option.some.injEq]
      by_cases hfound : n = .tried i ∧ i ∈ Books.due (news log)
      · simp [hfound, hnot hfound.2]
      · simp [hfound]

/-- A session does the operations that it was given. -/
theorem op_session (s : Shutdown) (ops : List Op) : (session s ops).map Entry.op = ops := by
  induction ops generalizing s with
  | nil => rfl
  | cons op ops ih => exact congrArg (op :: ·) (ih (s.step op).2)

/-- **The accounts of the shutdown signal.**  Whatever is done with it, and in whatever order: each
    answer is what the answers before it make it.  So `trigger` answers `true` the first time and
    never again; a subscriber that is there finds the signal or nothing, and the signal if it is
    due to it; a poll of a wait that is not over is ready exactly if the signal was triggered.
    The receivers are the subscribers that are there and the waits that have been polled and are
    not over.  The signal is due to those who were subscribed when it was first triggered, until
    they look; each of them who looks since then found it once, and nobody else did. -/
theorem shutdown_accounts (ops : List Op) :
    (session {} ops).map Entry.op = ops ∧ Log.Each Accounted (session {} ops) ∧
    ∀ i, (session {} ops).countP (Entry.signals i) =
      if i ∈ Books.early (news (session {} ops)) ∧ i ∈ Books.served (news (session {} ops)) then 1
      else 0 :=
  ⟨op_session {} ops, session_accounted ops, signals_of_accounted (session_accounted ops)⟩

/-- The second subscriber comes too late, and the first finds the signal once. -/
example :
    (session {} [.subscribe, .trigger, .subscribe, .tryRecv 0, .tryRecv 0, .tryRecv 1]).map
        Entry.answer =
      [.number 0, .flag true, .number 1, .received .signal, .received .empty,
        .received .empty] := by
  decide

end TxRelay.Shutdown
