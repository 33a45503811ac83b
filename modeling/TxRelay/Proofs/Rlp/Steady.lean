/-
  Readers and the bytes behind what they read.

  A reader does not only look at the bytes that it takes: every header is held against all that is
  left of the input, and a record counts what is left before and after its fields.  Still, more
  bytes behind the input change nothing for a reader that did not run out of it.

  1. **Steadiness.**  A reader is `Steady` if with more bytes behind the input it gives the same
     answer, and leaves the same bytes with the new ones behind them.  This covers readers that
     succeed and readers that fail alike, all but those that say `inputTooShort`.

  2. **Composing.**  Readers made of steady ones are steady (`Steady.bind`), with one care: `take`
     is not, for it takes what it gets.  It comes behind a header only, so what comes after a reader
     has to be steady only where that reader can stop (`Steady.bindAt`).

  3. **Headers.**  A header vouches for its content (`Vouches`, `header_there`): where it was read,
     as many bytes are left as it says.

  4. **Strings, numbers, lists.**  With both, each reader of the codec is steady.

  The crux is the record, which compares what is left with what was left.  New bytes are counted on
  both sides, and the difference is the same because the fields are steady (`steady_counted`).
-/
import TxRelay.Proofs.Rlp.RoundTrip

namespace TxRelay.Rlp

variable {α β : Type}

/-! ## Steadiness -/

/-- A reader that fails is the last one. -/
theorem on_bind_error {r : Reader α} {f : α → Reader β} {bs rest : Bytes} {e : Error}
    (h : r.on bs = (.error e, rest)) : (r >>= f).on bs = (.error e, rest) := by
  show (match r.on bs with | (x, rest) => ExceptT.bindCont f x rest) = _
  rw [h]
  rfl

/-- A reader that succeeds in two parts. -/
theorem bind_ok {r : Reader α} {f : α → Reader β} {bs rest : Bytes} {b : β}
    (h : (r >>= f).on bs = (.ok b, rest)) :
    ∃ a mid, r.on bs = (.ok a, mid) ∧ (f a).on mid = (.ok b, rest) := by
  rcases hr : r.on bs with ⟨answer, mid⟩
  cases answer with
  | error e => cases h.symm.trans (on_bind_error hr)
  | ok a => exact ⟨a, mid, rfl, (on_bind hr).symm.trans h⟩

/-- On this input, more bytes behind it change nothing, if the reader did not run out of it. -/
def SteadyAt (r : Reader α) (bs : Bytes) : Prop :=
  ∀ more, (r.on bs).1 ≠ .error .inputTooShort →
    r.on (bs ++ more) = ((r.on bs).1, (r.on bs).2 ++ more)

/-- More bytes behind the input change nothing for a reader that did not run out of it. -/
def Steady (r : Reader α) : Prop := ∀ bs, SteadyAt r bs

/-- What was read is read with more bytes behind it, too. -/
theorem SteadyAt.ok {r : Reader α} {bs rest : Bytes} {a : α} (h : SteadyAt r bs)
    (read : r.on bs = (.ok a, rest)) (more : Bytes) :
    r.on (bs ++ more) = (.ok a, rest ++ more) := by
  have hmore := h more (by rw [read]; exact nofun)
  rwa [read] at hmore

/-- So is an error, unless the input ran out. -/
theorem SteadyAt.error {r : Reader α} {bs rest : Bytes} {e : Error} (h : SteadyAt r bs)
    (failed : r.on bs = (.error e, rest)) (fed : e ≠ .inputTooShort) (more : Bytes) :
    r.on (bs ++ more) = (.error e, rest ++ more) := by
  have hmore := h more (by rw [failed]; exact fun hshort => fed (Except.error.inj hshort))
  rwa [failed] at hmore

/-- A reader is steady if it is so in both its ends. -/
theorem SteadyAt.intro {r : Reader α} {bs : Bytes}
    (ok : ∀ a rest, r.on bs = (.ok a, rest) → ∀ more, r.on (bs ++ more) = (.ok a, rest ++ more))
    (error : ∀ e rest, r.on bs = (.error e, rest) → e ≠ .inputTooShort →
      ∀ more, r.on (bs ++ more) = (.error e, rest ++ more)) : SteadyAt r bs := by
  intro more fed
  rcases hr : r.on bs with ⟨answer, rest⟩
  rw [hr] at fed
  cases answer with
  | ok a => exact ok a rest hr more
  | error e => exact error e rest hr (fun hshort => fed (congrArg Except.error hshort)) more

theorem steady_pure (a : α) : Steady (pure a : Reader α) := fun _ _ _ => rfl

theorem steady_throw (e : Error) : Steady (throw e : Reader α) := fun _ _ _ => rfl

/-- What comes after a reader is steady wherever that reader stops. -/
theorem Steady.bindAt {r : Reader α} {f : α → Reader β} (first : Steady r)
    (next : ∀ bs a rest, r.on bs = (.ok a, rest) → SteadyAt (f a) rest) : Steady (r >>= f) := by
  intro bs
  refine SteadyAt.intro ?_ ?_
  · intro b rest hread more
    obtain ⟨a, mid, hr, hf⟩ := bind_ok hread
    rw [on_bind ((first bs).ok hr more)]
    exact (next bs a mid hr).ok hf more
  · -- the first reader has failed, or the second where the first one stopped
    intro e rest hfailed fed more
    rcases hr : r.on bs with ⟨answer, mid⟩
    cases answer with
    | error e' =>
      obtain ⟨he, rfl⟩ := Prod.mk.inj ((on_bind_error hr).symm.trans hfailed)
      obtain rfl := Except.error.inj he
      exact on_bind_error ((first bs).error hr fed more)
    | ok a =>
      rw [on_bind hr] at hfailed
      rw [on_bind ((first bs).ok hr more)]
      exact (next bs a mid hr).error hfailed fed more

/-- Readers made of steady ones are steady. -/
theorem Steady.bind {r : Reader α} {f : α → Reader β} (first : Steady r)
    (next : ∀ a, Steady (f a)) : Steady (r >>= f) :=
  first.bindAt fun _ a rest _ => next a rest

theorem Steady.ite {c : Prop} [Decidable c] {r r' : Reader α} (pos : Steady r) (neg : Steady r') :
    Steady (if c then r else r') := by
  split
  · exact pos
  · exact neg

/-- Whatever would come after it. -/
theorem steady_throw_bind (e : Error) (f : β → Reader α) : Steady ((throw e : Reader β) >>= f) :=
  (steady_throw e).bindAt fun _ _ _ hread => nomatch hread

/-- A check before a reader. -/
theorem Steady.unless {c : Prop} [Decidable c] {e : Error} {f : Unit → Reader α}
    (next : Steady (f ())) :
    Steady (if c then (throw e : Reader Unit) >>= f else f ()) :=
  Steady.ite (steady_throw_bind e f) next

/-! ## Headers -/

theorem steady_peek : Steady peek := by
  intro bs more fed
  cases bs with
  | nil => exact absurd rfl fed
  | cons b bs => rfl

theorem steady_fits (h : Header) : Steady (fits h) := by
  intro bs more fed
  by_cases hthere : h.length ≤ bs.length
  · rw [on_fits h hthere, on_fits h (by rw [List.length_append]; omega)]
  · have hshort : (fits h).on bs = (.error .inputTooShort, bs) := by
      unfold fits
      rw [on_get_bind, if_pos (by omega)]
      rfl
    rw [hshort] at fed
    exact absurd rfl fed

theorem steady_longHeader (isList : Bool) (k : Nat) : Steady (longHeader isList k) := by
  intro bs more fed
  unfold longHeader at fed ⊢
  rw [on_get_bind] at fed ⊢
  rw [on_get_bind]
  by_cases hshort : bs.length < k
  · simp only [hshort, if_true] at fed
    exact absurd rfl fed
  · have hmore : ¬ (bs ++ more).length < k := by rw [List.length_append]; omega
    have hdrop : (bs ++ more).drop k = bs.drop k ++ more := List.drop_append_of_le_length (by omega)
    have htake : (bs ++ more).take k = bs.take k := List.take_append_of_le_length (by omega)
    simp only [hshort, hmore, if_false, on_set_bind, hdrop, htake] at fed ⊢
    exact (Steady.unless (Steady.unless (steady_fits _))) _ more fed

/-- The header behind a first byte that is no item of its own. -/
def headerBehind (b : UInt8) : Reader Header :=
  if b < 0xb8 then do
    let n := b.toNat - 0x80
    if n = 1 then
      if (← peek) < 0x80 then throw .nonCanonicalSingleByte
    fits ⟨false, n⟩
  else if b < 0xc0 then
    longHeader false (b.toNat - 0xb7)
  else if b < 0xf8 then
    fits ⟨true, b.toNat - 0xc0⟩
  else
    longHeader true (b.toNat - 0xf7)

theorem on_header_cons (b : UInt8) (bs : Bytes) :
    header.on (b :: bs) =
      if b < 0x80 then (fits ⟨false, 1⟩).on (b :: bs) else (headerBehind b).on bs := by
  unfold header
  rw [on_bind (on_peek b bs)]
  by_cases hself : b < 0x80
  · simp only [hself, if_true]
  · simp only [hself, if_false, on_modify_bind, List.drop_succ_cons, List.drop_zero]
    rfl

theorem steady_headerBehind (b : UInt8) : Steady (headerBehind b) := by
  unfold headerBehind
  refine Steady.ite ?_ (Steady.ite (steady_longHeader _ _)
    (Steady.ite (steady_fits _) (steady_longHeader _ _)))
  refine Steady.ite ?_ (steady_fits _)
  exact steady_peek.bind fun c => Steady.unless (steady_fits _)

/-- The header of an item is read the same way. -/
theorem steady_header : Steady header := by
  intro bs more fed
  cases bs with
  | nil => exact absurd rfl fed
  | cons b bs =>
    have hcons := on_header_cons b (bs ++ more)
    rw [on_header_cons] at fed
    rw [List.cons_append, hcons, on_header_cons]
    split at fed <;> rename_i hself
    · rw [if_pos hself, if_pos hself]
      exact steady_fits _ (b :: bs) more fed
    · rw [if_neg hself, if_neg hself]
      exact steady_headerBehind b bs more fed

/-! ### What a header vouches for -/

/-- The content of the header that is read is there. -/
def Vouches (r : Reader Header) : Prop :=
  ∀ bs h rest, r.on bs = (.ok h, rest) → h.length ≤ rest.length

theorem Vouches.bind {r : Reader α} {f : α → Reader Header} (next : ∀ a, Vouches (f a)) :
    Vouches (r >>= f) := by
  intro bs h rest hread
  obtain ⟨a, mid, -, hf⟩ := bind_ok hread
  exact next a mid h rest hf

theorem Vouches.ite {c : Prop} [Decidable c] {r r' : Reader Header} (pos : Vouches r)
    (neg : Vouches r') : Vouches (if c then r else r') := by
  split
  · exact pos
  · exact neg

theorem vouches_fits (h : Header) : Vouches (fits h) := by
  intro bs h' rest hread
  unfold fits at hread
  rw [on_get_bind] at hread
  by_cases hshort : bs.length < h.length
  · rw [if_pos hshort] at hread
    cases hread
  · rw [if_neg hshort] at hread
    obtain ⟨hh, rfl⟩ := Prod.mk.inj hread
    obtain rfl := Except.ok.inj hh
    exact Nat.le_of_not_lt hshort

theorem vouches_longHeader (isList : Bool) (k : Nat) : Vouches (longHeader isList k) := by
  have hlast (n : Nat) : Vouches (do
      if n < 56 then throw .nonCanonicalSize
      fits ⟨isList, n⟩) :=
    Vouches.ite (Vouches.bind fun _ => vouches_fits _) (vouches_fits _)
  refine Vouches.bind fun bs => Vouches.ite (Vouches.bind fun _ => ?_) ?_
  all_goals exact Vouches.bind fun _ => Vouches.ite (Vouches.bind fun _ => hlast _) (hlast _)

/-- A header that was read has its content behind it. -/
theorem vouches_header : Vouches header := by
  intro bs h rest hread
  cases bs with
  | nil => cases hread
  | cons b bs =>
    rw [on_header_cons] at hread
    split at hread
    · exact vouches_fits _ _ _ _ hread
    · refine Vouches.ite ?_ (Vouches.ite (vouches_longHeader _ _)
        (Vouches.ite (vouches_fits _) (vouches_longHeader _ _))) bs h rest hread
      refine Vouches.ite (Vouches.bind fun c => ?_) (vouches_fits _)
      exact Vouches.ite (Vouches.bind fun _ => vouches_fits _) (vouches_fits _)

/-! ## Strings and numbers -/

/-- So many bytes are taken where there are as many. -/
theorem steadyAt_take {n : Nat} {bs : Bytes} (there : n ≤ bs.length) : SteadyAt (take n) bs := by
  intro more _
  rw [on_take, on_take, List.take_append_of_le_length there, List.drop_append_of_le_length there]

/-- A string that is there is read the same way. -/
theorem steady_string : Steady string := by
  refine steady_header.bindAt fun bs h rest hread => ?_
  split
  · exact steady_throw_bind _ _ rest
  · exact steadyAt_take (vouches_header bs h rest hread)

theorem steady_fixed (n : Nat) : Steady (fixed n) := by
  refine steady_string.bind fun bs => ?_
  split
  · exact steady_pure _
  · exact steady_throw _

theorem steady_uint (k : Nat) : Steady (uint k) :=
  steady_string.bind fun _ => Steady.unless (Steady.unless (steady_pure _))

theorem steady_uint256 : Steady uint256 :=
  steady_string.bind fun _ => Steady.unless (Steady.unless (steady_pure _))

theorem steady_bool : Steady bool :=
  (steady_uint 1).bind fun _ =>
    Steady.ite (steady_pure _) (Steady.ite (steady_pure _) (steady_throw _))

/-! ## Lists -/

theorem steady_listHeader : Steady listHeader :=
  steady_header.bind fun _ => Steady.unless (steady_pure _)

/-- The content of the list is there. -/
theorem listHeader_there {bs rest : Bytes} {n : Nat} (h : listHeader.on bs = (.ok n, rest)) :
    n ≤ rest.length := by
  obtain ⟨header, mid, hheader, hlast⟩ := bind_ok h
  split at hlast
  · cases hlast
  · obtain ⟨hn, rfl⟩ := Prod.mk.inj hlast
    obtain rfl := Except.ok.inj hn
    exact vouches_header bs header mid hheader

/-- A list is read within its own content, so its items may be read by any reader. -/
theorem steady_listOf (item : Reader α) : Steady (listOf item) := by
  refine steady_listHeader.bindAt fun bs n rest hread => ?_
  intro more fed
  have hthere := listHeader_there hread
  have htake := on_take n rest
  have hmore := (steadyAt_take hthere).ok htake more
  rw [on_bind htake] at fed ⊢
  rw [on_bind hmore]
  cases itemsFor item (rest.take n).length (rest.take n) <;> rfl

/-- The fields of a record behind its header. -/
def counted (fields : Reader α) (expected : Nat) : Reader α := do
  let before := (← get).length
  let a ← fields
  let got := before - (← get).length
  if got ≠ expected then throw (.listLength got expected)
  pure a

/-- Fields that are counted take what was expected, or it is an error. -/
theorem on_counted (fields : Reader α) (expected : Nat) (bs : Bytes) :
    (counted fields expected).on bs =
      match fields.on bs with
      | (.error e, rest) => (.error e, rest)
      | (.ok a, rest) =>
        if bs.length - rest.length = expected then (.ok a, rest)
        else (.error (.listLength (bs.length - rest.length) expected), rest) := by
  unfold counted
  rw [on_get_bind]
  rcases hfields : fields.on bs with ⟨answer, rest⟩
  cases answer with
  | error e => rw [on_bind_error hfields]
  | ok a =>
    rw [on_bind hfields, on_get_bind]
    by_cases hgot : bs.length - rest.length = expected
    · simp only [hgot, ne_eq, not_true_eq_false, if_false, if_true]
      rfl
    · simp only [hgot, ne_eq, not_false_eq_true, if_false, if_true]
      rfl

/-- How many bytes the fields took is the same with more bytes behind them. -/
theorem steady_counted {fields : Reader α} (h : Steady fields) (expected : Nat) :
    Steady (counted fields expected) := by
  intro bs more fed
  have hmore := h bs more
  rw [on_counted] at fed
  rw [on_counted, on_counted]
  rcases hfields : fields.on bs with ⟨answer, rest⟩
  rw [hfields] at fed hmore
  cases answer with
  | error e => rw [hmore fed]
  | ok a =>
    have htaken : (bs ++ more).length - (rest ++ more).length = bs.length - rest.length := by
      rw [List.length_append, List.length_append, Nat.add_sub_add_right]
    rw [hmore nofun]
    dsimp only
    rw [htaken]
    split <;> rfl

/-- The fields of a record that is read, behind its header. -/
theorem record_ok {fields : Reader α} {bs rest : Bytes} {a : α}
    (h : (record fields).on bs = (.ok a, rest)) :
    ∃ expected start, listHeader.on bs = (.ok expected, start) ∧
      fields.on start = (.ok a, rest) := by
  obtain ⟨expected, start, hheader, hcounted⟩ := bind_ok h
  have hfields := (on_counted fields expected start).symm.trans hcounted
  refine ⟨expected, start, hheader, ?_⟩
  rcases hread : fields.on start with ⟨answer, left⟩
  rw [hread] at hfields
  cases answer with
  | error e => cases hfields
  | ok b =>
    dsimp only at hfields
    split at hfields
    · exact hfields
    · cases hfields

theorem steady_record {fields : Reader α} (h : Steady fields) : Steady (record fields) :=
  steady_listHeader.bind fun expected => steady_counted h expected

end TxRelay.Rlp
