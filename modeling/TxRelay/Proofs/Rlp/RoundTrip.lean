/-
  Written items read back.

  `Reads r bs a` says that the reader `r` takes exactly the bytes `bs` off any input that begins
  with them, and answers `a`.

  1. **Running readers.**  What each of the small readers does to the bytes that are left: `peek`,
     `take`, and the three forms of a header (`on_header_self`, `on_header_string`,
     `on_header_list`, `on_header_long`), put together in `on_header`.

  2. **Composing.**  Readers made one after the other read what was written one after the other
     (`Reads.bind`, `Reads.last`), so that a record is read if its fields are.

  3. **Strings and numbers.**  A number is written without zeros in front; it is read as the bytes
     of a number no longer than its type allows (`reads_uint`).

  4. **Lists.**  A list is read if its items are, each of which takes at least one byte, so the
     rounds of the reader suffice (`itemsFor_written`).

  The crux is a bound that no reader states.  A length takes at most eight bytes behind the first
  one of a header, and a text that is in memory is never longer.  `Reads` asks this of the bytes
  that are read, and so each part gets it from the whole.
-/
import TxRelay.Proofs.Bytes
import TxRelay.Rlp.Reader
import TxRelay.Rlp.Writer

namespace TxRelay.Rlp

variable {α β : Type}

/-! ## Running readers -/

@[simp] theorem on_pure (a : α) (bs : Bytes) : (pure a : Reader α).on bs = (.ok a, bs) := rfl

/-- After a reader that succeeds the next one goes on where it stopped. -/
theorem on_bind {r : Reader α} {f : α → Reader β} {bs rest : Bytes} {a : α}
    (h : r.on bs = (.ok a, rest)) : (r >>= f).on bs = (f a).on rest := by
  show (match r.on bs with | (x, rest) => ExceptT.bindCont f x rest) = (f a).on rest
  rw [h]
  rfl

@[simp] theorem on_get_bind (f : Bytes → Reader β) (bs : Bytes) :
    ((get : Reader Bytes) >>= f).on bs = (f bs).on bs := rfl

@[simp] theorem on_set_bind (new : Bytes) (f : Unit → Reader β) (bs : Bytes) :
    ((set new : Reader Unit) >>= f).on bs = (f ()).on new := rfl

@[simp] theorem on_modify_bind (g : Bytes → Bytes) (f : Unit → Reader β) (bs : Bytes) :
    ((modify g : Reader Unit) >>= f).on bs = (f ()).on (g bs) := rfl

/-- A header fits if its content is there. -/
theorem on_fits (h : Header) {bs : Bytes} (there : h.length ≤ bs.length) :
    (fits h).on bs = (.ok h, bs) := by
  unfold fits
  have hno : ¬ bs.length < h.length := by omega
  simp [hno]

/-- A length of several bytes is read as it was written. -/
theorem on_longHeader (isList : Bool) {n : Nat} {body : Bytes} (long : 56 ≤ n)
    (there : n ≤ body.length) :
    (longHeader isList (Bytes.ofNat n).length).on (Bytes.ofNat n ++ body) =
      (.ok ⟨isList, n⟩, body) := by
  have hhead := Bytes.head?_ofNat_ne n
  have hlen : ¬ (Bytes.ofNat n ++ body).length < (Bytes.ofNat n).length := by simp
  have hcanonical : ¬ n < 56 := by omega
  unfold longHeader
  rw [on_get_bind]
  simp only [hlen, if_false]
  simp [hhead, hcanonical, Bytes.toNat_ofNat, on_fits ⟨isList, n⟩ there]

theorem on_peek (b : UInt8) (bs : Bytes) : peek.on (b :: bs) = (.ok b, b :: bs) := rfl

theorem on_take (n : Nat) (bs : Bytes) : (take n).on bs = (.ok (bs.take n), bs.drop n) := rfl

/-- The first byte of a header. -/
theorem toNat_ofNat_of_lt {n : Nat} (h : n < 256) : (UInt8.ofNat n).toNat = n := by
  rw [UInt8.toNat_ofNat', Nat.mod_eq_of_lt h]

/-- The digits of a length that fits into memory are few enough for a header. -/
theorem length_digits {n : Nat} (long : 56 ≤ n) (short : n < UInt64.size) :
    0 < (Bytes.ofNat n).length ∧ (Bytes.ofNat n).length ≤ 8 := by
  have hle : (Bytes.ofNat n).length ≤ 8 := Bytes.length_ofNat_le (Nat.lt_of_lt_of_eq short rfl)
  refine ⟨?_, hle⟩
  rw [Bytes.length_ofNat, Bytes.width_pos (by omega)]
  omega

/-- A byte below 0x80 is an item of its own. -/
theorem on_header_self {b : UInt8} (low : b.toNat < 0x80) (bs : Bytes) :
    header.on (b :: bs) = (.ok ⟨false, 1⟩, b :: bs) := by
  have hself : b < 0x80 := low
  unfold header
  rw [on_bind (on_peek b bs)]
  simp only [hself, if_true]
  exact on_fits ⟨false, 1⟩ (Nat.le_add_left 1 bs.length)

/-- The first byte of a short string tells its length. -/
theorem on_header_string {b : UInt8} {n : Nat} {bs : Bytes} (first : b.toNat = 0x80 + n)
    (small : n < 56) (there : n ≤ bs.length) (headed : n = 1 → ∀ c ∈ bs.head?, 0x80 ≤ c.toNat) :
    header.on (b :: bs) = (.ok ⟨false, n⟩, bs) := by
  have hself : ¬ b < 0x80 := show ¬ b.toNat < 0x80 by omega
  have hstring : b < 0xb8 := show b.toNat < 0xb8 by omega
  have hlength : b.toNat - 0x80 = n := by omega
  have hfits := on_fits ⟨false, n⟩ there
  unfold header
  rw [on_bind (on_peek b bs)]
  simp only [hself, hstring, hlength, if_false, if_true, on_modify_bind, List.drop_succ_cons,
    List.drop_zero]
  by_cases hone : n = 1
  · -- one byte has a header of its own only if it is none itself
    subst hone
    cases bs with
    | nil => exact absurd there (by decide)
    | cons c cs =>
      have hc : ¬ c < 0x80 := show ¬ c.toNat < 0x80 from Nat.not_lt.mpr (headed rfl c rfl)
      simp only [if_true]
      rw [on_bind (on_peek c cs)]
      simp only [hc, if_false]
      exact hfits
  · simp only [hone, if_false]
    exact hfits

/-- The first byte of a short list tells its length. -/
theorem on_header_list {b : UInt8} {n : Nat} {bs : Bytes} (first : b.toNat = 0xc0 + n)
    (small : n < 56) (there : n ≤ bs.length) : header.on (b :: bs) = (.ok ⟨true, n⟩, bs) := by
  have hself : ¬ b < 0x80 := show ¬ b.toNat < 0x80 by omega
  have hshort : ¬ b < 0xb8 := show ¬ b.toNat < 0xb8 by omega
  have hstring : ¬ b < 0xc0 := show ¬ b.toNat < 0xc0 by omega
  have hlist : b < 0xf8 := show b.toNat < 0xf8 by omega
  have hlength : b.toNat - 0xc0 = n := by omega
  unfold header
  rw [on_bind (on_peek b bs)]
  simp only [hself, hshort, hstring, hlist, hlength, if_false, if_true, on_modify_bind,
    List.drop_succ_cons, List.drop_zero]
  exact on_fits ⟨true, n⟩ there

/-- The first byte of a long item tells how many bytes its length has. -/
theorem on_header_long {b : UInt8} {k : Nat} (isList : Bool)
    (first : b.toNat = (if isList then 0xf7 else 0xb7) + k) (some : 0 < k) (few : k ≤ 8)
    (bs : Bytes) : header.on (b :: bs) = (longHeader isList k).on bs := by
  cases isList with
  | true =>
    have hfirst : b.toNat = 0xf7 + k := first
    have hself : ¬ b < 0x80 := show ¬ b.toNat < 0x80 by omega
    have hshort : ¬ b < 0xb8 := show ¬ b.toNat < 0xb8 by omega
    have hstring : ¬ b < 0xc0 := show ¬ b.toNat < 0xc0 by omega
    have hlist : ¬ b < 0xf8 := show ¬ b.toNat < 0xf8 by omega
    have hcount : b.toNat - 0xf7 = k := by omega
    unfold header
    rw [on_bind (on_peek b bs)]
    simp only [hself, hshort, hstring, hlist, hcount, if_false, on_modify_bind,
      List.drop_succ_cons, List.drop_zero]
  | false =>
    have hfirst : b.toNat = 0xb7 + k := first
    have hself : ¬ b < 0x80 := show ¬ b.toNat < 0x80 by omega
    have hshort : ¬ b < 0xb8 := show ¬ b.toNat < 0xb8 by omega
    have hstring : b < 0xc0 := show b.toNat < 0xc0 by omega
    have hcount : b.toNat - 0xb7 = k := by omega
    unfold header
    rw [on_bind (on_peek b bs)]
    simp only [hself, hshort, hstring, hcount, if_false, if_true, on_modify_bind,
      List.drop_succ_cons, List.drop_zero]

/-- A written header is read back, if its content is there and does not stand for itself. -/
theorem on_header (isList : Bool) {n : Nat} {body : Bytes} (short : n < UInt64.size)
    (there : n ≤ body.length)
    (headed : isList = false → n = 1 → ∀ c ∈ body.head?, 0x80 ≤ c.toNat) :
    header.on (writeHeader isList n ++ body) = (.ok ⟨isList, n⟩, body) := by
  unfold writeHeader
  by_cases hn : n < 56
  · simp only [if_pos hn, List.cons_append, List.nil_append]
    cases isList with
    | true => exact on_header_list (toNat_ofNat_of_lt (show 0xc0 + n < 256 by omega)) hn there
    | false =>
      have hfirst := toNat_ofNat_of_lt (show 0x80 + n < 256 by omega)
      exact on_header_string hfirst hn there (headed rfl)
  · -- the length stands in bytes of its own, of which there are one to eight
    obtain ⟨hpos, hle⟩ := length_digits (by omega) short
    have hlong := on_longHeader isList (by omega : 56 ≤ n) there
    simp only [if_neg hn, List.cons_append]
    generalize hk : (Bytes.ofNat n).length = k at *
    cases isList with
    | true =>
      have hfirst := toNat_ofNat_of_lt (show 0xc0 + 55 + k < 256 by omega)
      exact (on_header_long true hfirst hpos hle _).trans hlong
    | false =>
      have hfirst := toNat_ofNat_of_lt (show 0x80 + 55 + k < 256 by omega)
      exact (on_header_long false hfirst hpos hle _).trans hlong

/-! ## Reading what was written -/

/-- The reader answers `a` and takes the bytes `bs`, whatever follows them.  No text in memory has
    2^64 bytes. -/
def Reads (r : Reader α) (bs : Bytes) (a : α) : Prop :=
  bs.length < UInt64.size → ∀ rest, r.on (bs ++ rest) = (.ok a, rest)

theorem Reads.pure (a : α) : Reads (Pure.pure a) [] a := fun _ _ => rfl

/-- One reader after the other, one text behind the other. -/
theorem Reads.bind {r : Reader α} {f : α → Reader β} {bs cs : Bytes} {a : α} {b : β}
    (first : Reads r bs a) (next : Reads (f a) cs b) : Reads (r >>= f) (bs ++ cs) b := by
  intro short rest
  rw [List.length_append] at short
  rw [List.append_assoc, on_bind (first (by omega) (cs ++ rest))]
  exact next (by omega) rest

/-- A reader that takes nothing more. -/
theorem Reads.last {r : Reader α} {f : α → Reader β} {bs : Bytes} {a : α} {b : β}
    (first : Reads r bs a) (next : ∀ rest, (f a).on rest = (.ok b, rest)) :
    Reads (r >>= f) bs b := by
  have hnext : Reads (f a) [] b := fun _ rest => next rest
  have hboth := first.bind hnext
  rwa [List.append_nil] at hboth

/-- A string of another length than one has a header. -/
theorem writeString_of_length_ne {s : Bytes} (h : s.length ≠ 1) :
    writeString s = writeHeader false s.length ++ s := by
  unfold writeString
  split
  · exact absurd rfl h
  · rfl

/-- The header of a written string, and its content behind it. -/
theorem header_writeString {s : Bytes} (short : s.length < UInt64.size) (rest : Bytes) :
    header.on (writeString s ++ rest) = (.ok ⟨false, s.length⟩, s ++ rest) := by
  have hlong (headed : s.length = 1 → ∀ c ∈ (s ++ rest).head?, 0x80 ≤ c.toNat) :
      header.on (writeHeader false s.length ++ s ++ rest) = (.ok ⟨false, s.length⟩, s ++ rest) := by
    rw [List.append_assoc]
    exact on_header false short (by simp) fun _ => headed
  by_cases hone : s.length = 1
  · obtain ⟨b, rfl⟩ := List.length_eq_one_iff.mp hone
    unfold writeString
    by_cases hb : b < 0x80
    · simp only [if_pos hb]
      exact on_header_self hb rest
    · simp only [if_neg hb]
      refine hlong fun _ c hc => ?_
      obtain rfl := Option.some.inj hc
      exact Nat.not_lt.mp hb
  · rw [writeString_of_length_ne hone]
    exact hlong fun h => absurd h hone

/-- What is written is no shorter than the string. -/
theorem length_writeString (s : Bytes) : s.length ≤ (writeString s).length := by
  unfold writeString
  split
  · split <;> simp
  · simp

theorem writeHeader_ne_nil (isList : Bool) (n : Nat) : writeHeader isList n ≠ [] := by
  unfold writeHeader
  dsimp only
  split <;> exact List.cons_ne_nil _ _

theorem writeString_ne_nil (s : Bytes) : writeString s ≠ [] := by
  unfold writeString
  split
  · split
    · exact List.cons_ne_nil _ _
    · exact List.append_ne_nil_of_left_ne_nil (writeHeader_ne_nil _ _) _
  · exact List.append_ne_nil_of_left_ne_nil (writeHeader_ne_nil _ _) _

theorem writeList_ne_nil (items : List Bytes) : writeList items ≠ [] :=
  List.append_ne_nil_of_left_ne_nil (writeHeader_ne_nil _ _) _

/-! ## Strings and numbers -/

/-- A string reads back. -/
theorem reads_string (s : Bytes) : Reads string (writeString s) s := by
  intro short rest
  have hshort : s.length < UInt64.size := Nat.lt_of_le_of_lt (length_writeString s) short
  unfold string
  rw [on_bind (header_writeString hshort rest)]
  simp [on_take]

theorem reads_fixed {n : Nat} (c : Chunk n) : Reads (fixed n) (writeString c.val) c := by
  refine (reads_string c.val).last fun rest => ?_
  simp [c.property]

/-- A number that fits into `k` bytes. -/
theorem reads_uint {k n : Nat} (fits : n < 256 ^ k) :
    Reads (uint k) (writeNat n) (BitVec.ofNat (8 * k) n) := by
  have hlen : ¬ k < (Bytes.ofNat n).length := Nat.not_lt.mpr (Bytes.length_ofNat_le fits)
  have hhead := Bytes.head?_ofNat_ne n
  refine (reads_string (Bytes.ofNat n)).last fun rest => ?_
  simp [hlen, hhead, Bytes.toNat_ofNat]

/-- A word is written as its number. -/
theorem reads_word {k : Nat} (x : BitVec (8 * k)) : Reads (uint k) (writeNat x.toNat) x := by
  have hfits : x.toNat < 256 ^ k := by
    rw [show 256 = 2 ^ 8 from rfl, ← Nat.pow_mul]
    exact x.isLt
  have hread := reads_uint hfits
  rwa [BitVec.ofNat_toNat, BitVec.setWidth_eq] at hread

theorem reads_uint256 (x : BitVec 256) : Reads uint256 (writeNat x.toNat) x := by
  have hfits : x.toNat < 256 ^ 32 := x.isLt
  have hlen : ¬ 32 < (Bytes.ofNat x.toNat).length := Nat.not_lt.mpr (Bytes.length_ofNat_le hfits)
  have hhead := Bytes.head?_ofNat_ne x.toNat
  refine (reads_string (Bytes.ofNat x.toNat)).last fun rest => ?_
  simp [hlen, hhead, Bytes.toNat_ofNat]

theorem reads_bool (b : Bool) : Reads bool (writeBool b) b := by
  have hfits : b.toNat < 256 ^ 1 := by cases b <;> decide
  refine (reads_uint hfits).last fun rest => ?_
  cases b <;> rfl

/-! ## Lists -/

/-- The header of a written list, and its content behind it. -/
theorem header_writeList {items : List Bytes} (short : items.flatten.length < UInt64.size)
    (rest : Bytes) :
    header.on (writeList items ++ rest) =
      (.ok ⟨true, items.flatten.length⟩, items.flatten ++ rest) := by
  unfold writeList
  rw [List.append_assoc]
  exact on_header true short (by simp) nofun

theorem length_writeList (items : List Bytes) :
    items.flatten.length ≤ (writeList items).length := by
  unfold writeList
  simp

/-- A written list begins with a byte that no written string begins with. -/
theorem head?_writeList {items : List Bytes} (short : items.flatten.length < UInt64.size) :
    ∃ b, (writeList items).head? = some b ∧ 0xc0 ≤ b.toNat := by
  unfold writeList writeHeader
  dsimp only
  by_cases hn : items.flatten.length < 56
  · have hb := toNat_ofNat_of_lt (show 0xc0 + items.flatten.length < 256 by omega)
    rw [if_pos hn]
    refine ⟨_, rfl, ?_⟩
    show 0xc0 ≤ (UInt8.ofNat (0xc0 + items.flatten.length)).toNat
    omega
  · have hdigits := length_digits (by omega) short
    have hb := toNat_ofNat_of_lt
      (show 0xc0 + 55 + (Bytes.ofNat items.flatten.length).length < 256 by omega)
    rw [if_neg hn]
    refine ⟨_, rfl, ?_⟩
    show 0xc0 ≤ (UInt8.ofNat (0xc0 + 55 + (Bytes.ofNat items.flatten.length).length)).toNat
    omega

/-- The header of a list tells how long its items are. -/
theorem listHeader_writeList {items : List Bytes} (short : items.flatten.length < UInt64.size)
    (rest : Bytes) :
    listHeader.on (writeList items ++ rest) =
      (.ok items.flatten.length, items.flatten ++ rest) := by
  unfold listHeader
  rw [on_bind (header_writeList short rest)]
  simp

/-- Items that stand one behind the other; there are enough rounds because each has a byte. -/
theorem itemsFor_written {item : Reader α} {write : α → Bytes} {as : List α} {rounds : Nat}
    (each : ∀ a ∈ as, Reads item (write a) a ∧ write a ≠ [])
    (short : (as.map write).flatten.length < UInt64.size)
    (enough : (as.map write).flatten.length ≤ rounds) :
    itemsFor item rounds (as.map write).flatten = .ok as := by
  induction as generalizing rounds with
  | nil => cases rounds <;> rfl
  | cons a as ih =>
    obtain ⟨hread, hsome⟩ := each a List.mem_cons_self
    have hpos := List.length_pos_iff.mpr hsome
    rw [List.map_cons, List.flatten_cons, List.length_append] at short enough
    cases rounds with
    | zero => omega
    | succ rounds =>
      have hitem := hread (by omega) (as.map write).flatten
      have hmore : itemsFor item rounds (as.map write).flatten = .ok as :=
        ih (fun b hb => each b (List.mem_cons_of_mem _ hb)) (by omega) (by omega)
      rw [List.map_cons, List.flatten_cons]
      -- an item is never empty, so each round takes something off
      cases hwritten : write a with
      | nil => exact absurd hwritten hsome
      | cons b bs =>
        rw [hwritten] at hitem
        rw [List.cons_append, itemsFor, ← List.cons_append, hitem]
        simp only [hmore]
        rfl

/-- A list reads back if its items do, and none of them is empty. -/
theorem reads_listOf {item : Reader α} {write : α → Bytes} {as : List α}
    (each : ∀ a ∈ as, Reads item (write a) a ∧ write a ≠ []) :
    Reads (listOf item) (writeList (as.map write)) as := by
  intro short rest
  have hshort := Nat.lt_of_le_of_lt (length_writeList (as.map write)) short
  have hitems := itemsFor_written each hshort (Nat.le_refl _)
  unfold listOf
  rw [on_bind (listHeader_writeList hshort rest), on_bind (on_take _ _), List.take_left,
    List.drop_left, hitems]
  rfl

/-- A record is read if its fields are. -/
theorem reads_record {fields : Reader α} {items : List Bytes} {a : α}
    (h : Reads fields items.flatten a) : Reads (record fields) (writeList items) a := by
  intro short rest
  have hshort := Nat.lt_of_le_of_lt (length_writeList items) short
  unfold record
  rw [on_bind (listHeader_writeList hshort rest), on_get_bind, on_bind (h hshort rest),
    on_get_bind]
  simp

end TxRelay.Rlp
