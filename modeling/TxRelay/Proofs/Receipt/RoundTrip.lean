/-
  Receipts as JSON, there and back.

  The reader is followed on any object that the grammar allows, whatever its members are and in
  whatever order, with unknown members between them.

  1. **Readers that find what is there.**  `Finds` says that a reader ends in a fault, or answers
     the one thing that the text stands for and stops where it should.  Readers made one after the
     other find what they find one after the other (`Finds.bind`).

  2. **One member.**  A member that is known is put into the draft, if it is not there yet and its
     value is of the right kind; any other is skipped (`finds_member`).

  3. **All members.**  So an object is read if its members are, one by one (`finds_object`).  The
     rounds of the reader are as many as the text is long, and each member takes at least one
     character.

  4. **What the members come to.**  This is a question about lists (`takesAll_holds`): a draft ends
     up with a member if its name stands there once, and faults if it stands there twice.  The other
     way round, members that stand there once each are all taken (`exists_takesAll`).

  5. **Written receipts.**  What is written is one object among those that are read as the receipt.

  The crux is that parts 1 to 3 speak of no receipt, and part 4 of no text: `ofJson_iff`, which puts
  them together, says that a text is read as a receipt exactly if each member of the receipt stands
  there once with a value that denotes it.
-/
import TxRelay.Proofs.Json.Values
import TxRelay.Receipt.Json

namespace TxRelay.Receipt

open Json

variable {α β : Type} {w rest rest' text value : List Char} {d d' d'' : Draft} {m : Member}
  {name : String} {ms : List (String × List Char)}

/-! ## Readers that find what is there -/

/-- The reader answers what has the property, and stops at `rest`; if nothing has, it may only
    fail. -/
structure Finds (result : Except Fault (α × List Char)) (rest : List Char) (P : α → Prop) :
    Prop where
  complete : ∀ a, P a → result = .ok (a, rest)
  sound : (∃ e, result = .error e) ∨ ∃ a, P a ∧ result = .ok (a, rest)

/-- What a reader finds it finds whatever else it might find. -/
theorem Finds.unique {result : Except Fault (α × List Char)} {P : α → Prop}
    (h : Finds result rest P) {a b : α} (ha : P a) (hb : P b) : a = b := by
  have heq := (h.complete a ha).symm.trans (h.complete b hb)
  simp only [Except.ok.injEq, Prod.mk.injEq, and_true] at heq
  exact heq

/-- Readers made one after the other find what is there one after the other. -/
theorem Finds.bind {result : Except Fault (α × List Char)} {P : α → Prop}
    {next : α × List Char → Except Fault (β × List Char)} {Q : α → β → Prop}
    (h : Finds result rest P) (hnext : ∀ a, P a → Finds (next (a, rest)) rest' (Q a)) :
    Finds (result >>= next) rest' fun b => ∃ a, P a ∧ Q a b where
  complete := by
    rintro b ⟨a, ha, hb⟩
    rw [h.complete a ha]
    exact (hnext a ha).complete b hb
  sound := by
    rcases h.sound with ⟨e, he⟩ | ⟨a, ha, hok⟩
    · refine Or.inl ⟨e, ?_⟩
      rw [he]
      rfl
    · rw [hok]
      rcases (hnext a ha).sound with ⟨e, he⟩ | ⟨b, hb, hok'⟩
      · exact Or.inl ⟨e, he⟩
      · exact Or.inr ⟨b, ⟨a, ha, hb⟩, hok'⟩

/-- What is found may be changed. -/
theorem Finds.map {result : Except Fault (α × List Char)} {P : α → Prop} (f : α → β)
    (h : Finds result rest P) :
    Finds (result.map fun r => (f r.1, r.2)) rest fun b => ∃ a, P a ∧ f a = b where
  complete := by
    rintro b ⟨a, ha, rfl⟩
    rw [h.complete a ha]
    rfl
  sound := by
    rcases h.sound with ⟨e, he⟩ | ⟨a, ha, hok⟩
    · refine Or.inl ⟨e, ?_⟩
      rw [he]
      rfl
    · refine Or.inr ⟨f a, ⟨a, ha, rfl⟩, ?_⟩
      rw [hok]
      rfl

theorem Finds.congr {result : Except Fault (α × List Char)} {P Q : α → Prop}
    (h : Finds result rest P) (hiff : ∀ a, P a ↔ Q a) : Finds result rest Q := by
  have heq : P = Q := funext fun a => propext (hiff a)
  rwa [← heq]

theorem finds_string (h : WellFormed .value value) (hw : Blank w) (rest : List Char) :
    Finds (stringValue (w ++ (value ++ rest))) rest fun s => IsString s value where
  complete _ hs := stringValue_isString hs hw rest
  sound := stringValue_wellFormed h hw rest

theorem finds_bool (h : WellFormed .value value) (hw : Blank w) (rest : List Char) :
    Finds (boolValue (w ++ (value ++ rest))) rest fun b => IsBool b value where
  complete _ hb := boolValue_isBool hb hw rest
  sound := boolValue_wellFormed h hw rest

/-! ## One member -/

/-- The value of a member stands for the receipt's. -/
def Denotes (r : Receipt) : Member → List Char → Prop
  | .transactionHash => IsString r.transactionHash
  | .success => IsBool r.success
  | .message => IsString r.message
  | .jobId => IsString r.jobId.text

/-- The draft with one member of the receipt. -/
def Draft.put (d : Draft) (m : Member) (r : Receipt) : Draft :=
  match m with
  | .transactionHash => { d with transactionHash := some r.transactionHash }
  | .success => { d with success := some r.success }
  | .message => { d with message := some r.message }
  | .jobId => { d with jobId := some r.jobId.text }

/-- The value of a member is read into the draft. -/
theorem finds_read (d : Draft) (m : Member) (h : WellFormed .value value) (hw : Blank w)
    (rest : List Char) :
    Finds (d.read m (w ++ (value ++ rest))) rest
      fun d' => ∃ r : Receipt, r.Denotes m value ∧ d.put m r = d' := by
  have hstring := finds_string h hw rest
  have hbool := finds_bool h hw rest
  cases m with
  | transactionHash =>
    refine (hstring.map fun s => { d with transactionHash := some s }).congr fun d' => ?_
    constructor
    · rintro ⟨s, hs, rfl⟩
      exact ⟨⟨s, false, "", ⟨""⟩⟩, hs, rfl⟩
    · rintro ⟨r, hr, rfl⟩
      exact ⟨r.transactionHash, hr, rfl⟩
  | success =>
    refine (hbool.map fun b => { d with success := some b }).congr fun d' => ?_
    constructor
    · rintro ⟨b, hb, rfl⟩
      exact ⟨⟨"", b, "", ⟨""⟩⟩, hb, rfl⟩
    · rintro ⟨r, hr, rfl⟩
      exact ⟨r.success, hr, rfl⟩
  | message =>
    refine (hstring.map fun s => { d with message := some s }).congr fun d' => ?_
    constructor
    · rintro ⟨s, hs, rfl⟩
      exact ⟨⟨"", false, s, ⟨""⟩⟩, hs, rfl⟩
    · rintro ⟨r, hr, rfl⟩
      exact ⟨r.message, hr, rfl⟩
  | jobId =>
    refine (hstring.map fun s => { d with jobId := some s }).congr fun d' => ?_
    constructor
    · rintro ⟨s, hs, rfl⟩
      exact ⟨⟨"", false, "", ⟨s⟩⟩, hs, rfl⟩
    · rintro ⟨r, hr, rfl⟩
      exact ⟨r.jobId.text, hr, rfl⟩

/-- What one member makes of a draft: an unknown one nothing, a known one that is there already
    has no result. -/
def Takes (d : Draft) (p : String × List Char) (d' : Draft) : Prop :=
  match Member.ofName? p.1 with
  | none => d = d'
  | some m => d.has m = false ∧ ∃ r : Receipt, r.Denotes m p.2 ∧ d.put m r = d'

theorem colon_append (hw : Blank w) (cs : List Char) : colon (w ++ ':' :: cs) = .ok ((), cs) := by
  unfold colon
  rw [skipBlank_append hw, skipBlank_cons (by decide)]
  rfl

/-- A member is read from behind its opening quote to the blanks behind its value. -/
theorem finds_member (d : Draft) {w' : List Char} (htext : Spells text name.toList) (hw : Blank w)
    (hw' : Blank w') (h : WellFormed .value value) (hrest : Ends rest) :
    Finds (member d (text ++ '"' :: (w ++ ':' :: (w' ++ (value ++ rest))))) rest
      (Takes d (name, value)) := by
  have hname := stringBody_spells htext (w ++ ':' :: (w' ++ (value ++ rest)))
  have hcolon := colon_append hw (w' ++ (value ++ rest))
  unfold member Takes
  simp only [hname, bind, Except.bind]
  cases Member.ofName? name with
  | none =>
    simp only [hcolon, skipValue_wellFormed h hw' hrest]
    exact { complete := by rintro a rfl; rfl, sound := Or.inr ⟨d, rfl, rfl⟩ }
  | some m =>
    simp only [hcolon]
    by_cases hhas : d.has m = true
    · simp only [hhas, if_true]
      exact { complete := by rintro a ⟨hno, -⟩; exact absurd hno (by simp)
              sound := Or.inl ⟨_, rfl⟩ }
    · -- a name that is new; one that was there already is a fault
      have hno : d.has m = false := by simpa using hhas
      rw [if_neg hhas]
      refine (finds_read d m h hw' rest).congr fun d' => ?_
      simp [hno]

/-! ## All members -/

/-- What the members make of a draft, one after the other. -/
def TakesAll : Draft → List (String × List Char) → Draft → Prop
  | d, [], d' => d = d'
  | d, p :: ms, d'' => ∃ d', Takes d p d' ∧ TakesAll d' ms d''

/-- The end of an object behind its last member. -/
theorem finds_end (d : Draft) (hw : Blank w) {rounds : Nat} (hrounds : 0 < rounds)
    (rest : List Char) :
    Finds (moreMembersFor rounds d (w ++ '\x7d' :: rest)) rest (TakesAll d []) := by
  obtain ⟨rounds, rfl⟩ := Nat.exists_eq_add_one_of_ne_zero (show rounds ≠ 0 by omega)
  have hread : moreMembersFor (rounds + 1) d (w ++ '\x7d' :: rest) = .ok (d, rest) := by
    simp [moreMembersFor, skipBlank_append hw,
      skipBlank_cons (show isBlank '\x7d' = false by decide)]
  exact { complete := by rintro _ rfl; exact hread, sound := Or.inr ⟨d, rfl, hread⟩ }

/-- A member in an object: its opening quote is found, and it is read to the blanks behind its
    value. -/
theorem finds_memberText (h : MemberText name value text) (hvalue : WellFormed .value value)
    {c : Char} (hc : c ∈ [',', ']', '\x7d']) (rest : List Char) :
    ∃ cs w, Blank w ∧ skipBlank (text ++ c :: rest) = '"' :: cs ∧
      ∀ d, Finds (member d cs) (w ++ c :: rest) (Takes d (name, value)) := by
  cases h with
  | @mk w₁ text w₂ w₃ w₄ hw₁ htext hw₂ hw₃ hw₄ =>
    have hends := ends_blank hw₄ hc rest
    refine ⟨_, w₄, hw₄, ?_, fun d => finds_member d htext hw₂ hw₃ hvalue hends⟩
    simp [skipBlank_append hw₁, skipBlank_cons (show isBlank '"' = false by decide)]

/-- The members behind the first, from the blanks before their comma. -/
theorem finds_more (h : MembersText ms text) (hne : ms ≠ []) :
    ∀ (d : Draft) {w : List Char} {rounds : Nat} (rest : List Char), Blank w → ms.length < rounds →
      Finds (moreMembersFor rounds d (w ++ ',' :: (text ++ '\x7d' :: rest))) rest
        (TakesAll d ms) := by
  induction h with
  | none _ => exact absurd rfl hne
  | one hvalue hmember =>
    intro d w rounds rest hw hrounds
    obtain ⟨rounds, rfl⟩ := Nat.exists_eq_add_one_of_ne_zero (show rounds ≠ 0 by omega)
    obtain ⟨cs, w', hw', hquote, hfinds⟩ :=
      finds_memberText hmember hvalue (c := '\x7d') (by simp) rest
    simp only [moreMembersFor, skipBlank_append hw,
      skipBlank_cons (show isBlank ',' = false by decide), hquote]
    exact (hfinds d).bind fun d' _ => finds_end d' hw' (by simpa using hrounds) rest
  | @more name value text text' m ms hvalue hmember _ ih =>
    intro d w rounds rest hw hrounds
    obtain ⟨rounds, rfl⟩ := Nat.exists_eq_add_one_of_ne_zero (show rounds ≠ 0 by omega)
    obtain ⟨cs, w', hw', hquote, hfinds⟩ :=
      finds_memberText hmember hvalue (c := ',') (by simp) (text' ++ '\x7d' :: rest)
    rw [List.append_assoc, List.cons_append]
    simp only [moreMembersFor, skipBlank_append hw,
      skipBlank_cons (show isBlank ',' = false by decide), hquote]
    exact (hfinds d).bind fun d' _ => ih (by simp) d' rest hw' (by simpa using hrounds)

theorem length_le (h : MembersText ms text) : ms.length ≤ text.length := by
  induction h with
  | none _ => exact Nat.zero_le _
  | one _ hmember =>
    cases hmember
    simp
    omega
  | more _ _ _ ih =>
    simp at ih ⊢
    omega

/-- A draft is a receipt at the closing brace, or a member is missing. -/
theorem finds_receipt (d : Draft) (rest : List Char) :
    Finds (do pure (← d.receipt, rest)) rest fun r => d.receipt = .ok r where
  complete r hr := by
    rw [hr]
    rfl
  sound := by
    cases d.receipt with
    | error e => exact Or.inl ⟨e, rfl⟩
    | ok r => exact Or.inr ⟨r, rfl, rfl⟩

/-- The first member, then the others, then the closing brace. -/
theorem finds_members {cs : List Char} {p : String × List Char}
    (hmember : Finds (member {} cs) rest' (Takes {} p))
    (hmore : ∀ d, Finds (moreMembersFor (rest'.length + 1) d rest') rest (TakesAll d ms)) :
    Finds (do
      let (d, cs) ← member {} cs
      let (d, cs) ← moreMembersFor (cs.length + 1) d cs
      pure (← d.receipt, cs)) rest fun r => ∃ d, TakesAll {} (p :: ms) d ∧ d.receipt = .ok r := by
  have hiff (r : Receipt) : (∃ d', Takes {} p d' ∧ ∃ d, TakesAll d' ms d ∧ d.receipt = .ok r) ↔
      ∃ d, TakesAll {} (p :: ms) d ∧ d.receipt = .ok r := by
    constructor
    · rintro ⟨d', htakes, d, hd, hr⟩
      exact ⟨d, ⟨d', htakes, hd⟩, hr⟩
    · rintro ⟨d, ⟨d', htakes, hd⟩, hr⟩
      exact ⟨d', htakes, d, hd, hr⟩
  refine Finds.congr ?_ hiff
  exact hmember.bind fun d' _ => (hmore d').bind fun d _ => finds_receipt d rest

/-- The members of an object, from behind its opening brace to behind its closing one. -/
theorem finds_object (h : MembersText ms text) (rest : List Char) :
    Finds (object (text ++ '\x7d' :: rest)) rest
      fun r => ∃ d, TakesAll {} ms d ∧ d.receipt = .ok r := by
  unfold object
  cases h with
  | none hw =>
    rw [skipBlank_append hw, skipBlank_cons (by decide)]
    refine (finds_receipt {} rest).congr fun r => ?_
    simp [TakesAll]
  | one hvalue hmember =>
    obtain ⟨cs, w', hw', hquote, hfinds⟩ :=
      finds_memberText hmember hvalue (c := '\x7d') (by simp) rest
    rw [hquote]
    exact finds_members (hfinds {}) fun d => finds_end d hw' (by simp) rest
  | @more name value text text' m ms hvalue hmember hmore =>
    obtain ⟨cs, w', hw', hquote, hfinds⟩ :=
      finds_memberText hmember hvalue (c := ',') (by simp) (text' ++ '\x7d' :: rest)
    -- a round for each member, and each has a character at least
    have hlength := length_le hmore
    rw [List.append_assoc, List.cons_append, hquote]
    refine finds_members (hfinds {}) fun d => finds_more hmore (by simp) d rest hw' ?_
    simp only [List.length_append, List.length_cons] at hlength ⊢
    omega

/-- An object is read as the receipt that its members make, or not at all. -/
theorem finds_ofJson {s : String} (h : ObjectText ms s.toList) :
    (∀ r, ofJson s = .ok r ↔ ∃ d, TakesAll {} ms d ∧ d.receipt = .ok r) ∧
      ((∃ e, ofJson s = .error e) ∨ ∃ r, ofJson s = .ok r) := by
  have hobject : ∃ text w, Blank w ∧ MembersText ms text ∧
      ofJson s = finish (object (text ++ '\x7d' :: w)) := by
    unfold ofJson
    generalize s.toList = cs at h
    cases h with
    | @mk w₁ text w₂ hw₁ hmembers hw₂ =>
      refine ⟨text, w₂, hw₂, hmembers, ?_⟩
      rw [List.append_assoc, List.cons_append, skipBlank_append hw₁, skipBlank_cons (by decide)]
      rfl
  obtain ⟨text, w, hw, hmembers, heq⟩ := hobject
  have hfinds := finds_object hmembers w
  -- only blanks stand behind the object
  have hend : skipBlank w = [] := by
    have happend := skipBlank_append hw []
    rwa [List.append_nil] at happend
  rw [heq]
  rcases hfinds.sound with ⟨e, he⟩ | ⟨r, hr, hok⟩
  · refine ⟨fun r => ⟨fun h => ?_, fun h => ?_⟩, Or.inl ⟨e, ?_⟩⟩
    · rw [he] at h
      exact absurd h (by simp [finish])
    · rw [hfinds.complete r h] at he
      exact absurd he (by simp)
    · rw [he]
      rfl
  · have hread : finish (object (text ++ '\x7d' :: w)) = .ok r := by
      rw [hok]
      simp [finish, hend]
    refine ⟨fun r' => ⟨fun h => ?_, fun h => ?_⟩, Or.inr ⟨r, hread⟩⟩
    · rw [hread] at h
      cases h
      exact hr
    · rw [hfinds.unique h hr]
      exact hread

/-! ## What the members of an object come to -/

/-- The values that stand under the name of a member. -/
def values (ms : List (String × List Char)) (m : Member) : List (List Char) :=
  (ms.filter fun p => p.1 = m.name).map Prod.snd

/-- The draft holds the receipt's member. -/
def Draft.Holds (d : Draft) (m : Member) (r : Receipt) : Prop :=
  match m with
  | .transactionHash => d.transactionHash = some r.transactionHash
  | .success => d.success = some r.success
  | .message => d.message = some r.message
  | .jobId => d.jobId = some r.jobId.text

/-- A name is that of one member. -/
theorem ofName?_eq_some : Member.ofName? name = some m ↔ name = m.name := by
  constructor
  · intro h
    unfold Member.ofName? at h
    split at h <;> cases h <;> rfl
  · rintro rfl
    cases m <;> rfl

theorem values_cons (p : String × List Char) (ms : List (String × List Char)) (m : Member) :
    values (p :: ms) m = if p.1 = m.name then p.2 :: values ms m else values ms m := by
  unfold values
  by_cases h : p.1 = m.name
  · simp [h]
  · simp [h]

/-- A draft is a receipt if it has all members. -/
theorem receipt_eq_ok (d : Draft) (r : Receipt) : d.receipt = .ok r ↔ ∀ m, d.Holds m r := by
  constructor
  · intro h m
    unfold Draft.receipt at h
    split at h
    · cases h
      cases m <;> rfl
    · exact absurd h (by simp)
  · intro h
    have hhash : d.transactionHash = some r.transactionHash := h .transactionHash
    have hsuccess : d.success = some r.success := h .success
    have hmessage : d.message = some r.message := h .message
    have hjobId : d.jobId = some r.jobId.text := h .jobId
    obtain ⟨hash, success, message, jobId⟩ := d
    simp only at hhash hsuccess hmessage hjobId
    rw [hhash, hsuccess, hmessage, hjobId]
    rfl

theorem Draft.has_of_holds {r : Receipt} (h : d.Holds m r) : d.has m = true := by
  cases m with
  | transactionHash => exact Option.isSome_of_eq_some h
  | success => exact Option.isSome_of_eq_some h
  | message => exact Option.isSome_of_eq_some h
  | jobId => exact Option.isSome_of_eq_some h

/-- A member that is put into a draft is there, and the others are as they were. -/
theorem has_put (d : Draft) (m m' : Member) (r : Receipt) :
    (d.put m r).has m' = (decide (m' = m) || d.has m') := by
  cases m <;> cases m' <;> rfl

theorem holds_put_of_ne {m' : Member} (h : m' ≠ m) (d : Draft) (r r' : Receipt) :
    (d.put m r).Holds m' r' ↔ d.Holds m' r' := by
  cases m <;> cases m' <;> first | exact absurd rfl h | rfl

/-- What is put into a draft is what the value stands for. -/
theorem holds_put_iff (d : Draft) {r r' : Receipt} (h : r.Denotes m value) :
    (d.put m r).Holds m r' ↔ r'.Denotes m value := by
  have hput : (d.put m r).Holds m r' → r'.Denotes m value := by
    intro hholds
    cases m with
    | transactionHash =>
      have heq : r.transactionHash = r'.transactionHash := Option.some.inj hholds
      show IsString r'.transactionHash value
      rw [← heq]
      exact h
    | success =>
      have heq : r.success = r'.success := Option.some.inj hholds
      show IsBool r'.success value
      rw [← heq]
      exact h
    | message =>
      have heq : r.message = r'.message := Option.some.inj hholds
      show IsString r'.message value
      rw [← heq]
      exact h
    | jobId =>
      have heq : r.jobId.text = r'.jobId.text := Option.some.inj hholds
      show IsString r'.jobId.text value
      rw [← heq]
      exact h
  -- a text stands for one value only
  have hdenotes : r'.Denotes m value → (d.put m r).Holds m r' := by
    intro h'
    cases m with
    | transactionHash => exact congrArg some (IsString.unique h h')
    | success => exact congrArg some (IsBool.unique h h')
    | message => exact congrArg some (IsString.unique h h')
    | jobId => exact congrArg some (IsString.unique h h')
  exact ⟨hput, hdenotes⟩

/-- A draft holds a member at the end if it was there before and no more came, or if it was not
    there and came once. -/
theorem takesAll_holds (h : TakesAll d ms d') (m : Member) (r : Receipt) :
    d'.Holds m r ↔ (d.Holds m r ∧ values ms m = []) ∨
      (d.has m = false ∧ ∃ v, values ms m = [v] ∧ r.Denotes m v) := by
  induction ms generalizing d with
  | nil =>
    have heq : d = d' := h
    subst heq
    simp [values]
  | cons p ms ih =>
    obtain ⟨d₁, htakes, hall⟩ := h
    have ih := ih hall
    rw [ih, values_cons]
    unfold Takes at htakes
    cases hname : Member.ofName? p.1 with
    | none =>
      rw [hname] at htakes
      have hd : d = d₁ := htakes
      have hne : p.1 ≠ m.name := by
        intro heq
        rw [ofName?_eq_some.mpr heq] at hname
        exact absurd hname (by simp)
      rw [if_neg hne, hd]
    | some m₀ =>
      rw [hname] at htakes
      obtain ⟨hfresh, r₀, hr₀, rfl⟩ := htakes
      have hp := ofName?_eq_some.mp hname
      by_cases hm : m = m₀
      · subst hm
        rw [if_pos hp, holds_put_iff d hr₀, has_put]
        -- a draft that has the member already refuses a second one
        have hno : ¬ d.Holds m r := fun hholds => by
          rw [Draft.has_of_holds hholds] at hfresh
          exact absurd hfresh (by simp)
        simp [hno, hfresh, and_comm]
      · have hne : p.1 ≠ m.name := by
          intro heq
          have heq' := hname.symm.trans (ofName?_eq_some.mpr heq)
          exact hm (Option.some.inj heq').symm
        rw [if_neg hne, holds_put_of_ne hm, has_put]
        simp [hm]

/-- If no known member comes twice and each that comes stands for something, all are taken. -/
theorem exists_takesAll (r : Receipt) (h : ∀ m, values ms m = [] ∨
    (d.has m = false ∧ ∃ v, values ms m = [v] ∧ r.Denotes m v)) : ∃ d', TakesAll d ms d' := by
  induction ms generalizing d with
  | nil => exact ⟨d, rfl⟩
  | cons p ms ih =>
    cases hname : Member.ofName? p.1 with
    | none =>
      have hlater : ∀ m, values ms m = [] ∨
          (d.has m = false ∧ ∃ v, values ms m = [v] ∧ r.Denotes m v) := by
        intro m
        have hne : p.1 ≠ m.name := by
          intro heq
          rw [ofName?_eq_some.mpr heq] at hname
          exact absurd hname (by simp)
        have hm := h m
        rwa [values_cons, if_neg hne] at hm
      obtain ⟨d', hd'⟩ := ih hlater
      exact ⟨d', d, by unfold Takes; rw [hname], hd'⟩
    | some m₀ =>
      have hp := ofName?_eq_some.mp hname
      have hm₀ := h m₀
      rw [values_cons, if_pos hp] at hm₀
      rcases hm₀ with hnil | ⟨hfresh, v, hv, hr⟩
      · exact absurd hnil (by simp)
      · obtain ⟨hv, hnil⟩ := List.cons_eq_cons.mp hv
        subst hv
        have hlater : ∀ m, values ms m = [] ∨
            ((d.put m₀ r).has m = false ∧ ∃ v, values ms m = [v] ∧ r.Denotes m v) := by
          intro m
          by_cases hm : m = m₀
          · -- the name has stood there once, and stands there no more
            exact Or.inl (hm ▸ hnil)
          · have hne : p.1 ≠ m.name := by
              intro heq
              have heq' := hname.symm.trans (ofName?_eq_some.mpr heq)
              exact hm (Option.some.inj heq').symm
            have hm' := h m
            rw [values_cons, if_neg hne] at hm'
            rw [has_put]
            simpa [hm] using hm'
        obtain ⟨d', hd'⟩ := ih hlater
        exact ⟨d', d.put m₀ r, by unfold Takes; rw [hname]; exact ⟨hfresh, r, hr, rfl⟩, hd'⟩

/-- An object is read as a receipt exactly if each known name stands there once, with a value that
    stands for the receipt's. -/
theorem ofJson_iff {s : String} (h : ObjectText ms s.toList) (r : Receipt) :
    ofJson s = .ok r ↔ ∀ m, ∃ v, values ms m = [v] ∧ r.Denotes m v := by
  rw [(finds_ofJson h).1 r]
  -- the draft begins with nothing in it
  have hempty (m : Member) (r : Receipt) :
      ¬ ({} : Draft).Holds m r ∧ ({} : Draft).has m = false := by
    cases m <;> simp [Draft.Holds, Draft.has]
  constructor
  · rintro ⟨d, hall, hr⟩ m
    have hholds := (receipt_eq_ok d r).mp hr m
    rw [takesAll_holds hall] at hholds
    rcases hholds with ⟨hno, -⟩ | ⟨-, hv⟩
    · exact absurd hno (hempty m r).1
    · exact hv
  · intro hall
    obtain ⟨d, hd⟩ := exists_takesAll (d := {}) r fun m => Or.inr ⟨(hempty m r).2, hall m⟩
    refine ⟨d, hd, ?_⟩
    rw [receipt_eq_ok]
    intro m
    rw [takesAll_holds hd]
    exact Or.inr ⟨(hempty m r).2, hall m⟩

/-! ## Written receipts -/

/-- What is written for a member denotes it. -/
theorem denotes_writeValue (r : Receipt) (m : Member) : r.Denotes m (r.writeValue m) := by
  cases m with
  | transactionHash => exact isString_quote r.transactionHash
  | success => exact rfl
  | message => exact isString_quote r.message
  | jobId => exact isString_quote r.jobId.text

theorem Denotes.wellFormed {r : Receipt} (h : r.Denotes m value) : WellFormed .value value := by
  cases m with
  | transactionHash => exact IsString.wellFormed h
  | success => exact IsBool.wellFormed h
  | message => exact IsString.wellFormed h
  | jobId => exact IsString.wellFormed h

/-- The members of a written receipt. -/
def written (r : Receipt) : List (String × List Char) :=
  [Member.transactionHash, .success, .message, .jobId].map fun m => (m.name, r.writeValue m)

/-- Each member is written once. -/
theorem values_written (r : Receipt) (m : Member) : values r.written m = [r.writeValue m] := by
  cases m <;> simp [values, written, Member.name]

/-- A member is written with its name in front. -/
theorem memberText_write (r : Receipt) (m : Member) :
    MemberText m.name (r.writeValue m) (r.writeMember m) := by
  have hname := spells_escape m.name.toList
  have htext : MemberText m.name (r.writeValue m) _ :=
    .mk blank_nil hname blank_nil blank_nil blank_nil
  simpa [writeMember, quote] using htext

/-- A written receipt is an object of its four members. -/
theorem objectText_toJson (r : Receipt) : ObjectText r.written r.toJson.toList := by
  have hvalue (m : Member) : WellFormed .value (r.writeValue m) :=
    (denotes_writeValue r m).wellFormed
  have hmember := memberText_write r
  have hmembers := MembersText.more (hvalue .transactionHash) (hmember .transactionHash) <|
    MembersText.more (hvalue .success) (hmember .success) <|
    MembersText.more (hvalue .message) (hmember .message) <|
    MembersText.one (hvalue .jobId) (hmember .jobId)
  have hobject := ObjectText.mk blank_nil hmembers blank_nil
  simpa [toJson, written, List.intercalate] using hobject

theorem printable_writeMember (r : Receipt) (m : Member) : Printable (r.writeMember m) := by
  have hcolon : Printable [':'] := by decide
  have hbool (b : Bool) : Printable (writeBool b) := by cases b <;> decide
  have hvalue : Printable (r.writeValue m) := by
    cases m with
    | transactionHash => exact printable_quote r.transactionHash
    | success => exact hbool r.success
    | message => exact printable_quote r.message
    | jobId => exact printable_quote r.jobId.text
  exact (printable_quote m.name).append (hcolon.append hvalue)

/-- A written receipt has no control character. -/
theorem printable_toJson (r : Receipt) : Printable r.toJson.toList := by
  have hmember := printable_writeMember r
  have hopen : Printable ['\x7b'] := by decide
  have hcomma : Printable [','] := by decide
  have hclose : Printable ['\x7d'] := by decide
  have hall := hopen.append <| (hmember .transactionHash).append <| hcomma.append <|
    (hmember .success).append <| hcomma.append <| (hmember .message).append <| hcomma.append <|
    (hmember .jobId).append hclose
  simpa [toJson, List.intercalate] using hall

/-- Written receipts can be told apart line by line, and each reads back as what it was.  Any other
    object is read the same if each known name stands in it once, wherever and however it is
    written and whatever else stands there; a known name that is missing or repeated is a fault. -/
theorem json_roundTrip (r : Receipt) :
    (∀ c ∈ r.toJson.toList, 0x20 ≤ c.toNat) ∧
      (r.toJson.toList ++ ['\n']).splitOn '\n' = [r.toJson.toList, []] ∧
      ofJson r.toJson = .ok r ∧
      ∀ (ms : List (String × List Char)) (s : String), ObjectText ms s.toList →
        (ofJson s = .ok r ↔ ∀ m, ∃ v, values ms m = [v] ∧ r.Denotes m v) ∧
          ∀ m, (values ms m).length ≠ 1 → ∃ e, ofJson s = .error e := by
  have hprintable := printable_toJson r
  refine ⟨hprintable, ?_, ?_, ?_⟩
  · -- a printed receipt has no line break, so it is one line
    have hno : ∀ c ∈ r.toJson.toList, (c == '\n') = false := by
      intro c hc
      have hc := hprintable c hc
      rw [beq_eq_false_iff_ne]
      rintro rfl
      exact absurd hc (by decide)
    exact List.splitOnP_append_cons_of_forall_mem hno '\n' rfl []
  · rw [ofJson_iff (objectText_toJson r)]
    intro m
    exact ⟨r.writeValue m, values_written r m, denotes_writeValue r m⟩
  · intro ms s h
    refine ⟨ofJson_iff h r, fun m hcount => ?_⟩
    rcases (finds_ofJson h).2 with he | ⟨r', hr'⟩
    · exact he
    · obtain ⟨v, hv, -⟩ := (ofJson_iff h r').mp hr' m
      exact absurd (by rw [hv]; rfl) hcount

/-- A receipt with a quote and a line break in it, and a character that takes two escapes. -/
def awkward : Receipt := ⟨"0x\"", true, "\n😀", ⟨"é"⟩⟩

/-- Its members in another order and another spelling, with another one in front. -/
def awkwardMembers : List (String × List Char) :=
  [("note", "[\x7b\"a\":null\x7d, -0.5e+3]".toList),
    ("message", "\"\\u000A\\ud83d\\uDE00\"".toList), ("success", "true".toList),
    ("job_id", quote "é"), ("transaction_hash", quote "0x\"")]

/-- The members as an object. -/
def awkwardText : String :=
  "\x7b\"note\" : [\x7b\"a\":null\x7d, -0.5e+3], " ++
    "\"message\":\"\\u000A\\ud83d\\uDE00\",\"success\":true" ++
    ",\"job_id\":\"é\",\"transaction_hash\":\"0x\\\"\"\x7d\n"

theorem isString_message : IsString "\n😀" "\"\\u000A\\ud83d\\uDE00\"".toList := by
  have hunit : FourDigits ['0', '0', '0', 'A'] (((0 * 16 + 0) * 16 + 0) * 16 + 10) :=
    .mk (Or.inl rfl) (Or.inl rfl) (Or.inl rfl) (Or.inr rfl)
  have hhi : FourDigits ['d', '8', '3', 'd'] (((13 * 16 + 8) * 16 + 3) * 16 + 13) :=
    .mk (Or.inl rfl) (Or.inl rfl) (Or.inl rfl) (Or.inl rfl)
  have hlo : FourDigits ['D', 'E', '0', '0'] (((13 * 16 + 14) * 16 + 0) * 16 + 0) :=
    .mk (Or.inr rfl) (Or.inr rfl) (Or.inl rfl) (Or.inl rfl)
  have hbreak : SpellsChar _ '\n' := .unit hunit
  have hpair : SpellsChar _ '😀' := .pair (by decide) hhi hlo
  exact ⟨_, .cons hbreak (.cons hpair .nil), rfl⟩

theorem wellFormed_note : WellFormed .value "[\x7b\"a\":null\x7d, -0.5e+3]".toList := by
  have hname : Quoted ['a'] := .cons (.plain ⟨by decide, by decide, by decide⟩) .nil
  have hnull : WellFormed .value "null".toList := .word (by simp)
  have hfraction : FractionPart ['.', '5'] := .some (.one (by decide))
  have hsign : ['+'] ∈ [[], ['-'], ['+']] := by decide
  have hexponent : ExponentPart ('e' :: ['+'] ++ ['3']) :=
    .some (by simp) hsign (.one (by decide))
  have hnumber := WellFormed.negative (.mk (Or.inl rfl) hfraction hexponent)
  have hobject := WellFormed.object (.member blank_nil hname blank_nil blank_nil hnull blank_nil)
  have hspace : Blank [' '] := by simp [Blank]
  exact .array (.moreItems blank_nil hobject blank_nil (.item hspace hnumber blank_nil))

theorem memberText_plain (name : String) (v : List Char) :
    MemberText name v
      ([] ++ '"' :: name.toList.flatMap escape ++ '"' :: [] ++ ':' :: [] ++ v ++ []) :=
  .mk blank_nil (spells_escape name.toList) blank_nil blank_nil blank_nil

theorem wellFormed_true : WellFormed .value "true".toList := .word (by simp)

theorem objectText_awkward : ObjectText awkwardMembers awkwardText.toList := by
  have hspace : Blank [' '] := by simp [Blank]
  have hbreak : Blank ['\n'] := by simp [Blank]
  have hnote (v : List Char) : MemberText "note" v _ :=
    .mk blank_nil (spells_escape "note".toList) hspace hspace blank_nil
  have hmessage (v : List Char) : MemberText "message" v _ :=
    .mk hspace (spells_escape "message".toList) blank_nil blank_nil blank_nil
  have hmembers : MembersText awkwardMembers _ :=
    .more wellFormed_note (hnote _) <| .more isString_message.wellFormed (hmessage _) <|
    .more wellFormed_true (memberText_plain "success" _) <|
    .more (isString_quote "é").wellFormed (memberText_plain "job_id" _) <|
    .one (isString_quote "0x\"").wellFormed (memberText_plain "transaction_hash" _)
  have of_eq {cs : List Char} (h : ObjectText awkwardMembers cs) (heq : awkwardText.toList = cs) :
      ObjectText awkwardMembers awkwardText.toList := heq ▸ h
  exact of_eq (.mk blank_nil hmembers hbreak) (by decide +kernel)

theorem objectText_twice : ObjectText [("success", "true".toList), ("success", "true".toList)]
    "\x7b\"success\":true,\"success\":true\x7d".toList := by
  have hmember := memberText_plain "success" "true".toList
  exact .mk blank_nil (.more wellFormed_true hmember (.one wellFormed_true hmember)) blank_nil

/-- An object with blanks, escapes, a nested unknown member and its members out of order. -/
theorem json_roundTrip_awkward : ofJson awkwardText = .ok awkward ∧
    ∃ e, ofJson "\x7b\"success\":true,\"success\":true\x7d" = .error e := by
  have hall := (json_roundTrip awkward).2.2.2
  have hvalues : ∀ m, ∃ v, values awkwardMembers m = [v] ∧ awkward.Denotes m v := by
    intro m
    cases m with
    | transactionHash => exact ⟨_, rfl, isString_quote "0x\""⟩
    | success => exact ⟨_, rfl, rfl⟩
    | message => exact ⟨_, rfl, isString_message⟩
    | jobId => exact ⟨_, rfl, isString_quote "é"⟩
  exact ⟨(hall _ _ objectText_awkward).1.mpr hvalues,
    (hall _ _ objectText_twice).2 .success (by decide)⟩

end TxRelay.Receipt
