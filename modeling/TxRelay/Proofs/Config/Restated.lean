/-
  Documents that say the same.

  A tree can be written in many ways: its tables under headers, by dotted keys or in braces, the
  entries of each table in any order.  Settings that are read from it should not depend on which.

  1. **Changes.**  `Value.Respelled` is one such change, anywhere in a value.  `Restated` is one
     change of a document that must not matter: a change of spelling, a key or a table that is not
     known, or a section as an array of its fields.

  2. **What one change leaves.**  At the place of each setting it leaves the same value up to its
     spelling (`Restated.said`).  There is one case for each kind of change, and each is about a
     lookup: in entries in another order, with an entry more, with one entry changed.

  3. **What is meant.**  A value means the same however it is spelled (`means_respelled`).  Only a
     format can be a table, and that table has one key and nothing in it.

  4. **Any number of changes.**  So a document keeps what it is merged to through any number of
     changes, forth and back (`SaysSame.iff`), and it suits before as after.

  The crux is that `Merged` and `Suits` are stated by what is found at the ten places.  A change
  need only be followed to those, and what it does elsewhere in the document is never asked.
-/
import Mathlib.Data.List.Perm.Basic
import Mathlib.Logic.Relation
import TxRelay.Proofs.Config.Merge

namespace TxRelay

open Toml (Value Entries)

/-- One change in how a tree is written. -/
inductive Toml.Value.Respelled : Value → Value → Prop
  /-- Under a header, by dotted keys or in braces. -/
  | origin (o o' : Toml.Origin) (es : Entries) : Respelled (.table o es) (.table o' es)
  /-- The entries of a table in another order. -/
  | order (o : Toml.Origin) {es es' : Entries} (keys : (es.map Prod.fst).Nodup)
      (perm : es.Perm es') : Respelled (.table o es) (.table o es')
  /-- Tables under repeated headers as an array of tables. -/
  | repeated (ts : List Entries) : Respelled (.tables ts) (.array (ts.map (.table .header)))
  /-- A change inside the value of a key. -/
  | entry (o : Toml.Origin) (before after : Entries) (key : String) {v v' : Value}
      (inside : Respelled v v') :
      Respelled (.table o (before ++ (key, v) :: after)) (.table o (before ++ (key, v') :: after))
  /-- A change inside an item of an array. -/
  | item (before after : List Value) {v v' : Value} (inside : Respelled v v') :
      Respelled (.array (before ++ v :: after)) (.array (before ++ v' :: after))

/-! ## Keys that are looked up -/

namespace Toml.Entries

/-- A key is looked up in the first entries, then in the others. -/
theorem find?_append (es es' : Entries) (key : String) :
    Entries.find? (es ++ es') key = (Entries.find? es key).or (Entries.find? es' key) := by
  rw [Entries.find?, List.find?_append, Option.map_or]
  rfl

/-- The first entry is found under its key. -/
theorem find?_cons_self (key : String) (v : Value) (es : Entries) :
    Entries.find? ((key, v) :: es) key = some v := by
  simp [Entries.find?]

/-- It is passed by under any other. -/
theorem find?_cons_other {k key : String} (h : k ≠ key) (v : Value) (es : Entries) :
    Entries.find? ((k, v) :: es) key = Entries.find? es key := by
  simp [Entries.find?, h]

/-- The order does not matter where no key comes twice. -/
theorem find?_perm {es es' : Entries} (keys : (es.map Prod.fst).Nodup) (perm : es.Perm es')
    (key : String) : Entries.find? es key = Entries.find? es' key := by
  have hkeys' : (es'.map Prod.fst).Nodup := (perm.map Prod.fst).nodup keys
  cases hfind : Entries.find? es' key with
  | none =>
    rw [find?_eq_none_iff] at hfind ⊢
    exact fun hmem => hfind ((perm.map Prod.fst).subset hmem)
  | some v => exact find?_of_mem keys (perm.symm.subset (mem_of_find? hfind))

/-- An entry with another key changes nothing. -/
theorem find?_insert_other {k key : String} (h : k ≠ key) (v : Value) (before after : Entries) :
    Entries.find? (before ++ (k, v) :: after) key = Entries.find? (before ++ after) key := by
  rw [find?_append, find?_append, find?_cons_other h]

theorem rel_refl {R : Value → Value → Prop} (hrefl : ∀ v, R v v) (said : Option Value) :
    Option.Rel R said said := by
  cases said with
  | none => exact .none
  | some v => exact .some (hrefl v)

/-- With another value for a key, what is found changes as that value does. -/
theorem find?_change {R : Value → Value → Prop} (hrefl : ∀ v, R v v) (before after : Entries)
    {k key : String} {v v' : Value} (h : k = key → R v v') :
    Option.Rel R (Entries.find? (before ++ (k, v) :: after) key)
      (Entries.find? (before ++ (k, v') :: after) key) := by
  by_cases hkey : k = key
  · subst hkey
    rw [find?_append, find?_append, find?_cons_self, find?_cons_self]
    cases Entries.find? before k with
    | none => exact .some (h rfl)
    | some w => exact .some (hrefl w)
  · rw [find?_insert_other hkey, find?_insert_other hkey]
    exact rel_refl hrefl _

/-- With another item in the place of one, what is found among named items changes as the item. -/
theorem find?_zip_change {R : Value → Value → Prop} (hrefl : ∀ v, R v v) (names : List String)
    (before after : List Value) {v v' : Value} (h : R v v') (key : String) :
    Option.Rel R (Entries.find? (names.zip (before ++ v :: after)) key)
      (Entries.find? (names.zip (before ++ v' :: after)) key) := by
  induction before generalizing names with
  | nil =>
    cases names with
    | nil => exact .none
    -- the value that changes has this name
    | cons name names => exact find?_change hrefl [] (names.zip after) fun _ => h
  | cons w before ih =>
    cases names with
    | nil => exact .none
    | cons name names =>
      show Option.Rel R (Entries.find? ((name, w) :: names.zip (before ++ v :: after)) key)
        (Entries.find? ((name, w) :: names.zip (before ++ v' :: after)) key)
      by_cases hkey : name = key
      · subst hkey
        rw [find?_cons_self, find?_cons_self]
        exact .some (hrefl w)
      · rw [find?_cons_other hkey, find?_cons_other hkey]
        exact ih names

end Toml.Entries

namespace Config

open Relation (ReflGen EqvGen)

/-- One change of a document that does not matter. -/
inductive Restated : Entries → Entries → Prop
  /-- The entries in another order. -/
  | order {es es' : Entries} (keys : (es.map Prod.fst).Nodup) (perm : es.Perm es') : Restated es es'
  /-- A value is spelled in another way. -/
  | respelled (before after : Entries) (key : String) {v v' : Value} (inside : v.Respelled v') :
      Restated (before ++ (key, v) :: after) (before ++ (key, v') :: after)
  /-- A key or a table more that is not known. -/
  | unknown (before after : Entries) (key : String) (v : Value) (unknown : key ∉ sectionNames) :
      Restated (before ++ after) (before ++ (key, v) :: after)
  /-- A key or a table more in a section that is not known there. -/
  | unknownField (before after : Entries) (name : String) (o : Toml.Origin)
      (inner more : Entries) (key : String) (v : Value) (unknown : key ∉ fieldsOf name) :
      Restated (before ++ (name, .table o (inner ++ more)) :: after)
        (before ++ (name, .table o (inner ++ (key, v) :: more)) :: after)
  /-- A section as an array of its first fields in the order of their declaration. -/
  | array (before after : Entries) (name : String) (o : Toml.Origin) (vs : List Value) :
      Restated (before ++ (name, .table o ((fieldsOf name).zip vs)) :: after)
        (before ++ (name, .array vs) :: after)

/-! ## What one change leaves -/

/-- Two values of a section have the same fields up to their spelling. -/
structure SameSection (name : String) (v v' : Value) : Prop where
  isSection : IsSection v ↔ IsSection v'
  fields : ∀ k ∈ fieldsOf name, Option.Rel (ReflGen Value.Respelled)
    ((entriesIn (fieldsOf name) v).find? k) ((entriesIn (fieldsOf name) v').find? k)

theorem sameSection_of_find? {name : String} {v v' : Value} (hsection : IsSection v ↔ IsSection v')
    (h : ∀ k ∈ fieldsOf name, (entriesIn (fieldsOf name) v).find? k =
      (entriesIn (fieldsOf name) v').find? k) : SameSection name v v' := by
  refine ⟨hsection, fun k hk => ?_⟩
  rw [h k hk]
  exact Toml.Entries.rel_refl (fun _ => .refl) _

theorem sameSection_refl (name : String) (v : Value) : SameSection name v v :=
  sameSection_of_find? Iff.rfl fun _ _ => rfl

/-- A section that is spelled in another way has the same fields. -/
theorem sameSection_respelled (name : String) {v v' : Value} (h : v.Respelled v') :
    SameSection name v v' := by
  cases h with
  | origin o o' es => exact sameSection_of_find? Iff.rfl fun _ _ => rfl
  | order o keys perm =>
    exact sameSection_of_find? Iff.rfl fun k _ => Toml.Entries.find?_perm keys perm k
  | repeated ts => exact sameSection_of_find? Iff.rfl fun _ _ => rfl
  | entry o before after key inside =>
    refine ⟨Iff.rfl, fun k _ => ?_⟩
    exact Toml.Entries.find?_change (fun _ => .refl) before after fun _ => .single inside
  | item before after inside =>
    refine ⟨Iff.rfl, fun k _ => ?_⟩
    exact Toml.Entries.find?_zip_change (fun _ => .refl) (fieldsOf name) before after
      (.single inside) k

/-- One change leaves every section the same. -/
theorem Restated.section {es es' : Entries} (h : Restated es es') {name : String}
    (hname : name ∈ sectionNames) :
    Option.Rel (SameSection name) (es.find? name) (es'.find? name) := by
  have hrefl : ∀ said, Option.Rel (SameSection name) said said :=
    Toml.Entries.rel_refl (sameSection_refl name)
  cases h with
  | order keys perm =>
    rw [Toml.Entries.find?_perm keys perm]
    exact hrefl _
  | respelled before after key inside =>
    exact Toml.Entries.find?_change (sameSection_refl name) before after
      fun _ => sameSection_respelled name inside
  | unknown before after key v unknown =>
    have hne : key ≠ name := fun heq => unknown (heq ▸ hname)
    rw [Toml.Entries.find?_insert_other hne]
    exact hrefl _
  | unknownField before after section' o inner more key v unknown =>
    refine Toml.Entries.find?_change (sameSection_refl name) before after ?_
    rintro rfl
    -- fields are looked up, and the new one is none of them
    refine sameSection_of_find? Iff.rfl fun k hk => ?_
    have hne : key ≠ k := fun heq => unknown (heq ▸ hk)
    exact (Toml.Entries.find?_insert_other hne v inner more).symm
  | array before after section' o vs =>
    refine Toml.Entries.find?_change (sameSection_refl name) before after ?_
    rintro rfl
    exact sameSection_of_find? Iff.rfl fun _ _ => rfl

/-- One change leaves what is said of every setting, up to its spelling. -/
theorem Restated.said {es es' : Entries} (h : Restated es es') (f : Field) :
    Option.Rel (ReflGen Value.Respelled) (look es f) (look es' f) := by
  have hsection := h.section (section_mem f)
  unfold look
  generalize es.find? f.place.1 = said at hsection ⊢
  generalize es'.find? f.place.1 = said' at hsection ⊢
  cases hsection with
  | none => exact .none
  | some hsame => exact hsame.fields _ (mem_fieldsOf f)

/-! ## What is meant -/

/-- A table is empty however it is spelled. -/
theorem isHollow_respelled {v v' : Value} (h : v.Respelled v') : isHollow v = isHollow v' := by
  cases h with
  | origin _ _ _ => rfl
  | order _ _ perm => exact perm.isEmpty_eq
  | repeated ts => cases ts <;> rfl
  | entry _ before _ _ _ => cases before <;> rfl
  | item before _ _ => cases before <;> rfl

/-- A format as a table has its name as the one key, and nothing under it. -/
theorem means_format_table {o : Toml.Origin} {es : Entries} {f : LogFormat} :
    Kind.format.Means (.table o es) f ↔
      ∃ content, es = [(f.name, content)] ∧ isHollow content = true := by
  constructor
  · rintro (heq | ⟨o', content, heq, hhollow⟩)
    · cases heq
    · exact ⟨content, (Value.table.inj heq).2, hhollow⟩
  · rintro ⟨content, rfl, hhollow⟩
    exact .inr ⟨o, content, rfl, hhollow⟩

/-- A format means the same however it is spelled. -/
theorem means_format_respelled {v v' : Value} (h : v.Respelled v') (f : LogFormat) :
    Kind.format.Means v f ↔ Kind.format.Means v' f := by
  cases h with
  | origin o o' es => rw [means_format_table, means_format_table]
  -- a table with one key has one order
  | order o _ perm =>
    rw [means_format_table, means_format_table]
    refine exists_congr fun content => and_congr_left fun _ => ?_
    constructor
    · rintro rfl
      exact (List.singleton_perm.mp perm).symm
    · rintro rfl
      exact List.perm_singleton.mp perm
  | entry o before after key inside =>
    rw [means_format_table, means_format_table]
    cases before with
    | cons p before => simp
    -- the one key is the one that is spelled in another way
    | nil =>
      simp only [List.nil_append, List.cons.injEq, Prod.mk.injEq]
      constructor
      · rintro ⟨_, ⟨⟨hkey, rfl⟩, hafter⟩, hhollow⟩
        exact ⟨_, ⟨⟨hkey, rfl⟩, hafter⟩, isHollow_respelled inside ▸ hhollow⟩
      · rintro ⟨_, ⟨⟨hkey, rfl⟩, hafter⟩, hhollow⟩
        exact ⟨_, ⟨⟨hkey, rfl⟩, hafter⟩, (isHollow_respelled inside).symm ▸ hhollow⟩
  | repeated _ | item _ _ _ => simp [Kind.Means]

/-- A value means the same however it is spelled. -/
theorem means_respelled {k : Kind} {v v' : Value} (h : v.Respelled v') (a : k.Content) :
    k.Means v a ↔ k.Means v' a := by
  cases k with
  | format => exact means_format_respelled h a
  | number =>
    constructor
    · rintro ⟨i, rfl, -⟩
      cases h
    · rintro ⟨i, rfl, -⟩
      cases h
  | text | truth =>
    constructor
    · rintro rfl
      cases h
    · rintro rfl
      cases h

/-- A setting means the same if what is said of it differs in spelling only. -/
theorem says_congr {f : Field} {said said' : Option Value}
    (h : Option.Rel (ReflGen Value.Respelled) said said') (default a : f.kind.Content) :
    Says f.kind.Means said default a ↔ Says f.kind.Means said' default a := by
  cases h with
  | none => exact Iff.rfl
  | some hsame =>
    cases hsame with
    | refl => exact Iff.rfl
    | single hstep => exact means_respelled hstep a

/-! ## Any number of changes -/

/-- One change leaves what a document is merged to. -/
theorem Restated.merged_iff {es es' : Entries} (h : Restated es es') (c : Config) :
    Merged es c ↔ Merged es' c :=
  forall_congr' fun f => says_congr (h.said f) (f.get {}) (f.get c)

/-- Two documents say the same of the known keys: one is made of the other by changes that do not
    matter, forth and back. -/
abbrev SaysSame : Entries → Entries → Prop := EqvGen Restated

/-- What one change leaves true or false, any number of changes does. -/
theorem SaysSame.iff {P : Entries → Prop} (hP : ∀ {es es'}, Restated es es' → (P es ↔ P es'))
    {es es' : Entries} (h : SaysSame es es') : P es ↔ P es' := by
  induction h with
  | rel es es' h => exact hP h
  | refl es => exact Iff.rfl
  | symm es es' _ ih => exact ih.symm
  | trans es es' es'' _ _ ih ih' => exact ih.trans ih'

/-- Any number of changes leaves it. -/
theorem SaysSame.merged_iff {es es' : Entries} (h : SaysSame es es') (c : Config) :
    Merged es c ↔ Merged es' c :=
  h.iff fun hstep => hstep.merged_iff c

theorem forall_some_congr {R : Value → Value → Prop} {P : Value → Prop}
    (hP : ∀ {v v'}, R v v' → (P v ↔ P v')) {said said' : Option Value}
    (h : Option.Rel R said said') :
    (∀ v, said = some v → P v) ↔ ∀ v, said' = some v → P v := by
  cases h with
  | none => exact Iff.rfl
  | some hvalue =>
    simp only [Option.some.injEq, forall_eq']
    exact hP hvalue

/-- One change leaves a document suitable or not. -/
theorem Restated.suits_iff {es es' : Entries} (h : Restated es es') : Suits es ↔ Suits es' := by
  have hsections : ∀ name ∈ sectionNames, (∀ v, es.find? name = some v → IsSection v) ↔
      ∀ v, es'.find? name = some v → IsSection v := by
    intro name hname
    exact forall_some_congr (fun hsame => hsame.isSection) (h.section hname)
  -- a section suits or not as before, and a field means something or nothing as before
  have hfields : ∀ f : Field, (∀ v, look es f = some v → ∃ a, f.kind.Means v a) ↔
      ∀ v, look es' f = some v → ∃ a, f.kind.Means v a := by
    intro f
    refine forall_some_congr (fun hsame => exists_congr fun a => ?_) (h.said f)
    cases hsame with
    | refl => exact Iff.rfl
    | single hstep => exact means_respelled hstep a
  constructor
  · intro hsuits
    exact ⟨fun name hname => (hsections name hname).mp (hsuits.sections name hname),
      fun f => (hfields f).mp (hsuits.fields f)⟩
  · intro hsuits
    exact ⟨fun name hname => (hsections name hname).mpr (hsuits.sections name hname),
      fun f => (hfields f).mpr (hsuits.fields f)⟩

/-- So does any number of changes. -/
theorem SaysSame.suits_iff {es es' : Entries} (h : SaysSame es es') : Suits es ↔ Suits es' :=
  h.iff Restated.suits_iff

/-! ## Texts -/

/-- A text that is read is loaded as its settings, or refused for the rules that they break. -/
theorem load_of_ofToml {s : String} {es : Entries} {c : Config} (parsed : Toml.parse s = some es)
    (h : ofToml es = .ok c) : load (some (Bytes.ofString s)) = checked c := by
  rw [load_ofString]
  simp only [ofText, parsed, h]

/-- **Partial settings are merged field by field.**  A text whose known keys have values of their
    type and range is read, and each of the ten settings is what the text has at its place, and
    the default where it has nothing.  Every other text that says the same is read as the same
    settings: with entries in another order, tables spelled otherwise, other unknown keys and
    tables, or sections as arrays of their first fields. -/
theorem partial_settings_merge {s : String} {es : Entries} (parsed : Toml.parse s = some es)
    (suits : Suits es) :
    ∃ c, ofToml es = .ok c ∧ Merged es c ∧ load (some (Bytes.ofString s)) = checked c ∧
      ∀ s' es', Toml.parse s' = some es' → SaysSame es es' →
        ofToml es' = .ok c ∧ load (some (Bytes.ofString s')) = checked c := by
  have hdistinct := Toml.distinct_of_parse parsed
  obtain ⟨c, hc⟩ := exists_ofToml hdistinct suits
  have hmerged := merged_of_ofToml hdistinct hc
  refine ⟨c, hc, hmerged, load_of_ofToml parsed hc, ?_⟩
  intro s' es' hparsed hsame
  have hdistinct' := Toml.distinct_of_parse hparsed
  obtain ⟨c', hc'⟩ := exists_ofToml hdistinct' (hsame.suits_iff.mp suits)
  have hmerged' := merged_of_ofToml hdistinct' hc'
  obtain rfl := hmerged'.unique ((hsame.merged_iff c).mp hmerged)
  exact ⟨hc', load_of_ofToml hparsed hc'⟩

/-- A text with two of the sections, under headers. -/
def plainText : String :=
  "[observability]\nlog_format = 'json'\n\n[engine]\nworker_threads = 4\npoll_interval_ms = 250\n"

/-- The same in another order, with a section as an array, one in braces, and unknown keys. -/
def curlyText : String :=
  "extra.deep = [1, 2]\nengine = [4, 250]\n" ++
    "observability = \x7bcolour = true, log_format = 'json'\x7d\n"

/-- Two spellings of the same settings, one with tables and one with braces and an array. -/
theorem partial_settings_merge_respelled :
    ∃ c, load (some (Bytes.ofString plainText)) = checked c ∧
      load (some (Bytes.ofString curlyText)) = checked c ∧ c.engine.pollInterval = 250 ∧
      c.network.chainId = 31337 := by
  let four : Value := .integer 4
  let pause : Value := .integer 250
  let format : String × Value := ("log_format", .string "json")
  let colour : String × Value := ("colour", .boolean true)
  let fields : Entries := [("worker_threads", four), ("poll_interval_ms", pause)]
  let es : Entries :=
    [("observability", .table .header [format]), ("engine", .table .header fields)]
  let extra : Value := .table .dotted [("deep", .array [.integer 1, .integer 2])]
  let es' : Entries := [("extra", extra), ("engine", .array [four, pause]),
    ("observability", .table .inline [colour, format])]
  have hparsed : Toml.parse plainText = some es := by decide +kernel
  have hparsed' : Toml.parse curlyText = some es' := by decide +kernel
  have hsuits : Suits es := by
    constructor
    · intro name _ v hv
      have hmem := Toml.Entries.mem_of_find? hv
      simp only [es, List.mem_cons, Prod.mk.injEq, List.not_mem_nil, or_false] at hmem
      rcases hmem with ⟨-, rfl⟩ | ⟨-, rfl⟩
      · trivial
      · trivial
    · intro f v hv
      cases f with
      | workerThreads =>
        obtain rfl := Option.some.inj (show some four = some v from hv)
        exact ⟨(4 : UInt64), 4, rfl, by decide⟩
      | pollInterval =>
        obtain rfl := Option.some.inj (show some pause = some v from hv)
        exact ⟨(250 : UInt64), 250, rfl, by decide⟩
      | logFormat =>
        obtain rfl := Option.some.inj (show some (.string "json") = some v from hv)
        exact ⟨LogFormat.json, .inl rfl⟩
      | _ => cases hv
  have hsame : SaysSame es es' := by
    let engine : String × Value := ("engine", .table .header fields)
    let items : String × Value := ("engine", .array [four, pause])
    let under : String × Value := ("observability", .table .header [format])
    let braces : String × Value := ("observability", .table .inline [format])
    let more : String × Value := ("observability", .table .inline [colour, format])
    -- from the one text to the other in five changes
    have horder : Restated es [engine, under] := .order (by decide) (.swap engine under [])
    have hitems : Restated [engine, under] [items, under] :=
      .array [] [under] "engine" .header [four, pause]
    have hbraces : Restated [items, under] [items, braces] :=
      .respelled [items] [] "observability" (.origin .header .inline [format])
    have hcolour : Restated [items, braces] [items, more] :=
      .unknownField [items] [] "observability" .inline [] [format] "colour" (.boolean true)
        (by decide)
    have hextra : Restated [items, more] es' := .unknown [] [items, more] "extra" extra (by decide)
    exact .trans _ _ _ (.rel _ _ horder) (.trans _ _ _ (.rel _ _ hitems) (.trans _ _ _
      (.rel _ _ hbraces) (.trans _ _ _ (.rel _ _ hcolour) (.rel _ _ hextra))))
  obtain ⟨c, -, hmerged, hload, hother⟩ := partial_settings_merge hparsed hsuits
  refine ⟨c, hload, (hother curlyText es' hparsed' hsame).2, ?_, hmerged .chainId⟩
  obtain ⟨i, heq, hi⟩ := hmerged .pollInterval
  obtain rfl := Value.integer.inj heq
  exact UInt64.toNat_inj.mp (Int.ofNat_inj.mp hi.symm)

end Config

end TxRelay
