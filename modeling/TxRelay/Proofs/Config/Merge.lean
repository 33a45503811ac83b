/-
  Settings from a document that has only some of them.

  Each of the ten settings has a place, the name of a section and the name of a field in it, and a
  kind.

  1. **The ten settings.**  `Field` lists them, and `get` and `put` reach each in the settings, so
     that what is said of one field is said of all.

  2. **What a document says.**  `look` says what a document has at a place: the section's value is a
     table, or an array of the fields in the order of their declaration.  The settings of a document
     are merged from it and the defaults if each setting is what the document has at its place, and
     the default where it has nothing (`Merged`).

  3. **Values.**  Which values the readers of the four kinds accept, and as what
     (`Field.read_ok_iff`).

  4. **Going through a section.**  The reader goes through a section entry by entry and changes the
     settings as it goes.  What one entry does is said once for each section (`Part.puts`): it puts
     what its value means into the setting of its key.

  5. **The document.**  Whatever is read is merged (`merged_of_ofToml`), a document that suits is
     read (`exists_ofToml`), and there are no two settings merged from one document
     (`Merged.unique`).

  The crux is `says_foldlM`.  The reader folds over the entries while `Merged` looks up a key, and
  the two agree because no key comes twice, so a setting is put by one entry only.
-/
import TxRelay.Proofs.Config.RoundTrip
import TxRelay.Proofs.Toml.Distinct

namespace TxRelay.Config

open Toml (Value Entries)

/-! ## The ten settings -/

/-- What a setting is. -/
inductive Kind where
  | number
  | text
  | truth
  | format
deriving DecidableEq

/-- What settings of a kind hold. -/
def Kind.Content : Kind → Type
  | number => UInt64
  | text => String
  | truth => Bool
  | format => LogFormat

/-- What the values of a kind mean.  A format is written by its name, or as a table with the name
    as its only key and nothing in it. -/
def Kind.Means : (k : Kind) → Value → k.Content → Prop
  | number, v, n => ∃ i : Int64, v = .integer i ∧ i.toInt = UInt64.toNat n
  | text, v, s => v = .string s
  | truth, v, b => v = .boolean b
  | format, v, f =>
    v = .string (LogFormat.name f) ∨
      ∃ o content, v = .table o [(LogFormat.name f, content)] ∧ isHollow content = true

/-- A setting. -/
inductive Field where
  | workerThreads
  | pollInterval
  | defaultEndpoint
  | chainId
  | rpcTimeout
  | receiptTimeout
  | logLevel
  | logFormat
  | metricsEnabled
  | metricsAddress
deriving DecidableEq

namespace Field

/-- The settings in the order of their declaration. -/
def all : List Field :=
  [workerThreads, pollInterval, defaultEndpoint, chainId, rpcTimeout, receiptTimeout, logLevel,
    logFormat, metricsEnabled, metricsAddress]

/-- The names of the section and of the field in it. -/
def place : Field → String × String
  | workerThreads => ("engine", "worker_threads")
  | pollInterval => ("engine", "poll_interval_ms")
  | defaultEndpoint => ("network", "default_endpoint")
  | chainId => ("network", "chain_id")
  | rpcTimeout => ("network", "rpc_timeout_secs")
  | receiptTimeout => ("network", "receipt_timeout_secs")
  | logLevel => ("observability", "log_level")
  | logFormat => ("observability", "log_format")
  | metricsEnabled => ("observability", "metrics_enabled")
  | metricsAddress => ("observability", "metrics_address")

def kind : Field → Kind
  | workerThreads | pollInterval | chainId | rpcTimeout | receiptTimeout => .number
  | defaultEndpoint | logLevel | metricsAddress => .text
  | logFormat => .format
  | metricsEnabled => .truth

/-- The setting among all. -/
def get : (f : Field) → Config → f.kind.Content
  | workerThreads, c => c.engine.workerThreads
  | pollInterval, c => c.engine.pollInterval
  | defaultEndpoint, c => c.network.defaultEndpoint
  | chainId, c => c.network.chainId
  | rpcTimeout, c => c.network.rpcTimeout
  | receiptTimeout, c => c.network.receiptTimeout
  | logLevel, c => c.observability.logLevel
  | logFormat, c => c.observability.logFormat
  | metricsEnabled, c => c.observability.metricsEnabled
  | metricsAddress, c => c.observability.metricsAddress

/-- The settings with another value for one. -/
def put : (f : Field) → f.kind.Content → Config → Config
  | workerThreads, n, c => { c with engine := { c.engine with workerThreads := n } }
  | pollInterval, n, c => { c with engine := { c.engine with pollInterval := n } }
  | defaultEndpoint, s, c => { c with network := { c.network with defaultEndpoint := s } }
  | chainId, n, c => { c with network := { c.network with chainId := n } }
  | rpcTimeout, n, c => { c with network := { c.network with rpcTimeout := n } }
  | receiptTimeout, n, c => { c with network := { c.network with receiptTimeout := n } }
  | logLevel, s, c => { c with observability := { c.observability with logLevel := s } }
  | logFormat, f, c => { c with observability := { c.observability with logFormat := f } }
  | metricsEnabled, b, c => { c with observability := { c.observability with metricsEnabled := b } }
  | metricsAddress, s, c => { c with observability := { c.observability with metricsAddress := s } }

/-- A setting that was put is there. -/
theorem get_put_self (f : Field) (a : f.kind.Content) (c : Config) : f.get (f.put a c) = a := by
  cases f <;> rfl

/-- To put one setting changes no other. -/
theorem get_put_other {f g : Field} (h : f ≠ g) (a : g.kind.Content) (c : Config) :
    f.get (g.put a c) = f.get c := by
  cases f <;> cases g <;> first | rfl | exact absurd rfl h

theorem find?_place (f : Field) : all.find? (·.place = f.place) = some f := by
  cases f <;> decide

/-- No two settings have the same place. -/
theorem place_injective : Function.Injective place := by
  intro f g h
  have hsame : some f = some g := by rw [← find?_place f, h, find?_place g]
  exact Option.some.inj hsame

theorem mem_all (f : Field) : f ∈ all := by cases f <;> decide

/-- The ten settings are all there are. -/
theorem ext {c d : Config} (h : ∀ f : Field, f.get c = f.get d) : c = d := by
  obtain ⟨⟨c1, c2⟩, ⟨c3, c4, c5, c6⟩, ⟨c7, c8, c9, c10⟩⟩ := c
  obtain ⟨⟨d1, d2⟩, ⟨d3, d4, d5, d6⟩, ⟨d7, d8, d9, d10⟩⟩ := d
  obtain rfl : c1 = d1 := h workerThreads
  obtain rfl : c2 = d2 := h pollInterval
  obtain rfl : c3 = d3 := h defaultEndpoint
  obtain rfl : c4 = d4 := h chainId
  obtain rfl : c5 = d5 := h rpcTimeout
  obtain rfl : c6 = d6 := h receiptTimeout
  obtain rfl : c7 = d7 := h logLevel
  obtain rfl : c8 = d8 := h logFormat
  obtain rfl : c9 = d9 := h metricsEnabled
  obtain rfl : c10 = d10 := h metricsAddress
  rfl

end Field

/-- The names of the sections. -/
def sectionNames : List String := ["engine", "network", "observability"]

/-- The names of a section's fields in the order of their declaration. -/
def fieldsOf (name : String) : List String :=
  (Field.all.filter (·.place.1 = name)).map (·.place.2)

/-! ## What a document says -/

/-- The fields that a section's value has, by their names. -/
def entriesIn (fields : List String) : Value → Entries
  | .table _ es => es
  | .array vs => fields.zip vs
  | .tables ts => fields.zip (ts.map (.table .header))
  | _ => []

theorem mem_fieldsOf (f : Field) : f.place.2 ∈ fieldsOf f.place.1 :=
  List.mem_map.mpr ⟨f, List.mem_filter.mpr ⟨f.mem_all, decide_eq_true rfl⟩, rfl⟩

/-- What a document has at the place of a setting. -/
def look (es : Entries) (f : Field) : Option Value :=
  (es.find? f.place.1).bind fun v => (entriesIn (fieldsOf f.place.1) v).find? f.place.2

/-- A section is a table or an array. -/
def IsSection : Value → Prop
  | .table _ _ | .array _ | .tables _ => True
  | _ => False

/-- Every known key that is there has a value of its type and range. -/
structure Suits (es : Entries) : Prop where
  sections : ∀ name ∈ sectionNames, ∀ v, es.find? name = some v → IsSection v
  fields : ∀ f v, look es f = some v → ∃ a, f.kind.Means v a

/-- A setting is what is said of it, and the default if nothing is. -/
def Says {α : Type} (means : Value → α → Prop) (said : Option Value) (default a : α) : Prop :=
  match said with
  | none => a = default
  | some v => means v a

/-- Each setting is what the document has at its place, and the default where it has nothing. -/
def Merged (es : Entries) (c : Config) : Prop :=
  ∀ f : Field, Says f.kind.Means (look es f) (f.get {}) (f.get c)

/-! ## Values -/

/-- A number is read from a whole number that is not negative and fits. -/
theorem readNumber_ok_iff {wanted : String} {v : Value} {n : UInt64} :
    readNumber wanted v = .ok n ↔ Kind.number.Means v n := by
  constructor
  · intro h
    unfold readNumber at h
    split at h
    · rename_i i
      split at h
      · cases h
      · obtain rfl := Except.ok.inj h
        have hlt := Int64.toInt_lt i
        -- a number with a sign that is not negative has a place among those without
        have hsmall : i.toInt.toNat < 18446744073709551616 := by omega
        refine ⟨i, rfl, ?_⟩
        rw [UInt64.toNat_ofNat_of_lt' hsmall]
        omega
    · cases h
  · rintro ⟨i, rfl, hi⟩
    have hnonneg : ¬ i.toInt < 0 := by omega
    rw [readNumber, if_neg hnonneg, hi, Int.toNat_natCast, UInt64.ofNat_toNat]

/-- A text is read from a string. -/
theorem readText_ok_iff {v : Value} {s : String} : readText v = .ok s ↔ Kind.text.Means v s := by
  constructor
  · intro h
    unfold readText at h
    split at h
    · exact congrArg Value.string (Except.ok.inj h)
    · cases h
  · rintro rfl
    rfl

/-- A truth value is read from a truth value. -/
theorem readBool_ok_iff {v : Value} {b : Bool} : readBool v = .ok b ↔ Kind.truth.Means v b := by
  constructor
  · intro h
    unfold readBool at h
    split at h
    · exact congrArg Value.boolean (Except.ok.inj h)
    · cases h
  · rintro rfl
    rfl

/-- A format is known by its name. -/
theorem namedFormat_ok_iff {name : String} {f : LogFormat} :
    namedFormat name = .ok f ↔ name = f.name := by
  constructor
  · intro h
    unfold namedFormat LogFormat.ofName? at h
    split at h
    · rename_i g hg
      obtain rfl := Except.ok.inj h
      split at hg
      · obtain rfl := Option.some.inj hg
        rfl
      · obtain rfl := Option.some.inj hg
        rfl
      · cases hg
    · cases h
  · rintro rfl
    cases f
    · rfl
    · rfl

/-- A format is read from its name, or from a table with its name as the one key. -/
theorem readFormat_ok_iff {v : Value} {f : LogFormat} :
    readFormat v = .ok f ↔ Kind.format.Means v f := by
  constructor
  · intro h
    unfold readFormat at h
    split at h
    · exact .inl (congrArg Value.string (namedFormat_ok_iff.mp h))
    · cases h
    · -- a table with one key: the key is the name, and there is nothing under it
      rename_i o name content
      split at h
      · cases h
      · rename_i g hname
        split at h
        · rename_i hhollow
          obtain rfl := Except.ok.inj h
          obtain rfl := namedFormat_ok_iff.mp hname
          exact .inr ⟨o, content, rfl, hhollow⟩
        · cases h
    · cases h
    · cases h
  · rintro (rfl | ⟨o, content, rfl, hhollow⟩)
    · exact namedFormat_ok_iff.mpr rfl
    · have hname : namedFormat f.name = .ok f := namedFormat_ok_iff.mpr rfl
      simp only [readFormat, hname, hhollow, if_true]

/-- The reader of a setting's value. -/
def Field.read : (f : Field) → Value → Except Mismatch f.kind.Content
  | .workerThreads => readNumber "usize"
  | .pollInterval | .chainId | .rpcTimeout | .receiptTimeout => readNumber "u64"
  | .defaultEndpoint | .logLevel | .metricsAddress => readText
  | .logFormat => readFormat
  | .metricsEnabled => readBool

/-- A value is read as what it means. -/
theorem Field.read_ok_iff (f : Field) {v : Value} {a : f.kind.Content} :
    f.read v = .ok a ↔ f.kind.Means v a := by
  cases f with
  | workerThreads | pollInterval | chainId | rpcTimeout | receiptTimeout => exact readNumber_ok_iff
  | defaultEndpoint | logLevel | metricsAddress => exact readText_ok_iff
  | logFormat => exact readFormat_ok_iff
  | metricsEnabled => exact readBool_ok_iff

/-! ## Going through a section -/

section Fold

variable {α β : Type} {fields : List String} {set : String → Value → α → Except Mismatch α}

/-- What the reader does with an entry. -/
def step (fields : List String) (set : String → Value → α → Except Mismatch α) (a : α)
    (p : String × Value) : Except Mismatch α :=
  if p.1 ∈ fields then set p.1 p.2 a else .ok a

/-- A fold looks at the entries that are there. -/
theorem foldlM_congr {f g : α → String × Value → Except Mismatch α} {es : Entries} (start : α)
    (h : ∀ p ∈ es, ∀ a, f a p = g a p) : es.foldlM f start = es.foldlM g start := by
  induction es generalizing start with
  | nil => rfl
  | cons p es ih =>
    rw [List.foldlM_cons, List.foldlM_cons, h p List.mem_cons_self]
    refine bind_congr fun a => ?_
    exact ih a fun q hq => h q (List.mem_cons_of_mem p hq)

theorem step_zip {vs : List Value} (start : α) :
    (fields.zip vs).foldlM (fun a p => set p.1 p.2 a) start =
      (fields.zip vs).foldlM (step fields set) start := by
  refine foldlM_congr start fun p hp a => ?_
  rw [step, if_pos (List.of_mem_zip hp).1]

/-- A section is read entry by entry, however it is written. -/
theorem readFields_eq {name : String} {v : Value} (h : IsSection v) (start : α) :
    readFields name fields set start v = (entriesIn fields v).foldlM (step fields set) start := by
  cases v with
  | table _ es => rfl
  | array vs => exact step_zip start
  | tables ts =>
    show (fields.zip ts).foldlM (fun a p => set p.1 (.table .header p.2) a) start =
      (fields.zip (ts.map (Value.table .header))).foldlM (step fields set) start
    rw [← step_zip, List.zip_map_right, List.foldlM_map]
    rfl
  | datetime | string _ | integer _ | float _ | boolean _ => exact False.elim h

/-- What is read at all is read entry by entry. -/
theorem foldlM_of_readFields {name : String} {v : Value} {start a : α}
    (h : readFields name fields set start v = .ok a) :
    (entriesIn fields v).foldlM (step fields set) start = .ok a := by
  cases v with
  | table o es => exact (readFields_eq (v := .table o es) trivial start).symm.trans h
  | array vs => exact (readFields_eq (v := .array vs) trivial start).symm.trans h
  | tables ts => exact (readFields_eq (v := .tables ts) trivial start).symm.trans h
  | datetime => exact h
  | string _ | integer _ | float _ | boolean _ => cases h

/-- If every entry with a known key is accepted, all are read. -/
theorem exists_foldlM {es : Entries} (start : α)
    (h : ∀ p ∈ es, p.1 ∈ fields → ∀ a, ∃ b, set p.1 p.2 a = .ok b) :
    ∃ a, es.foldlM (step fields set) start = .ok a := by
  induction es generalizing start with
  | nil => exact ⟨start, rfl⟩
  | cons p es ih =>
    have hstep : ∃ b, step fields set start p = .ok b := by
      unfold step
      split
      · rename_i hknown
        exact h p List.mem_cons_self hknown start
      · exact ⟨start, rfl⟩
    obtain ⟨b, hb⟩ := hstep
    obtain ⟨a, ha⟩ := ih b fun q hq => h q (List.mem_cons_of_mem p hq)
    refine ⟨a, ?_⟩
    rw [List.foldlM_cons, hb]
    exact ha

/-- An entry with a known key sets the field of its key and no other. -/
def Sets (fields : List String) (set : String → Value → α → Except Mismatch α) (key : String)
    (means : Value → β → Prop) (get : α → β) : Prop :=
  ∀ k ∈ fields, ∀ v a b, set k v a = .ok b → if k = key then means v (get b) else get b = get a

/-- **A field is what the entries say of it**, as no key comes twice. -/
theorem says_foldlM {key : String} {means : Value → β → Prop} {get : α → β}
    (sets : Sets fields set key means get) (known : key ∈ fields) {es : Entries}
    (distinct : (es.map Prod.fst).Nodup) {start a : α}
    (h : es.foldlM (step fields set) start = .ok a) :
    Says means (es.find? key) (get start) (get a) := by
  induction es generalizing start with
  | nil =>
    obtain rfl := Except.ok.inj h
    rfl
  | cons p es ih =>
    obtain ⟨k, v⟩ := p
    obtain ⟨hfresh, hrest⟩ := List.nodup_cons.mp distinct
    rw [List.foldlM_cons] at h
    cases hb : step fields set start (k, v) with
    | error e =>
      rw [hb] at h
      cases h
    | ok b =>
      rw [hb] at h
      have hlater : Says means (Entries.find? es key) (get b) (get a) := ih hrest h
      by_cases hk : k = key
      · -- the entry of the key: no later one touches its setting
        subst hk
        have hset : set k v start = .ok b := by
          rw [← hb]
          exact (if_pos known).symm
        have hmeans := sets k known v start b hset
        rw [if_pos rfl] at hmeans
        have hnone : Entries.find? es k = none := Entries.find?_eq_none_iff.mpr hfresh
        rw [hnone] at hlater
        have hfirst : Entries.find? ((k, v) :: es) k = some v := by
          simp [Entries.find?]
        rw [hfirst]
        show means v (get a)
        rw [show get a = get b from hlater]
        exact hmeans
      · -- any other entry, of a field that is known or not
        have hkeep : get b = get start := by
          unfold step at hb
          split at hb
          · rename_i hk'
            have hother := sets k hk' v start b hb
            rwa [if_neg hk] at hother
          · obtain rfl := Except.ok.inj hb
            rfl
        have hskip : Entries.find? ((k, v) :: es) key = Entries.find? es key := by
          simp [Entries.find?, hk]
        rw [hskip, ← hkeep]
        exact hlater

end Fold

/-! ## The sections -/

/-- A section: how its fields are set, and where it stands among all settings. -/
structure Part (name : String) (α : Type) where
  struct : String
  set : String → Value → α → Except Mismatch α
  start : α
  /-- The defaults with the section in its place. -/
  embed : α → Config
  project : Config → α
  /-- An entry with the key of a setting puts what its value means into that setting. -/
  puts : ∀ f : Field, f.place.1 = name → ∀ v a,
    (set f.place.2 v a).map embed = (f.read v).map fun x => f.put x (embed a)
  embed_start : embed start = {}
  get_project : ∀ f : Field, f.place.1 = name → ∀ c, f.get (embed (project c)) = f.get c

def enginePart : Part "engine" EngineConfig where
  struct := "EngineConfig"
  set := setEngine
  start := {}
  embed e := { engine := e }
  project := Config.engine
  puts := by
    intro f hf v a
    cases f with
    | workerThreads | pollInterval =>
      show ((readNumber _ v).map _).map _ = (readNumber _ v).map _
      cases readNumber _ v <;> rfl
    | _ => exact absurd hf (by decide)
  embed_start := rfl
  get_project := by
    intro f hf c
    cases f with
    | workerThreads | pollInterval => rfl
    | _ => exact absurd hf (by decide)

def networkPart : Part "network" NetworkConfig where
  struct := "NetworkConfig"
  set := setNetwork
  start := {}
  embed n := { network := n }
  project := Config.network
  puts := by
    intro f hf v a
    cases f with
    | defaultEndpoint =>
      show ((readText v).map _).map _ = (readText v).map _
      cases readText v <;> rfl
    | chainId | rpcTimeout | receiptTimeout =>
      show ((readNumber _ v).map _).map _ = (readNumber _ v).map _
      cases readNumber _ v <;> rfl
    | _ => exact absurd hf (by decide)
  embed_start := rfl
  get_project := by
    intro f hf c
    cases f with
    | defaultEndpoint | chainId | rpcTimeout | receiptTimeout => rfl
    | _ => exact absurd hf (by decide)

def observabilityPart : Part "observability" ObservabilityConfig where
  struct := "ObservabilityConfig"
  set := setObservability
  start := {}
  embed o := { observability := o }
  project := Config.observability
  puts := by
    intro f hf v a
    cases f with
    | logLevel | metricsAddress =>
      show ((readText v).map _).map _ = (readText v).map _
      cases readText v <;> rfl
    | logFormat =>
      show ((readFormat v).map _).map _ = (readFormat v).map _
      cases readFormat v <;> rfl
    | metricsEnabled =>
      show ((readBool v).map _).map _ = (readBool v).map _
      cases readBool v <;> rfl
    | _ => exact absurd hf (by decide)
  embed_start := rfl
  get_project := by
    intro f hf c
    cases f with
    | logLevel | logFormat | metricsEnabled | metricsAddress => rfl
    | _ => exact absurd hf (by decide)

/-- A known key of a section is that of a setting. -/
theorem exists_field {name k : String} (hk : k ∈ fieldsOf name) :
    ∃ f : Field, f.place.1 = name ∧ f.place.2 = k := by
  obtain ⟨f, hf, hkey⟩ := List.mem_map.mp hk
  exact ⟨f, of_decide_eq_true (List.mem_filter.mp hf).2, hkey⟩

theorem nodup_fieldsOf (name : String) : (fieldsOf name).Nodup := by
  have hall : (Field.all.filter (·.place.1 = name)).Nodup :=
    List.Nodup.filter _ (by decide : Field.all.Nodup)
  refine List.Nodup.map_on ?_ hall
  intro f hf g hg hkey
  have hfname : f.place.1 = name := of_decide_eq_true (List.mem_filter.mp hf).2
  have hgname : g.place.1 = name := of_decide_eq_true (List.mem_filter.mp hg).2
  exact Field.place_injective (Prod.ext (hfname.trans hgname.symm) hkey)

theorem nodup_zip {names : List String} (h : names.Nodup) (vs : List Value) :
    ((names.zip vs).map Prod.fst).Nodup := by
  induction names generalizing vs with
  | nil => exact List.nodup_nil
  | cons name names ih =>
    obtain ⟨hfresh, hnames⟩ := List.nodup_cons.mp h
    cases vs with
    | nil => exact List.nodup_nil
    | cons v vs =>
      refine List.nodup_cons.mpr ⟨?_, ih hnames vs⟩
      intro hmem
      obtain ⟨p, hp, rfl⟩ := List.mem_map.mp hmem
      exact hfresh (List.of_mem_zip hp).1

/-- The fields of a section's value have distinct names. -/
theorem nodup_entriesIn (name : String) {v : Value} (h : v.Distinct) :
    ((entriesIn (fieldsOf name) v).map Prod.fst).Nodup := by
  cases v with
  | table o es => exact h.entries.keys
  | array vs => exact nodup_zip (nodup_fieldsOf name) vs
  | tables ts => exact nodup_zip (nodup_fieldsOf name) _
  | datetime | string _ | integer _ | float _ | boolean _ => exact List.nodup_nil

namespace Part

variable {name : String} {α : Type} (part : Part name α)

/-- The reader of a section. -/
def read (v : Value) : Except Mismatch α :=
  readFields part.struct (fieldsOf name) part.set part.start v

/-- An entry sets the setting of its key and no other. -/
theorem sets (f : Field) (hf : f.place.1 = name) :
    Sets (fieldsOf name) part.set f.place.2 f.kind.Means fun a => f.get (part.embed a) := by
  intro k hk v a b hset
  obtain ⟨g, hg, rfl⟩ := exists_field hk
  have hputs := part.puts g hg v a
  rw [hset] at hputs
  obtain ⟨x, hx, hput⟩ := map_ok hputs.symm
  show if g.place.2 = f.place.2 then f.kind.Means v (f.get (part.embed b)) else
    f.get (part.embed b) = f.get (part.embed a)
  rw [← hput]
  by_cases hsame : g = f
  · subst hsame
    rw [if_pos rfl, Field.get_put_self]
    exact g.read_ok_iff.mp hx
  · -- another field of the section has another name
    have hne : g.place.2 ≠ f.place.2 := by
      intro hkey
      exact hsame (Field.place_injective (Prod.ext (hg.trans hf.symm) hkey))
    rw [if_neg hne]
    exact Field.get_put_other (Ne.symm hsame) x (part.embed a)

/-- **A section is merged** from its value and the defaults. -/
theorem says_read {v : Value} (distinct : v.Distinct) {a : α} (h : part.read v = .ok a) (f : Field)
    (hf : f.place.1 = name) :
    Says f.kind.Means ((entriesIn (fieldsOf name) v).find? f.place.2) (f.get {})
      (f.get (part.embed a)) := by
  have hknown : f.place.2 ∈ fieldsOf name := hf ▸ mem_fieldsOf f
  have hsays := says_foldlM (part.sets f hf) hknown (nodup_entriesIn name distinct)
    (foldlM_of_readFields h)
  rwa [part.embed_start] at hsays

/-- **A section is read** if its known fields mean something. -/
theorem exists_read {v : Value} (distinct : v.Distinct) (hsection : IsSection v)
    (hfields : ∀ f : Field, f.place.1 = name → ∀ w,
      (entriesIn (fieldsOf name) v).find? f.place.2 = some w → ∃ x, f.kind.Means w x) :
    ∃ a, part.read v = .ok a := by
  rw [read, readFields_eq hsection]
  refine exists_foldlM part.start ?_
  intro p hp hk a
  obtain ⟨f, hf, hkey⟩ := exists_field hk
  obtain ⟨x, hx⟩ := hfields f hf p.2 (by
    rw [hkey]
    exact Toml.Entries.find?_of_mem (nodup_entriesIn name distinct) hp)
  have hputs := part.puts f hf p.2 a
  rw [f.read_ok_iff.mpr hx, hkey] at hputs
  obtain ⟨b, hb, -⟩ := map_ok hputs
  exact ⟨b, hb⟩

/-- What the section's value says is what the document says. -/
theorem says_look {es : Entries} (distinct : es.Distinct) {c : Config}
    (h : Says (fun v a => part.read v = .ok a) (es.find? name) part.start (part.project c))
    (f : Field) (hf : f.place.1 = name) :
    Says f.kind.Means (look es f) (f.get {}) (f.get c) := by
  rw [look, hf, ← part.get_project f hf c]
  cases hfind : es.find? name with
  | none =>
    rw [hfind] at h
    show f.get (part.embed (part.project c)) = f.get {}
    rw [show part.project c = part.start from h, part.embed_start]
  | some v =>
    rw [hfind] at h
    exact part.says_read (distinct.of_find? hfind) h f hf

end Part

/-! ## The document -/

/-- An entry with the name of a section sets that section and no other. -/
theorem setSection_ok {k : String} {v : Value} {c d : Config} (hk : k ∈ sectionNames)
    (h : setSection k v c = .ok d) :
    (if k = "engine" then enginePart.read v = .ok d.engine else d.engine = c.engine) ∧
    (if k = "network" then networkPart.read v = .ok d.network else d.network = c.network) ∧
    (if k = "observability" then observabilityPart.read v = .ok d.observability
      else d.observability = c.observability) := by
  simp only [sectionNames, List.mem_cons, List.not_mem_nil, or_false] at hk
  rcases hk with rfl | rfl | rfl
  · obtain ⟨e, he, rfl⟩ := map_ok h
    exact ⟨he, rfl, rfl⟩
  · obtain ⟨n, hn, rfl⟩ := map_ok h
    exact ⟨rfl, hn, rfl⟩
  · obtain ⟨o, ho, rfl⟩ := map_ok h
    exact ⟨rfl, rfl, ho⟩

/-- The section of a setting is one of the three. -/
theorem section_mem (f : Field) : f.place.1 ∈ sectionNames := by
  cases f <;> decide

/-- **The settings that are read are merged** from the document and the defaults. -/
theorem merged_of_ofToml {es : Entries} (distinct : es.Distinct) {c : Config}
    (h : ofToml es = .ok c) : Merged es c := by
  have hfold : es.foldlM (step sectionNames setSection) {} = .ok c := h
  have hengine : Sets sectionNames setSection "engine" (fun v e => enginePart.read v = .ok e)
      Config.engine := fun k hk v a b hset => (setSection_ok hk hset).1
  have hnetwork : Sets sectionNames setSection "network" (fun v n => networkPart.read v = .ok n)
      Config.network := fun k hk v a b hset => (setSection_ok hk hset).2.1
  have hobservability : Sets sectionNames setSection "observability"
      (fun v o => observabilityPart.read v = .ok o) Config.observability :=
    fun k hk v a b hset => (setSection_ok hk hset).2.2
  intro f
  have hsection := section_mem f
  simp only [sectionNames, List.mem_cons, List.not_mem_nil, or_false] at hsection
  -- each setting is in one of the three sections
  rcases hsection with hf | hf | hf
  · exact enginePart.says_look distinct
      (says_foldlM hengine (by decide) distinct.keys hfold) f hf
  · exact networkPart.says_look distinct
      (says_foldlM hnetwork (by decide) distinct.keys hfold) f hf
  · exact observabilityPart.says_look distinct
      (says_foldlM hobservability (by decide) distinct.keys hfold) f hf

/-- A document in which every known key has a value of its type and range gives a value to every
    section that it has. -/
theorem Suits.exists_read {es : Entries} (suits : Suits es) (distinct : es.Distinct) {name : String}
    {α : Type} (part : Part name α) (hname : name ∈ sectionNames) {v : Value}
    (hfind : es.find? name = some v) : ∃ a, part.read v = .ok a := by
  refine part.exists_read (distinct.of_find? hfind) (suits.sections name hname v hfind) ?_
  intro f hf w hw
  refine suits.fields f w ?_
  rw [look, hf, hfind]
  exact hw

/-- **A document is read** if every known key in it has a value of its type and range. -/
theorem exists_ofToml {es : Entries} (distinct : es.Distinct) (suits : Suits es) :
    ∃ c, ofToml es = .ok c := by
  have hfold : ∃ c, es.foldlM (step sectionNames setSection) {} = .ok c := by
    refine exists_foldlM ({} : Config) ?_
    intro p hp hname a
    have hfind : es.find? p.1 = some p.2 := Toml.Entries.find?_of_mem distinct.keys hp
    obtain ⟨name, v⟩ := p
    have hcases := hname
    simp only [sectionNames, List.mem_cons, List.not_mem_nil, or_false] at hcases
    rcases hcases with rfl | rfl | rfl
    · obtain ⟨e, he⟩ := suits.exists_read distinct enginePart hname hfind
      exact ⟨{ a with engine := e }, congrArg (Except.map _) he⟩
    · obtain ⟨n, hn⟩ := suits.exists_read distinct networkPart hname hfind
      exact ⟨{ a with network := n }, congrArg (Except.map _) hn⟩
    · obtain ⟨o, ho⟩ := suits.exists_read distinct observabilityPart hname hfind
      exact ⟨{ a with observability := o }, congrArg (Except.map _) ho⟩
  exact hfold

/-- A value of a setting means one thing at most. -/
theorem Field.means_unique (f : Field) {v : Value} {a b : f.kind.Content} (ha : f.kind.Means v a)
    (hb : f.kind.Means v b) : a = b :=
  Except.ok.inj ((f.read_ok_iff.mpr ha).symm.trans (f.read_ok_iff.mpr hb))

/-- **What a document is merged to is one configuration.** -/
theorem Merged.unique {es : Entries} {c d : Config} (hc : Merged es c) (hd : Merged es d) :
    c = d := by
  refine Field.ext fun f => ?_
  have hcf := hc f
  have hdf := hd f
  cases hlook : look es f with
  | none =>
    rw [hlook] at hcf hdf
    exact (show f.get c = f.get {} from hcf).trans (show f.get d = f.get {} from hdf).symm
  | some v =>
    rw [hlook] at hcf hdf
    exact f.means_unique hcf hdf

end TxRelay.Config
