/-
  No table of a document has a key twice.

  This is what makes a lookup mean something: a key that is found stands there once, and the order
  of the entries does not matter.

  1. **Distinct.**  `Value.Distinct` says it of a value and of all tables inside it, and
     `Entries.Distinct` of the entries of one table.

  2. **Changes of a table.**  All changes are made of four: a new key at the end (`Distinct.add`),
     another value for a key that is there (`Distinct.replace`), a key left out
     (`Distinct.without`), and the same inside a table further down (`distinct_putDotted`,
     `distinct_atPath`).

  3. **Lines.**  The reader keeps three kinds of tables while it goes on: the tables that are
     finished, the one under the last header, and the one in braces that is being read.
     `Draft.Distinct` is about the first two, and each kind of line keeps it.

  4. **Reading.**  The third kind is read by functions that call each other, on one count of rounds;
     so one induction on the rounds proves what each of them gives (`readsDistinct`).

  The crux is in part 2: a table further down is put back at the key where it was found, so the keys
  of the outer table are the same, and only its values change (`keys_replace`).
-/
import Mathlib.Data.List.Nodup
import TxRelay.Toml.Reader

namespace TxRelay.Toml

/-- No table in the value has a key twice. -/
inductive Value.Distinct : Value → Prop
  | string (s : String) : Distinct (.string s)
  | integer (n : Int64) : Distinct (.integer n)
  | float (x : FloatLiteral) : Distinct (.float x)
  | boolean (b : Bool) : Distinct (.boolean b)
  | datetime : Distinct .datetime
  | array {vs : List Value} (items : ∀ v ∈ vs, Distinct v) : Distinct (.array vs)
  | table (o : Origin) {es : Entries} (keys : (es.map Prod.fst).Nodup)
      (values : ∀ p ∈ es, Distinct p.2) : Distinct (.table o es)
  | tables {ts : List Entries} (keys : ∀ es ∈ ts, (es.map Prod.fst).Nodup)
      (values : ∀ es ∈ ts, ∀ p ∈ es, Distinct p.2) : Distinct (.tables ts)

/-- No table in the entries has a key twice, and they have not either. -/
structure Entries.Distinct (es : Entries) : Prop where
  keys : (es.map Prod.fst).Nodup
  values : ∀ p ∈ es, p.2.Distinct

/-- The entries of a distinct table are distinct. -/
theorem Value.Distinct.entries {o : Origin} {es : Entries} (h : (Value.table o es).Distinct) :
    es.Distinct := by
  cases h with
  | table _ keys values => exact ⟨keys, values⟩

theorem Entries.Distinct.value {es : Entries} (h : es.Distinct) (o : Origin) :
    (Value.table o es).Distinct :=
  .table o h.keys h.values

/-- The last of distinct tables is distinct. -/
theorem Value.Distinct.last {ts : List Entries} (h : (Value.tables ts).Distinct) {last : Entries}
    (hlast : ts.getLast? = some last) : last.Distinct := by
  have hmem := List.mem_of_getLast? hlast
  cases h with
  | tables keys values => exact ⟨keys last hmem, values last hmem⟩

/-- One table more, or another for the last. -/
theorem Value.Distinct.snoc {ts before : List Entries} (h : (Value.tables ts).Distinct)
    (hsub : before ⊆ ts) {es : Entries} (hes : es.Distinct) :
    (Value.tables (before ++ [es])).Distinct := by
  cases h with
  | tables keys values =>
    refine .tables ?_ ?_
    · intro t ht
      rcases List.mem_append.mp ht with hbefore | hlast
      · exact keys t (hsub hbefore)
      · rw [List.mem_singleton.mp hlast]
        exact hes.keys
    · intro t ht
      rcases List.mem_append.mp ht with hbefore | hlast
      · exact values t (hsub hbefore)
      · rw [List.mem_singleton.mp hlast]
        exact hes.values

/-! ## Changes of a table -/

namespace Entries

variable {es es' : Entries} {key : String} {v : Value}

theorem distinct_nil : Distinct [] := ⟨List.nodup_nil, by simp⟩

/-- What is found for a key stands there under it. -/
theorem mem_of_find? (h : es.find? key = some v) : (key, v) ∈ es := by
  obtain ⟨p, hp, rfl⟩ := Option.map_eq_some_iff.mp h
  have hkey := List.find?_some hp
  obtain rfl := of_decide_eq_true hkey
  exact List.mem_of_find?_eq_some hp

/-- Nothing is found for a key that is not there. -/
theorem find?_eq_none_iff : es.find? key = none ↔ key ∉ es.map Prod.fst := by
  rw [find?, Option.map_eq_none_iff, List.find?_eq_none]
  simp only [decide_eq_true_eq, List.mem_map, not_exists, not_and]

/-- Where keys are distinct, a key is found with its own value. -/
theorem find?_of_mem (h : (es.map Prod.fst).Nodup) (hmem : (key, v) ∈ es) :
    es.find? key = some v := by
  cases hfind : es.find? key with
  | none => exact absurd (List.mem_map_of_mem hmem) (find?_eq_none_iff.mp hfind)
  | some w =>
    have hsame := List.inj_on_of_nodup_map h hmem (mem_of_find? hfind) rfl
    rw [(Prod.mk.inj hsame).2]

/-- What is found in a distinct table is distinct. -/
theorem Distinct.of_find? (h : es.Distinct) (hfind : es.find? key = some v) : v.Distinct :=
  h.values _ (mem_of_find? hfind)

/-- A new key at the end. -/
theorem Distinct.snoc (h : es.Distinct) (fresh : es.find? key = none) (hv : v.Distinct) :
    Distinct (es ++ [(key, v)]) := by
  constructor
  · rw [List.map_append, List.map_singleton]
    refine List.Nodup.append h.keys (List.nodup_singleton key) ?_
    exact List.disjoint_singleton.mpr (find?_eq_none_iff.mp fresh)
  · intro p hp
    rcases List.mem_append.mp hp with hold | hnew
    · exact h.values p hold
    · rw [List.mem_singleton.mp hnew]
      exact hv

/-- A key is added only if it is new. -/
theorem Distinct.add (h : es.Distinct) (hv : v.Distinct) (hadd : es.add key v = some es') :
    es'.Distinct := by
  unfold Entries.add at hadd
  split at hadd
  · cases hadd
  · rename_i hfresh
    obtain rfl := Option.some.inj hadd
    exact h.snoc (Option.not_isSome_iff_eq_none.mp hfresh) hv

/-- Another value leaves the keys as they are. -/
theorem keys_replace : (es.replace key v).map Prod.fst = es.map Prod.fst := by
  rw [replace, List.map_map]
  refine List.map_congr_left ?_
  intro p _
  show (if p.1 = key then (key, v) else p).1 = p.1
  split
  · rename_i heq
    exact heq.symm
  · rfl

/-- Another value for a key that is there. -/
theorem Distinct.replace (h : es.Distinct) (hv : v.Distinct) : (es.replace key v).Distinct := by
  constructor
  · rw [keys_replace]
    exact h.keys
  · intro p hp
    obtain ⟨q, hq, rfl⟩ := List.mem_map.mp hp
    split
    · exact hv
    · exact h.values q hq

/-- A key left out. -/
theorem Distinct.without (h : es.Distinct) : (es.without key).Distinct := by
  constructor
  · exact h.keys.sublist (List.filter_sublist.map Prod.fst)
  · intro p hp
    exact h.values p (List.mem_of_mem_filter hp)

end Entries

/-! ## Changes further down -/

/-- A value under a dotted key goes into a table of its own, or into the one that is there. -/
theorem distinct_putDotted {path : List String} {key : String} {v : Value} {es es' : Entries}
    (hv : v.Distinct) (h : es.Distinct) (hput : putDotted path key v es = some es') :
    es'.Distinct := by
  induction path generalizing es es' with
  | nil => exact h.add hv hput
  | cons p ps ih =>
    unfold putDotted at hput
    split at hput
    · -- nothing there: a table is made for the rest of the path
      rename_i hfresh
      obtain ⟨sub, hsub, rfl⟩ := Option.map_eq_some_iff.mp hput
      exact h.snoc hfresh ((ih Entries.distinct_nil hsub).value .dotted)
    · -- a table that is there, made by dotted keys
      rename_i sub hfind
      obtain ⟨sub', hsub, rfl⟩ := Option.map_eq_some_iff.mp hput
      exact h.replace ((ih (h.of_find? hfind).entries hsub).value .dotted)
    · rename_i sub hfind
      split at hput
      · cases hput
      · obtain ⟨sub', hsub, rfl⟩ := Option.map_eq_some_iff.mp hput
        exact h.replace ((ih (h.of_find? hfind).entries hsub).value .implied)
    · -- tables of an array: the last one is changed
      rename_i ts hfind
      split at hput
      · cases hput
      · split at hput
        · cases hput
        · rename_i last hlast
          obtain ⟨last', hlast', rfl⟩ := Option.map_eq_some_iff.mp hput
          have htables := h.of_find? hfind
          exact h.replace (htables.snoc (List.dropLast_subset ts) (ih (htables.last hlast) hlast'))
    · cases hput

/-- A change of a table further down. -/
theorem distinct_atPath {path : List String} {f : Entries → Option Entries} {es es' : Entries}
    (hf : ∀ {sub sub'}, Entries.Distinct sub → f sub = some sub' → sub'.Distinct)
    (h : es.Distinct) (hat : atPath path f es = some es') : es'.Distinct := by
  induction path generalizing es es' with
  | nil => exact hf h hat
  | cons p ps ih =>
    unfold atPath at hat
    split at hat
    · -- nothing there: a table is made for the rest of the path
      rename_i hfresh
      obtain ⟨sub, hsub, rfl⟩ := Option.map_eq_some_iff.mp hat
      exact h.snoc hfresh ((ih Entries.distinct_nil hsub).value .implied)
    · cases hat
    · -- a table that is there
      rename_i origin sub _ hfind
      obtain ⟨sub', hsub, rfl⟩ := Option.map_eq_some_iff.mp hat
      exact h.replace ((ih (h.of_find? hfind).entries hsub).value origin)
    · -- tables of an array: the last one is changed
      rename_i ts hfind
      split at hat
      · cases hat
      · rename_i last hlast
        obtain ⟨last', hlast', rfl⟩ := Option.map_eq_some_iff.mp hat
        have htables := h.of_find? hfind
        exact h.replace (htables.snoc (List.dropLast_subset ts) (ih (htables.last hlast) hlast'))
    · cases hat

/-- What a path leads to is distinct. -/
theorem distinct_lookup {path : List String} {es : Entries} {v : Value} (h : es.Distinct)
    (hlookup : lookup path es = some v) : v.Distinct := by
  induction path generalizing es v with
  | nil =>
    obtain rfl := Option.some.inj hlookup
    exact h.value .header
  | cons p ps ih =>
    unfold lookup at hlookup
    split at hlookup
    · rename_i origin sub hfind
      split at hlookup
      · exact h.of_find? hlookup
      · exact ih (h.of_find? hfind).entries hlookup
    · -- a path goes on in the last of the tables
      rename_i ts hfind
      split at hlookup
      · exact h.of_find? hlookup
      · refine ih ?_ hlookup
        cases hlast : ts.getLast? with
        | none => exact Entries.distinct_nil
        | some last => exact (h.of_find? hfind).last hlast
    · rename_i hother
      split at hlookup
      · exact h.of_find? hlookup
      · cases hlookup

/-! ## Lines -/

/-- The tables of a draft have no key twice. -/
structure Draft.Distinct (d : Draft) : Prop where
  root : d.root.Distinct
  current : d.current.Distinct

/-- The table under the last header is put into its place. -/
theorem Draft.Distinct.close {d : Draft} (h : d.Distinct) {es : Entries}
    (hclose : d.close = some es) : es.Distinct := by
  unfold Draft.close at hclose
  split at hclose
  · obtain rfl := Option.some.inj hclose
    exact h.current
  · rename_i key _
    refine distinct_atPath ?_ h.root hclose
    intro sub sub' hsub hput
    split at hput
    · split at hput
      · rename_i ts hfind
        obtain rfl := Option.some.inj hput
        exact hsub.replace ((hsub.of_find? hfind).snoc (List.Subset.refl ts) h.current)
      · cases hput
    · exact hsub.add (h.current.value .header) hput

/-- A line with a key and its value. -/
theorem Draft.Distinct.put {d d' : Draft} (h : d.Distinct) {path : List String} {key : String}
    {v : Value} (hv : v.Distinct) (hput : d.put path key v = some d') : d'.Distinct := by
  obtain ⟨current, hcurrent, rfl⟩ := Option.map_eq_some_iff.mp hput
  exact ⟨h.root, distinct_putDotted hv h.current hcurrent⟩

/-- A header of a table that is new, or was only mentioned. -/
theorem Draft.Distinct.openTable {d d' : Draft} (h : d.Distinct) {path : List String}
    (hopen : d.openTable path = some d') : d'.Distinct := by
  unfold Draft.openTable at hopen
  obtain ⟨root, hclose, hopen⟩ := Option.bind_eq_some_iff.mp hopen
  obtain ⟨key, -, hopen⟩ := Option.bind_eq_some_iff.mp hopen
  have hroot := h.close hclose
  -- What is left of the step once it is known with which entries the table begins.
  have hbegin : ∀ begun : Entries, begun.Distinct →
      ((atPath path.dropLast (fun es => some (es.without key)) root).bind fun root =>
        some (⟨root, path, false, begun⟩ : Draft)) = some d' → d'.Distinct := by
    intro begun hbegun hrest
    obtain ⟨root', hroot', heq⟩ := Option.bind_eq_some_iff.mp hrest
    obtain rfl := Option.some.inj heq
    refine ⟨distinct_atPath ?_ hroot hroot', hbegun⟩
    intro sub sub' hsub hwithout
    obtain rfl := Option.some.inj hwithout
    exact hsub.without
  dsimp only at hopen
  split at hopen
  · exact hbegin [] Entries.distinct_nil hopen
  · rename_i sub hlookup
    exact hbegin sub (distinct_lookup hroot hlookup).entries hopen
  · cases hopen

/-- A header of one more table of an array. -/
theorem Draft.Distinct.openRepeated {d d' : Draft} (h : d.Distinct) {path : List String}
    (hopen : d.openRepeated path = some d') : d'.Distinct := by
  unfold Draft.openRepeated at hopen
  obtain ⟨root, hclose, hopen⟩ := Option.bind_eq_some_iff.mp hopen
  obtain ⟨key, -, hopen⟩ := Option.bind_eq_some_iff.mp hopen
  obtain ⟨root', hroot', hopen⟩ := Option.bind_eq_some_iff.mp hopen
  obtain rfl := Option.some.inj hopen
  refine ⟨distinct_atPath ?_ (h.close hclose) hroot', Entries.distinct_nil⟩
  intro sub sub' hsub hbegin
  split at hbegin
  · rename_i hfresh
    obtain rfl := Option.some.inj hbegin
    exact hsub.snoc hfresh (.tables (by simp) (by simp))
  · obtain rfl := Option.some.inj hbegin
    exact hsub
  · cases hbegin

/-! ## Reading -/

/-- A value that is made of what a part of the reader found. -/
theorem distinct_of_map {α : Type} {found : Option α} {make : α → Value × List Char} {v : Value}
    {rest : List Char} (h : found.map make = some (v, rest))
    (hmake : ∀ r, found = some r → (make r).1.Distinct) : v.Distinct := by
  obtain ⟨r, hr, heq⟩ := Option.map_eq_some_iff.mp h
  have hvalue := hmake r hr
  rwa [heq] at hvalue

/-- A number has no tables in it. -/
theorem distinct_number {cs rest : List Char} {v : Value}
    (h : Number.read cs = some (v, rest)) : v.Distinct := by
  unfold Number.read at h
  split at h
  · cases h
    exact .datetime
  · split at h
    · cases h
      exact .float _
    · exact distinct_of_map h fun r _ => .integer _

/-- What is read in so many rounds has no key twice in a table. -/
structure ReadsDistinct (rounds : Nat) : Prop where
  value : ∀ {depth cs v rest}, value rounds depth cs = some (v, rest) → v.Distinct
  items : ∀ {depth cs vs rest}, items rounds depth cs = some (vs, rest) → ∀ v ∈ vs, v.Distinct
  pairs : ∀ {depth es cs es' rest}, Entries.Distinct es →
    pairs rounds depth es cs = some (es', rest) → es'.Distinct

/-- Every value that is read is distinct, by induction on the rounds. -/
theorem readsDistinct (rounds : Nat) : ReadsDistinct rounds := by
  induction rounds with
  -- without rounds nothing is read
  | zero =>
    constructor
    · intro depth cs v rest h
      cases h
    · intro depth cs vs rest h
      cases h
    · intro depth es cs es' rest _ h
      cases h
  | succ rounds ih =>
    constructor
    · -- a value
      intro depth cs v rest h
      unfold TxRelay.Toml.value at h
      split at h
      · cases h
      · exact distinct_of_map h fun r _ => .string _
      · exact distinct_of_map h fun r _ => .string _
      · exact distinct_of_map h fun r _ => .boolean _
      · exact distinct_of_map h fun r _ => .boolean _
      · split at h
        · cases h
        · exact distinct_of_map h fun r hr => .array (ih.items hr)
      · split at h
        · cases h
        · split at h
          · cases h
            exact Entries.distinct_nil.value .inline
          · refine distinct_of_map h fun r hr => ?_
            exact (ih.pairs Entries.distinct_nil hr).value .inline
      · exact distinct_number h
    · -- the items of an array
      intro depth cs vs rest h
      unfold TxRelay.Toml.items at h
      split at h
      · cases h
      · cases h
        simp
      · split at h
        · cases h
        · rename_i v cs' hv
          split at h
          · obtain ⟨r, hr, heq⟩ := Option.map_eq_some_iff.mp h
            cases heq
            exact List.forall_mem_cons.mpr ⟨ih.value hv, ih.items hr⟩
          · cases h
            exact List.forall_mem_singleton.mpr (ih.value hv)
          · cases h
    · -- the entries of a table in braces, put one after the other
      intro depth es cs es' rest hes h
      unfold TxRelay.Toml.pairs at h
      split at h
      · split at h
        · cases h
        · rename_i v cs' hv
          split at h
          · cases h
          · rename_i es₁ hput
            have hnext := distinct_putDotted (ih.value hv) hes hput
            split at h
            · exact ih.pairs hnext h
            · cases h
              exact hnext
            · cases h
      · cases h

/-- A line with a header, of either kind. -/
theorem Draft.Distinct.header {d d' : Draft} (h : d.Distinct) {cs rest : List Char}
    (hheader : header d cs = some (d', rest)) : d'.Distinct := by
  unfold TxRelay.Toml.header at hheader
  split at hheader
  · obtain ⟨⟨path, last, cs'⟩, -, hrest⟩ := Option.bind_eq_some_iff.mp hheader
    split at hrest
    · obtain ⟨opened, hopened, heq⟩ := Option.bind_eq_some_iff.mp hrest
      cases heq
      exact h.openRepeated hopened
    · cases hrest
  · obtain ⟨⟨path, last, cs'⟩, -, hrest⟩ := Option.bind_eq_some_iff.mp hheader
    split at hrest
    · obtain ⟨opened, hopened, heq⟩ := Option.bind_eq_some_iff.mp hrest
      cases heq
      exact h.openTable hopened
    · cases hrest
  · cases hheader

/-- A line with an entry. -/
theorem Draft.Distinct.entry {d d' : Draft} (h : d.Distinct) {cs rest : List Char}
    (hentry : entry d cs = some (d', rest)) : d'.Distinct := by
  unfold TxRelay.Toml.entry at hentry
  obtain ⟨⟨path, last, cs'⟩, -, hrest⟩ := Option.bind_eq_some_iff.mp hentry
  split at hrest
  · obtain ⟨⟨v, cs''⟩, hv, hrest⟩ := Option.bind_eq_some_iff.mp hrest
    obtain ⟨next, hnext, heq⟩ := Option.bind_eq_some_iff.mp hrest
    cases heq
    exact h.put ((readsDistinct _).value hv) hnext
  · cases hrest

/-- All lines, one after another. -/
theorem Draft.Distinct.lines {rounds : Nat} {d d' : Draft} {cs : List Char} (h : d.Distinct)
    (hlines : lines rounds d cs = some d') : d'.Distinct := by
  induction rounds generalizing d cs with
  | zero =>
    obtain rfl := Option.some.inj hlines
    exact h
  | succ rounds ih =>
    unfold TxRelay.Toml.lines at hlines
    split at hlines
    · obtain rfl := Option.some.inj hlines
      exact h
    · -- a comment
      obtain ⟨cs', -, hrest⟩ := Option.bind_eq_some_iff.mp hlines
      exact ih h hrest
    · -- a header, and the end of its line
      obtain ⟨⟨next, cs'⟩, hnext, hrest⟩ := Option.bind_eq_some_iff.mp hlines
      obtain ⟨cs'', -, hrest⟩ := Option.bind_eq_some_iff.mp hrest
      exact ih (h.header hnext) hrest
    · -- an empty line, or an entry
      split at hlines
      · exact ih h hlines
      · obtain ⟨⟨next, cs'⟩, hnext, hrest⟩ := Option.bind_eq_some_iff.mp hlines
        obtain ⟨cs'', -, hrest⟩ := Option.bind_eq_some_iff.mp hrest
        exact ih (h.entry hnext) hrest

/-- **No table of a document has a key twice.** -/
theorem distinct_of_parse {s : String} {es : Entries} (h : parse s = some es) : es.Distinct := by
  unfold parse at h
  obtain ⟨d, hlines, hclose⟩ := Option.bind_eq_some_iff.mp h
  have hstart : Draft.Distinct {} := ⟨Entries.distinct_nil, Entries.distinct_nil⟩
  exact (hstart.lines hlines).close hclose

end TxRelay.Toml
