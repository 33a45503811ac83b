/-
  What the configured level does to the filter.

  Without a filter from the environment, the text `tx_relay=` and the configured level is read as a
  list of directives.  What the level is meant to be is the first of them, up to a comma; the rest
  of the text, if there is any, is more directives.

      spec    exactly one directive, for the program's own target, at the configured level
      rule    no rule of the settings looks at the level, so every text gets here

  1. **The first directive.**  The text up to the first comma is read as a directive for the own
     target at what stands behind the equals sign, or it is dropped (`ofText_own`).  A directive is
     read character by character, and levels and names are cut out of the text at places that are
     counted in bytes; the mark in front is of characters of one byte each, so its places are its
     numbers (`places_ownMark`, `cutAt_append`).

  2. **The list.**  The directives are the first and those of the pieces behind the commas
     (`readable_own`).

  3. **The set.**  A directive takes the place of an earlier one for the same place, and none is
     lost otherwise (`mem_add`, `exists_samePlace`).

  4. **The filter.**  It is what it should be exactly if all directives are for the own target and
     the last of them is at the level (`ofEnvironment_eq_only`).

  So a level that is one of the known names, in any case, does what it should (`named_level`).  A
  text that is none is dropped, and errors of every target are kept instead; a text with a comma
  brings directives for other targets with it (`level_lost`).

  The crux is `ofDirectives_eq_only`: a set of directives is a single one exactly if all of them are
  for the same place, and then the last one counts.  One direction is an induction on the list; the
  other needs that a place never leaves the set, so a directive for another place would still be
  there.
-/
import Mathlib.Data.List.Induction
import TxRelay.LogFilter
import TxRelay.Proofs.Config.Rules

namespace TxRelay

/-! ## Levels -/

namespace Level

/-- A text is the name of a level, in upper or lower case. -/
def Names (text : String) (l : Level) : Prop := text.toList.map Char.toLower = l.name.toList

instance (text : String) (l : Level) : Decidable (Names text l) :=
  inferInstanceAs (Decidable (_ = _))

/-- The level that stands behind the equals sign of a directive; no text there is `trace`. -/
def configured? (text : String) : Option Level :=
  if text.isEmpty then some .trace else ofText? text

/-- A sign or a digit is no letter of either case. -/
theorem toLower_ne_letter {c d : Char} (hc : c = '+' ∨ c.isDigit = true) (hd : d.isAlpha = true) :
    c.toLower ≠ d := by
  -- neither a plus sign nor a digit has another case
  have hsame : c.toLower = c := by
    cases hc with
    | inl hplus => rw [hplus]; decide
    | inr hdigit =>
      simp only [Char.isDigit, Bool.and_eq_true, decide_eq_true_eq] at hdigit
      unfold Char.toLower
      rw [dif_neg]
      intro hupper
      exact absurd (UInt32.le_trans hupper.1 hdigit.2) (by decide)
  rw [hsame]
  rintro rfl
  cases hc with
  | inl hplus =>
    rw [hplus] at hd
    exact absurd hd (by decide)
  | inr hdigit =>
    unfold Char.isAlpha Char.isUpper Char.isLower at hd
    simp only [Char.isDigit, Bool.and_eq_true, Bool.or_eq_true, decide_eq_true_eq] at hd hdigit
    cases hd with
    | inl hupper => exact absurd (UInt32.le_trans hupper.1 hdigit.2) (by decide)
    | inr hlower => exact absurd (UInt32.le_trans hlower.1 hdigit.2) (by decide)

/-- The name of a level begins with a letter, so it is not read as a number. -/
theorem unsigned?_of_names {text : String} {l : Level} (h : Names text l) :
    Text.unsigned? text = none := by
  obtain ⟨d, ds, hname, hletter⟩ : ∃ d ds, l.name.toList = d :: ds ∧ d.isAlpha = true := by
    cases l <;> exact ⟨_, _, rfl, by decide⟩
  rw [Names, hname] at h
  cases hcs : text.toList with
  | nil =>
    rw [hcs] at h
    cases h
  | cons c cs =>
    rw [hcs, List.map_cons] at h
    have hfirst := (List.cons.inj h).1
    unfold Text.unsigned?
    rw [hcs]
    dsimp only
    split
    · -- a number begins with a plus sign or a digit, and a name with a letter
      rename_i heq
      exact absurd hfirst (toLower_ne_letter (.inl (List.cons.inj heq).1) hletter)
    · rw [if_neg]
      rintro ⟨-, hall, -⟩
      have hdigit : c.isDigit = true := List.all_eq_true.mp hall c List.mem_cons_self
      exact toLower_ne_letter (.inr hdigit) hletter hfirst

theorem configured?_of_names {text : String} {l : Level} (h : Names text l) :
    configured? text = some l := by
  have hnonempty : text.isEmpty = false := by
    cases hempty : text.isEmpty with
    | false => rfl
    | true =>
      rw [String.isEmpty_iff] at hempty
      subst hempty
      exact absurd h (by cases l <;> decide)
  rw [configured?, if_neg (by simp [hnonempty]), ofText?, unsigned?_of_names h]
  dsimp only
  rw [if_neg (by simp [hnonempty])]
  have hfind : (all.find? fun m => m.name.toList = text.toList.map Char.toLower) =
      all.find? fun m => m.name.toList = l.name.toList := by rw [h]
  rw [hfind]
  cases l <;> decide

end Level

/-! ## A directive for the own target -/

namespace Directive

/-- The directive for the program's own target. -/
def own (l : Level) : Directive := { target := some LogFilter.ownTarget, level := l }

/-- The directive is for the program's own target, whatever its level. -/
def IsOwn (d : Directive) : Prop :=
  d.target = some LogFilter.ownTarget ∧ d.span = none ∧ d.fields = []

instance (d : Directive) : Decidable d.IsOwn := inferInstanceAs (Decidable (_ ∧ _ ∧ _))

theorem isOwn_iff {d : Directive} : d.IsOwn ↔ d = own d.level := by
  obtain ⟨target, span, fields, level⟩ := d
  simp [IsOwn, own]

/-- The mark in front of the configured level. -/
def ownMark : List Char := ['t', 'x', '_', 'r', 'e', 'l', 'a', 'y', '=']

theorem toList_ownMark (s : String) :
    (LogFilter.ownTarget ++ "=" ++ s).toList = ownMark ++ s.toList := by
  rw [String.toList_append]
  rfl

/-- Behind the equals sign every character belongs to the level. -/
theorem foldlM_level (text : List Char) (since : Nat) (d : Directive) (ps : List (Char × Nat)) :
    ps.foldlM (fun r p => advance text r p.1 p.2) ⟨.level since, d⟩ =
      .ok ⟨.level since, d⟩ := by
  induction ps with
  | nil => rfl
  | cons p ps ih => exact ih

/-- Characters of one byte each are cut off at their number. -/
theorem cutAt_append {pre : List Char} (narrow : pre.all (·.utf8Size = 1) = true)
    (cs : List Char) : cutAt (pre ++ cs) pre.length = .ok (pre, cs) := by
  induction pre with
  | nil => cases cs <;> rfl
  | cons c pre ih =>
    obtain ⟨hc, hothers⟩ := Bool.and_eq_true_iff.mp (List.all_cons ▸ narrow)
    have hc : c.utf8Size = 1 := of_decide_eq_true hc
    have hrest := ih hothers
    rw [List.cons_append, List.length_cons, cutAt, hc, if_pos (Nat.le_add_left 1 _),
      Nat.add_sub_cancel, hrest]
    rfl

theorem startsName_t : startsName 't' = true := by decide +kernel

/-- The places of the mark in front are those of its characters. -/
theorem places_ownMark (cs : List Char) :
    places 0 (ownMark ++ cs) = [('t', 0), ('x', 1), ('_', 2), ('r', 3), ('e', 4), ('l', 5),
      ('a', 6), ('y', 7), ('=', 8)] ++ places 9 cs := rfl

/-- The text with the mark in front is read up to the equals sign. -/
theorem foldlM_ownMark (cs cs' : List Char) :
    (places 0 (ownMark ++ cs')).foldlM (fun r p => advance (ownMark ++ cs) r p.1 p.2) {} =
      .ok ⟨.level 9, { target := some LogFilter.ownTarget }⟩ := by
  have hnarrow : LogFilter.ownTarget.toList.all (·.utf8Size = 1) = true := by decide
  have hcut : cutAt (ownMark ++ cs) 8 = .ok (LogFilter.ownTarget.toList, '=' :: cs) :=
    cutAt_append hnarrow ('=' :: cs)
  have hname : slice (ownMark ++ cs) 0 8 = .ok LogFilter.ownTarget := by
    rw [slice, hcut]
    rfl
  rw [places_ownMark, List.foldlM_append]
  have hmark : [('t', 0), ('x', 1), ('_', 2), ('r', 3), ('e', 4), ('l', 5), ('a', 6), ('y', 7),
      ('=', 8)].foldlM (fun r p => advance (ownMark ++ cs) r p.1 p.2) {} =
      .ok ⟨.level 9, { target := some LogFilter.ownTarget }⟩ := by
    simp [advance, startsName_t, hname, Except.map, bind, Except.bind, pure, Except.pure]
  rw [hmark]
  exact foldlM_level _ _ _ _

/-- Blanks at the end of the text are cut off, and the mark in front is not. -/
theorem trim_ownMark (s : String) :
    ∃ cs, (Text.trim (LogFilter.ownTarget ++ "=" ++ s)).toList = ownMark ++ cs := by
  have hfront : (ownMark ++ s.toList).dropWhile Text.isBlank = ownMark ++ s.toList := rfl
  have hback : ∃ cs, (ownMark ++ s.toList).reverse.dropWhile Text.isBlank =
      cs ++ ownMark.reverse := by
    rw [List.reverse_append, List.dropWhile_append]
    split
    · exact ⟨[], rfl⟩
    · exact ⟨_, rfl⟩
  obtain ⟨cs, hcs⟩ := hback
  refine ⟨cs.reverse, ?_⟩
  rw [Text.trim, String.toList_ofList, toList_ownMark, hfront, hcs, List.reverse_append,
    List.reverse_reverse]

/-- The own target at what is written behind the equals sign. -/
theorem ofText_own (s : String) :
    ofText (LogFilter.ownTarget ++ "=" ++ s) =
      (Level.configured? s).elim (.error .unreadable) fun l => .ok (own l) := by
  obtain ⟨cs, hcs⟩ := trim_ownMark s
  have hword : sliceFrom (ownMark ++ s.toList) 9 = .ok s := by
    have hcut : cutAt (ownMark ++ s.toList) 9 = .ok (ownMark, s.toList) :=
      cutAt_append (by decide) s.toList
    rw [sliceFrom, hcut]
    exact congrArg Except.ok String.ofList_toList
  rw [ofText, hcs, toList_ownMark, foldlM_ownMark]
  show (sliceFrom (ownMark ++ s.toList) 9).bind (atLevel _) = _
  rw [hword]
  show atLevel { target := some LogFilter.ownTarget } s = _
  rw [atLevel, Level.configured?]
  split
  · rfl
  · cases Level.ofText? s <;> rfl

/-! ## Sets of directives -/

theorem mem_insert {d e : Directive} {es : List Directive} :
    e ∈ insert d es ↔ e = d ∨ e ∈ es := by
  induction es with
  | nil => simp [insert]
  | cons x es ih =>
    unfold insert
    split
    · simp
    · simp only [List.mem_cons, ih]
      exact or_left_comm

theorem mem_add {d e : Directive} {es : List Directive} :
    e ∈ add es d ↔ e = d ∨ e ∈ es ∧ samePlace d e = false := by
  simp [add, mem_insert]

theorem samePlace_self (d : Directive) : samePlace d d = true := by simp [samePlace]

theorem samePlace_own {d : Directive} {l : Level} : samePlace d (own l) = true ↔ d.IsOwn := by
  simp only [samePlace, Bool.and_eq_true, decide_eq_true_eq, and_assoc]
  rfl

/-- Every place that a directive is for stays in the set. -/
theorem exists_samePlace {ds : List Directive} {d : Directive} (h : d ∈ ds) :
    ∃ e ∈ ds.foldl add [], samePlace d e = true := by
  induction ds using List.reverseRecOn with
  | nil => cases h
  | append_singleton ds last ih =>
    rw [List.foldl_append]
    show ∃ e ∈ add (ds.foldl add []) last, samePlace d e = true
    rcases List.mem_append.mp h with hbefore | hlast
    · obtain ⟨e, he, hplace⟩ := ih hbefore
      cases hsame : samePlace last e with
      | false => exact ⟨e, mem_add.mpr (.inr ⟨he, hsame⟩), hplace⟩
      | true =>
        -- the later directive is for that place too, and stands for both
        refine ⟨last, mem_add.mpr (.inl rfl), ?_⟩
        simp only [samePlace, Bool.and_eq_true, decide_eq_true_eq] at hplace hsame ⊢
        exact ⟨⟨hplace.1.1.trans hsame.1.1.symm, hplace.1.2.trans hsame.1.2.symm⟩,
          hplace.2.trans hsame.2.symm⟩
    · obtain rfl := List.mem_singleton.mp hlast
      exact ⟨d, mem_add.mpr (.inl rfl), samePlace_self d⟩

/-- Of directives for one place the last counts. -/
theorem foldl_add_own {ds : List Directive} (h : ∀ d ∈ ds, d.IsOwn) :
    ds.foldl add [] = ds.getLast?.toList := by
  induction ds using List.reverseRecOn with
  | nil => rfl
  | append_singleton ds last ih =>
    have hbefore : ∀ d ∈ ds, d.IsOwn := fun d hd => h d (List.mem_append_left _ hd)
    have hlast : last.IsOwn := h last (List.mem_append_right _ List.mem_cons_self)
    rw [List.foldl_append, ih hbefore, List.getLast?_append]
    show insert last (ds.getLast?.toList.filter fun e => !samePlace last e) = [last]
    cases hend : ds.getLast? with
    | none => rfl
    | some e =>
      have hown := isOwn_iff.mp (hbefore e (List.mem_of_getLast? hend))
      have hsame : samePlace last e = true := by
        rw [hown]
        exact samePlace_own.mpr hlast
      simp [hsame, insert]

end Directive

namespace LogFilter

open Directive (own IsOwn)

/-- The filter of a single directive that can be judged at once. -/
def only (d : Directive) : LogFilter := ⟨[d], []⟩

theorem isDynamic_own {d : Directive} (h : d.IsOwn) : d.isDynamic = false := by
  simp [Directive.isDynamic, h.2.1, h.2.2]

/-- **When directives are a single one for the own target**: all of them are for it, and the last
    has the level. -/
theorem ofDirectives_eq_only {ds : List Directive} {l : Level} :
    ofDirectives ds = only (own l) ↔
      (∀ d ∈ ds, d.IsOwn) ∧ ds.getLast?.map (·.level) = some l := by
  -- what remains when no directive looks at spans or fields
  have hstatic (h : ds.filter Directive.isDynamic = []) :
      ofDirectives ds = ⟨ds.foldl Directive.add [], []⟩ := by
    have hall : (ds.filter fun d => !d.isDynamic) = ds := by
      rw [List.filter_eq_self]
      intro d hd
      have hnot := List.filter_eq_nil_iff.mp h d hd
      simpa using hnot
    simp [ofDirectives, h, hall]
  constructor
  · intro h
    have hdynamics : (ds.filter Directive.isDynamic).foldl Directive.add [] = [] :=
      congrArg LogFilter.dynamics h
    have hnone : ds.filter Directive.isDynamic = [] := by
      rw [List.eq_nil_iff_forall_not_mem]
      intro d hd
      obtain ⟨e, he, -⟩ := Directive.exists_samePlace hd
      rw [hdynamics] at he
      cases he
    rw [hstatic hnone] at h
    have hstatics : ds.foldl Directive.add [] = [own l] := congrArg LogFilter.statics h
    have hown : ∀ d ∈ ds, d.IsOwn := by
      intro d hd
      obtain ⟨e, he, hsame⟩ := Directive.exists_samePlace hd
      rw [hstatics] at he
      obtain rfl := List.mem_singleton.mp he
      exact Directive.samePlace_own.mp hsame
    refine ⟨hown, ?_⟩
    rw [Directive.foldl_add_own hown] at hstatics
    cases hlast : ds.getLast? with
    | none =>
      rw [hlast] at hstatics
      cases hstatics
    | some d =>
      rw [hlast] at hstatics
      obtain rfl := (List.cons.inj hstatics).1
      rfl
  · rintro ⟨hown, hlevel⟩
    have hnone : ds.filter Directive.isDynamic = [] := by
      rw [List.filter_eq_nil_iff]
      intro d hd
      simp [isDynamic_own (hown d hd)]
    rw [hstatic hnone, Directive.foldl_add_own hown]
    obtain ⟨d, hlast, hd⟩ := Option.map_eq_some_iff.mp hlevel
    have hlevel := Directive.isOwn_iff.mp (hown d (List.mem_of_getLast? hlast))
    rw [hlast]
    show (⟨[d], []⟩ : LogFilter) = ⟨[own l], []⟩
    rw [hlevel, hd]

/-! ## The configured text -/

/-- The texts between the commas of the configured level. -/
def pieces (text : String) : List String := (text.toList.splitOn ',').map String.ofList

/-- The directives that the configured level stands for: the own target at the first piece, if
    that is a level, and whatever the other pieces say.  Nothing if one of these breaks the program
    off. -/
def configured (text : String) : Option (List Directive) :=
  (readable ((pieces text).tail.filter fun p => !p.isEmpty)).map fun ds =>
    (((pieces text).head?.bind Level.configured?).map own).toList ++ ds

theorem splitOn_append {pre : List Char} (h : ',' ∉ pre) (cs : List Char) :
    (pre ++ cs).splitOn ',' = (cs.splitOn ',').modifyHead (pre ++ ·) := by
  induction pre with
  | nil =>
    show cs.splitOn ',' = (cs.splitOn ',').modifyHead id
    rw [List.modifyHead_id]
    rfl
  | cons c pre ih =>
    rw [List.mem_cons, not_or] at h
    have hc : (c == ',') = false := beq_eq_false_iff_ne.mpr (Ne.symm h.1)
    rw [List.cons_append, List.splitOn_eq_splitOnP, List.splitOnP_cons_eq_if_modifyHead, hc,
      ← List.splitOn_eq_splitOnP, ih h.2]
    simp [List.modifyHead_modifyHead, Function.comp_def]

theorem pieces_ne_nil (text : String) : pieces text ≠ [] := by
  intro hnil
  exact List.splitOnP_ne_nil _ _
    ((List.splitOn_eq_splitOnP).symm.trans (List.map_eq_nil_iff.mp hnil))

/-- The directives of the text that stands for the configured level. -/
theorem readable_own (text : String) :
    readable (parts (ownTarget ++ "=" ++ text)) = configured text := by
  obtain ⟨first, rest, hsplit⟩ := List.exists_cons_of_ne_nil
    (l := text.toList.splitOn ',') fun hnil => pieces_ne_nil text (by rw [pieces, hnil]; rfl)
  -- the mark in front has no comma, so it belongs to the first piece
  have hmark : ',' ∉ Directive.ownMark := by decide
  have hfirst : String.ofList (Directive.ownMark ++ first) =
      ownTarget ++ "=" ++ String.ofList first := by
    rw [← String.toList_inj, Directive.toList_ownMark, String.toList_ofList, String.toList_ofList]
  have hnonempty : (ownTarget ++ "=" ++ String.ofList first).isEmpty = false := by
    rw [Bool.eq_false_iff]
    intro hempty
    have hnil := congrArg String.toList (String.isEmpty_iff.mp hempty)
    rw [Directive.toList_ownMark] at hnil
    cases hnil
  rw [parts, Directive.toList_ownMark, splitOn_append hmark, hsplit, configured, pieces, hsplit]
  simp only [List.modifyHead_cons, List.map_cons, hfirst, List.head?_cons, List.tail_cons,
    Option.bind_some]
  rw [List.filter_cons_of_pos (by simp [hnonempty]), readable, Directive.ofText_own]
  cases Level.configured? (String.ofList first) with
  | none => exact Option.map_id'.symm
  | some l => rfl

/-- The filter of a run without a filter from the environment. -/
theorem ofEnvironment_none (text : String) :
    ofEnvironment none text =
      (configured text).map fun ds => if ds = [] then errors else ofDirectives ds := by
  rw [← readable_own]
  rfl

theorem errors_ne_own (l : Level) : errors ≠ only (own l) := by
  intro h
  exact nomatch (List.cons.inj (congrArg LogFilter.statics h)).1

theorem render_own (l : Level) : (only (own l)).render = ownTarget ++ "=" ++ l.name := by
  cases l <;> decide

/-- **When the filter is what it should be.** -/
theorem ofEnvironment_eq_only {text : String} {l : Level} :
    ofEnvironment none text = some (only (own l)) ↔
      ∃ ds, configured text = some ds ∧ (∀ d ∈ ds, d.IsOwn) ∧
        ds.getLast?.map (·.level) = some l := by
  rw [ofEnvironment_none, Option.map_eq_some_iff]
  refine exists_congr fun ds => and_congr_right fun _ => ?_
  by_cases hnil : ds = []
  · subst hnil
    rw [if_pos rfl]
    constructor
    · intro h
      exact absurd h (errors_ne_own l)
    · rintro ⟨-, hlevel⟩
      cases hlevel
  · rw [if_neg hnil]
    exact ofDirectives_eq_only

/-- A text without a comma is one piece. -/
theorem configured_single {text : String} (h : ',' ∉ text.toList) :
    configured text = some ((Level.configured? text).map own).toList := by
  have hpieces : pieces text = [text] := by
    have hnone : ∀ c ∈ text.toList, (c == ',') = false := by
      intro c hc
      rw [beq_eq_false_iff_ne]
      rintro rfl
      exact h hc
    rw [pieces, List.splitOn_eq_splitOnP, List.splitOnP_eq_singleton hnone]
    simp
  simp [configured, hpieces, readable]

theorem no_comma_of_names {text : String} {l : Level} (h : Level.Names text l) :
    ',' ∉ text.toList := by
  intro hc
  have hlower : ',' ∈ l.name.toList := by
    rw [← h]
    exact List.mem_map.mpr ⟨',', hc, by decide⟩
  exact absurd hlower (by cases l <;> decide)

/-- The name of a level, in any case, keeps the lines of the own target from that level on. -/
theorem named_level {text : String} {l : Level} (h : Level.Names text l) :
    ofEnvironment none text = some (only (own l)) := by
  rw [ofEnvironment_eq_only]
  refine ⟨[own l], ?_, ?_, rfl⟩
  · rw [configured_single (no_comma_of_names h), Level.configured?_of_names h]
    rfl
  · intro d hd
    obtain rfl := List.mem_singleton.mp hd
    exact ⟨rfl, rfl, rfl⟩

/-- **What the configured level does.**  Settings that keep the rules keep them with any text as
    their level.  Without a filter from the environment, the filter is the one directive for the
    own target at a level exactly if no piece of that text breaks the program off, every directive
    that can be read from it is for the own target, and the last of them has the level.  So it is
    if the text is the name of a level, in any case; a text without a comma that is no level gives
    the filter that keeps errors of everything instead. -/
theorem level_effective {c : Config} (kept : c.check = []) (text : String) :
    ((Config.Change.logLevel text).apply c).check = [] ∧
    (∀ l, ofEnvironment none text = some (only (own l)) ↔
      ∃ ds, configured text = some ds ∧ (∀ d ∈ ds, d.IsOwn) ∧
        ds.getLast?.map (·.level) = some l) ∧
    (∀ l, Level.Names text l → ofEnvironment none text = some (only (own l)) ∧
      (only (own l)).render = ownTarget ++ "=" ++ l.name) ∧
    (',' ∉ text.toList → Level.configured? text = none →
      ofEnvironment none text = some errors) := by
  refine ⟨kept, fun l => ofEnvironment_eq_only,
    fun l hname => ⟨named_level hname, render_own l⟩, ?_⟩
  intro hcomma hnone
  rw [ofEnvironment_none, configured_single hcomma, hnone]
  rfl

/-- The default settings, with a level in upper case. -/
theorem level_effective_upper :
    ({} : Config).check = [] ∧
    ((Config.Change.logLevel "WARN").apply {}).check = [] ∧
    (ofEnvironment none "WARN").map render = some "tx_relay=warn" := by
  have hkept : ({} : Config).check = [] := by decide +kernel
  obtain ⟨hcheck, -, hnamed, -⟩ := level_effective hkept "WARN"
  obtain ⟨hfilter, hrender⟩ := hnamed .warn (by decide)
  exact ⟨hkept, hcheck, (congrArg (Option.map render) hfilter).trans (congrArg some hrender)⟩

/-- Two settings that keep the rules: the level of the first is no level and errors of everything
    are kept instead, the level of the second brings a directive for another target with it. -/
theorem level_lost :
    ∃ c d : Config,
      c.check = [] ∧ c.observability.logLevel = "warning" ∧
      ofEnvironment none c.observability.logLevel = some errors ∧
      (¬ ∃ l, ofEnvironment none c.observability.logLevel = some (only (own l))) ∧
      d.check = [] ∧ d.observability.logLevel = "info,hyper=trace" ∧
      (ofEnvironment none d.observability.logLevel).map render =
        some "tx_relay=info,hyper=trace" ∧
      ¬ ∃ l, ofEnvironment none d.observability.logLevel = some (only (own l)) := by
  have hlost : ofEnvironment none "warning" = some errors := by decide +kernel
  have hforeign : (ofEnvironment none "info,hyper=trace").map render =
      some "tx_relay=info,hyper=trace" := by decide +kernel
  refine ⟨{ observability := { logLevel := "warning" } },
    { observability := { logLevel := "info,hyper=trace" } }, by decide +kernel, rfl, hlost, ?_,
    by decide +kernel, rfl, hforeign, ?_⟩
  · rintro ⟨l, h⟩
    exact errors_ne_own l (Option.some.inj (hlost.symm.trans h))
  · rintro ⟨l, h⟩
    rw [h, Option.map_some, render_own] at hforeign
    exact absurd hforeign (by cases l <;> decide)

/-- A blank in front of a piece shifts what is cut out of it, here into a character of two bytes:
    the program breaks off. -/
example : ofEnvironment none "info, a\u00e9=debug" = none := by decide +kernel

end LogFilter

end TxRelay
