/-
  Written strings read back.

  The writer picks one of four styles by what is in the string; the reader knows the styles by their
  quotes alone and has its own rules for escapes, for runs of quotes and for a line break behind the
  opening quotes.  Between the two stands `Body`, which says how the characters of a string may be
  spelled between quotes of a kind.

  1. **Spellings.**  `Spelled` is how one character may be spelled, as itself or as an escape;
     `Body` puts spellings together and counts how many quotes stand side by side.

  2. **Reading.**  Whatever is a body is read as its string (`oneLine_body`, `multiline_body`).

  3. **Writing.**  Whatever the writer puts between its quotes is a body of the string
     (`body_escaped` with escapes, `body_self` without).

  4. **Whole strings.**  The quotes in front tell the style, and a line break behind them is dropped
     (`read_oneLine`, `read_multiline`); the style that was picked has a body for the string
     (`read_quote`).

  The crux is in runs of quotes.  The reader takes a run at once, the writer goes quote by quote, so
  `multiline_body` is about a run that has begun: the quotes in front of the body are part of what
  is read.
-/
import TxRelay.Toml.Text
import TxRelay.Toml.Writer

namespace TxRelay.Toml

/-- Characters of a class are none of the others. -/
theorem ne_of_class {p : Char → Bool} {c d : Char} (hc : p c = true) (hd : p d = false) :
    c ≠ d := by
  rintro rfl
  rw [hc] at hd
  cases hd

namespace Text

/-- The ways to spell one character between quotes of the kind `q`, other than a quote as it
    is. -/
inductive Spelled (q : Char) (multiline : Bool) (c : Char) : List Char → Prop where
  /-- As it is. -/
  | plain (isPlain : isPlain c) (other : c ≠ q) (noEscape : q = '"' → c ≠ '\\') :
      Spelled q multiline c [c]
  /-- A line break as it is. -/
  | lineBreak (allowed : multiline = true) (isBreak : c = '\n') : Spelled q multiline c [c]
  /-- By an escape. -/
  | escape {e : List Char} (basic : q = '"')
      (reads : ∀ rest, Text.escape (e ++ rest) = some (c, rest)) :
      Spelled q multiline c ('\\' :: e)

/-- The ways to spell a text between quotes of the kind `q`, where at most `limit` of these may
    stand in a row; `run` of them stand just before. -/
inductive Body (q : Char) (multiline : Bool) (limit : Nat) :
    (run : Nat) → (text spelling : List Char) → Prop where
  | nil {run : Nat} : Body q multiline limit run [] []
  | quote {run : Nat} {cs ws : List Char} (fits : run < limit)
      (more : Body q multiline limit (run + 1) cs ws) :
      Body q multiline limit run (q :: cs) (q :: ws)
  | char {run : Nat} {c : Char} {form cs ws : List Char} (spelled : Spelled q multiline c form)
      (more : Body q multiline limit 0 cs ws) :
      Body q multiline limit run (c :: cs) (form ++ ws)

/-! ## How spellings begin -/

variable {q c : Char} {multiline : Bool} {limit run : Nat} {form cs ws rest : List Char}

/-- A spelling begins with a character that is neither a quote nor a line break, unless it spells
    the line break. -/
theorem Spelled.head (hq : q = '"' ∨ q = '\x27') (h : Spelled q multiline c form) :
    ∃ d tail, form = d :: tail ∧ d ≠ q ∧ (isPlain d ∨ d = '\n' ∧ c = '\n') := by
  cases h with
  | plain hplain hother _ => exact ⟨c, [], rfl, hother, Or.inl hplain⟩
  | lineBreak _ hbreak =>
    refine ⟨c, [], rfl, ?_, Or.inr ⟨hbreak, hbreak⟩⟩
    rintro rfl
    subst hbreak
    revert hq
    decide
  | escape hbasic _ =>
    subst hbasic
    exact ⟨'\\', _, rfl, by decide, Or.inl (by decide)⟩

/-- No quote stands at the start where no more quotes may stand. -/
theorem Body.head_ne (hq : q = '"' ∨ q = '\x27') (hfull : limit ≤ run)
    (h : Body q multiline limit run cs ws) : ws.head? ≠ some q := by
  cases h with
  | nil => simp
  | quote hfits _ => omega
  | char hspelled _ =>
    obtain ⟨d, tail, rfl, hd, _⟩ := hspelled.head hq
    simpa using hd

/-- A spelling begins with a line break only if the text has one. -/
theorem Body.head_plain (hq : q = '"' ∨ q = '\x27') (h : Body q multiline limit run cs ws)
    {d : Char} (hd : ws.head? = some d) (hbreak : '\n' ∉ cs) : isPlain d := by
  cases h with
  | nil => cases hd
  | quote _ _ =>
    obtain rfl : q = d := by simpa using hd
    obtain rfl | rfl := hq <;> decide
  | char hspelled _ =>
    obtain ⟨e, tail, rfl, _, hplain | ⟨_, rfl⟩⟩ := hspelled.head hq
    · obtain rfl : e = d := by simpa using hd
      exact hplain
    · simp at hbreak

/-! ## Reading a spelling -/

/-- An escape is no line break in the text's layout. -/
theorem lineEnd?_of_escape {r : Char × List Char} (h : escape cs = some r) :
    lineEnd? cs = none := by
  unfold escape at h
  split at h <;> first | rfl | cases h

/-- One round of the reader of a single line takes one spelled character. -/
theorem oneLine_spelled (h : Spelled q false c form) (rounds : Nat) (rest : List Char) :
    oneLine q (rounds + 1) (form ++ rest) =
      (oneLine q rounds rest).map fun r => (c :: r.1, r.2) := by
  cases h with
  | plain hplain hother hnoEscape =>
    have hescape : ¬ (c = '\\' ∧ q = '"') := fun ⟨hc, hq⟩ => hnoEscape hq hc
    simp only [List.cons_append, List.nil_append, oneLine, if_neg hother, if_neg hescape, hplain,
      if_true]
  | lineBreak hallowed _ => cases hallowed
  | escape hbasic hreads =>
    subst hbasic
    have hother : ¬ '\\' = '"' := by decide
    simp only [List.cons_append, oneLine, if_neg hother, and_self, if_true, hreads]
    change (oneLine '"' rounds rest).bind (fun r => some (c :: r.1, r.2)) = _
    cases oneLine '"' rounds rest <;> rfl

/-- One round of the reader of several lines takes one spelled character. -/
theorem multiline_spelled (hq : q = '"' ∨ q = '\x27') (h : Spelled q true c form) (rounds : Nat)
    (rest : List Char) :
    Text.multiline q (rounds + 1) (form ++ rest) =
      (Text.multiline q rounds rest).map fun r => (c :: r.1, r.2) := by
  have hhead := h.head hq
  cases h with
  | plain hplain hother hnoEscape =>
    have hescape : ¬ (c = '\\' ∧ q = '"') := fun ⟨hc, hq⟩ => hnoEscape hq hc
    have hnewline : c ≠ '\n' := ne_of_class hplain (by decide)
    have hreturn : c ≠ '\x0d' := ne_of_class hplain (by decide)
    simp only [List.cons_append, List.nil_append, Text.multiline, if_neg hother, if_neg hnewline,
      if_neg hreturn, if_neg hescape, hplain, if_true]
  -- a line break stands for itself
  | lineBreak _ hbreak =>
    obtain ⟨d, tail, hform, hd, _⟩ := hhead
    obtain ⟨rfl, -⟩ := List.cons.inj hform
    simp only [List.cons_append, List.nil_append, Text.multiline, if_neg hd, if_pos hbreak]
    rw [hbreak]
  | escape hbasic hreads =>
    subst hbasic
    have hother : ¬ '\\' = '"' := by decide
    have hnewline : ¬ '\\' = '\n' := by decide
    have hreturn : ¬ '\\' = '\x0d' := by decide
    simp only [List.cons_append, Text.multiline, if_neg hother, if_neg hnewline, if_neg hreturn,
      and_self, if_true, lineEnd?_of_escape (hreads rest), hreads]
    change (Text.multiline '"' rounds rest).bind (fun r => some (c :: r.1, r.2)) = _
    cases Text.multiline '"' rounds rest <;> rfl

/-- On one line no quote may stand as it is, and the first one ends the string. -/
theorem oneLine_body (h : Body q false 0 run cs ws) {rounds : Nat} (hrounds : cs.length < rounds)
    (rest : List Char) : oneLine q rounds (ws ++ q :: rest) = some (cs, rest) := by
  induction h generalizing rounds with
  | nil =>
    obtain ⟨rounds, rfl⟩ := Nat.exists_eq_add_one_of_ne_zero (Nat.ne_of_gt hrounds)
    simp only [List.nil_append, oneLine, if_true]
  | quote hfits _ => omega
  | char hspelled _ ih =>
    obtain ⟨rounds, rfl⟩ := Nat.exists_eq_add_one_of_ne_zero (by omega : rounds ≠ 0)
    simp only [List.length_cons, Nat.add_lt_add_iff_right] at hrounds
    rw [List.append_assoc, oneLine_spelled hspelled, ih hrounds]
    rfl

/-! ## Runs of quotes -/

/-- A run of quotes ends at what is no quote. -/
theorem takeWhile_replicate (n : Nat) (hrest : rest.head? ≠ some q) :
    (List.replicate n q ++ rest).takeWhile (· = q) = List.replicate n q := by
  have hstop : rest.takeWhile (· = q) = [] := by
    cases rest with
    | nil => rfl
    | cons d tail => simpa [List.takeWhile_cons] using hrest
  rw [List.takeWhile_append_of_pos (by simp), hstop, List.append_nil]

/-- A run of fewer than three quotes belongs to the string. -/
theorem multiline_run {n : Nat} (hn : n < 2) (rounds : Nat) (hrest : rest.head? ≠ some q) :
    Text.multiline q (rounds + 1) (List.replicate (n + 1) q ++ rest) =
      (Text.multiline q rounds rest).map fun r => (List.replicate (n + 1) q ++ r.1, r.2) := by
  have hrun : quoteRun (1 + n) = (n + 1, false) := by
    rw [quoteRun, if_pos (by omega), Nat.add_comm]
  have hdrop : (List.replicate n q ++ rest).drop (1 + n - 1) = rest := by
    rw [Nat.add_sub_cancel_left, List.drop_left' List.length_replicate]
  rw [List.replicate_succ, List.cons_append, Text.multiline.eq_def]
  simp only [if_true, takeWhile_replicate n hrest, List.length_replicate, hrun, hdrop]
  rfl

/-- A run of three to five quotes ends the string, and those beyond three belong to it. -/
theorem multiline_end {n : Nat} (hn : n ≤ 2) (rounds : Nat) (hrest : rest.head? ≠ some q) :
    Text.multiline q (rounds + 1) (List.replicate (n + 3) q ++ rest) =
      some (List.replicate n q, rest) := by
  have hrun : quoteRun (1 + (n + 2)) = (n, true) := by
    rw [quoteRun, if_neg (by omega)]
    simp only [Prod.mk.injEq, and_true]
    omega
  have hdrop : (List.replicate (n + 2) q ++ rest).drop (n + 2) = rest :=
    List.drop_left' List.length_replicate
  rw [List.replicate_succ, List.cons_append, Text.multiline.eq_def]
  simp only [if_true, takeWhile_replicate (n + 2) hrest, List.length_replicate, hrun, hdrop]

/-- Between three quotes, a body is read as its text.  The induction is on the spelling, and the
    quotes that stand before it wait in front until their run is complete. -/
theorem multiline_body (hq : q = '"' ∨ q = '\x27') (hlimit : limit ≤ 2)
    (h : Body q true limit run cs ws) (hrun : run ≤ limit) {rounds : Nat}
    (hrounds : run + cs.length < rounds) (hrest : rest.head? ≠ some q) :
    Text.multiline q rounds (List.replicate run q ++ (ws ++ List.replicate 3 q ++ rest)) =
      some (List.replicate run q ++ cs, rest) := by
  induction h generalizing rounds with
  | nil =>
    obtain ⟨rounds, rfl⟩ := Nat.exists_eq_add_one_of_ne_zero (by omega : rounds ≠ 0)
    rw [List.nil_append, ← List.append_assoc, List.replicate_append_replicate, List.append_nil]
    exact multiline_end (by omega) rounds hrest
  | @quote run cs ws hfits _ ih =>
    have hmove : ∀ tail : List Char,
        List.replicate run q ++ (q :: tail) = List.replicate (run + 1) q ++ tail := by
      intro tail
      rw [List.replicate_succ', List.append_assoc, List.singleton_append]
    simp only [List.length_cons] at hrounds
    rw [List.cons_append, List.cons_append, hmove, hmove]
    exact ih hfits (by omega)
  | @char run c form cs ws hspelled _ ih =>
    simp only [List.length_cons] at hrounds
    have hread : ∀ {k : Nat}, cs.length < k →
        Text.multiline q (k + 1) (form ++ ws ++ List.replicate 3 q ++ rest) =
          some (c :: cs, rest) := by
      intro k hk
      have hmore := ih (Nat.zero_le _) (by omega : 0 + cs.length < k)
      rw [List.replicate_zero, List.nil_append, List.nil_append] at hmore
      rw [List.append_assoc, List.append_assoc, multiline_spelled hq hspelled,
        ← List.append_assoc, hmore]
      rfl
    cases run with
    | zero =>
      obtain ⟨rounds, rfl⟩ := Nat.exists_eq_add_one_of_ne_zero (by omega : rounds ≠ 0)
      exact hread (by omega)
    | succ n =>
      -- The run is complete: one round takes it, the next one the character.
      obtain ⟨rounds, rfl⟩ := Nat.exists_eq_add_of_le' (by omega : 2 ≤ rounds)
      have hhead : (form ++ ws ++ List.replicate 3 q ++ rest).head? ≠ some q := by
        obtain ⟨d, tail, rfl, hd, _⟩ := hspelled.head hq
        simpa using hd
      rw [multiline_run (by omega) (rounds + 1) hhead, hread (by omega)]
      rfl

/-! ## Escapes -/

theorem hexValue?_upperDigit : ∀ n < 16, Text.hexValue? (Text.upperDigit n) = some n := by decide

/-- Digits of a number are read as its character. -/
theorem numbered_digits (ds rest : List Char)
    (h : ds.foldlM (fun n d => (Text.hexValue? d).map (n * 16 + ·)) 0 = some c.toNat) :
    Text.numbered ds.length (ds ++ rest) = some (c, rest) := by
  unfold Text.numbered
  dsimp only
  rw [List.take_left' rfl, if_neg (Nat.lt_irrefl _), List.drop_left' rfl, h]
  exact dif_pos c.valid

/-- Four digits of a small number name its character. -/
theorem escape_numbered (hc : c.toNat < 256) (rest : List Char) :
    escape
        (['u', '0', '0', Text.upperDigit (c.toNat / 16), Text.upperDigit (c.toNat % 16)] ++ rest) =
      some (c, rest) := by
  have hhigh := hexValue?_upperDigit (c.toNat / 16) (by omega)
  have hlow := hexValue?_upperDigit (c.toNat % 16) (by omega)
  have hzero : Text.hexValue? '0' = some 0 := by decide
  have hnumber : (c.toNat / 16) * 16 + c.toNat % 16 = c.toNat := by omega
  refine numbered_digits
    ['0', '0', Text.upperDigit (c.toNat / 16), Text.upperDigit (c.toNat % 16)] rest ?_
  simp [hhigh, hlow, hzero, hnumber]

/-- A character that is no double quote is written in a way in which it may be spelled. -/
theorem escaped_cons (hc : c ≠ '"') (multiline : Bool) (limit run : Nat) (cs : List Char) :
    ∃ form, Spelled '"' multiline c form ∧
      escaped multiline limit run (c :: cs) = form ++ escaped multiline limit 0 cs := by
  rw [escaped.eq_def multiline limit run (c :: cs)]
  dsimp only
  -- One case for each row of the writer; all but the last are named escapes.
  split
  · exact absurd rfl hc
  · exact ⟨_, .escape (e := ['\\']) rfl fun _ => rfl, rfl⟩
  · exact ⟨_, .escape (e := ['b']) rfl fun _ => rfl, rfl⟩
  · exact ⟨_, .escape (e := ['t']) rfl fun _ => rfl, rfl⟩
  · exact ⟨_, .escape (e := ['f']) rfl fun _ => rfl, rfl⟩
  · exact ⟨_, .escape (e := ['r']) rfl fun _ => rfl, rfl⟩
  · cases multiline with
    | true => exact ⟨_, .lineBreak rfl rfl, rfl⟩
    | false => exact ⟨_, .escape rfl fun _ => rfl, rfl⟩
  · rename_i hbackslash _ _ _ _ _
    by_cases hnumbered : (c.toNat < 0x20 || c.toNat = 0x7f) = true
    · have hsmall : c.toNat < 256 := by
        simp only [Bool.or_eq_true, decide_eq_true_eq] at hnumbered
        omega
      rw [if_pos hnumbered]
      exact ⟨_, .escape rfl (escape_numbered hsmall), rfl⟩
    · have hplain : isPlain c = true := by
        simp only [Bool.or_eq_true, decide_eq_true_eq, not_or] at hnumbered
        simp only [isPlain, Bool.or_eq_true, Bool.and_eq_true, decide_eq_true_eq]
        exact Or.inr ⟨by omega, hnumbered.2⟩
      rw [if_neg hnumbered]
      exact ⟨_, .plain hplain hc fun _ => hbackslash, rfl⟩

/-- What is written with escapes is a body of the text. -/
theorem body_escaped (multiline : Bool) (limit run : Nat) (cs : List Char) :
    Body '"' multiline limit run cs (escaped multiline limit run cs) := by
  induction cs generalizing run with
  | nil => exact .nil
  | cons c cs ih =>
    by_cases hc : c = '"'
    · subst hc
      unfold escaped
      by_cases hfull : limit < run + 1
      · rw [if_pos hfull]
        exact .char (.escape (e := ['"']) rfl fun _ => rfl) (ih 0)
      · rw [if_neg hfull]
        exact .quote (by omega) (ih (run + 1))
    · obtain ⟨form, hspelled, hform⟩ := escaped_cons hc multiline limit run cs
      rw [hform]
      exact .char hspelled (ih 0)

/-! ## Texts without escapes -/

/-- The longest run is no shorter than any that was seen. -/
theorem run_le_longestRun (q : Char) (cs : List Char) (run longest : Nat) :
    run ≤ longestRun.go q cs run longest ∧ longest ≤ longestRun.go q cs run longest := by
  induction cs generalizing run longest with
  | nil => exact ⟨Nat.le_max_left _ _, Nat.le_max_right _ _⟩
  | cons c cs ih =>
    unfold longestRun.go
    split
    · have hmore := ih (run + 1) longest
      omega
    · have hmore := ih 0 (max run longest)
      omega

theorem isPlain_of_needsEscape (h : needsEscape c = false) (hc : c ≠ '\n') :
    isPlain c = true := by
  simp only [needsEscape, Bool.or_eq_false_iff, decide_eq_false_iff_not] at h
  by_cases htab : c = '\t'
  · rw [htab]
    decide
  · have hlarge : ¬ c.toNat < 0x20 := by
      intro hsmall
      simp [hsmall, htab, hc] at h
    simp only [isPlain, Bool.or_eq_true, Bool.and_eq_true, decide_eq_true_eq]
    exact Or.inr ⟨by omega, h.2⟩

/-- A text between single quotes is a body of itself, if it needs no escape and has no long run of
    quotes. -/
theorem body_self {longest : Nat} (hescape : cs.any needsEscape = false)
    (hbreak : multiline = false → '\n' ∉ cs) (hruns : longestRun.go '\x27' cs run longest ≤ limit) :
    Body '\x27' multiline limit run cs cs := by
  induction cs generalizing run longest with
  | nil => exact .nil
  | cons c cs ih =>
    rw [List.any_cons, Bool.or_eq_false_iff] at hescape
    have hbreak' : multiline = false → '\n' ∉ cs :=
      fun h hmem => hbreak h (List.mem_cons_of_mem _ hmem)
    unfold longestRun.go at hruns
    by_cases hc : c = '\x27'
    · -- a quote makes the run longer, and no run is longer than the longest
      subst hc
      rw [if_pos rfl] at hruns
      have hrun := (run_le_longestRun '\x27' cs (run + 1) longest).1
      exact .quote (by omega) (ih hescape.2 hbreak' hruns)
    · rw [if_neg hc] at hruns
      have hmore := ih hescape.2 hbreak' hruns
      by_cases hnewline : c = '\n'
      · have hallowed : multiline = true := by
          cases hm : multiline with
          | true => rfl
          | false => exact absurd (by simp [hnewline]) (hbreak hm)
        have hspelled : Spelled '\x27' multiline c [c] := .lineBreak hallowed hnewline
        exact .char hspelled hmore
      · have hplain := isPlain_of_needsEscape hescape.1 hnewline
        have hspelled : Spelled '\x27' multiline c [c] :=
          .plain hplain hc fun h => absurd h (by decide)
        exact .char hspelled hmore

/-! ## Whole strings -/

/-- A spelling is no shorter than what it spells. -/
theorem Body.length_le (hq : q = '"' ∨ q = '\x27') (h : Body q multiline limit run cs ws) :
    cs.length ≤ ws.length := by
  induction h with
  | nil => exact Nat.le_refl _
  | quote _ _ ih => simpa using ih
  | char hspelled _ ih =>
    obtain ⟨d, tail, rfl, _⟩ := hspelled.head hq
    simp only [List.cons_append, List.length_cons, List.length_append]
    omega

/-- A body on one line between single quotes of a kind. -/
theorem read_oneLine (hq : q = '"' ∨ q = '\x27') (h : Body q false 0 0 cs ws)
    (hrest : rest.head? ≠ some q) :
    read (q :: (ws ++ q :: rest)) = some (String.ofList cs, rest) := by
  have hlength : cs.length < (ws ++ q :: rest).length + 1 := by
    have hbody := h.length_le hq
    simp only [List.length_append, List.length_cons]
    omega
  have hshort : short (q :: (ws ++ q :: rest)) = some (String.ofList cs, rest) := by
    rw [short, if_pos hq, oneLine_body h hlength]
    rfl
  -- Three quotes would need one in the body, or one behind the string.
  have hthree : ∀ tail, ws ++ q :: rest ≠ q :: q :: tail := by
    intro tail heq
    have hhead := h.head_ne hq (Nat.le_refl 0)
    cases ws with
    | nil =>
      rw [List.nil_append] at heq
      exact hrest (by rw [(List.cons.inj heq).2]; rfl)
    | cons d ws =>
      obtain ⟨rfl, -⟩ := List.cons.inj heq
      exact hhead rfl
  unfold read
  split
  · rename_i a b c tail heq
    obtain ⟨rfl, htail⟩ := List.cons.inj heq
    rw [if_neg, hshort]
    rintro ⟨_, rfl, rfl⟩
    exact hthree tail htail
  · exact hshort

theorem dropBreak_plain (h : ∀ d, cs.head? = some d → isPlain d) : dropBreak cs = cs := by
  unfold dropBreak
  split
  · exact absurd (h _ rfl) (by decide)
  · exact absurd (h _ rfl) (by decide)
  · rfl

/-- Three quotes in front, and a string of several lines behind them. -/
theorem read_three (hq : q = '"' ∨ q = '\x27') (tail : List Char) :
    read (List.replicate 3 q ++ tail) =
      (Text.multiline q ((dropBreak tail).length + 1) (dropBreak tail)).map
        fun r => (String.ofList r.1, r.2) := by
  change (if (q = '"' ∨ q = '\x27') ∧ q = q ∧ q = q then _ else _) = _
  rw [if_pos ⟨hq, rfl, rfl⟩]
  rfl

/-- A body between three quotes of a kind; a text of several lines starts on a line of its own. -/
theorem read_multiline (hq : q = '"' ∨ q = '\x27') (hlimit : limit ≤ 2)
    (h : Body q true limit 0 cs ws) (hrest : rest.head? ≠ some q) :
    read (List.replicate 3 q ++
        ((if '\n' ∈ cs then ['\n'] else []) ++ (ws ++ List.replicate 3 q ++ rest))) =
      some (String.ofList cs, rest) := by
  have hlength : cs.length < (ws ++ List.replicate 3 q ++ rest).length + 1 := by
    have hmore := h.length_le hq
    simp only [List.length_append]
    omega
  have hbody : Text.multiline q ((ws ++ List.replicate 3 q ++ rest).length + 1)
      (ws ++ List.replicate 3 q ++ rest) = some (cs, rest) :=
    multiline_body hq hlimit h (Nat.zero_le _) (by omega) hrest
  -- a line break was put in front if there is one in the string, so none is lost
  have hbreak : dropBreak ((if '\n' ∈ cs then ['\n'] else []) ++
      (ws ++ List.replicate 3 q ++ rest)) = ws ++ List.replicate 3 q ++ rest := by
    split
    · rfl
    · rename_i hnone
      refine dropBreak_plain fun d hd => ?_
      cases hws : ws with
      | nil =>
        obtain rfl : q = d := by simpa [hws] using hd
        obtain rfl | rfl := hq <;> decide
      | cons e tail => exact h.head_plain hq (by simpa [hws] using hd) hnone
  rw [read_three hq, hbreak, hbody]
  rfl

/-- Without escapes only where none is needed. -/
theorem styleOf_literal (h : styleOf cs = .literal) :
    cs.any needsEscape = false ∧ longestRun '\x27' cs = 0 ∧ '\n' ∉ cs := by
  unfold styleOf at h
  dsimp only at h
  split at h
  · cases h
  split at h
  · rename_i hchoice
    simp only [Bool.and_eq_true, Bool.not_eq_true', decide_eq_true_eq] at hchoice
    exact ⟨hchoice.1.1, hchoice.1.2, by simpa using hchoice.2⟩
  iterate 2
    split at h
    · cases h
  split at h <;> cases h

theorem styleOf_multilineLiteral (h : styleOf cs = .multilineLiteral) :
    cs.any needsEscape = false ∧ longestRun '\x27' cs ≤ 2 := by
  unfold styleOf at h
  dsimp only at h
  iterate 3
    split at h
    · cases h
  split at h
  · rename_i hchoice
    simpa only [Bool.and_eq_true, Bool.not_eq_true', decide_eq_true_eq] using hchoice
  · split at h <;> cases h

/-- **A written string reads back**, whatever is in it and whatever stands behind it that is no
    quote. -/
theorem read_quote (s : String) {rest : List Char} (hdouble : rest.head? ≠ some '"')
    (hsingle : rest.head? ≠ some '\x27') :
    read ((quote s).toList ++ rest) = some (s, rest) := by
  -- a line break behind the quotes, for strings that have one
  have hstart : (if '\n' ∈ s.toList then "\n" else "").toList =
      if '\n' ∈ s.toList then ['\n'] else [] := by
    split <;> rfl
  unfold quote
  dsimp only
  cases hstyle : styleOf s.toList with
  | basic =>
    have hread := read_oneLine (.inl rfl) (body_escaped false 0 0 s.toList) hdouble
    simpa using hread
  | literal =>
    obtain ⟨hescape, hruns, hbreak⟩ := styleOf_literal hstyle
    have hbody : Body '\x27' false 0 0 s.toList s.toList :=
      body_self hescape (fun _ => hbreak) (Nat.le_of_eq hruns)
    have hread := read_oneLine (.inr rfl) hbody hsingle
    simpa using hread
  | multilineBasic =>
    have hread := read_multiline (.inl rfl) (Nat.le_refl 2) (body_escaped true 2 0 s.toList) hdouble
    simpa [hstart, List.replicate] using hread
  | multilineLiteral =>
    obtain ⟨hescape, hruns⟩ := styleOf_multilineLiteral hstyle
    have hbody : Body '\x27' true 2 0 s.toList s.toList := body_self hescape nofun hruns
    have hread := read_multiline (.inr rfl) (Nat.le_refl 2) hbody hsingle
    simpa [hstart, List.replicate] using hread

example : quote "\"\"\"\n'''" = "\"\"\"\n\"\"\\\"\n'''\"\"\"" := by decide +kernel

end Text

end TxRelay.Toml
