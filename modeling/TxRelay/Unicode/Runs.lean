/-
  Properties of characters, as tables.

  The code points in their order fall into runs that share a value.  A table is written as one
  word for each run: how many code points it has, in lower-case hexadecimal digits, and then its
  value, in whatever characters the table chooses that are no such digits.  A table with two
  values writes the lengths alone, and the runs are in turn outside and inside.  Looking a
  character up is a binary search among the ends of the runs.
-/

namespace TxRelay.Unicode

/-- A table: where each run ends, and its value. -/
structure Runs (α : Type) where
  ends : Array Nat
  values : Array α

namespace Runs

/-! ## Reading -/

/-- The words of a text, which blanks and line breaks set apart. -/
def words (cs : List Char) : List (List Char) :=
  match cs with
  | [] => []
  | c :: rest =>
    if c = ' ' ∨ c = '\n' then words rest
    else
      match rest, words rest with
      | d :: _, w :: ws => if d = ' ' ∨ d = '\n' then [c] :: w :: ws else (c :: w) :: ws
      | _, ws => [c] :: ws

/-- The value of a lower-case hexadecimal digit. -/
def digit? (c : Char) : Option Nat :=
  if '0' ≤ c ∧ c ≤ '9' then some (c.toNat - 48)
  else if 'a' ≤ c ∧ c ≤ 'f' then some (c.toNat - 87)
  else none

/-- The number in front of a word and what follows it, `n` being read so far. -/
def number (n : Nat) : List Char → Nat × List Char
  | [] => (n, [])
  | c :: rest =>
    match digit? c with
    | some d => number (n * 16 + d) rest
    | none => (n, c :: rest)

/-- The number that a whole word spells. -/
def hex (cs : List Char) : Nat := (number 0 cs).1

/-- A table from its text; a word without a length is a run of one code point. -/
def read {α : Type} (value : List Char → α) (text : String) : Runs α :=
  (words text.toList).foldl
    (fun t w =>
      let (n, tag) := number 0 w
      ⟨t.ends.push (t.ends.back?.getD 0 + if w.head?.bind digit? = none then 1 else n),
        t.values.push (value tag)⟩)
    ⟨#[], #[]⟩

/-- A table of two values from the lengths of its runs, the first of which is outside. -/
def alternating (text : String) : Runs Bool :=
  let t := read (fun _ => ()) text
  ⟨t.ends, Array.ofFn (n := t.ends.size) fun i => i.val % 2 = 1⟩

/-! ## Looking up -/

/-- The first of the runs numbered from `lo` below `hi` that ends after `n`, or `hi`. -/
def search (ends : Array Nat) (n lo hi : Nat) : Nat :=
  if lo < hi then
    let mid := (lo + hi) / 2
    if n < ends.getD mid 0 then search ends n lo mid else search ends n (mid + 1) hi
  else lo
termination_by hi - lo

/-- The value of the code point `n`, and how far it stands into its run. -/
def find? {α : Type} (t : Runs α) (n : Nat) : Option (α × Nat) :=
  let i := search t.ends n 0 t.ends.size
  t.values[i]?.map fun v => (v, n - if i = 0 then 0 else t.ends.getD (i - 1) 0)

/-- The value of a character, or the one given for characters past the table's end. -/
def get {α : Type} (t : Runs α) (default : α) (c : Char) : α :=
  match t.find? c.toNat with
  | some (v, _) => v
  | none => default

end Runs

example : Runs.words "a b\n cd ".toList = [['a'], ['b'], ['c', 'd']] := by decide
example : ((Runs.alternating "30 a").get false '5', (Runs.alternating "30 a").get false ':')
    = (true, false) := by decide +kernel

end TxRelay.Unicode
