/-
  The composed normal form of a text.

  Texts that read the same have one normal form.  Composed characters are taken apart, the marks
  behind each character are sorted by their classes, and what can be composed again is composed.
  A mark reaches its character past marks of lower classes only.
-/
import TxRelay.Unicode.CombiningClass
import TxRelay.Unicode.Composition

namespace TxRelay.Unicode.Normal

/-- A character taken apart; `depth` bounds how often its first part is composed again. -/
def decompose : (depth : Nat) → Char → List Char
  | 0, c => [c]
  | depth + 1, c =>
    match Composition.parts? c with
    | some (a, b) => decompose depth a ++ [b]
    | none => [c]

/-- No character is composed more than this often. -/
def maxDepth : Nat := 3

/-- Put a mark in front of marks in order: it passes those of lower classes. -/
def insertMark (m : Char) : List Char → List Char
  | [] => [m]
  | c :: rest =>
    if 0 < CombiningClass.ofChar c ∧ CombiningClass.ofChar c < CombiningClass.ofChar m then
      c :: insertMark m rest
    else m :: c :: rest

/-- Sort marks by their classes; marks of one class keep their order. -/
def reorder : List Char → List Char
  | [] => []
  | c :: rest =>
    if CombiningClass.ofChar c = 0 then c :: reorder rest else insertMark c (reorder rest)

/-- Can a character reach the base past the marks left in between? -/
def reaches (marks : List Char) (c : Char) : Bool :=
  match marks.getLast? with
  | none => true
  | some m => CombiningClass.ofChar m < CombiningClass.ofChar c

/-- Compose what follows a base with it; `marks` are those that stay marks. -/
def composeFrom (base : Char) (marks : List Char) : List Char → List Char
  | [] => base :: marks
  | c :: rest =>
    match (if reaches marks c then Composition.compose? base c else none) with
    | some base => composeFrom base marks rest
    | none =>
      if CombiningClass.ofChar c = 0 then base :: marks ++ composeFrom c [] rest
      else composeFrom base (marks ++ [c]) rest

/-- Compose what can be composed. -/
def compose : List Char → List Char
  | [] => []
  | c :: rest => composeFrom c [] rest

/-- The normal form. -/
def form (cs : List Char) : List Char :=
  compose (reorder (cs.flatMap (decompose maxDepth)))

example : form "plain".toList = "plain".toList := by decide

end TxRelay.Unicode.Normal
