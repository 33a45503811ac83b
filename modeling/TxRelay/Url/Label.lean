/-
  Labels of domains: the parts between the dots.

  A label that begins with `xn--` spells one with characters outside ASCII, and must spell it the
  one way there is.  Whatever its form, a label begins with no mark, and the invisible joiners
  stand in it only where they change how its letters are written.  If some label of a domain runs
  from right to left, all its labels must keep to one direction.
-/
import TxRelay.Unicode.Mark
import TxRelay.Unicode.BidiClass
import TxRelay.Unicode.JoiningType
import TxRelay.Unicode.Normal
import TxRelay.Url.HostMapping
import TxRelay.Url.Punycode

namespace TxRelay.Url.Label

/-! ## The two forms -/

/-- What a label in ASCII that spells another one begins with. -/
def mark : List Char := ['x', 'n', '-', '-']

/-- The longest label that is written in ASCII. -/
def maxWritten : Nat := 1000

/-- The longest text after the mark that is read. -/
def maxRead : Nat := 2000

/-- Is a label its own mapping and its own normal form? -/
def isStable (cs : List Char) : Bool :=
  HostMapping.text cs = some cs ∧ Unicode.Normal.form cs = cs

/-- The label that a mapped label spells. -/
def spelled? (cs : List Char) : Option (List Char) :=
  if mark.isPrefixOf cs then
    if maxRead < (cs.drop 4).length then none
    else
      (Punycode.decode (cs.drop 4)).filter fun spelled =>
        spelled.any (!Punycode.isAscii ·) && isStable spelled && !mark.isPrefixOf spelled
  else some cs

/-- A label in ASCII. -/
def asciiForm (cs : List Char) : List Char :=
  if cs.all Punycode.isAscii then cs else mark ++ Punycode.encode cs

/-! ## Joiners -/

/-- The character that keeps its neighbours from joining. -/
def nonJoiner : Char := '\u200c'

/-- The character that makes its neighbours join. -/
def joiner : Char := '\u200d'

/-- Is the nearest character that is not passed over of one of these types? -/
def nearest (types : List Unicode.JoiningType) (cs : List Char) : Bool :=
  match (cs.map Unicode.JoiningType.ofChar).dropWhile (· = .transparent) with
  | t :: _ => types.contains t
  | [] => false

/-- Has a joiner its place between the characters before it, the nearest first, and after it?
    Both kinds may follow a silenced letter, and one may part letters that would join. -/
def joinerFits (before : List Char) (c : Char) (after : List Char) : Bool :=
  match before with
  | [] => false
  | p :: _ =>
    Unicode.CombiningClass.ofChar p = Unicode.CombiningClass.virama ||
      (c = nonJoiner && nearest [.left, .dual] before && nearest [.right, .dual] after)

/-- Have all joiners their places? -/
def joinersFit (before : List Char) : List Char → Bool
  | [] => true
  | c :: rest =>
    ((c ≠ nonJoiner && c ≠ joiner) || joinerFits before c rest) && joinersFit (c :: before) rest

/-! ## Directions -/

open Unicode (BidiClass)

/-- May a label that runs from left to right hold this class? -/
def fitsLeftToRight : BidiClass → Bool
  | .leftToRight | .europeanNumber | .europeanSeparator | .commonSeparator
  | .europeanTerminator | .otherNeutral | .boundaryNeutral | .mark => true
  | _ => false

/-- May a label that runs from right to left hold this class? -/
def fitsRightToLeft : BidiClass → Bool
  | .rightToLeft | .arabicLetter | .arabicNumber | .europeanNumber | .europeanSeparator
  | .commonSeparator | .europeanTerminator | .otherNeutral | .boundaryNeutral | .mark => true
  | _ => false

/-- Does a label keep to one direction?  Its first character gives the direction, its last one,
    marks aside, is a letter or a number, and numbers of two kinds do not go together. -/
def keepsDirection (cs : List Char) : Bool :=
  match cs.map BidiClass.ofChar with
  | [] => true
  | first :: rest =>
    let classes := first :: rest
    let last := (classes.reverse.dropWhile (· = .mark)).head?
    match first with
    | .leftToRight =>
      rest.all fitsLeftToRight && (last = some .leftToRight || last = some .europeanNumber)
    | .rightToLeft | .arabicLetter =>
      rest.all fitsRightToLeft &&
        [some .rightToLeft, some .arabicLetter, some .europeanNumber, some .arabicNumber].contains
          last &&
        !(classes.contains .europeanNumber && classes.contains .arabicNumber)
    | _ => false

/-- Does a character make its domain one that runs from right to left? -/
def isRightToLeft (c : Char) : Bool :=
  0x590 ≤ c.toNat && (BidiClass.ofChar c).isRightToLeft

/-! ## Validity -/

/-- May a domain hold this label? -/
def isValid (cs : List Char) : Bool :=
  !(cs.head?.any Unicode.isMark) && joinersFit [] cs &&
    (cs.all Punycode.isAscii || cs.length ≤ maxWritten)

end TxRelay.Url.Label
