/-
  What a JSON text is.

  The grammar, written down without a reader: which texts are values, which characters the text
  between two quotes spells, and how members make an object.  A string spells something only if its
  surrogates come in pairs; the grammar alone allows lone ones.
-/

namespace TxRelay.Json

/-! ## Blanks -/

/-- Text of blanks only. -/
def Blank (w : List Char) : Prop := ∀ c ∈ w, c ∈ [' ', '\n', '\t', '\x0d']

/-! ## Strings -/

/-- `c` is the hexadecimal digit of `n`, in either case. -/
def HexDigit (c : Char) (n : Nat) : Prop :=
  "0123456789abcdef".toList[n]? = some c ∨ "0123456789ABCDEF".toList[n]? = some c

/-- The four digits of a number. -/
inductive FourDigits : List Char → Nat → Prop where
  | mk {a b c d : Char} {i j k l : Nat} (ha : HexDigit a i) (hb : HexDigit b j) (hc : HexDigit c k)
      (hd : HexDigit d l) : FourDigits [a, b, c, d] (((i * 16 + j) * 16 + k) * 16 + l)

/-- The letters that may stand after a backslash, with what they stand for. -/
def letterEscapes : List (Char × Char) :=
  [('"', '"'), ('\\', '\\'), ('/', '/'), ('b', '\x08'), ('f', '\x0c'), ('n', '\n'), ('r', '\x0d'),
    ('t', '\t')]

/-- A character that stands for itself in a string. -/
def Unescaped (c : Char) : Prop := 0x20 ≤ c.toNat ∧ c ≠ '"' ∧ c ≠ '\\'

/-- A piece of a string: a character or an escape. -/
inductive Piece : List Char → Prop where
  | plain {c : Char} : Unescaped c → Piece [c]
  | letter {l c : Char} : (l, c) ∈ letterEscapes → Piece ['\\', l]
  | unit {ds : List Char} {n : Nat} : FourDigits ds n → Piece ('\\' :: 'u' :: ds)

/-- The text between the quotes of a string. -/
inductive Quoted : List Char → Prop where
  | nil : Quoted []
  | cons {piece text : List Char} : Piece piece → Quoted text → Quoted (piece ++ text)

/-- A way to write a character in a string. -/
inductive SpellsChar : List Char → Char → Prop where
  | plain {c : Char} : Unescaped c → SpellsChar [c] c
  | letter {l c : Char} : (l, c) ∈ letterEscapes → SpellsChar ['\\', l] c
  | unit {ds : List Char} {c : Char} : FourDigits ds c.toNat → SpellsChar ('\\' :: 'u' :: ds) c
  /-- A character beyond U+FFFF by its two surrogates. -/
  | pair {ds es : List Char} {c : Char} : 0x10000 ≤ c.toNat →
      FourDigits ds (0xd800 + (c.toNat - 0x10000) / 0x400) →
      FourDigits es (0xdc00 + (c.toNat - 0x10000) % 0x400) →
      SpellsChar ('\\' :: 'u' :: ds ++ '\\' :: 'u' :: es) c

/-- The text between the quotes of a string, and the characters that it spells. -/
inductive Spells : (text chars : List Char) → Prop where
  | nil : Spells [] []
  | cons {form text s : List Char} {c : Char} : SpellsChar form c → Spells text s →
      Spells (form ++ text) (c :: s)

/-- The value is a string that spells `s`. -/
def IsString (s : String) (value : List Char) : Prop :=
  ∃ text, Spells text s.toList ∧ value = '"' :: text ++ ['"']

/-! ## Numbers -/

/-- One digit or more. -/
def Digits (ds : List Char) : Prop := ds ≠ [] ∧ ∀ c ∈ ds, c.isDigit = true

/-- The digits before the point: a zero stands alone. -/
def WholePart (ds : List Char) : Prop := ds = ['0'] ∨ Digits ds ∧ ds.head? ≠ some '0'

/-- The point and the digits behind it, or nothing. -/
inductive FractionPart : List Char → Prop where
  | none : FractionPart []
  | some {ds : List Char} : Digits ds → FractionPart ('.' :: ds)

/-- The exponent, or nothing. -/
inductive ExponentPart : List Char → Prop where
  | none : ExponentPart []
  | some {e : Char} {sign ds : List Char} : e ∈ ['e', 'E'] → sign ∈ [[], ['-'], ['+']] →
      Digits ds → ExponentPart (e :: sign ++ ds)

/-- A number without its sign. -/
inductive Unsigned : List Char → Prop where
  | mk {whole fraction exponent : List Char} : WholePart whole → FractionPart fraction →
      ExponentPart exponent → Unsigned (whole ++ fraction ++ exponent)

/-! ## Values -/

/-- The value is a truth value. -/
def IsBool (b : Bool) (value : List Char) : Prop :=
  value = if b then "true".toList else "false".toList

/-- What a piece of text can be. -/
inductive Part where
  | value
  /-- Values between commas, with blanks around each. -/
  | items
  /-- Members between commas, with blanks wherever they may be. -/
  | members
deriving DecidableEq, Repr

/-- The texts that are JSON. -/
inductive WellFormed : Part → List Char → Prop where
  | word {text : List Char} : text ∈ ["null".toList, "true".toList, "false".toList] →
      WellFormed .value text
  | string {text : List Char} : Quoted text → WellFormed .value ('"' :: text ++ ['"'])
  | number {text : List Char} : Unsigned text → WellFormed .value text
  | negative {text : List Char} : Unsigned text → WellFormed .value ('-' :: text)
  | emptyArray {w : List Char} : Blank w → WellFormed .value ('[' :: w ++ [']'])
  | array {text : List Char} : WellFormed .items text → WellFormed .value ('[' :: text ++ [']'])
  | emptyObject {w : List Char} : Blank w → WellFormed .value ('\x7b' :: w ++ ['\x7d'])
  | object {text : List Char} : WellFormed .members text →
      WellFormed .value ('\x7b' :: text ++ ['\x7d'])
  | item {w₁ value w₂ : List Char} : Blank w₁ → WellFormed .value value → Blank w₂ →
      WellFormed .items (w₁ ++ value ++ w₂)
  | moreItems {w₁ value w₂ text : List Char} : Blank w₁ → WellFormed .value value → Blank w₂ →
      WellFormed .items text → WellFormed .items (w₁ ++ value ++ w₂ ++ ',' :: text)
  | member {w₁ name w₂ w₃ value w₄ : List Char} : Blank w₁ → Quoted name → Blank w₂ → Blank w₃ →
      WellFormed .value value → Blank w₄ →
      WellFormed .members (w₁ ++ '"' :: name ++ '"' :: w₂ ++ ':' :: w₃ ++ value ++ w₄)
  | moreMembers {w₁ name w₂ w₃ value w₄ text : List Char} : Blank w₁ → Quoted name → Blank w₂ →
      Blank w₃ → WellFormed .value value → Blank w₄ → WellFormed .members text →
      WellFormed .members
        (w₁ ++ '"' :: name ++ '"' :: w₂ ++ ':' :: w₃ ++ value ++ w₄ ++ ',' :: text)

/-! ## Objects by their members -/

/-- The text of one member, with blanks wherever they may be.  A name is what its string spells;
    where a lone surrogate keeps it from spelling anything, there is no member. -/
inductive MemberText (name : String) (value : List Char) : List Char → Prop where
  | mk {w₁ text w₂ w₃ w₄ : List Char} : Blank w₁ → Spells text name.toList → Blank w₂ →
      Blank w₃ → Blank w₄ →
      MemberText name value (w₁ ++ '"' :: text ++ '"' :: w₂ ++ ':' :: w₃ ++ value ++ w₄)

/-- The text between the braces of an object that has these members, names and values, in this
    order. -/
inductive MembersText : List (String × List Char) → List Char → Prop where
  | none {w : List Char} : Blank w → MembersText [] w
  | one {name : String} {value text : List Char} : WellFormed .value value →
      MemberText name value text → MembersText [(name, value)] text
  | more {name : String} {value text text' : List Char} {m : String × List Char}
      {ms : List (String × List Char)} : WellFormed .value value → MemberText name value text →
      MembersText (m :: ms) text' → MembersText ((name, value) :: m :: ms) (text ++ ',' :: text')

/-- The text of an object that has these members, blanks around it allowed. -/
inductive ObjectText (members : List (String × List Char)) : List Char → Prop where
  | mk {w₁ text w₂ : List Char} : Blank w₁ → MembersText members text → Blank w₂ →
      ObjectText members (w₁ ++ '\x7b' :: text ++ '\x7d' :: w₂)

end TxRelay.Json
