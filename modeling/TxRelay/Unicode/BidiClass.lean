/-
  Directions of writing.

  The table speaks for the characters that a host may hold; those of no use to hosts are `other`.
-/
import TxRelay.Unicode.Runs

namespace TxRelay.Unicode

/-- What a character does to the direction of a text. -/
inductive BidiClass where
  | leftToRight
  | rightToLeft
  | arabicLetter
  | arabicNumber
  | europeanNumber
  | europeanSeparator
  | europeanTerminator
  | commonSeparator
  | mark
  | boundaryNeutral
  | otherNeutral
  | other
deriving DecidableEq, Repr

namespace BidiClass

/-- The class that a letter stands for in the table. -/
def ofTag : List Char → BidiClass
  | ['L'] => .leftToRight
  | ['R'] => .rightToLeft
  | ['A'] => .arabicLetter
  | ['U'] => .arabicNumber
  | ['E'] => .europeanNumber
  | ['S'] => .europeanSeparator
  | ['T'] => .europeanTerminator
  | ['C'] => .commonSeparator
  | ['N'] => .mark
  | ['B'] => .boundaryNeutral
  | ['O'] => .otherNeutral
  | _ => .other

/-- The classes of the code points. -/
def runs : Runs BidiClass := Runs.read ofTag
  "0L 9B 5X eB 5X 2O 3T 5O 1S 1C 1S 2C aE 1C 26O 1aL 4O 22B 1O 4T aO 6T 29O 18L 1O 1c1L 2O 7L eO 2L
  1cO 1L 11O 71N 4L 2O 7fL 2O 8bL 8N ffL 5O 2T 2dN 1R 1N 1R 2N 1R 2N 1R 9N 36R 2O 1A 2T 1A 1C 1A
  2O bN 30A 15N aU 1T 2U 3A 1N 65A 8N 1O 6N 2A 2N 1O 4N 2A aE 17A 1N 1eA 1dN 59A bN fA 2bR 9N 2R
  4O 3R 1N 18R 4N 1R 9N 1R 3N 1R 7N 29R 5N 2R 38A 8N 2aA 39N 37L 1N 1L 1N 4L 8N 4L 1N 3L fN 2L 2N
  1dL 1N 3aL 1N 4L 6N 6L 1N 14L 4N cL 2T 7L 1T 2L 5N 39L 2N 3L 1bN 14L 2N 3L 1N bL 2N 39L 1N 4L 8N
  4L 3N 12L 4N bL 8T 1L 8N 3aL 1N 2L 1N 1L 6N 6L aN bL 4N 1cL 1N 3dL 1N cL 3N 23L 6O 1T 6O 1N 3L
  1N 37L 1N 1L 3N 5L 12N aL 4N 12L 7O 2L 1N 3aL 1N fL 9N dL 4N 1aL 2N 39L 2N 4L 5N 7L 1N 14L 4N
  1bL 1N 48L 5N 3L 6N 59L 1N 2L bN 1T 7L 8N 62L 1N 2L 9N bL 8N 48L 2N 1bL 1N 1L 1N 1L 1N 4O 33L eN
  1L 5N 1L 2N 5L 31N 8L 1N 66L 4N 1L 6N 1L 2N 2L 2N 19L 2N 4L 3N 10L 4N dL 1N 2L 2N 6L 1N fL 1N
  2bfL 3N 30L 10O 60L 1O 29aL 5O 72L 3N 1dL 2N 1eL eN 12L eN 37L 7N 8L 1N 2L bN 7L 1T 1L 3N 10L
  20O 75L 2N 22L 1N 76L 3N 4L 2N 9L 1N 6L 7N 6O 98L 22O 17L 2N 2L 3N 38L 1N 1L 9N 1L 1N 2L 8N 6L
  dN 30L 1fN 31L 4N 30L 1N 1L 5N 1L 1N 5L 1N 28L 9N cL 2N 20L 4N 2L 2N 1L 3N 38L 1N 1L 2N 3L 1N 1L
  3N 3aL 8N 2L 5N 95L 3N 1L dN 1L 7N 4L 1N 6L 1N 3L 2N c6L 41N 20bL 4B 20O 5T fO 1C 5bO 30T 34N
  2aO cT 14O 3cL 88O 1S 1T 122O 45L 1aO 1L 91O 19L 26cO 1L 153O 100L 296O 1L 99O b5L 7O 3L 4N 6L
  7O 7fL 1N 60L 20N 205O 3L 19O 9L 4N 2L 1O 6L 4O 2L 4O 58L 4N 3L 1O 5aL 1O c4L 24O 1bdcL 40O
  5690L 40O 13dL 3O 5fL 4N 1O aN 3O 1dL 2N 50L 2N eL 23O 65L 1O 79L 1N 3L 1N 4L 1N 19L 2N 1L 4O 4N
  8L 8T 34L cO 44L aN 12L 12N dL 1N 26L 8N 19L bN 2eL 3N 30L 1N 2L 4N 2L 2N 27L 1N 43L 6N 2L 2N 2L
  bN 3L 1N 8L 1N 2fL 1N 33L 1N 1L 3N 2L 2N 5L 2N 1L 1N 2aL 2N 8L bN 69L 56O 25L 1N 2L 1N 4L 3N
  4f2eL 94N 18cA 52O 3fA 51O 25N 2eO 18dA 101L 1O 3eL 4dO 3L 40O 2dL 83N 60L 1N 1fE 76L aN 480L
  11fR 1O e1R fN 28R 8N a5R 6N 4eR 7O 1c0R 24A cN 10U 120R 20U 2bR 2N 15R 3bA 3N 30R 16A bN 1fA
  12R 4N 7aR 1L 1N 36L fN bL 14O aL 1N 2L 2N aL 3N 31L 4N 2L 2N 7L eN 30L 3N 24L 5N 1L 9N 3dL 1N
  cL 2N 34L 9N aL 4N 2L 1N 5fL 3N 2L 1N 1L 2N 6L 1N 2L 3fN 5fL 1N 3L dN 10L 2N 39L 2N 3L 1N 25L
  1aN b8L 8N 2L 3N 1L 1N 17L 1N 54L 6N 1L 1N 4L 2N 1L 2N eeL 6N 4L 2N 1L 2N 1bL 24N 33L 8N 2L 1N
  1L 2N 1fL 20O 2bL 1N 1L 1N 2L 6N 1L 1N 65L 3N 2L 4N 1L 9N ffL 9N 1L 2N 100L 2N 1L 1N 4L 1N 90L
  8N 4L 1N 20L 6N 2L 2N 28L 6N 2L 4N 8L 9N 1L 6N 2L 3N 2eL dN 1L 2N 196L eN 54L 17N 1L 7N 1L 2N 1L
  4bN 31L 15N 1L 9N 40L 3N 2L 1N 1L 1N 15bL 2N bL 2N 34L 8N 2L 1N 1L 1N 92L 8O 4T 1eO 1441L 1N 6L
  19N 3690L 5N 3bL 7N 418L 1N 3fL 4N 4fL 1O 1L cN 4cadL 2N 1261L 50N 217L 3N 11L 8N 2L 7N 1eL 4N
  3bL 59O 3N 7bO 40L 60O 6a0L 37N 4L 32N 8L 1N eL 1N 16L 465N 100L 100N 30L 7N 177L 12N 2cL 4N fL
  1d1T 1cL 4N 310L d0R 52N 22R 7N 326R 27fA 260O 1dL 3O 3dL 39O 7aL 478O 4L 9bO 4L 137O 4eL 154O
  cL 29O 7L 2eO 1L 7O 8L eO 4L 9O 7L dbO f0435L"

/-- The class of a character. -/
def ofChar (c : Char) : BidiClass := runs.get .other c

/-- Does a character of this class make its text one that runs from right to left? -/
def isRightToLeft : BidiClass → Bool
  | .rightToLeft | .arabicLetter | .arabicNumber => true
  | _ => false

end BidiClass

end TxRelay.Unicode
