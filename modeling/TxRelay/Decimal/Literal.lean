/-
  Decimal numbers as people write them: a sign, digits with or without a point, an exponent, or
  a word for infinity or for no number.
-/
import TxRelay.Decimal.Shortest
import TxRelay.Text.Symbol

namespace TxRelay.Decimal

/-- The exponent that a text spells; no text is the exponent 0. -/
def exponent? : List Char → Option Int
  | [] => some 0
  | e :: cs =>
    let (minus, ds) : Bool × List Char := match cs with
      | '-' :: ds => (true, ds)
      | '+' :: ds => (false, ds)
      | ds => (false, ds)
    if (e = 'e' ∨ e = 'E') ∧ ds ≠ [] ∧ ds.all Char.isDigit then
      some (if minus then -(Text.decimal ds : Int) else Text.decimal ds)
    else none

/-- The written form without a fraction that says nothing. -/
def withoutFraction (s : String) : String :=
  match s.toList.reverse with
  | '0' :: '.' :: ds => String.ofList ds.reverse
  | _ => s

/-- The plain form of a number without a sign. -/
def plainUnsigned? (cs : List Char) : Option String :=
  match String.ofList (cs.map Char.toLower) with
  | "inf" | "infinity" => some "inf"
  | "nan" => some "NaN"
  | _ =>
    let whole := cs.takeWhile Char.isDigit
    let (places, rest) : List Char × List Char := match cs.dropWhile Char.isDigit with
      | '.' :: rest => (rest.takeWhile Char.isDigit, rest.dropWhile Char.isDigit)
      | rest => ([], rest)
    if whole = [] ∧ places = [] then none
    else
      (exponent? rest).map fun e =>
        withoutFraction ((render? (Text.decimal (whole ++ places)) (e - places.length)).getD "inf")

/-- The plain form of the number that a text spells: the fewest digits that say which double it
    is, without an exponent. -/
def plain? (s : String) : Option String :=
  match s.toList with
  | '-' :: cs => (plainUnsigned? cs).map fun t => if t = "NaN" then t else "-" ++ t
  | '+' :: cs => plainUnsigned? cs
  | cs => plainUnsigned? cs

end TxRelay.Decimal
