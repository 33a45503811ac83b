/-
  TOML numbers, dates and times.

  Underscores may stand between two digits.  Whole numbers fit 64 bits with a sign.  Of dates and
  times only the form matters here: a date of the calendar, a time of the day, an offset.

  Every reader takes the characters that are left and gives back what it read and the rest.
-/
import TxRelay.Text.Symbol
import TxRelay.Toml.Value

namespace TxRelay.Toml.Number

/-! ## Digits -/

/-- The value of a digit of either case. -/
def digit? (base : Nat) (c : Char) : Option Nat :=
  let v :=
    if '0' ≤ c ∧ c ≤ '9' then c.toNat - 48
    else if 'a' ≤ c ∧ c ≤ 'f' then c.toNat - 87
    else if 'A' ≤ c ∧ c ≤ 'F' then c.toNat - 55
    else base
  if v < base then some v else none

/-- Digits after the first, with underscores between them. -/
def moreDigits (base : Nat) : List Char → Option (List Nat × List Char)
  | [] => some ([], [])
  | '_' :: c :: cs =>
    match digit? base c with
    | some d => (moreDigits base cs).map fun r => (d :: r.1, r.2)
    | none => none
  | c :: cs =>
    if c = '_' then none
    else
      match digit? base c with
      | some d => (moreDigits base cs).map fun r => (d :: r.1, r.2)
      | none => some ([], c :: cs)

/-- At least one digit. -/
def digits (base : Nat) : List Char → Option (List Nat × List Char)
  | [] => none
  | c :: cs =>
    match digit? base c with
    | some d => (moreDigits base cs).map fun r => (d :: r.1, r.2)
    | none => none

/-- The number that digits spell. -/
def value (base : Nat) (ds : List Nat) : Nat := ds.foldl (fun n d => n * base + d) 0

/-- A sign, if there is one: is it a minus? -/
def sign : List Char → Bool × List Char
  | '-' :: cs => (true, cs)
  | '+' :: cs => (false, cs)
  | cs => (false, cs)

/-- Decimal digits without a zero in front of others. -/
def decimal : List Char → Option (List Nat × List Char)
  | '0' :: cs => some ([0], cs)
  | cs => digits 10 cs

/-! ## Numbers -/

/-- Does a number fit 64 bits with a sign? -/
def fits (n : Int) : Bool := -0x8000000000000000 ≤ n && n < 0x8000000000000000

/-- A whole number. -/
def integer (cs : List Char) : Option (Int64 × List Char) := do
  let (n, rest) ← match cs with
    | '0' :: 'x' :: cs => (digits 16 cs).map fun r => ((value 16 r.1 : Int), r.2)
    | '0' :: 'o' :: cs => (digits 8 cs).map fun r => ((value 8 r.1 : Int), r.2)
    | '0' :: 'b' :: cs => (digits 2 cs).map fun r => ((value 2 r.1 : Int), r.2)
    | cs =>
      let (minus, cs) := sign cs
      (decimal cs).map fun r => (if minus then -(value 10 r.1 : Int) else value 10 r.1, r.2)
  if fits n then return (.ofInt n, rest) else none

/-- The digits after the point. -/
def fraction : List Char → Option (List Nat × List Char)
  | '.' :: cs => digits 10 cs
  | cs => some ([], cs)

/-- The exponent. -/
def exponent : List Char → Option (Int × List Char)
  | 'e' :: cs | 'E' :: cs =>
    let (minus, cs) := sign cs
    (digits 10 cs).map fun r => (if minus then -(value 10 r.1 : Int) else value 10 r.1, r.2)
  | cs => some (0, cs)

/-- Can the number be read as a double?  Too large a negative one can, as minus infinity. -/
def isReadable : FloatLiteral → Bool
  | .finite false m e => (Decimal.render? m e).isSome
  | _ => true

/-- A number with a point or an exponent, or one of the words for infinity and no number. -/
def float (cs : List Char) : Option (FloatLiteral × List Char) :=
  let (minus, unsigned) := sign cs
  match unsigned with
  | 'i' :: 'n' :: 'f' :: rest => some (.infinite minus, rest)
  | 'n' :: 'a' :: 'n' :: rest => some (.nan, rest)
  | _ => do
    let (whole, afterWhole) ← decimal unsigned
    let (places, afterPlaces) ← fraction afterWhole
    let (e, rest) ← exponent afterPlaces
    if rest.length = afterWhole.length then none
    let x := FloatLiteral.finite minus (value 10 (whole ++ places)) (e - places.length)
    if isReadable x then return (x, rest) else none

/-! ## Dates and times -/

/-- A number of exactly so many digits. -/
def fixed (count : Nat) (cs : List Char) : Option (Nat × List Char) := do
  let ds ← (cs.take count).mapM (digit? 10)
  if ds.length = count then return (value 10 ds, cs.drop count) else none

/-- The days of a month. -/
def daysIn (year month : Nat) : Nat :=
  if month = 2 then
    if year % 4 = 0 ∧ (year % 100 ≠ 0 ∨ year % 400 = 0) then 29 else 28
  else if month = 4 ∨ month = 6 ∨ month = 9 ∨ month = 11 then 30
  else 31

/-- A date of the calendar. -/
def date (cs : List Char) : Option (List Char) := do
  let (year, cs) ← fixed 4 cs
  let (month, cs) ← fixed 2 (← Text.mark '-' cs)
  let (day, cs) ← fixed 2 (← Text.mark '-' cs)
  if 1 ≤ month ∧ month ≤ 12 ∧ 1 ≤ day ∧ day ≤ daysIn year month then return cs else none

/-- Hours and minutes. -/
def hourMinute (cs : List Char) : Option (List Char) := do
  let (hour, cs) ← fixed 2 cs
  let (minute, cs) ← fixed 2 (← Text.mark ':' cs)
  if hour ≤ 23 ∧ minute ≤ 59 then return cs else none

/-- A time of the day; a leap second is one. -/
def time (cs : List Char) : Option (List Char) := do
  let cs ← hourMinute cs
  let (second, cs) ← fixed 2 (← Text.mark ':' cs)
  if 60 < second then none
  match cs with
  | '.' :: rest =>
    let places := rest.takeWhile Char.isDigit
    if places.isEmpty then none else return rest.dropWhile Char.isDigit
  | _ => return cs

/-- An offset, if there is one. -/
def offset (cs : List Char) : Option (List Char) :=
  match cs with
  | 'Z' :: cs | 'z' :: cs => some cs
  | '+' :: cs | '-' :: cs => hourMinute cs
  | _ => some cs

/-- A time with its offset after the date, if there is one. -/
def timeOfDate (cs : List Char) : Option (List Char) :=
  match cs with
  | 'T' :: rest | 't' :: rest => do offset (← time rest)
  | ' ' :: c :: rest => if c.isDigit then do offset (← time (c :: rest)) else some cs
  | _ => some cs

/-- A date, a time, or both. -/
def datetime (cs : List Char) : Option (List Char) :=
  match date cs with
  | some rest => timeOfDate rest
  | none => time cs

/-- A number, a date or a time. -/
def read (cs : List Char) : Option (Value × List Char) :=
  match datetime cs with
  | some rest => some (.datetime, rest)
  | none =>
    match float cs with
    | some (x, rest) => some (.float x, rest)
    | none => (integer cs).map fun r => (.integer r.1, r.2)

end TxRelay.Toml.Number
