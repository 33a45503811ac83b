/-
  Times as developers see them: whole milliseconds below a second, above it seconds with at most
  three decimals and no zeros at their end.
-/

namespace TxRelay.Text

/-- Decimal digits without the zeros at their end. -/
def trimZeros (ds : List Char) : List Char := (ds.reverse.dropWhile (· = '0')).reverse

/-- A number with at least three digits. -/
def threeDigits (n : Nat) : List Char :=
  let ds := (toString n).toList
  List.replicate (3 - ds.length) '0' ++ ds

/-- A time of so many milliseconds, in the largest unit that leaves a whole part. -/
def duration (ms : Nat) : String :=
  if ms = 0 then "0ns"
  else if ms < 1000 then toString ms ++ "ms"
  else
    match trimZeros (threeDigits (ms % 1000)) with
    | [] => toString (ms / 1000) ++ "s"
    | ds => toString (ms / 1000) ++ "." ++ String.ofList ds ++ "s"

example : duration 1500 = "1.5s" := by decide

end TxRelay.Text
