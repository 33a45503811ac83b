/-
  IPv6 addresses: eight pieces of 16 bits.

  In text the pieces stand between colons in hexadecimal; `::` stands for as many zero pieces as
  are missing, and the last two pieces may be written as an IPv4 address.  The written form is
  lower case, without leading zeros, and shortens the first of the longest runs of zero pieces.
-/
import TxRelay.Text.Symbol

namespace TxRelay.Url.Ipv6

/-- At most `room` hexadecimal digits: their value, how many there were, and what follows. -/
def takeHex : (room : Nat) → (value taken : Nat) → List Char → Nat × Nat × List Char
  | 0, value, taken, cs => (value, taken, cs)
  | _ + 1, value, taken, [] => (value, taken, [])
  | room + 1, value, taken, c :: cs =>
    match Text.hexValue? c with
    | some d => takeHex room (value * 16 + d) (taken + 1) cs
    | none => (value, taken, c :: cs)

/-- A decimal number below 256 without leading zeros. -/
def byte? (cs : List Char) : Option Nat :=
  match cs with
  | [] => none
  | ['0'] => some 0
  | '0' :: _ => none
  | _ =>
    if cs.all Char.isDigit ∧ cs.length ≤ 3 then
      if Text.decimal cs < 256 then some (Text.decimal cs) else none
    else none

/-- The two pieces that a dotted address spells. -/
def dotted? (cs : List Char) : Option (List Nat) :=
  match (cs.splitOn '.').mapM byte? with
  | some [a, b, c, d] => some [a * 256 + b, c * 256 + d]
  | _ => none

/-- Pieces from here on.  `pieces` holds those read so far in reverse, `gap` where `::` stood.
    Every round but the last takes a character. -/
def scan : (rounds : Nat) → List Char → (pieces : List Nat) → (gap : Option Nat) →
    Option (List Nat × Option Nat)
  | 0, cs, pieces, gap => if cs.isEmpty then some (pieces.reverse, gap) else none
  | _ + 1, [], pieces, gap => some (pieces.reverse, gap)
  | rounds + 1, c :: cs, pieces, gap =>
    let filled := pieces.length + (if gap.isSome then 1 else 0)
    if filled = 8 then none
    else if c = ':' then
      if gap.isSome then none else scan rounds cs pieces (some pieces.length)
    else
      match takeHex 4 0 0 (c :: cs) with
      | (value, _, []) => scan rounds [] (value :: pieces) gap
      | (value, _, ':' :: rest) =>
        if rest.isEmpty then none else scan rounds rest (value :: pieces) gap
      | (_, taken, '.' :: _) =>
        if taken = 0 ∨ 6 < filled then none
        else (dotted? (c :: cs)).map fun two => (pieces.reverse ++ two, gap)
      | _ => none

/-- Fill the gap with zero pieces. -/
def fill : List Nat × Option Nat → Option (List Nat)
  | (pieces, none) => if pieces.length = 8 then some pieces else none
  | (pieces, some k) =>
    if pieces.length < 8 then
      some (pieces.take k ++ List.replicate (8 - pieces.length) 0 ++ pieces.drop k)
    else none

/-- The eight pieces that the text spells. -/
def parse (cs : List Char) : Option (List Nat) :=
  match cs with
  | [] | [_] => none
  | ':' :: ':' :: rest => (scan rest.length rest [] (some 0)).bind fill
  | ':' :: _ => none
  | _ => (scan cs.length cs [] none).bind fill

/-! ## Writing -/

/-- Lower-case hexadecimal without leading zeros. -/
def hex (n : Nat) : String := String.ofList (Nat.toDigits 16 n)

/-- How many zero pieces stand in front. -/
def zeros (pieces : List Nat) : Nat := (pieces.takeWhile (· = 0)).length

/-- Where the first of the longest runs of at least two zero pieces starts, and its length. -/
def longestGap (pieces : List Nat) : Option (Nat × Nat) :=
  let runs := (List.range pieces.length).map fun i => (i, zeros (pieces.drop i))
  runs.foldl (fun best r =>
    if r.2 < 2 then best
    else match best with
      | none => some r
      | some b => if b.2 < r.2 then some r else some b) none

/-- The pieces between colons. -/
def joined (pieces : List Nat) : String := ":".intercalate (pieces.map hex)

/-- The written form of eight pieces. -/
def render (pieces : List Nat) : String :=
  match longestGap pieces with
  | none => joined pieces
  | some (i, n) => joined (pieces.take i) ++ "::" ++ joined (pieces.drop (i + n))

end TxRelay.Url.Ipv6
