/-
  IPv4 addresses as hosts are written: one to four numbers between dots, each decimal, octal
  with a leading 0 or hexadecimal with a leading 0x; the last one fills the bytes that are left.
-/

namespace TxRelay.Url.Ipv4

/-- The value of `c` as a digit of `base`. -/
def digit? (base : Nat) (c : Char) : Option Nat :=
  let v :=
    if '0' ≤ c ∧ c ≤ '9' then c.toNat - 48
    else if 'a' ≤ c ∧ c ≤ 'z' then c.toNat - 87
    else if 'A' ≤ c ∧ c ≤ 'Z' then c.toNat - 55
    else base
  if v < base then some v else none

/-- The number that digits of `base` spell; no digits spell 0. -/
def number? (base : Nat) (cs : List Char) : Option Nat :=
  cs.foldlM (fun n c => (digit? base c).map (n * base + ·)) 0

/-- One number of an address: `none` if the text is no number. -/
def part? : List Char → Option Nat
  | [] => none
  | '0' :: 'x' :: rest => number? 16 rest
  | '0' :: 'X' :: rest => number? 16 rest
  | '0' :: c :: rest => number? 8 (c :: rest)
  | cs => number? 10 cs

/-- Split at every dot. -/
def splitDots (cs : List Char) : List (List Char) := cs.splitOn '.'

/-- Does a host's last label look like a number?  A single dot at the end does not count. -/
def endsInNumber (cs : List Char) : Bool :=
  let last : Option (List Char) :=
    match (splitDots cs).reverse with
    | [] :: label :: _ => some label
    | [] :: [] => none
    | label :: _ => some label
    | [] => none
  match last with
  | none => false
  | some label => (label ≠ [] && label.all Char.isDigit) || (part? label).isSome

/-- The numbers before the last one fill one byte each. -/
def combine (last : Nat) (before : List Nat) : Option Nat :=
  if last < Nat.pow 256 (4 - before.length) ∧ before.all (· < 256) then
    some (before.zipIdx.foldl (fun n p => n + p.1 * Nat.pow 256 (3 - p.2)) last)
  else none

/-- The address that a host's text spells. -/
def parse (cs : List Char) : Option Nat :=
  let parts := splitDots cs
  let parts := if parts.getLast? = some [] then parts.dropLast else parts
  if 4 < parts.length then none
  else
    match (parts.mapM part?).map List.reverse with
    | some (last :: before) => combine last before.reverse
    | _ => none

/-- The four bytes in decimal. -/
def render (a : Nat) : String :=
  ".".intercalate ([3, 2, 1, 0].map fun k => toString (a / Nat.pow 256 k % 256))

end TxRelay.Url.Ipv4
