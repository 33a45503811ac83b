/-
  Socket addresses: an IP address and a port.

  An IPv4 address is four decimal numbers below 256 without leading zeros.  An IPv6 address
  stands in brackets, and a decimal scope may follow it after a percent sign; `::` stands for at
  least one zero group, and the last two groups may be written as an IPv4 address.  The port is a
  decimal number below 65536 and may have leading zeros.

  Every reader gives back what follows the part that it read.
-/
import TxRelay.Text.Symbol

namespace TxRelay.SocketAddress

/-- A decimal number of any length below a limit. -/
def decimal (limit : Nat) (cs : List Char) : Option (List Char) :=
  let ds := cs.takeWhile Char.isDigit
  if ds ≠ [] ∧ Text.decimal ds < limit then some (cs.dropWhile Char.isDigit) else none

/-- A decimal number below 256 without leading zeros. -/
def byte (cs : List Char) : Option (List Char) :=
  let ds := cs.takeWhile Char.isDigit
  if ds.length ≤ 3 ∧ ¬ (ds.head? = some '0' ∧ 1 < ds.length) then decimal 256 cs else none

/-- An IPv4 address. -/
def ipv4 (cs : List Char) : Option (List Char) := do
  let cs ← Text.mark '.' (← byte cs)
  let cs ← Text.mark '.' (← byte cs)
  let cs ← Text.mark '.' (← byte cs)
  byte cs

/-- A group of one to four hexadecimal digits. -/
def group (cs : List Char) : Option (List Char) :=
  let isHex := fun c => (Text.hexValue? c).isSome
  let ds := cs.takeWhile isHex
  if ds ≠ [] ∧ ds.length ≤ 4 then some (cs.dropWhile isHex) else none

/-- The colon before every group but the first. -/
def separator (index : Nat) (cs : List Char) : Option (List Char) :=
  if index = 0 then some cs else Text.mark ':' cs

/-- As many groups as fit into the room: how many there were, whether an IPv4 address ended them,
    and what follows. -/
def groups : (room index : Nat) → List Char → Nat × Bool × List Char
  | 0, index, cs => (index, false, cs)
  | room + 1, index, cs =>
    let tail := (separator index cs).bind ipv4
    match if 0 < room then tail else none with
    | some rest => (index + 2, true, rest)
    | none =>
      match (separator index cs).bind group with
      | some rest => groups room (index + 1) rest
      | none => (index, false, cs)

/-- An IPv6 address. -/
def ipv6 (cs : List Char) : Option (List Char) := do
  let (count, endsInIpv4, rest) := groups 8 0 cs
  if count = 8 then return rest
  if endsInIpv4 then none
  let rest ← Text.mark ':' (← Text.mark ':' rest)
  return (groups (7 - count) 0 rest).2.2

/-- The scope of an IPv6 address, if there is one. -/
def scope (cs : List Char) : List Char :=
  match Text.mark '%' cs with
  | none => cs
  | some rest => (decimal UInt32.size rest).getD cs

/-- The port after its colon. -/
def port (cs : List Char) : Option (List Char) := do decimal 65536 (← Text.mark ':' cs)

/-- A socket address with an IPv4 address. -/
def withIpv4 (cs : List Char) : Option (List Char) := do port (← ipv4 cs)

/-- A socket address with an IPv6 address. -/
def withIpv6 (cs : List Char) : Option (List Char) := do
  let cs ← ipv6 (← Text.mark '[' cs)
  port (← Text.mark ']' (scope cs))

/-- Is the whole text a socket address? -/
def isValid (s : String) : Bool :=
  withIpv4 s.toList = some [] || withIpv6 s.toList = some []

end TxRelay.SocketAddress
