/-
  Hosts of addresses.

  In brackets stands an IPv6 address.  Any other host of a web address is a domain or an IPv4
  address: the text is percent-decoded and brought to ASCII, and it is an IPv4 address if its
  last label looks like a number.  Schemes that are not known take any text as a host, a few
  characters excepted.
-/
import TxRelay.Url.Percent
import TxRelay.Url.Ipv4
import TxRelay.Url.Ipv6
import TxRelay.Url.Domain
import TxRelay.Url.Error

namespace TxRelay.Url

/-- A host. -/
inductive Host where
  | domain (name : String)
  | ipv4 (address : Nat)
  | ipv6 (pieces : List Nat)
deriving DecidableEq, Repr

namespace Host

/-- The written form. -/
def render : Host → String
  | domain name => name
  | ipv4 address => Ipv4.render address
  | ipv6 pieces => "[" ++ Ipv6.render pieces ++ "]"

/-- An IPv6 address in brackets, the opening one already read. -/
def bracketed (cs : List Char) : Except Error Host :=
  if cs.getLast? = some ']' then
    match Ipv6.parse cs.dropLast with
    | some pieces => .ok (.ipv6 pieces)
    | none => .error .invalidIpv6
  else .error .invalidIpv6

/-- The host of a web address. -/
def parse (cs : List Char) : Except Error Host :=
  match cs with
  | '[' :: rest => bracketed rest
  | _ =>
    match Domain.toAscii (Percent.decode (Bytes.ofString (String.ofList cs))) with
    | none => .error .invalidDomain
    | some [] => .error .emptyHost
    | some name =>
      if Ipv4.endsInNumber name then
        match Ipv4.parse name with
        | some address => .ok (.ipv4 address)
        | none => .error .invalidIpv4
      else .ok (.domain (String.ofList name))

/-- Characters that no host of any scheme holds. -/
def forbidden (c : Char) : Bool :=
  ['\x00', '\t', '\n', '\x0d', ' ', '#', '/', ':', '<', '>', '?', '@', '[', '\\', ']', '^',
    '|'].contains c

/-- The host of an address with an unknown scheme. -/
def parseOpaque (cs : List Char) : Except Error Host :=
  match cs with
  | '[' :: rest => bracketed rest
  | _ =>
    if cs.any forbidden then .error .invalidDomainCharacter
    else .ok (.domain (String.ofList (Percent.encode Percent.controls cs)))

end Host

end TxRelay.Url
