/-
  What is wrong with a text that should be an address.
-/

namespace TxRelay.Url

/-- Why a text is no absolute address. -/
inductive Error where
  /-- No scheme stands in front. -/
  | noScheme
  | emptyHost
  | invalidPort
  | invalidIpv4
  | invalidIpv6
  /-- The domain has no ASCII form. -/
  | invalidDomain
  /-- The host of an unknown scheme holds a character that no host holds. -/
  | invalidDomainCharacter
deriving DecidableEq, Repr

/-- The wording of an error. -/
def Error.message : Error → String
  | .noScheme => "relative URL without a base"
  | .emptyHost => "empty host"
  | .invalidPort => "invalid port number"
  | .invalidIpv4 => "invalid IPv4 address"
  | .invalidIpv6 => "invalid IPv6 address"
  | .invalidDomain => "invalid international domain name"
  | .invalidDomainCharacter => "invalid domain character"

end TxRelay.Url
