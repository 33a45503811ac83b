/-
  Endpoints: addresses of nodes.

  An endpoint is a web address.  Submission and requests go through the one check that
  `Endpoint.parse` makes; the rules for settings have a check of their own.
-/
import TxRelay.Url
import TxRelay.Network.Outcome

namespace TxRelay.Endpoint

/-- Why a text is no endpoint. -/
inductive Refusal where
  | notAnAddress (e : Url.Error)
  | unsupportedScheme (scheme : String)
deriving DecidableEq, Repr

/-- The reason in words. -/
def Refusal.reason : Refusal → String
  | notAnAddress e => e.message
  | unsupportedScheme scheme => "unsupported scheme '" ++ scheme ++ "'"

/-- The web address that a text spells. -/
def parse (s : String) : Except Refusal Url.Web :=
  match Url.parse s with
  | .error e => .error (.notAnAddress e)
  | .ok (.other scheme) => .error (.unsupportedScheme scheme)
  | .ok (.web address) => .ok address

/-- The web address that a text spells, or the network's error about it. -/
def resolve (s : String) : Except NetworkError Url.Web :=
  match parse s with
  | .error e => .error (.invalidEndpoint s e.reason)
  | .ok address => .ok address

end TxRelay.Endpoint
