/-
  Why the engine refuses a call.

  Every error has a wording, the causes behind it (outermost first, itself not counted) and the
  form in which developers see it.  A network error that passes through keeps its own wording.
-/
import TxRelay.Network.Outcome

namespace TxRelay

/-- Why the engine did not do what it was asked. -/
inductive EngineError where
  /-- The engine could not be set up; the system's own text says why. -/
  | runtime (cause : String)
  /-- The engine was destroyed. -/
  | destroyed
  /-- The request itself is malformed. -/
  | invalidRequest (message : String)
  /-- The endpoint is no address of a node. -/
  | invalidEndpoint (endpoint reason : String)
  /-- The network refused the payload before it was queued. -/
  | rejected (message : String)
  /-- No receipt can come any more. -/
  | disconnected
  /-- A question to the network failed. -/
  | network (e : NetworkError)
deriving DecidableEq, Repr

namespace EngineError

/-- The wording of an error. -/
def message : EngineError → String
  | runtime cause => "failed to build async runtime: " ++ cause
  | destroyed => "job handle already destroyed"
  | invalidRequest m => "invalid request: " ++ m
  | invalidEndpoint endpoint reason => "invalid endpoint '" ++ endpoint ++ "': " ++ reason
  | rejected m => "rejected by network: " ++ m
  | disconnected => "receipt queue disconnected"
  | network e => e.message

/-- The wordings of the causes behind an error, outermost first. -/
def causes : EngineError → List String
  | runtime cause => [cause]
  | _ => []

/-- The error as developers see it. -/
def debugForm : EngineError → String
  | runtime cause =>
    "Runtime(Custom \x7b kind: Other, error: " ++ Text.quoted cause ++ " \x7d)"
  | destroyed => "Destroyed"
  | invalidRequest m => "InvalidRequest(" ++ Text.quoted m ++ ")"
  | invalidEndpoint endpoint reason =>
    "InvalidEndpoint \x7b endpoint: " ++ Text.quoted endpoint ++ ", reason: " ++
      Text.quoted reason ++ " \x7d"
  | rejected m => "Rejected(" ++ Text.quoted m ++ ")"
  | disconnected => "Disconnected"
  | network e => "Network(" ++ e.debugForm ++ ")"

end EngineError

end TxRelay
