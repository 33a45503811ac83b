/-
  Why the client refuses a call.

  The client adds its own reasons to the engine's.  An engine that was destroyed always shows as
  the client's own `destroyed`; any other engine error passes through and keeps its wording.
-/
import TxRelay.Engine.Error
import TxRelay.Receipt

namespace TxRelay

/-- Why the client did not do what it was asked. -/
inductive ClientError where
  /-- The engine could not be made. -/
  | construct (e : EngineError)
  /-- The client was destroyed. -/
  | destroyed
  /-- A worker loop is already running. -/
  | alreadyRunning
  /-- No callback was ever set. -/
  | noCallback
  /-- The engine refused the submission; no receipt will follow. -/
  | rejected (jobId : JobId) (e : EngineError)
  /-- The worker could not be started; the system's own text says why. -/
  | spawn (cause : String)
  /-- Any other failure of the engine. -/
  | engine (e : EngineError)
deriving DecidableEq, Repr

namespace ClientError

/-- What an engine error is to the client. -/
def ofEngine : EngineError → ClientError
  | .destroyed => destroyed
  | e => engine e

/-- The wording of an error. -/
def message : ClientError → String
  | construct e => "failed to create job handle: " ++ e.message
  | destroyed => "job handle already destroyed"
  | alreadyRunning => "worker loop already running"
  | noCallback => "no callback registered"
  | rejected jobId e => "job " ++ jobId.text ++ " rejected: " ++ e.message
  | spawn cause => "failed to spawn worker thread: " ++ cause
  | engine e => e.message

/-- The engine error inside, if there is one. -/
def source : ClientError → Option EngineError
  | construct e | rejected _ e | engine e => some e
  | _ => none

/-- The job that was refused. -/
def jobId : ClientError → Option JobId
  | rejected jobId _ => some jobId
  | _ => none

/-- The wordings of the causes behind an error, outermost first. -/
def causes : ClientError → List String
  | construct e | rejected _ e => e.message :: e.causes
  | spawn cause => [cause]
  | engine e => e.causes
  | _ => []

/-- The error as developers see it. -/
def debugForm : ClientError → String
  | construct e => "Construct(" ++ e.debugForm ++ ")"
  | destroyed => "Destroyed"
  | alreadyRunning => "AlreadyRunning"
  | noCallback => "NoCallback"
  | rejected jobId e =>
    "Rejected \x7b job_id: JobId(" ++ Text.quoted jobId.text ++ "), source: " ++ e.debugForm ++
      " \x7d"
  | spawn cause => "Spawn(Custom \x7b kind: Other, error: " ++ Text.quoted cause ++ " \x7d)"
  | engine e => "Engine(" ++ e.debugForm ++ ")"

end ClientError

end TxRelay
