/-
  Working with an engine step by step.

  A session is a list of operations on one engine over a network that is told its answers.  Each
  step gives an answer, and the engine settles before the next.
-/
import TxRelay.Engine
import TxRelay.Network.StandIn

namespace TxRelay.Engine

/-- What can be done with an engine. -/
inductive Op where
  | startWorking
  | submit (r : Request)
  | pollBlocking
  | pollNonblocking
  | spawnPoll
  | joinPoll
  | finish (job : Nat) (outcome : BroadcastResult)
  | balance (q : BalanceQuery)
  | pollInterval
  | debug
  | destroy

/-- What an operation answers. -/
inductive Answer where
  | flag (b : Bool)
  | queued
  | polled (o : PollOutcome)
  | text (s : String)
  | nothing
  | failed (e : EngineError)
deriving DecidableEq, Repr

/-- The answer of a poll. -/
def Answer.ofPoll : PollResult → Answer
  | .ok o => .polled o
  | .error e => .failed e

/-- Perform one operation. -/
def step (network : StandIn) (e : Engine) : Op → Answer × Engine
  | .startWorking =>
    match e.startWorking with
    | (.ok b, e) => (.flag b, e)
    | (.error err, e) => (.failed err, e)
  | .submit r =>
    match submit network.validate r e with
    | (.ok _, e) => (.queued, e)
    | (.error err, e) => (.failed err, e)
  | .pollBlocking => let (r, e) := e.pollBlocking; (.ofPoll r, e)
  | .pollNonblocking => let (r, e) := e.pollNonblocking; (.ofPoll r, e)
  | .spawnPoll => (.nothing, e.spawnTimedPoll)
  | .joinPoll =>
    match e.joinPoll with
    | (some r, e) => (.ofPoll r, e)
    | (none, e) => (.nothing, e)
  | .finish job outcome => let (b, e) := e.finish job outcome; (.flag b, e)
  | .balance q =>
    match e.balance (StandIn.balance q) with
    | .ok wei => (.text (toString wei), e)
    | .error err => (.failed err, e)
  | .pollInterval => (.text (toString e.pollInterval.toNat), e)
  | .debug => (.text e.debugForm, e)
  | .destroy => let (b, e) := e.destroy; (.flag b, e)

/-- The answers of a run, each with the engine after it. -/
def run (network : StandIn) (e : Engine) : List Op → List (Answer × Engine)
  | [] => []
  | op :: ops => let r := step network e op; r :: run network r.2 ops

/-- A step of a run: the operation, its answer, and the engine after it. -/
structure Entry where
  op : Op
  answer : Answer
  engine : Engine

/-- The step that an operation makes. -/
def Entry.perform (network : StandIn) (e : Engine) (op : Op) : Entry :=
  let r := step network e op
  ⟨op, r.1, r.2⟩

/-- The steps of a run. -/
def session (network : StandIn) (e : Engine) (ops : List Op) : List Entry :=
  List.zipWith (fun op r => ⟨op, r.1, r.2⟩) ops (run network e ops)

end TxRelay.Engine
