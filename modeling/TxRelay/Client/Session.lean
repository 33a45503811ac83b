/-
  Working with a client step by step.

  In each step one call is made or one broadcast ends, and then everything happens that can
  happen.  The report of a step has the call's answer, the callbacks that were called, and news
  of a loop on the caller's thread: that it goes on after a call of `run`, or that it ended.
-/
import TxRelay.Client

namespace TxRelay.Client

/-- What can be done in a step. -/
inductive Op where
  | call (c : ClientCall)
  | finish (job : Nat) (outcome : BroadcastResult)

/-- News of a loop on the caller's thread. -/
inductive RunNews where
  | running
  | returned
  | failed (e : ClientError)
deriving DecidableEq, Repr

/-- The report of a step. -/
structure Report where
  answer : ClientAnswer
  callbacks : List Invocation
  runNews : Option RunNews
deriving DecidableEq, Repr

/-- Do the operation alone.  A call of `run` that finds no loop running answers nothing, and its
    failure is news. -/
def begin (c : Client) : Op → ClientAnswer × Option RunNews × Client
  | .finish job outcome =>
    let (b, engine) := c.engine.finish job outcome
    (.flag b, none, { c with engine := engine })
  | .call .run =>
    match c.perform .run with
    | (.failed e, d) =>
      if c.isRunning then (.failed e, none, d) else (.nothing, some (.failed e), d)
    | (a, d) => (a, some .running, d)
  | .call call => let (a, d) := c.perform call; (a, none, d)

/-- The news of a loop that ended. -/
def endNews (c : Client) : Option RunNews :=
  c.loopResult.map fun
    | .ok _ => .returned
    | .error e => .failed e

/-- How many broadcasts of one step are followed. -/
def patience : Nat := 10000

/-- One step. -/
def step (c : Client) (op : Op) : Report × Client :=
  let (answer, news, c) := c.begin op
  let (callbacks, d) := settle patience c
  (⟨answer, callbacks, if c.loop = some .caller ∧ d.loop = none then d.endNews else news⟩, d)

/-- The reports of a run, each with the client after it. -/
def runAll (c : Client) : List Op → List (Report × Client)
  | [] => []
  | op :: ops => let r := c.step op; r :: runAll r.2 ops

end TxRelay.Client
