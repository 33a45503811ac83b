/-
  Runs of a client, deed by deed.

  Who comes next is not the client's choice: a call from outside, the end of a broadcast, or the
  loop and its callback with their next step.  A schedule is a list of such deeds, and with it
  the run is determined: `advance` is a function, so that two runs with the same deeds can be
  compared deed by deed.

  One deed is no step of the client.  A callback that is `upset` panics after its last call, as it
  would not have done otherwise; so one schedule with such deeds in it and without them gives two
  runs that differ in nothing but the panics.
-/
import TxRelay.Client.Moment

namespace TxRelay.Client

/-- What comes next. -/
inductive Deed where
  /-- A call from outside. -/
  | call (call : ClientCall)
  /-- News from outside: the broadcast of the job with this number ended so. -/
  | finish (job : Nat) (outcome : BroadcastResult)
  /-- The network ends the oldest broadcast, if it does so by itself. -/
  | hear
  /-- The loop goes its next round, or the callback that it waits for takes its next step. -/
  | goOn
  /-- The callback that runs will panic after its last call. -/
  | upset

/-- A deed of the client and its surroundings. -/
def Deed.isPlain : Deed → Bool
  | upset => false
  | _ => true

namespace Moment

/-- The loop goes its next round. -/
def round (m : Moment) : Moment :=
  match m.client.round with
  | (.takes r, c) =>
    match c.callback with
    | some callback => { m with client := c }.begin callback r
    | none => { m with client := c }
  | (.waits, _) => m
  | (.ends result, c) => { m with client := c }.note (.loopEnded result)

/-- The loop or its callback goes on, if a loop runs. -/
def goOn (m : Moment) : Moment :=
  match m.busy with
  | some ⟨call :: rest, panics⟩ => { m with busy := some ⟨rest, panics⟩ }.make call
  | some ⟨[], panics⟩ => { m with client := m.client.afterwards panics, busy := none }
  | none => if m.client.isRunning then m.round else m

/-- The network ends the oldest broadcast, if it does so by itself. -/
def listen (m : Moment) : Moment :=
  match m.client.engine.broadcasting with
  | [] => m
  | job :: _ =>
    match m.client.network.broadcast? job.request.rawTx job.request.endpoint with
    | none => m
    | some (outcome, network) => m.hear network job.number outcome

/-- News from outside: a broadcast ended, if that job is being broadcast. -/
def learn (m : Moment) (job : Nat) (outcome : BroadcastResult) : Moment :=
  -- the deed is void if that job is not being broadcast
  if (m.client.engine.finish job outcome).1 then m.hear m.client.network job outcome else m

/-- The callback that runs will panic. -/
def upset (m : Moment) : Moment :=
  { m with busy := m.busy.map fun busy => { busy with panics := true } }

/-- The moment after a deed; a deed that cannot be done changes nothing. -/
def advance (m : Moment) : Deed → Moment
  | .call call => m.make call
  | .finish job outcome => m.learn job outcome
  | .hear => m.listen
  | .goOn => m.goOn
  | .upset => m.upset

/-- The moment after a schedule. -/
def run (m : Moment) (deeds : List Deed) : Moment := deeds.foldl advance m

@[simp] theorem run_nil (m : Moment) : m.run [] = m := rfl

@[simp] theorem run_cons (m : Moment) (deed : Deed) (deeds : List Deed) :
    m.run (deed :: deeds) = (m.advance deed).run deeds := rfl

theorem run_append (m : Moment) (deeds more : List Deed) :
    m.run (deeds ++ more) = (m.run deeds).run more := List.foldl_append

end Moment

end TxRelay.Client
