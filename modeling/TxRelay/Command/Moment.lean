/-
  The broadcast command at work, step by step.

  The command goes through its stages on one thread: it submits its arguments, waits for receipts,
  and closes.  The client goes on beside it: broadcasts end at any time, and its loop hands each
  receipt to the command's callback, which sends it to the command.  A moment is the command between
  two steps of either side:

      arguments ──▶ client ──▶ callback ──▶ channel ──▶ standard output

  1. **Two sides.**  `Moves` are the steps of the command, `Client.Happens` those of the client; a
     step is one of the one side or of the other, an answer of a node, or the end of the time.

  2. **The channel.**  What the callback got is read off the client's log, so what a step of the
     client adds to the channel is what it adds to the deliveries (`Moment.goOn`).

  3. **Time.**  The time to wait is over at any moment of the waiting.  A receipt that was sent is
     printed even then; the command gives up only if the time is over and nothing is there.

  4. **The end.**  However the command ends, its client is destroyed with it (`Moment.finish`).
-/
import TxRelay.Client.Moment
import TxRelay.Command

namespace TxRelay.Command

/-- What the command is about. -/
inductive Stage where
  /-- These arguments are still to be submitted. -/
  | submitting (left : List String)
  /-- Receipts are waited for. -/
  | waiting
  /-- No receipt is waited for any more. -/
  | closing
  | ended (ending : Ending)

/-- The command between two steps. -/
structure Moment where
  client : Client.Moment
  stage : Stage
  /-- How many arguments were submitted. -/
  index : Nat := 0
  /-- How many of them were accepted. -/
  expected : Nat := 0
  /-- The receipts that were sent and not printed yet, oldest first. -/
  channel : List Receipt := []
  stdout : List String := []
  stderr : List String := []
  /-- Once the time is over, how many receipts had been sent by then. -/
  inTime : Option Nat := none

namespace Moment

/-- The command is over, and its client is destroyed with it. -/
def finish (m : Moment) (ending : Ending) : Moment :=
  { m with client := m.client.make .destroy, stage := .ended ending }

/-- The client takes a step; a receipt that its callback got is sent. -/
def goOn (m : Moment) (client : Client.Moment) : Moment :=
  { m with
    client := client
    -- a step of the client begins one callback at most
    channel := m.channel ++
      (Client.delivered client.log).drop (Client.delivered m.client.log).length }

/-- Submit the next argument under a fresh name; a malformed one ends the command. -/
def submit (m : Moment) (s : Surroundings) (endpoint raw : String) (left : List String) : Moment :=
  match Hex.decode (Text.trim raw) with
  | .error e => m.finish (.failed e.debugForm)
  | .ok rawTx =>
    let call : ClientCall := .broadcast rawTx (some endpoint) (s.freshId m.index)
    let next : Moment :=
      { m with client := m.client.make call, stage := .submitting left, index := m.index + 1 }
    match (m.client.client.perform call).1 with
    | .failed e => { next with stderr := m.stderr ++ [e.message] }
    | _ => { next with expected := m.expected + 1 }

/-- Begin to wait, if the clock can show when the time is over. -/
def await (m : Moment) (s : Surroundings) (wait : UInt64) : Moment :=
  if lastSecond < s.clock + wait.toNat then m.finish (.panicked s.clockOverflow)
  else { m with stage := .waiting }

/-- Print a receipt. -/
def print (m : Moment) (r : Receipt) (rest : List Receipt) : Moment :=
  { m with channel := rest, stdout := m.stdout ++ [r.toJson] }

/-- The time is over. -/
def expire (m : Moment) : Moment :=
  { m with inTime := some (Client.delivered m.client.log).length }

/-- Ask for the counters and end. -/
def close (m : Moment) : Moment :=
  let asked : Moment := { m with client := m.client.make .stats }
  match (m.client.client.perform .stats).1 with
  | .failed e => asked.finish (.failed e.debugForm)
  | _ => asked.finish .done

/-- The command is not over. -/
def Runs (m : Moment) : Prop := ∀ ending, m.stage ≠ .ended ending

/-- The command begins with a client whose callback sends on what it gets, and whose loop runs. -/
def initial (s : Surroundings) (c : Config) (raws : List String) : Moment :=
  let callback : ClientCall := .setCallback "receipts" (fun _ => []) fun _ => false
  { client := ((Client.Moment.initial c (clientOf s c).network).make callback).make .start
    stage := .submitting raws }

end Moment

section

variable (s : Surroundings) (endpoint : String) (wait : UInt64)

/-- A step of the command itself. -/
inductive Moves : Moment → Moment → Prop where
  | submit {m : Moment} {raw : String} {left : List String}
      (stage : m.stage = .submitting (raw :: left)) : Moves m (m.submit s endpoint raw left)
  | await {m : Moment} (stage : m.stage = .submitting []) : Moves m (m.await s wait)
  /-- A line is missing, and a receipt is there. -/
  | print {m : Moment} {r : Receipt} {rest : List Receipt} (stage : m.stage = .waiting)
      (missing : m.stdout.length < m.expected) (sent : m.channel = r :: rest) :
      Moves m (m.print r rest)
  /-- A line is missing, no receipt is there, and the time is over. -/
  | giveUp {m : Moment} (stage : m.stage = .waiting) (missing : m.stdout.length < m.expected)
      (nothing : m.channel = []) (late : m.inTime ≠ none) : Moves m { m with stage := .closing }
  /-- No line is missing. -/
  | complete {m : Moment} (stage : m.stage = .waiting) (all : m.expected ≤ m.stdout.length) :
      Moves m { m with stage := .closing }
  | close {m : Moment} (stage : m.stage = .closing) : Moves m m.close

/-- One step. -/
inductive Step : Moment → Moment → Prop where
  | moves {m m' : Moment} (next : Moves s endpoint wait m m') : Step m m'
  /-- Something happens in the client. -/
  | happens {m : Moment} {client : Client.Moment} (runs : m.Runs)
      (next : Client.Happens m.client client) : Step m (m.goOn client)
  /-- A broadcast ends, as its node says. -/
  | answer {m : Moment} {job : Nat} {outcome : BroadcastResult} (runs : m.Runs)
      (goes : (m.client.client.engine.finish job outcome).1 = true) :
      Step m (m.goOn (m.client.hear m.client.client.network job outcome))
  | expire {m : Moment} (stage : m.stage = .waiting) (early : m.inTime = none) : Step m m.expire

/-- The moments that the command can come to. -/
inductive Reachable (c : Config) (raws : List String) : Moment → Prop where
  | initial : Reachable c raws (.initial s c raws)
  | step {m m' : Moment} (before : Reachable c raws m) (next : Step s endpoint wait m m') :
      Reachable c raws m'

end

end TxRelay.Command
