/-
  The commands.

  A command gets everything it needs from its surroundings and gives back what it prints and how it
  exits.

  1. **Surroundings.**  Files, the environment, nodes, fresh names, the clock, and what the program
     was built with are fields of `Surroundings`; a command is a function of them.

  2. **Effects.**  `Effect` is what was printed and how the command ended: in order, with an error,
     misused, or with a panic.  The exit code and the error output are read off the ending.

  3. **Broadcast.**  `broadcast` submits its transactions one after the other, so a malformed
     argument ends it when its turn comes; it then waits for the receipts and prints each as it
     arrives.  When the waiting is over is a sum of the clock and the time to wait, which is formed
     only after everything was submitted, and which the clock may be too small to show.

  4. **The others** ask one thing each and print the answer.

  Here a command lets its client come to rest after each call.  `Command.Moment` has the broadcast
  command beside a client that is at work all the time.
-/
import TxRelay.Client.Session
import TxRelay.Command.Arguments
import TxRelay.Config.Load
import TxRelay.Config.Write
import TxRelay.Receipt.Json
import TxRelay.Text.Blank
import TxRelay.Wallet

namespace TxRelay

/-- What a command finds around it. -/
structure Surroundings where
  /-- The files by path. -/
  file : String → Option Bytes
  /-- The private key in the environment. -/
  key : Option String
  /-- The nodes that can be reached. -/
  node : Rpc.Node
  /-- The names that jobs get. -/
  freshId : Nat → JobId
  /-- The seconds on the clock. -/
  clock : Nat
  /-- How many receipts arrive within so many seconds. -/
  arrivals : UInt64 → Nat
  /-- The number that the system gave to the main thread. -/
  mainThread : Nat
  /-- The path under which the program knows the source text of its commands. -/
  sourceFile : String

/-- A panic: the thread, the place in the source text, and why. -/
structure Panic where
  thread : Nat
  place : String
  message : String
deriving DecidableEq, Repr

/-- A panic of the main thread as it is reported, when no backtrace is asked for. -/
def Panic.report (p : Panic) : List String :=
  ["",
    "thread 'main' (" ++ toString p.thread ++ ") panicked at " ++ p.place ++ ":",
    p.message,
    "note: run with `RUST_BACKTRACE=1` environment variable to display a backtrace"]

/-- The time at which waiting would end is beyond the clock. -/
def Surroundings.clockOverflow (s : Surroundings) : Panic where
  thread := s.mainThread
  place := s.sourceFile ++ ":148:20"
  message := "overflow when adding duration to instant"

/-- How a command ends. -/
inductive Ending where
  | done
  /-- With an error, shown as developers see it. -/
  | failed (error : String)
  /-- The arguments are not in order. -/
  | misused
  | panicked (panic : Panic)
deriving DecidableEq, Repr

/-- What a command does. -/
structure Effect where
  stdout : List String := []
  stderr : List String := []
  ending : Ending := .done
  /-- The client that it used, if it got that far. -/
  client : Option Client := none

namespace Effect

/-- The exit code. -/
def exitCode (e : Effect) : Nat :=
  match e.ending with
  | .done => 0
  | .failed _ => 1
  | .misused => 2
  | .panicked _ => 101

/-- What stands on the error output at the end. -/
def errorLines (e : Effect) : List String :=
  match e.ending with
  | .failed error => e.stderr ++ ["Error: " ++ error]
  | .misused => e.stderr ++ Command.usage
  | .panicked panic => e.stderr ++ panic.report
  | .done => e.stderr

/-- Only an error. -/
def failure (error : String) : Effect := { ending := .failed error }

end Effect

namespace Command

/-- A JSON object of texts with a line for each member. -/
def prettyObject (members : List (String × String)) : List String :=
  let line (p : String × String) : String :=
    "  " ++ String.ofList (Json.quote p.1) ++ ": " ++ String.ofList (Json.quote p.2)
  let rec go : List (String × String) → List String
    | [] => []
    | [p] => [line p]
    | p :: ps => (line p ++ ",") :: go ps
  "\x7b" :: go members ++ ["\x7d"]

/-- So many wei make one ether. -/
def weiPerEther : Nat := 1000000000000000000

/-- A number of wei in ether, with all 18 decimals. -/
def ether (wei : Nat) : String :=
  let places := (toString (wei % weiPerEther)).toList
  toString (wei / weiPerEther) ++ "." ++
    String.ofList (List.replicate (18 - places.length) '0' ++ places)

/-- The client of a command. -/
def clientOf (s : Surroundings) (c : Config) : Client :=
  Client.new c (.nodes
    { node := s.node
      rpcTimeout := c.network.rpcTimeout
      receiptTimeout := c.network.receiptTimeout })

/-! ## Broadcast -/

/-- A broadcast on its way. -/
structure Submitting where
  client : Client
  receipts : List Receipt := []
  rejections : List String := []

namespace Submitting

/-- Make a call on the client; receipts that come with it are kept. -/
def call (b : Submitting) (c : ClientCall) : ClientAnswer × Submitting :=
  let (report, client) := b.client.step (.call c)
  (report.answer,
    { b with client := client, receipts := b.receipts ++ report.callbacks.map (·.receipt) })

/-- Submit one transaction. -/
def submit (b : Submitting) (endpoint : String) (rawTx : Bytes) (jobId : JobId) : Submitting :=
  match b.call (.broadcast rawTx (some endpoint) jobId) with
  | (.failed e, b) => { b with rejections := b.rejections ++ [e.message] }
  | (_, b) => b

/-- Submit transactions until one is malformed; `i` counts them. -/
def submitAll (s : Surroundings) (endpoint : String) : (i : Nat) → List String → Submitting →
    Except Hex.Error Unit × Submitting
  | _, [], b => (.ok (), b)
  | i, raw :: raws, b =>
    match Hex.decode (Text.trim raw) with
    | .error e => (.error e, b)
    | .ok rawTx => submitAll s endpoint (i + 1) raws (b.submit endpoint rawTx (s.freshId i))

end Submitting

/-- A client whose callback keeps the receipts and whose loop runs. -/
def listening (s : Surroundings) (c : Config) : Submitting :=
  let b : Submitting := { client := clientOf s c }
  let (_, b) := b.call (.setCallback "receipts" (fun _ => []) fun _ => false)
  (b.call .start).2

/-- The latest time that the clock can show. -/
def lastSecond : Nat := 0x7fffffffffffffff

/-- Broadcast transactions and print their receipts. -/
def runBroadcast (s : Surroundings) (c : Config) (raws : List String) (endpoint : Option String)
    (wait : UInt64) : Effect :=
  let endpoint := endpoint.getD c.network.defaultEndpoint
  -- the client is destroyed with the command, whichever way it ends
  match Submitting.submitAll s endpoint 0 raws (listening s c) with
  | (.error e, b) =>
    { stderr := b.rejections, ending := .failed e.debugForm, client := some b.client.destroy.2 }
  | (.ok _, b) =>
    if lastSecond < s.clock + wait.toNat then
      { stderr := b.rejections
        ending := .panicked s.clockOverflow
        client := some b.client.destroy.2 }
    else
      { stdout := (b.receipts.take (s.arrivals wait)).map Receipt.toJson
        stderr := b.rejections
        client := some b.client.destroy.2 }

/-! ## The other commands -/

/-- Print the balance of an account. -/
def runBalance (s : Surroundings) (c : Config) (address : String) (endpoint : Option String) :
    Effect :=
  match Hex.decodeChunk 20 address with
  | .error e => .failure e.debugForm
  | .ok account =>
    let endpoint := endpoint.getD c.network.defaultEndpoint
    match (clientOf s c).balance ⟨account, endpoint, none⟩ with
    | (.error e, client) => { Effect.failure e.debugForm with client := some client }
    | (.ok wei, client) =>
      { stdout := prettyObject
          [("address", Address.checksummed account), ("ether", ether wei), ("wei", toString wei)]
        client := some client }

/-- Print the signature of a message. -/
def runSign (s : Surroundings) (c : Config) (message : String) : Effect :=
  match Wallet.ofEnvironment s.key c.network.chainId with
  | .error e => .failure e.debugForm
  | .ok w =>
    match w.sign (Bytes.ofString message) with
    | .error e => .failure e.debugForm
    | .ok signature =>
      { stdout := prettyObject
          [("address", w.address.checksummed), ("signature", Hex.encode0x signature)] }

/-- Print the settings. -/
def runCheckConfig (c : Config) : Effect :=
  match c.check with
  | [] =>
    match c.toToml? with
    | some text => { stdout := (text.toList.splitOn '\n').map String.ofList }
    | none => .failure "OutOfRange(Some(\"u64\"))"
  | vs =>
    { stderr := vs.map Config.Violation.text
      ending := .failed (Text.quoted (toString vs.length ++ " configuration error(s)")) }

/-- Run a command under some settings. -/
def run (s : Surroundings) (c : Config) : Command → Effect
  | .broadcast raws endpoint wait => runBroadcast s c raws endpoint wait
  | .balance address endpoint => runBalance s c address endpoint
  | .sign message => runSign s c message
  | .checkConfig => runCheckConfig c

end Command

namespace Invoked

/-- The settings of a command: the file's, or the defaults. -/
def config? (s : Surroundings) (i : Invoked) : Except Config.LoadError Config :=
  match i.config with
  | none => .ok {}
  | some path => Config.load (s.file path)

end Invoked

/-- What the program does when it is called with some arguments. -/
def runCommandLine (s : Surroundings) (args : List String) : Effect :=
  match Invoked.ofArgs? args with
  | none => { ending := .misused }
  | some i =>
    match i.config? s with
    | .error e => .failure e.debugForm
    | .ok c => i.command.run s c

end TxRelay
