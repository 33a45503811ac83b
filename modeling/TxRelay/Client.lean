/-
  The relay client.

  A client owns one engine and at most one worker loop.  The loop polls the engine and hands each
  receipt to the callback that is set at that moment; a callback may itself make calls on the
  client.  The loop looks at its orders before each poll, so a call made inside a callback never
  interrupts it: the callback returns first.

  Once destroyed, the client refuses every call, and the loop ends.

  1. **Calls.**  `perform` makes one call: its answer, and the client after it.  `start` and `run`
     both take the loop by `claim`, and differ in who runs it, a thread of the client or the caller.

  2. **The loop.**  `round` looks at the orders and polls; `invoke` hands the receipt over, makes
     the calls of the callback and counts its panic.  `drain` goes rounds until one of them waits or
     ends, and `settle` lets the network end broadcasts in between.

  3. **Time.**  Nothing here takes time.  `settle` answers what comes of a call when everything has
     happened that can happen, and that is what a session sees (`Client.Session`).  What lies
     between is taken apart elsewhere: into steps of the client in `Client.Moment`, into steps of
     its threads in `Client.Threads`.

  A round is one step here: whoever calls from outside does so before the look at the orders or
  after the callback was found.  With one thread there is nothing else.  With several there is, and
  `Client.Threads` is where it is modelled.
-/
import TxRelay.Client.Callback
import TxRelay.Client.Error
import TxRelay.Config
import TxRelay.Engine
import TxRelay.Network

namespace TxRelay

/-- A call on a client. -/
inductive ClientCall where
  /-- Set the callback: its name, the calls that it makes for a job's receipt, and whether it
      panics after them. -/
  | setCallback (tag : String) (calls : JobId → List ClientCall) (panics : JobId → Bool)
  /-- Run the loop in the background. -/
  | start
  /-- Run the loop on the calling thread. -/
  | run
  | stop
  /-- Submit a transaction, to the client's own endpoint if no other is given. -/
  | broadcast (rawTx : Bytes) (endpoint : Option String) (jobId : JobId)
  | balance (q : BalanceQuery)
  | stats
  | state
  | isRunning
  | defaultEndpoint
  | debug
  | destroy

/-- A callback. -/
structure Callback where
  tag : String
  calls : JobId → List ClientCall
  panics : JobId → Bool

/-- Who runs the loop. -/
inductive Loop where
  /-- A thread of the client. -/
  | worker
  /-- The thread that called `run`. -/
  | caller
deriving DecidableEq, Repr

/-- What a call answers. -/
inductive ClientAnswer where
  | set
  | started
  | queued
  | flag (b : Bool)
  | stats (s : Stats)
  | text (s : String)
  | nothing
  | failed (e : ClientError)
deriving DecidableEq, Repr

/-- A callback that was called: its name, the receipt, and what its own calls answered. -/
structure Invocation where
  tag : String
  receipt : Receipt
  answers : List ClientAnswer
deriving DecidableEq, Repr

/-- The client. -/
structure Client where
  engine : Engine
  network : Network
  defaultEndpoint : String
  /-- Not destroyed yet. -/
  alive : Bool := true
  callback : Option Callback := none
  /-- The loop, while one runs. -/
  loop : Option Loop := none
  /-- How the last loop ended. -/
  loopResult : Option (Except ClientError Unit) := none
  /-- The loop is told to end. -/
  stopAsked : Bool := false

namespace Client

/-- A new client. -/
def new (config : Config) (network : Network) : Client :=
  { engine := { pollInterval := config.engine.pollInterval }
    network := network
    defaultEndpoint := config.network.defaultEndpoint }

/-! ## Calls -/

/-- Where the client is in its life. -/
def phase (c : Client) : Phase := if c.alive then c.engine.phase else .destroyed

/-- Does a loop run? -/
def isRunning (c : Client) : Bool := c.loop.isSome

/-- The counters of a live client. -/
def stats? (c : Client) : Option Stats := if c.alive then some c.engine.tally.stats else none

/-- Take the right to run the loop: an old order to stop is forgotten and the engine works. -/
def claim (c : Client) (loop : Loop) : Except ClientError Client :=
  if !c.alive then .error .destroyed
  else if c.callback.isNone then .error .noCallback
  else if c.isRunning then .error .alreadyRunning
  else
    match c.engine.startWorking with
    | (.error e, _) => .error (.ofEngine e)
    | (.ok _, engine) =>
      .ok { c with engine := engine, loop := some loop, stopAsked := false }

/-- What a refused submission is to the client. -/
def refusal (jobId : JobId) : EngineError → ClientError
  | .destroyed => .destroyed
  | e => .rejected jobId e

/-- Submit a transaction. -/
def broadcast (c : Client) (rawTx : Bytes) (endpoint : String) (jobId : JobId) :
    Except ClientError Unit × Client :=
  if !c.alive then (.error .destroyed, c)
  else
    match Engine.submit c.network.validate ⟨rawTx, endpoint, jobId⟩ c.engine with
    | (.ok _, engine) => (.ok (), { c with engine := engine })
    | (.error e, engine) => (.error (refusal jobId e), { c with engine := engine })

/-- Ask for a balance. -/
def balance (c : Client) (q : BalanceQuery) : Except ClientError Nat × Client :=
  if !c.alive then (.error .destroyed, c)
  else
    let (reply, network) := c.network.balance q
    match c.engine.balance reply with
    | .ok wei => (.ok wei, { c with network := network })
    | .error e => (.error (.ofEngine e), { c with network := network })

/-- Destroy the client; `false` if it was destroyed before. -/
def destroy (c : Client) : Bool × Client :=
  if c.alive then
    (true, { c with alive := false, engine := c.engine.destroy.2, stopAsked := true })
  else (false, c)

/-- The client as developers see it. -/
def debugForm (c : Client) : String :=
  "RelayClient \x7b state: " ++ c.phase.name ++ ", running: " ++
    (if c.isRunning then "true" else "false") ++ ", default_endpoint: " ++
    Text.quoted c.defaultEndpoint ++ " \x7d"

/-- The answer of a call that may fail. -/
def answerOf {α : Type} (ok : α → ClientAnswer) : Except ClientError α → ClientAnswer
  | .ok a => ok a
  | .error e => .failed e

/-- Make one call. -/
def perform (c : Client) : ClientCall → ClientAnswer × Client
  | .setCallback tag calls panics =>
    if c.alive then (.set, { c with callback := some ⟨tag, calls, panics⟩ })
    else (.failed .destroyed, c)
  | .start =>
    match c.claim .worker with
    | .ok c => (.started, c)
    | .error e => (.failed e, c)
  | .run =>
    match c.claim .caller with
    | .ok c => (.nothing, c)
    | .error e => (.failed e, c)
  | .stop => (.nothing, { c with stopAsked := true })
  | .broadcast rawTx endpoint jobId =>
    let (r, c) := c.broadcast rawTx (endpoint.getD c.defaultEndpoint) jobId
    (answerOf (fun _ => .queued) r, c)
  | .balance q => let (r, c) := c.balance q; (answerOf (fun wei => .text (toString wei)) r, c)
  | .stats =>
    match c.stats? with
    | some s => (.stats s, c)
    | none => (.failed .destroyed, c)
  | .state => (.text c.phase.name, c)
  | .isRunning => (.flag c.isRunning, c)
  | .defaultEndpoint => (.text c.defaultEndpoint, c)
  | .debug => (.text c.debugForm, c)
  | .destroy => let (b, c) := c.destroy; (.flag b, c)

/-- Make calls one after the other. -/
def performAll (c : Client) : List ClientCall → List ClientAnswer × Client
  | [] => ([], c)
  | call :: calls =>
    let (a, c) := c.perform call
    let (as, c) := c.performAll calls
    (a :: as, c)

/-! ## The loop -/

/-- Hand a receipt to a callback. -/
def invoke (c : Client) (callback : Callback) (r : Receipt) : Invocation × Client :=
  let (answers, c) := c.performAll (callback.calls r.jobId)
  let c :=
    if callback.panics r.jobId then
      { c with engine := { c.engine with tally := c.engine.tally.panicked } }
    else c
  (⟨callback.tag, r, answers⟩, c)

/-- Has the loop been told to end? -/
def mustEnd (c : Client) : Bool := c.stopAsked || !c.alive

/-- What comes of a round of the loop. -/
inductive Round where
  /-- The loop ends with this result. -/
  | ends (result : Except ClientError Unit)
  /-- No receipt is there. -/
  | waits
  | takes (r : Receipt)

/-- The loop is over and the right to run it is free again. -/
def endLoop (c : Client) (result : Except ClientError Unit) : Client :=
  { c with loop := none, loopResult := some result }

/-- A round of the loop: look at the orders, then poll. -/
def round (c : Client) : Round × Client :=
  if c.mustEnd then (.ends (.ok ()), c.endLoop (.ok ()))
  else
    match c.engine.pollBlocking with
    | (.ok (.ready r), engine) => (.takes r, { c with engine := engine })
    | (.ok .notReady, _) => (.waits, c)
    | (.error .destroyed, _) => (.ends (.ok ()), c.endLoop (.ok ()))
    | (.error e, _) =>
      let result := .error (.ofEngine e)
      (.ends result, c.endLoop result)

/-- Let the loop run until it waits or ends; every round but the last takes a receipt. -/
def drain : (rounds : Nat) → Client → List Invocation × Client
  | 0, c => ([], c)
  | rounds + 1, c =>
    if c.loop.isNone then ([], c)
    else
      match c.round with
      | (.ends _, c) | (.waits, c) => ([], c)
      | (.takes r, c) =>
        match c.callback with
        | none => drain rounds c
        | some callback =>
          let (i, c) := c.invoke callback r
          let (is, c) := drain rounds c
          (i :: is, c)

/-- Let the loop run as far as it comes with the receipts that are there: nothing that a
    callback does adds to them. -/
def deliver (c : Client) : List Invocation × Client :=
  drain (c.engine.receipts.length + 1) c

/-- The network ends the oldest broadcast, if it does so by itself. -/
def hear? (c : Client) : Option Client :=
  match c.engine.broadcasting with
  | [] => none
  | job :: _ =>
    match c.network.broadcast? job.request.rawTx job.request.endpoint with
    | none => none
    | some (outcome, network) =>
      some { c with network := network, engine := (c.engine.finish job.number outcome).2 }

/-- Let everything happen that can happen: the loop runs, the network ends a broadcast, the loop
    runs again, at most so many times. -/
def settle : (rounds : Nat) → Client → List Invocation × Client
  | 0, c => c.deliver
  | rounds + 1, c =>
    let (is, c) := c.deliver
    match c.hear? with
    | none => (is, c)
    | some c =>
      let (more, c) := settle rounds c
      (is ++ more, c)

end Client

end TxRelay
