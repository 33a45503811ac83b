/-
  The submission engine.

  A request that passes the checks becomes a job.  Jobs wait in a queue until the engine works; then
  each is broadcast on its own, so broadcasts end in any order.  The end of a broadcast gives a
  receipt, and receipts wait, oldest first, until a poller takes them:

      submit ──▶ queue ──▶ broadcasting ──▶ receipts ──▶ poller

  The phases follow each other in one direction, created, working, destroyed.  Once destroyed the
  engine refuses every call and gives up the jobs that have no receipt yet.

  1. **Submitting.**  `check` names the first thing that is wrong with a request, and every refusal
     is counted under its label.  A request that passes is enqueued with the next number; a working
     engine hands its queue to the network at once (`dispatch`).

  2. **Receipts.**  Whoever polls first is served first: polls of other threads queue for the
     receipts, and a poll that does not wait finds nothing while others do.

  3. **Polling.**  A blocking poll is a poll of another thread whose time is over at once, unless it
     ended before: `pollBlocking` is `spawnPoll` and `expire`.  So all polls go one way.

  4. **Time.**  This is the engine after everything that could happen has happened.  Its parts are
     taken apart into steps in `Engine.Moment`, into polls of its tasks in `Engine.Tasks`, into
     steps of its callers in `Engine.Callers`, and its counters into loads and stores in
     `Engine.Counters`.

  The engine keeps a sender of receipts of its own, so its receivers never learn that all senders
  are gone; `receiptsOpen` says so in the words of the program rather than by leaving the case out.
-/
import TxRelay.Engine.Error
import TxRelay.Endpoint
import TxRelay.Receipt
import TxRelay.Stats
import TxRelay.Text.Duration

namespace TxRelay

/-- A signed transaction to be broadcast. -/
structure Request where
  rawTx : Bytes
  endpoint : String
  jobId : JobId
deriving DecidableEq, Repr

/-- An accepted request and its number, counted in the order of acceptance. -/
structure Job where
  number : Nat
  request : Request
deriving DecidableEq, Repr

/-- Where an engine is in its life. -/
inductive Phase where
  | created
  | working
  | destroyed
deriving DecidableEq, Repr

/-- The name of a phase. -/
def Phase.name : Phase → String
  | created => "Created"
  | working => "Working"
  | destroyed => "Destroyed"

/-- What a poll finds. -/
inductive PollOutcome where
  | ready (r : Receipt)
  | notReady
deriving DecidableEq, Repr

/-- The end of a poll. -/
abbrev PollResult := Except EngineError PollOutcome

/-- A poll of another thread: it waits, or it has ended. -/
inductive Poller where
  | waiting
  | ended (result : PollResult)

/-- A poll that waits learns that the engine is gone. -/
def Poller.wake : Poller → Poller
  | .waiting => .ended (.error .destroyed)
  | .ended r => .ended r

/-- The engine after everything that could happen has happened. -/
structure Engine where
  /-- The longest time that a blocking poll waits, in milliseconds. -/
  pollInterval : UInt64
  phase : Phase := .created
  /-- How many jobs were accepted. -/
  accepted : Nat := 0
  /-- Accepted before the engine worked, oldest first. -/
  queue : List Job := []
  /-- Handed to the network, which has not answered yet. -/
  broadcasting : List Job := []
  /-- Receipts that nobody took yet, oldest first. -/
  receipts : List Receipt := []
  /-- Polls of other threads in the order in which they began. -/
  pollers : List Poller := []
  /-- The engine's own sender of receipts, which it never gives away. -/
  ownSender : Bool := true
  tally : Tally := {}

namespace Engine

/-! ## Submitting -/

/-- The checks of a request, and the first that fails. -/
def check (validate : Validate) (r : Request) : Except EngineError Unit :=
  if r.rawTx.isEmpty then .error (.invalidRequest "empty payload")
  else
    match Endpoint.parse r.endpoint with
    | .error e => .error (.invalidEndpoint r.endpoint e.reason)
    | .ok _ =>
      match validate r.rawTx with
      | .error e => .error (.rejected e.message)
      | .ok _ => .ok ()

/-- The label under which a refusal is counted. -/
def rejectReason : EngineError → RejectReason
  | .invalidEndpoint _ _ => .endpoint
  | .rejected _ => .payload
  | _ => .request

/-- A working engine hands every queued job to the network. -/
def dispatch (e : Engine) : Engine :=
  match e.phase with
  | .working => { e with broadcasting := e.broadcasting ++ e.queue, queue := [] }
  | _ => e

/-- A request that passed the checks becomes a job and waits behind the others. -/
def enqueue (e : Engine) (r : Request) : Engine :=
  { e with
    accepted := e.accepted + 1
    queue := e.queue ++ [⟨e.accepted, r⟩]
    tally := e.tally.submitted }

/-- Take a request that passed the checks. -/
def accept (e : Engine) (r : Request) : Engine := dispatch (e.enqueue r)

/-- Submit a request. -/
def submit (validate : Validate) (r : Request) (e : Engine) : Except EngineError Unit × Engine :=
  match e.phase with
  | .destroyed => (.error .destroyed, e)
  | _ =>
    match check validate r with
    | .error err => (.error err, { e with tally := e.tally.rejected (rejectReason err) })
    | .ok _ => (.ok (), e.accept r)

/-- Begin to work; the answer is `false` if the engine works already. -/
def startWorking (e : Engine) : Except EngineError Bool × Engine :=
  match e.phase with
  | .created => (.ok true, dispatch { e with phase := .working })
  | .working => (.ok false, e)
  | .destroyed => (.error .destroyed, e)

/-! ## Receipts -/

/-- Can a receipt still come?  Its sender is the engine itself, the dispatcher or a broadcast. -/
def receiptsOpen (e : Engine) : Bool :=
  e.ownSender || e.phase = .working || !e.broadcasting.isEmpty

/-- What the receipts give at once: the oldest of them, or the news that none can come. -/
def receive? (e : Engine) : Option (PollResult × Engine) :=
  match e.receipts with
  | r :: rest => some (.ok (.ready r), { e with receipts := rest, tally := e.tally.delivered })
  -- no receipt now; none for ever if every sender is gone
  | [] => if e.receiptsOpen then none else some (.error .disconnected, e)

/-- Does a poll of another thread wait? -/
def someoneWaits (e : Engine) : Bool :=
  e.pollers.any fun | .waiting => true | .ended _ => false

/-- The first of the polls that wait ends so. -/
def endFirst (result : PollResult) : List Poller → List Poller
  | [] => []
  | .waiting :: rest => .ended result :: rest
  | .ended r :: rest => .ended r :: endFirst result rest

/-- The poll that has waited longest gets the oldest receipt. -/
def handOver (e : Engine) : Engine :=
  if e.someoneWaits then
    match e.receive? with
    | none => e
    | some (result, e) => { e with pollers := endFirst result e.pollers }
  else e

/-- A broadcast is over: the job's receipt waits behind the others. -/
def complete (e : Engine) (job : Job) (outcome : BroadcastResult) : Engine :=
  let receipt := Receipt.ofOutcome job.request.jobId outcome
  { e with
    broadcasting := e.broadcasting.erase job
    receipts := e.receipts ++ [receipt]
    tally := e.tally.completed receipt.success }

/-- The network answers for a job; `false` if that job is not being broadcast. -/
def finish (e : Engine) (number : Nat) (outcome : BroadcastResult) : Bool × Engine :=
  match e.broadcasting.find? (·.number = number) with
  | none => (false, e)
  | some job => (true, handOver (e.complete job outcome))

/-! ## Polling -/

/-- Take a receipt if one is there and nobody is before us. -/
def pollNonblocking (e : Engine) : PollResult × Engine :=
  match e.phase with
  | .destroyed => (.error .destroyed, e)
  | _ =>
    if e.someoneWaits then (.ok .notReady, e) else e.receive?.getD (.ok .notReady, e)

/-- Begin a poll on another thread.  It waits if its turn has not come or no receipt is there. -/
def spawnPoll (e : Engine) : Engine :=
  match e.phase with
  | .destroyed => { e with pollers := e.pollers ++ [.ended (.error .destroyed)] }
  | _ => handOver { e with pollers := e.pollers ++ [.waiting] }

/-- The time of a poll that waits is over. -/
def expire (e : Engine) (i : Nat) : Engine :=
  match e.pollers[i]? with
  | some .waiting => { e with pollers := e.pollers.set i (.ended (.ok .notReady)) }
  | _ => e

/-- Poll and wait at most one poll interval, in which nothing happens: a poll that has to wait
    ends without a receipt. -/
def pollBlocking (e : Engine) : PollResult × Engine :=
  -- this poll stands behind the others; when its time is over it is forgotten, whatever it found
  let i := e.pollers.length
  let e := (e.spawnPoll).expire i
  let result := match e.pollers[i]? with
    | some (.ended r) => r
    | _ => .ok .notReady
  (result, { e with pollers := e.pollers.take i })

/-- Intervals from here on, in milliseconds, are longer than any wait. -/
def longInterval : UInt64 := 10000

/-- A poll on another thread.  With a short interval its time is over at once. -/
def spawnTimedPoll (e : Engine) : Engine :=
  let e' := e.spawnPoll
  -- nothing else happens while a short interval goes by
  if e.pollInterval < longInterval then e'.expire e.pollers.length else e'

/-- The result of the oldest poll of another thread, which is then forgotten. -/
def joinPoll (e : Engine) : Option PollResult × Engine :=
  match e.pollers with
  | .ended r :: rest => (some r, { e with pollers := rest })
  | _ => (none, e)

/-! ## Balance and end -/

/-- Ask the network for a balance; `reply` is what it would say. -/
def balance (reply : Except NetworkError Nat) (e : Engine) : Except EngineError Nat :=
  match e.phase with
  | .destroyed => .error .destroyed
  | _ =>
    match reply with
    | .error err => .error (.network err)
    | .ok wei => .ok wei

/-- Destroy the engine; `false` if it was destroyed before. -/
def destroy (e : Engine) : Bool × Engine :=
  match e.phase with
  | .destroyed => (false, e)
  | _ =>
    (true,
      { e with phase := .destroyed, queue := [], broadcasting := [],
               pollers := e.pollers.map Poller.wake })

/-! ## Shown to developers -/

/-- The engine as developers see it. -/
def debugForm (e : Engine) : String :=
  "SubmissionEngine \x7b state: " ++ e.phase.name ++ ", poll_interval: " ++
    Text.duration e.pollInterval.toNat ++ ", stats: " ++ e.tally.stats.debugForm ++ " \x7d"

end Engine

end TxRelay
