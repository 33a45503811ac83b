/-
  Counting while others count.

  Nobody locks the counters.  To record an occurrence takes several steps: its counter is moved,
  then its metric, then the counters are copied, and the gauge is set to what the copy says is in
  flight.  A copy loads the four counters one after the other.  Between any two of these steps all
  other parties take theirs:

      submit   read the phase and check the request · send it · record it
      a task   get the end of a broadcast · record it · queue the receipt
      a poll   take a receipt · count it
      stats    copy the counters

  1. **Copies.**  `Copying` is a copy with what was loaded so far; `Copying.load` loads the next
     counter as it is now.  A copy that is done shows four numbers of four moments.

  2. **Records.**  `Occurrence` is what is recorded with the gauge, an acceptance or a completion:
     which counter, which metric.  Refusals and deliveries are counted without it.

  3. **Parties.**  A party is a call or a task, and what it does next.  They are listed in the order
     in which they began, and each takes its steps in its own time (`Does`).

  4. **Locks.**  `Step` takes a condition under which a record may begin, `opening`: none for the
     program, and for comparison that nobody else records, as under a lock.

  A party that takes its steps while nobody else moves does what the engine's operations do.
-/
import TxRelay.Engine

namespace TxRelay

/-! ## Copies -/

/-- A copy of the counters, with what was loaded so far. -/
inductive Copying where
  | begun
  | submitted (s : UInt64)
  | rejected (s r : UInt64)
  | completed (s r c : UInt64)
  | done (copy : Stats)
deriving DecidableEq, Repr

/-- Load the next counter. -/
def Copying.load (now : Stats) : Copying → Copying
  | begun => submitted now.submitted
  | submitted s => rejected s now.rejected
  | rejected s r => completed s r now.completed
  | completed s r c => done ⟨s, r, c, now.delivered⟩
  | done copy => done copy

/-! ## Records -/

/-- What is recorded with the gauge. -/
inductive Occurrence where
  /-- A request was sent. -/
  | acceptance
  /-- A job got this receipt. -/
  | completion (r : Receipt)
deriving DecidableEq, Repr

namespace Occurrence

/-- Move the counter. -/
def count : Occurrence → Stats → Stats
  | acceptance, s => { s with submitted := s.submitted + 1 }
  | completion _, s => { s with completed := s.completed + 1 }

/-- Move the metric. -/
def publish : Occurrence → Metrics → Metrics
  | acceptance, m => { m with submitted := m.submitted + 1 }
  | completion r, m => m.countReceipt r.success

/-- Record the occurrence at once. -/
def record : Occurrence → Tally → Tally
  | acceptance, t => t.submitted
  | completion r, t => t.completed r.success

end Occurrence

/-- What a record does next. -/
inductive Recording where
  | counting
  | publishing
  /-- It copies the counters and sets the gauge by the copy. -/
  | copying (c : Copying)
deriving DecidableEq, Repr

namespace Engine

/-! ## Parties -/

/-- A party, and what it does next. -/
inductive Party where
  /-- `submit` reads the phase and checks the request. -/
  | looking (r : Request)
  /-- It counts a refusal. -/
  | refusing (e : EngineError)
  /-- It publishes the refusal. -/
  | labelling (e : EngineError)
  | sending (r : Request)
  /-- `submit` or a task records what happened. -/
  | recording (o : Occurrence) (step : Recording)
  | submitted (answer : Except EngineError Unit)
  /-- A task queues the receipt. -/
  | queueing (r : Receipt)
  | completed
  /-- A poll looks for a receipt. -/
  | polling
  /-- It counts the receipt that it took. -/
  | delivering (r : Receipt)
  | polled (result : PollResult)
  /-- `stats` copies the counters. -/
  | reading (c : Copying)

/-- The beginnings of calls. -/
def Party.first : Party → Bool
  | looking _ | polling | reading .begun => true
  | _ => false

/-- The party has something to record, and did not begin to. -/
def Party.begins : Party → Bool
  | recording _ .counting => true
  | _ => false

/-- Where a party is after its record. -/
def Party.after : Occurrence → Party
  | .acceptance => submitted (.ok ())
  | .completion r => queueing r

/-- The engine with these counters and metrics. -/
def withTally (e : Engine) (t : Tally) : Engine := { e with tally := t }

/-- A request becomes a job and waits behind the others; it is not counted yet. -/
def push (e : Engine) (r : Request) : Engine :=
  { e with accepted := e.accepted + 1, queue := e.queue ++ [⟨e.accepted, r⟩] }

/-- An engine and the parties that count, between two steps. -/
structure Counters where
  engine : Engine
  /-- Requests can be sent. -/
  receives : Bool := true
  /-- The dispatcher runs. -/
  dispatching : Bool := false
  /-- All parties, in the order in which they began. -/
  parties : List Party := []

namespace Counters

/-- A new engine. -/
def initial (pollInterval : UInt64) : Counters := { engine := { pollInterval := pollInterval } }

/-- The counters and metrics now. -/
abbrev tally (s : Counters) : Tally := s.engine.tally

/-- The counters now. -/
abbrev stats (s : Counters) : Stats := s.engine.tally.stats

/-- A party takes its next step, and the engine is another one. -/
inductive Does (validate : Validate) (s : Counters) : Party → Engine → Party → Prop where
  -- submit
  | lookGone {r : Request} (gone : s.engine.phase = .destroyed) :
      Does validate s (.looking r) s.engine (.submitted (.error .destroyed))
  | refuse {r : Request} {e : EngineError} (live : s.engine.phase ≠ .destroyed)
      (bad : check validate r = .error e) : Does validate s (.looking r) s.engine (.refusing e)
  | countRefusal {e : EngineError} :
      Does validate s (.refusing e)
        (s.engine.withTally
          { s.tally with stats := { s.stats with rejected := s.stats.rejected + 1 } })
        (.labelling e)
  | labelRefusal {e : EngineError} :
      Does validate s (.labelling e)
        (s.engine.withTally
          { s.tally with metrics := s.tally.metrics.countRejected (rejectReason e) })
        (.submitted (.error e))
  | look {r : Request} (live : s.engine.phase ≠ .destroyed) (ok : check validate r = .ok ()) :
      Does validate s (.looking r) s.engine (.sending r)
  | send {r : Request} (receives : s.receives = true) :
      Does validate s (.sending r) (s.engine.push r) (.recording .acceptance .counting)
  /-- Nobody receives any more. -/
  | bounce {r : Request} (gone : s.receives = false) :
      Does validate s (.sending r) s.engine (.submitted (.error .destroyed))
  -- a record
  | count {o : Occurrence} :
      Does validate s (.recording o .counting)
        (s.engine.withTally { s.tally with stats := o.count s.stats }) (.recording o .publishing)
  | publish {o : Occurrence} :
      Does validate s (.recording o .publishing)
        (s.engine.withTally { s.tally with metrics := o.publish s.tally.metrics })
        (.recording o (.copying .begun))
  | copy {o : Occurrence} {c : Copying} :
      Does validate s (.recording o (.copying c)) s.engine
        (.recording o (.copying (c.load s.stats)))
  | setGauge {o : Occurrence} {copy : Stats} :
      Does validate s (.recording o (.copying (.done copy)))
        (s.engine.withTally
          { s.tally with metrics := { s.tally.metrics with inFlight := some copy.inFlight } })
        (.after o)
  -- a task
  | queue {r : Receipt} :
      Does validate s (.queueing r) { s.engine with receipts := s.engine.receipts ++ [r] }
        .completed
  -- a poll
  | pollGone (gone : s.engine.phase = .destroyed) :
      Does validate s .polling s.engine (.polled (.error .destroyed))
  | take {r : Receipt} {rest : List Receipt} (head : s.engine.receipts = r :: rest) :
      Does validate s .polling { s.engine with receipts := rest } (.delivering r)
  /-- Its time is over, or others are at the receipts. -/
  | miss : Does validate s .polling s.engine (.polled (.ok .notReady))
  | deliver {r : Receipt} :
      Does validate s (.delivering r) (s.engine.withTally s.tally.delivered)
        (.polled (.ok (.ready r)))
  -- stats
  | load {c : Copying} : Does validate s (.reading c) s.engine (.reading (c.load s.stats))

/-- One step of a party, of the dispatcher or of the network.  A record begins when `opening`
    says so: at any time if nobody locks the counters. -/
inductive Step (validate : Validate) (opening : Counters → Prop) (s : Counters) :
    Counters → Prop where
  | call {p : Party} (first : p.first = true) :
      Step validate opening s { s with parties := s.parties ++ [p] }
  | does {i : Nat} {p p' : Party} {e : Engine} (held : s.parties[i]? = some p)
      (does : Does validate s p e p') (opens : p.begins = true → opening s) :
      Step validate opening s { s with engine := e, parties := s.parties.set i p' }
  | start (fresh : s.engine.phase = .created) :
      Step validate opening s
        { s with engine := { s.engine with phase := .working }, dispatching := true }
  /-- The dispatcher hands a request to a task, which calls the network. -/
  | receive {job : Job} {rest : List Job} (runs : s.dispatching = true)
      (head : s.engine.queue = job :: rest) :
      Step validate opening s { s with
        engine := { s.engine with queue := rest, broadcasting := s.engine.broadcasting ++ [job] } }
  /-- The network answers, and the task has something to record. -/
  | answer {job : Job} {outcome : BroadcastResult} (held : job ∈ s.engine.broadcasting) :
      Step validate opening s { s with
        engine := { s.engine with broadcasting := s.engine.broadcasting.erase job }
        parties := s.parties ++
          [.recording (.completion (.ofOutcome job.request.jobId outcome)) .counting] }
  | destroy (live : s.engine.phase ≠ .destroyed) :
      Step validate opening s { s with engine := { s.engine with phase := .destroyed } }
  /-- The receiver of requests of a destroyed engine is dropped with all that is in it. -/
  | quit (gone : s.engine.phase = .destroyed) :
      Step validate opening s
        { s with engine := { s.engine with queue := [] }, receives := false, dispatching := false }
  /-- A task of a destroyed engine ends without a receipt. -/
  | abandon {job : Job} (gone : s.engine.phase = .destroyed) :
      Step validate opening s { s with
        engine := { s.engine with broadcasting := s.engine.broadcasting.erase job } }

/-- What a new engine can come to. -/
inductive Reachable (validate : Validate) (opening : Counters → Prop) (pollInterval : UInt64) :
    Counters → Prop where
  | initial : Reachable validate opening pollInterval (.initial pollInterval)
  | step {s s' : Counters} (before : Reachable validate opening pollInterval s)
      (next : Step validate opening s s') : Reachable validate opening pollInterval s'

end Counters

end Engine

end TxRelay
