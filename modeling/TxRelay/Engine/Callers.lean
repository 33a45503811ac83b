/-
  An engine in the hands of many threads.

  A call is not done at once, and between any two of its steps all other calls may take theirs:

      startWorking  read the phase · take the receiver of requests · exchange the phase · spawn
      destroy       swap the phase · trigger the shutdown
      submit        read the phase and check the request · send it

  1. **One receiver.**  There is one receiver of requests.  It lies in its slot until a call takes
     it; a call that loses the exchange drops it, and one that wins gives it to the dispatcher that
     it spawns.  `holders` counts who has it: the slot, a call or a dispatcher.

  2. **Two answers.**  A call of `startWorking` that finds the slot empty answers that the engine
     works already, though the call that took the receiver may not have moved the phase yet.

  3. **Sending.**  A request can be sent as long as anybody has the receiver, and whoever drops it
     drops the requests in it.

  Calls are listed in the order in which they began and keep their place, so that a call can be
  spoken of at any later moment; dispatchers are listed likewise, with the call that spawned them.

  A call that is made while no other thread moves answers what `startWorking`, `destroy` and
  `submit` answer.
-/
import TxRelay.Engine
import TxRelay.Shutdown

namespace TxRelay.Engine

/-- A call, and what it does next. -/
inductive Call where
  /-- `startWorking` reads the phase. -/
  | checking
  | taking
  | exchanging
  /-- It lost the exchange, and drops the receiver. -/
  | dropping
  /-- It won the exchange. -/
  | spawning
  | started (answer : Except EngineError Bool)
  /-- `destroy` swaps the phase. -/
  | swapping
  | triggering
  | destroyed (answer : Bool)
  /-- `submit` reads the phase and checks the request. -/
  | looking (r : Request)
  | sending (r : Request)
  | submitted (answer : Except EngineError Unit)

namespace Call

/-- The beginnings of calls. -/
def first : Call → Bool
  | checking | swapping | looking _ => true
  | _ => false

/-- The call has the receiver of requests. -/
@[simp] def holds : Call → Bool
  | exchanging | dropping | spawning => true
  | _ => false

end Call

/-- A dispatcher that was spawned. -/
structure Spawned where
  /-- The call that spawned it. -/
  caller : Nat
  /-- It has the receiver of requests. -/
  runs : Bool

/-- An engine and the calls on it, between two steps. -/
structure Callers where
  engine : Engine
  shutdown : Shutdown := {}
  /-- The receiver of requests lies in its slot. -/
  slot : Bool := true
  /-- All calls, in the order in which they began. -/
  calls : List Call := []
  /-- All dispatchers, in the order in which they were spawned. -/
  dispatchers : List Spawned := []

namespace Callers

/-- A new engine. -/
def initial (pollInterval : UInt64) : Callers := { engine := { pollInterval := pollInterval } }

/-- The phase changes. -/
def become (s : Callers) (phase : Phase) : Callers :=
  { s with engine := { s.engine with phase := phase } }

/-- How many have the receiver of requests: the slot, calls and dispatchers. -/
def holders (s : Callers) : Nat :=
  s.slot.toNat + s.calls.countP Call.holds + s.dispatchers.countP Spawned.runs

/-- A call takes its next step. -/
inductive Does (validate : Validate) (s : Callers) (i : Nat) : Call → Callers → Call → Prop where
  -- startWorking
  | checkGone (gone : s.engine.phase = .destroyed) :
      Does validate s i .checking s (.started (.error .destroyed))
  | check (live : s.engine.phase ≠ .destroyed) : Does validate s i .checking s .taking
  | takeNone (empty : s.slot = false) : Does validate s i .taking s (.started (.ok false))
  | take (there : s.slot = true) : Does validate s i .taking { s with slot := false } .exchanging
  | exchange (fresh : s.engine.phase = .created) :
      Does validate s i .exchanging (s.become .working) .spawning
  | exchangeLate (late : s.engine.phase ≠ .created) : Does validate s i .exchanging s .dropping
  -- the requests that were sent are dropped with their receiver
  | drop :
      Does validate s i .dropping { s with engine := { s.engine with queue := [] } }
        (.started (.error .destroyed))
  | spawn :
      Does validate s i .spawning { s with dispatchers := s.dispatchers ++ [⟨i, true⟩] }
        (.started (.ok true))
  -- destroy
  | swapGone (gone : s.engine.phase = .destroyed) :
      Does validate s i .swapping s (.destroyed false)
  | swap (live : s.engine.phase ≠ .destroyed) :
      Does validate s i .swapping (s.become .destroyed) .triggering
  | trigger :
      Does validate s i .triggering { s with shutdown := s.shutdown.trigger.2 } (.destroyed true)
  -- submit
  | lookGone {r : Request} (gone : s.engine.phase = .destroyed) :
      Does validate s i (.looking r) s (.submitted (.error .destroyed))
  | refuse {r : Request} {e : EngineError} (live : s.engine.phase ≠ .destroyed)
      (bad : Engine.check validate r = .error e) :
      Does validate s i (.looking r)
        { s with
          engine := { s.engine with tally := s.engine.tally.rejected (rejectReason e) } }
        (.submitted (.error e))
  | look {r : Request} (live : s.engine.phase ≠ .destroyed)
      (ok : Engine.check validate r = .ok ()) : Does validate s i (.looking r) s (.sending r)
  | send {r : Request} (receives : s.holders ≠ 0) :
      Does validate s i (.sending r) { s with engine := s.engine.enqueue r } (.submitted (.ok ()))
  /-- Nobody receives any more. -/
  | bounce {r : Request} (gone : s.holders = 0) :
      Does validate s i (.sending r) s (.submitted (.error .destroyed))

/-- One step of a call, a dispatcher or the network. -/
inductive Step (validate : Validate) (s : Callers) : Callers → Prop where
  | call {c : Call} (first : c.first = true) :
      Step validate s { s with calls := s.calls ++ [c] }
  | does {i : Nat} {c c' : Call} {s' : Callers} (held : s.calls[i]? = some c)
      (does : Does validate s i c s' c') :
      Step validate s { s' with calls := s.calls.set i c' }
  /-- A dispatcher hands a request to the network. -/
  | receive {k : Nat} {d : Spawned} {job : Job} {rest : List Job}
      (held : s.dispatchers[k]? = some d) (runs : d.runs = true)
      (head : s.engine.queue = job :: rest) :
      Step validate s { s with
        engine := { s.engine with queue := rest, broadcasting := s.engine.broadcasting ++ [job] } }
  /-- A dispatcher gets the signal and ends. -/
  | quit {k : Nat} {d : Spawned} (held : s.dispatchers[k]? = some d) (runs : d.runs = true)
      (triggered : s.shutdown.triggered = true) :
      Step validate s { s with
        engine := { s.engine with queue := [] }
        dispatchers := s.dispatchers.set k { d with runs := false } }
  /-- The network ends a broadcast. -/
  | answer {job : Nat} {outcome : BroadcastResult} :
      Step validate s { s with engine := (s.engine.finish job outcome).2 }

/-- The states that a new engine can come to. -/
inductive Reachable (validate : Validate) (pollInterval : UInt64) : Callers → Prop where
  | initial : Reachable validate pollInterval (.initial pollInterval)
  | step {s s' : Callers} (before : Reachable validate pollInterval s)
      (next : Step validate s s') : Reachable validate pollInterval s'

end Callers

end TxRelay.Engine
