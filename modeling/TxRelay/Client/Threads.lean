/-
  A client in the hands of many threads.

  A call is not done at once.  It loads and swaps slots, takes the lock of the slot in which the
  handle of the worker thread is kept, waits for a thread to end; and between any two of these steps
  every other thread, the worker and its callback among them, may take steps of its own:

      start    lock · load engine · read callback · take the loop · clear the order to stop ·
               start the engine · take the old handle · join it · spawn · store handle · unlock
      stop     order to stop · lock · take handle and unlock · join it
      destroy  swap the engine out · destroy it · then as stop does
      loop     look at the orders · load engine · poll · load callback · call it

  1. **Threads are stacks of frames.**  A frame is what a thread does next; below it is what it will
     go on with.  Callbacks are programs of their users, so a thread inside a callback makes any
     calls, or returns.  A thread that is not the client's may begin a call whenever it does
     nothing.

  2. **`Does` is one step of one thread**, by its innermost frame: what becomes of the client and
     its slots, and the frames that take the place of the first.  Calls that nobody can disturb,
     submitting and the news of a broadcast, are steps of their own (`Threads.Step`).

  3. **Orders and looks.**  An order to stop is a flag, cleared by whoever takes the loop next.  The
     loop looks at the flag, then at the engine, then it polls.  A poll may take long and looks at
     neither; it ends with a receipt, without one, or with the news that the engine is gone.

  4. **Handles.**  A worker's handle lies in its slot until `stop`, `destroy` or the next `start`
     takes it, and only who took it waits.  A callback that stops its own worker takes the handle
     and drops it: nobody waits for itself.  A loop of `run` has no handle at all.

  A call that is made while no other thread moves does what `perform` says, and a round that nobody
  disturbs does what `Client.round` says.
-/
import TxRelay.Client

namespace TxRelay.Client

/-- A thread: one that the client does not know, or the one that was spawned after so many. -/
inductive Thread where
  | outside (i : Nat)
  | worker (k : Nat)
deriving DecidableEq, Repr

/-- The calls that wait for the worker. -/
inductive Joiner where
  | stop
  | destroy
deriving DecidableEq, Repr

/-- How far the taking of the loop is: what is done next. -/
inductive Claim where
  | engine
  | callback
  | loop
  | clear
  | work
deriving DecidableEq, Repr

/-- How far a call is that waits for the worker: what is done next. -/
inductive Join where
  | lock
  | take
  /-- Wait for this worker to end. -/
  | wait (k : Nat)
deriving DecidableEq, Repr

/-- How far a round of the loop is: what is done next. -/
inductive Turn where
  | orders
  | engine
  | poll
  | callback
deriving DecidableEq, Repr

/-- What a thread does next. -/
inductive Frame where
  /-- `set_callback` loads the engine, then stores the callback. -/
  | checking
  | setting
  /-- `start` waits for the lock. -/
  | locking
  /-- `start` or `run` takes the loop. -/
  | claiming (loop : Loop) (next : Claim)
  /-- `start` has the loop and takes the old handle, waits for its thread, spawns a new one and
      stores its handle. -/
  | replacing
  | awaiting (k : Nat)
  | spawning
  | storing (k : Nat)
  | unlocking
  /-- `destroy` swaps the engine out, and destroys it. -/
  | swapping
  | ending
  /-- `stop` or `destroy` orders the loop to stop, and waits for the worker. -/
  | ordering (call : Joiner)
  | joining (call : Joiner) (next : Join)
  /-- The loop runs. -/
  | looping (next : Turn)
  /-- A callback runs. -/
  | calling
deriving DecidableEq, Repr

/-- The beginnings of calls. -/
def Frame.first : Frame → Bool
  | checking | locking | claiming .caller .engine | swapping | ordering .stop => true
  | _ => false

/-- What is written down. -/
inductive Note where
  /-- A call that waits for the worker took what was in the slot. -/
  | looked (call : Joiner)
  /-- A call of `destroy` on this thread answered. -/
  | destroyed (t : Thread) (answer : Bool)
deriving DecidableEq, Repr

/-- A client and its threads between two steps. -/
structure Threads where
  /-- The slots: engine, callback, loop and order to stop. -/
  client : Client
  /-- Who holds the lock of the slot of the handle. -/
  lock : Option Thread := none
  /-- The slot of the handle: the worker that can be joined. -/
  handle : Option Nat := none
  /-- How many workers were spawned. -/
  spawned : Nat := 0
  /-- Workers whose own callback took their handle and dropped it. -/
  detached : List Nat := []
  /-- What each thread does, innermost first. -/
  stack : Thread → List Frame := fun _ => []
  log : List Note := []

namespace Threads

variable (s : Threads) (t : Thread)

/-- A thread goes on with these frames. -/
@[simp] def put (frames : List Frame) : Threads :=
  { s with stack := fun u => if u = t then frames else s.stack u }

/-- Nothing but a call can be next: the thread is not the client's and does nothing, or it is in a
    callback. -/
def Free : Prop :=
  (s.stack t = [] ∧ ∃ i, t = .outside i) ∨ ∃ rest, s.stack t = .calling :: rest

/-- The slots of the client change. -/
@[simp] def withClient (c : Client) : Threads := { s with client := c }

/-- The claim of `start` or `run` fails: `start` gives the lock back. -/
@[simp] def refuse (loop : Loop) : Threads :=
  { s with lock := if loop = .worker then none else s.lock }

/-- The slot of the handle was emptied, and the lock is given back. -/
@[simp] def look (call : Joiner) : Threads :=
  { s with lock := none, handle := none, log := s.log ++ [.looked call] }

/-- `stop` or `destroy` is done. -/
@[simp] def done (call : Joiner) : Threads :=
  { s with log := s.log ++ if call = .destroy then [.destroyed t true] else [] }

/-- A worker is spawned: it begins its loop. -/
@[simp] def spawn : Threads :=
  { s.put (.worker s.spawned) [.looping .orders] with spawned := s.spawned + 1 }

end Threads

/-- A thread does what its innermost frame says; the frames are those that take its place. -/
inductive Does (s : Threads) (t : Thread) : Frame → Threads → List Frame → Prop where
  -- set_callback
  | checkGone (gone : s.client.alive = false) : Does s t .checking s []
  | check (there : s.client.alive = true) : Does s t .checking s [.setting]
  | set {callback : Callback} :
      Does s t .setting (s.withClient { s.client with callback := some callback }) []
  -- taking the loop
  | lock (free : s.lock = none) :
      Does s t .locking { s with lock := some t } [.claiming .worker .engine]
  | claimGone {loop : Loop} (gone : s.client.alive = false) :
      Does s t (.claiming loop .engine) (s.refuse loop) []
  | claimEngine {loop : Loop} (there : s.client.alive = true) :
      Does s t (.claiming loop .engine) s [.claiming loop .callback]
  | claimUnset {loop : Loop} (unset : s.client.callback = none) :
      Does s t (.claiming loop .callback) (s.refuse loop) []
  | claimCallback {loop : Loop} (set : s.client.callback ≠ none) :
      Does s t (.claiming loop .callback) s [.claiming loop .loop]
  -- a compare and exchange: it fails if the loop is taken, and else takes it in the same step
  | claimRunning {loop : Loop} (runs : s.client.isRunning = true) :
      Does s t (.claiming loop .loop) (s.refuse loop) []
  | claimLoop {loop : Loop} (free : s.client.loop = none) :
      Does s t (.claiming loop .loop) (s.withClient { s.client with loop := some loop })
        [.claiming loop .clear]
  | claimClear {loop : Loop} :
      Does s t (.claiming loop .clear) (s.withClient { s.client with stopAsked := false })
        [.claiming loop .work]
  | claimLate {loop : Loop} {e : EngineError} (late : s.client.engine.startWorking.1 = .error e) :
      Does s t (.claiming loop .work)
        ((s.withClient { s.client with loop := none }).refuse loop) []
  | startWork {b : Bool} (works : s.client.engine.startWorking.1 = .ok b) :
      Does s t (.claiming .worker .work)
        (s.withClient { s.client with engine := s.client.engine.startWorking.2 }) [.replacing]
  | runWork {b : Bool} (works : s.client.engine.startWorking.1 = .ok b) :
      Does s t (.claiming .caller .work)
        (s.withClient { s.client with engine := s.client.engine.startWorking.2 })
        [.looping .orders]
  -- the rest of start
  | replaceNone (empty : s.handle = none) : Does s t .replacing s [.spawning]
  | replace {k : Nat} (old : s.handle = some k) :
      Does s t .replacing { s with handle := none } [.awaiting k]
  | await {k : Nat} (ended : s.stack (.worker k) = []) : Does s t (.awaiting k) s [.spawning]
  | spawnFails :
      Does s t .spawning { s.withClient { s.client with loop := none } with lock := none } []
  | spawn : Does s t .spawning s.spawn [.storing s.spawned]
  | store {k : Nat} : Does s t (.storing k) { s with handle := some k } [.unlocking]
  | unlock : Does s t .unlocking { s with lock := none } []
  -- stop and destroy
  | swapGone (gone : s.client.alive = false) :
      Does s t .swapping { s with log := s.log ++ [.destroyed t false] } []
  | swap (there : s.client.alive = true) :
      Does s t .swapping (s.withClient { s.client with alive := false }) [.ending]
  | finish :
      Does s t .ending (s.withClient { s.client with engine := s.client.engine.destroy.2 })
        [.ordering .destroy]
  | order {call : Joiner} :
      Does s t (.ordering call) (s.withClient { s.client with stopAsked := true })
        [.joining call .lock]
  | joinLock {call : Joiner} (free : s.lock = none) :
      Does s t (.joining call .lock) { s with lock := some t } [.joining call .take]
  | takeNone {call : Joiner} (empty : s.handle = none) :
      Does s t (.joining call .take) ((s.look call).done t call) []
  -- the worker itself asks to be stopped: it drops its handle instead of waiting for itself
  | takeOwn {call : Joiner} {k : Nat} (own : s.handle = some k) (self : t = .worker k) :
      Does s t (.joining call .take)
        (({ s with detached := k :: s.detached }.look call).done t call) []
  | take {call : Joiner} {k : Nat} (other : s.handle = some k) (distinct : t ≠ .worker k) :
      Does s t (.joining call .take) (s.look call) [.joining call (.wait k)]
  | join {call : Joiner} {k : Nat} (ended : s.stack (.worker k) = []) :
      Does s t (.joining call (.wait k)) (s.done t call) []
  -- the loop
  | stopped (asked : s.client.stopAsked = true) :
      Does s t (.looping .orders) (s.withClient (s.client.endLoop (.ok ()))) []
  | go (free : s.client.stopAsked = false) : Does s t (.looping .orders) s [.looping .engine]
  | gone (gone : s.client.alive = false) :
      Does s t (.looping .engine) (s.withClient (s.client.endLoop (.ok ()))) []
  | engine (there : s.client.alive = true) : Does s t (.looping .engine) s [.looping .poll]
  -- a poll that goes on may find a receipt until it learns that the engine is gone
  | poll {r : Receipt} {e : Engine} (found : s.client.engine.receive? = some (.ok (.ready r), e)) :
      Does s t (.looping .poll) (s.withClient { s.client with engine := e }) [.looping .callback]
  | pollExpires : Does s t (.looping .poll) s [.looping .orders]
  | pollGone (gone : s.client.engine.phase = .destroyed) :
      Does s t (.looping .poll) (s.withClient (s.client.endLoop (.ok ()))) []
  | pollFails {err : EngineError} {e : Engine}
      (fails : s.client.engine.receive? = some (.error err, e)) :
      Does s t (.looping .poll) (s.withClient (s.client.endLoop (.error (.ofEngine err)))) []
  | drop (unset : s.client.callback = none) : Does s t (.looping .callback) s [.looping .orders]
  | begin (set : s.client.callback ≠ none) :
      Does s t (.looping .callback) s [.calling, .looping .orders]
  | return : Does s t .calling s []

namespace Threads

/-- One step of one thread, or news of a broadcast. -/
inductive Step : Threads → Threads → Prop where
  | does {s s' : Threads} {t : Thread} {frame : Frame} {rest frames : List Frame}
      (top : s.stack t = frame :: rest) (does : Does s t frame s' frames) :
      Step s (s'.put t (frames ++ rest))
  /-- A call begins. -/
  | call {s : Threads} {t : Thread} {frame : Frame} (free : s.Free t)
      (first : frame.first = true) : Step s (s.put t (frame :: s.stack t))
  /-- A transaction is submitted, which takes one step. -/
  | submit {s : Threads} {rawTx : Bytes} {endpoint : String} {jobId : JobId} :
      Step s (s.withClient (s.client.broadcast rawTx endpoint jobId).2)
  | hear {s : Threads} {job : Nat} {outcome : BroadcastResult} :
      Step s (s.withClient { s.client with engine := (s.client.engine.finish job outcome).2 })

/-- The states that a new client can come to. -/
inductive Reachable (config : Config) (network : Network) : Threads → Prop where
  | initial : Reachable config network { client := .new config network }
  | step {s s' : Threads} (before : Reachable config network s) (next : Step s s') :
      Reachable config network s'

/-- The worker has not left its loop. -/
def Works (s : Threads) (k : Nat) : Prop := s.stack (.worker k) ≠ []

end Threads

end TxRelay.Client
