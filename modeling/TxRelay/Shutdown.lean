/-
  The shutdown signal.

  A `Channel` holds one message for each receiver.  `send` reaches the receivers that exist when it
  is called; a receiver that has not taken the message before is overrun and told so.  The signal of
  a `Shutdown` is sent at most once and its flag stays set, so who starts to wait afterwards need
  not receive anything.

  1. **Receivers.**  A receiver is a place in the channel's list of boxes.  Its number is never
     given again, so one that was dropped stays dropped.

  2. **Waits.**  A wait subscribes when it is first polled, then looks at the flag, then waits for
     the message: in this order no signal is lost between the look and the wait.  A wait that ended
     answers nothing more.

  3. **Subscribers.**  Whoever subscribes without waiting gets only what is sent afterwards.  The
     flag is for waits alone: after the signal a new subscriber's box stays empty for good.

  Each operation is one step here; `Shutdown.Moment` takes triggering and waiting apart.
-/

namespace TxRelay

/-! ## The channel -/

/-- What lies in a receiver's box. -/
inductive Mailbox where
  | empty
  | message
  /-- A message came before the last one was taken. -/
  | overrun
deriving DecidableEq, Repr

/-- What a receiver gets. -/
inductive Received where
  | signal
  | empty
  | closed
  | lagged
deriving DecidableEq, Repr

/-- A channel: the boxes of the receivers by number, `none` where a receiver is gone. -/
structure Channel where
  boxes : List (Option Mailbox) := []
  isOpen : Bool := true
deriving DecidableEq, Repr

namespace Channel

/-- A message arrives in a box. -/
def arrive : Mailbox → Mailbox
  | .empty => .message
  | .message | .overrun => .overrun

/-- Send one message to every receiver. -/
def send (c : Channel) : Channel :=
  { c with boxes := c.boxes.map (·.map arrive) }

/-- A new receiver, its box empty, and its number. -/
def subscribe (c : Channel) : Nat × Channel :=
  (c.boxes.length, { c with boxes := c.boxes ++ [some .empty] })

/-- The receiver goes away. -/
def unsubscribe (c : Channel) (k : Nat) : Channel :=
  { c with boxes := c.boxes.set k none }

/-- The box of a receiver that is there. -/
def box? (c : Channel) (k : Nat) : Option Mailbox := (c.boxes[k]?).join

/-- What the receiver finds now; an overrun one is told first and finds the message next. -/
def tryRecv (c : Channel) (k : Nat) : Option (Received × Channel) :=
  (c.box? k).map fun
    | .empty => (if c.isOpen then .empty else .closed, c)
    | .message => (.signal, { c with boxes := c.boxes.set k (some .empty) })
    | .overrun => (.lagged, { c with boxes := c.boxes.set k (some .message) })

/-- How many receivers there are. -/
def receivers (c : Channel) : Nat := c.boxes.countP Option.isSome

end Channel

/-! ## The signal -/

/-- A wait for the signal. -/
inductive Wait where
  /-- Not polled yet. -/
  | idle
  /-- Waiting with the receiver of this number. -/
  | listening (receiver : Nat)
  /-- Ready or cancelled. -/
  | ended
deriving DecidableEq, Repr

/-- The shutdown signal with its subscribers and waits, each numbered from 0. -/
structure Shutdown where
  triggered : Bool := false
  channel : Channel := {}
  /-- The receiver of each subscriber. -/
  subscribers : List Nat := []
  waits : List Wait := []
deriving DecidableEq, Repr

namespace Shutdown

/-- What can be done with the signal. -/
inductive Op where
  | trigger
  | subscribe
  | unsubscribe (i : Nat)
  | tryRecv (i : Nat)
  | wait
  | poll (i : Nat)
  | cancel (i : Nat)
deriving DecidableEq, Repr

/-- What an operation answers. -/
inductive Answer where
  | flag (b : Bool)
  | number (n : Nat)
  | received (r : Received)
  | ready
  | pending
  /-- There is no such subscriber or wait any more. -/
  | gone
deriving DecidableEq, Repr

/-- Set the flag and send the signal; only the first call does. -/
def trigger (s : Shutdown) : Bool × Shutdown :=
  if s.triggered then (false, s)
  else (true, { s with triggered := true, channel := s.channel.send })

/-- A new subscriber. -/
def subscribe (s : Shutdown) : Nat × Shutdown :=
  let (k, channel) := s.channel.subscribe
  (s.subscribers.length, { s with channel := channel, subscribers := s.subscribers ++ [k] })

/-- The receiver of a subscriber that is still there. -/
def receiver? (s : Shutdown) (i : Nat) : Option Nat :=
  (s.subscribers[i]?).filter fun k => (s.channel.box? k).isSome

/-- A subscriber goes away. -/
def unsubscribe (s : Shutdown) (i : Nat) : Bool × Shutdown :=
  match s.receiver? i with
  | none => (false, s)
  | some k => (true, { s with channel := s.channel.unsubscribe k })

/-- What a subscriber finds now. -/
def tryRecv (s : Shutdown) (i : Nat) : Answer × Shutdown :=
  match (s.receiver? i).bind s.channel.tryRecv with
  | none => (.gone, s)
  | some (r, channel) => (.received r, { s with channel := channel })

/-- A new wait, not polled yet. -/
def wait (s : Shutdown) : Nat × Shutdown :=
  (s.waits.length, { s with waits := s.waits ++ [.idle] })

/-- A listening wait looks into its box. -/
def listen (s : Shutdown) (i k : Nat) : Answer × Shutdown :=
  match s.channel.tryRecv k with
  | some (.empty, _) => (.pending, { s with waits := s.waits.set i (.listening k) })
  | _ =>
    (.ready, { s with channel := s.channel.unsubscribe k, waits := s.waits.set i .ended })

/-- Poll a wait. -/
def poll (s : Shutdown) (i : Nat) : Answer × Shutdown :=
  match s.waits[i]? with
  | some .idle =>
    if s.triggered then (.ready, { s with waits := s.waits.set i .ended })
    else
      let (k, channel) := s.channel.subscribe
      listen { s with channel := channel } i k
  | some (.listening k) => listen s i k
  | some .ended | none => (.gone, s)

/-- Drop a wait. -/
def cancel (s : Shutdown) (i : Nat) : Bool × Shutdown :=
  match s.waits[i]? with
  | some .idle => (true, { s with waits := s.waits.set i .ended })
  | some (.listening k) =>
    (true, { s with channel := s.channel.unsubscribe k, waits := s.waits.set i .ended })
  | some .ended | none => (false, s)

/-- How many receivers there are: subscribers and listening waits. -/
def receiverCount (s : Shutdown) : Nat := s.channel.receivers

/-- Perform one operation. -/
def step (s : Shutdown) : Op → Answer × Shutdown
  | .trigger => let (b, s) := s.trigger; (.flag b, s)
  | .subscribe => let (n, s) := s.subscribe; (.number n, s)
  | .unsubscribe i => let (b, s) := s.unsubscribe i; (.flag b, s)
  | .tryRecv i => s.tryRecv i
  | .wait => let (n, s) := s.wait; (.number n, s)
  | .poll i => s.poll i
  | .cancel i => let (b, s) := s.cancel i; (.flag b, s)

/-- The answers of a run, each with the state after it. -/
def run (s : Shutdown) : List Op → List (Answer × Shutdown)
  | [] => []
  | op :: ops => let r := s.step op; r :: run r.2 ops

end Shutdown

end TxRelay
