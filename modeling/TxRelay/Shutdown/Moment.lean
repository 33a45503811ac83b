/-
  The shutdown signal in the hands of many threads.

  A call is not done at once, and between any two of its steps all other calls may take theirs:

      trigger   set the flag · send the signal
      wait      subscribe · read the flag · look into the box, and again at each later poll

  1. **Triggering.**  Of any number of calls one sets the flag; it sends, and the others find the
     flag set.  Between the two steps the flag is set and nobody has the signal.

  2. **Waiting.**  The first poll of a wait takes three steps, later ones one.  How far a first poll
     has come is kept for each wait (`Moment.polls`), and what a wait does next is read off that or
     off the wait (`Moment.next?`).

  3. **The rest** takes one step, whoever else is under way (`Op.quick`).

  The two orders belong together.  Who reads a flag that is not set yet has subscribed before the
  flag is set, and so before the signal is sent.

  A call that is made while no other thread moves does what `trigger` and `poll` say.
-/
import TxRelay.Shutdown

namespace TxRelay.Shutdown

/-- What a wait does next with its receiver. -/
inductive Polling where
  /-- Read the flag. -/
  | checking (receiver : Nat)
  /-- Look into the box. -/
  | receiving (receiver : Nat)
deriving DecidableEq, Repr

/-- The receiver. -/
def Polling.receiver : Polling → Nat
  | checking k | receiving k => k

/-- What is written down. -/
inductive Event where
  /-- A call of `trigger` answered. -/
  | triggered (answer : Bool)
  /-- A poll of this wait answered. -/
  | polled (i : Nat) (answer : Answer)
deriving DecidableEq, Repr

/-- A signal and its calls between two steps. -/
structure Moment where
  shutdown : Shutdown := {}
  /-- How many calls of `trigger` set the flag, and send next. -/
  sending : Nat := 0
  /-- How far the first poll of each wait is, while it is under way. -/
  polls : Nat → Option Polling := fun _ => none
  log : List Event := []

namespace Moment

/-- What a wait that has a receiver does next; between two polls, what its next poll does. -/
def next? (m : Moment) (i : Nat) : Option Polling :=
  match m.polls i, m.shutdown.waits[i]? with
  | some p, _ => some p
  | none, some (.listening k) => some (.receiving k)
  | none, _ => none

/-- The first poll of a wait goes on. -/
def polling (m : Moment) (i : Nat) (p : Polling) : Moment :=
  { m with polls := fun j => if j = i then some p else m.polls j }

/-- A poll of a wait is done. -/
def answer (m : Moment) (i : Nat) (result : Answer × Shutdown) : Moment :=
  { m with
    shutdown := result.2
    polls := fun j => if j = i then none else m.polls j
    log := m.log ++ [.polled i result.1] }

end Moment

/-- A poll of a wait takes a step. -/
inductive Polls (m : Moment) (i : Nat) : Moment → Prop where
  | subscribe (idle : m.shutdown.waits[i]? = some .idle) (first : m.polls i = none) :
      Polls m i
        ({ m with
            shutdown := { m.shutdown with channel := m.shutdown.channel.subscribe.2 } }.polling i
          (.checking m.shutdown.channel.subscribe.1))
  | set {k : Nat} (checks : m.next? i = some (.checking k)) (set : m.shutdown.triggered = true) :
      Polls m i (m.answer i
        (.ready,
          { m.shutdown with
            channel := m.shutdown.channel.unsubscribe k
            waits := m.shutdown.waits.set i .ended }))
  | clear {k : Nat} (checks : m.next? i = some (.checking k))
      (clear : m.shutdown.triggered = false) : Polls m i (m.polling i (.receiving k))
  | look {k : Nat} (looks : m.next? i = some (.receiving k)) :
      Polls m i (m.answer i (m.shutdown.listen i k))

/-- The operations that take one step, whoever else is under way. -/
def Op.quick : Op → Bool
  | .subscribe | .unsubscribe _ | .tryRecv _ | .wait => true
  | .trigger | .poll _ | .cancel _ => false

/-- One step of one call. -/
inductive Step (m : Moment) : Moment → Prop where
  /-- `trigger` finds the flag set. -/
  | late (set : m.shutdown.triggered = true) :
      Step m { m with log := m.log ++ [.triggered false] }
  /-- `trigger` sets the flag. -/
  | swap (clear : m.shutdown.triggered = false) :
      Step m { m with
        shutdown := { m.shutdown with triggered := true }
        sending := m.sending + 1 }
  | send (next : m.sending ≠ 0) :
      Step m { m with
        shutdown := { m.shutdown with channel := m.shutdown.channel.send }
        sending := m.sending - 1
        log := m.log ++ [.triggered true] }
  | poll {i : Nat} {m' : Moment} (polls : Polls m i m') : Step m m'
  /-- A wait is dropped between two polls. -/
  | cancel {i : Nat} (still : m.polls i = none) :
      Step m { m with shutdown := (m.shutdown.cancel i).2 }
  | once {op : Op} (quick : op.quick = true) :
      Step m { m with shutdown := (m.shutdown.step op).2 }

/-- The moments that a new signal can come to. -/
inductive Reachable : Moment → Prop where
  | initial : Reachable {}
  | step {m m' : Moment} (before : Reachable m) (next : Step m m') : Reachable m'

end TxRelay.Shutdown
