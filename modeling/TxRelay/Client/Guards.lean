/-
  The right to run the loop, given back in a step of its own.

  In `Threads` a loop that ends, and a call that fails after it took the loop, give the right to run
  it back in the step in which they find out.  In the program the right is a guard that is dropped
  when its owner leaves, and between finding out and dropping all other threads may take their
  steps, and find that the loop is taken:

      run      find out that the loop is over · give the right back
      start    find out that it cannot go on  · give the right back · unlock the slot of the handle

  1. **Finding out.**  What a thread finds out does not depend on what it does about it, so the
     first step is that of `Threads` without its end (`Guards.leave`): everything is done but the
     right.

  2. **Giving back.**  The second frees the loop, and the thread goes on with what is left of its
     call (`Frame.onward`).  A call of `start` still has the lock.

  3. **Panics.**  A callback that panics is caught and counted, and its loop goes on.  A panic that
     gets past that unwinds the loop as well, which gives the right back on its way out.

  So there are moments at which a loop is over and its right is not free, and a claim in between is
  refused.  That at most one thread has the right, and that every way out gives it back, is proved
  of these steps.
-/
import TxRelay.Client.Moment
import TxRelay.Client.Threads

namespace TxRelay.Client

/-- The step from one state to the other gives the right to run the loop back. -/
def Threads.Ends (s s' : Threads) : Prop :=
  s.client.isRunning = true ∧ s'.client.isRunning = false

/-- What a thread still has to do when it gave the right back: `start` has the lock. -/
def Frame.onward : Frame → List Frame
  | .claiming .worker _ | .spawning => [.unlocking]
  | _ => []

/-- A client and its threads between two steps. -/
structure Guards where
  threads : Threads
  /-- The threads that found out that they do not go on, and give the right back next. -/
  leaving : Thread → Bool := fun _ => false

namespace Guards

/-- A thread found out that it does not go on: it has done all of its step but its end. -/
def leave (g : Guards) (t : Thread) (s' : Threads) : Guards where
  threads := g.threads.withClient { s'.client with loop := g.threads.client.loop }
  leaving := fun u => decide (u = t) || g.leaving u

/-- A thread gives the right to run the loop back, and goes on with these frames. -/
def giveBack (g : Guards) (t : Thread) (frames : List Frame) : Guards where
  threads := (g.threads.withClient { g.threads.client with loop := none }).put t frames
  leaving := fun u => decide (u ≠ t) && g.leaving u

/-- One step of one thread, or news of a broadcast. -/
inductive Step : Guards → Guards → Prop where
  | does {g : Guards} {t : Thread} {s' : Threads} {frame : Frame} {rest frames : List Frame}
      (top : g.threads.stack t = frame :: rest) (stays : g.leaving t = false)
      (does : Does g.threads t frame s' frames) (keeps : ¬ g.threads.Ends s') :
      Step g { g with threads := s'.put t (frames ++ rest) }
  | leave {g : Guards} {t : Thread} {s' : Threads} {frame : Frame} {rest frames : List Frame}
      (top : g.threads.stack t = frame :: rest) (stays : g.leaving t = false)
      (does : Does g.threads t frame s' frames) (ends : g.threads.Ends s') : Step g (g.leave t s')
  | giveBack {g : Guards} {t : Thread} {frame : Frame} {rest : List Frame}
      (top : g.threads.stack t = frame :: rest) (leaves : g.leaving t = true) :
      Step g (g.giveBack t (frame.onward ++ rest))
  | panic {g : Guards} {t : Thread} {rest : List Frame}
      (top : g.threads.stack t = .calling :: rest) :
      Step g { g with
        threads := (g.threads.withClient (g.threads.client.afterwards true)).put t rest }
  | unwind {g : Guards} {t : Thread} {rest : List Frame}
      (top : g.threads.stack t = .calling :: rest) :
      Step g { threads := g.threads.put t rest
               leaving := fun u => decide (u = t) || g.leaving u }
  /-- A call begins. -/
  | call {g : Guards} {t : Thread} {frame : Frame} (free : g.threads.Free t)
      (first : frame.first = true) :
      Step g { g with threads := g.threads.put t (frame :: g.threads.stack t) }
  | submit {g : Guards} {rawTx : Bytes} {endpoint : String} {jobId : JobId} :
      Step g { g with
        threads := g.threads.withClient (g.threads.client.broadcast rawTx endpoint jobId).2 }
  | hear {g : Guards} {job : Nat} {outcome : BroadcastResult} :
      Step g { g with
        threads := g.threads.withClient
          { g.threads.client with
            engine := (g.threads.client.engine.finish job outcome).2 } }

/-- The states that a new client can come to. -/
inductive Reachable (config : Config) (network : Network) : Guards → Prop where
  | initial : Reachable config network { threads := { client := .new config network } }
  | step {g g' : Guards} (before : Reachable config network g) (next : Step g g') :
      Reachable config network g'

end Guards

end TxRelay.Client
