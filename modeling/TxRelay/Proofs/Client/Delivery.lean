/-
  Every receipt to one callback, in order.

  Deliveries go on across loops that stop and start again, callbacks that are exchanged, calls that
  callbacks make, and panics.

  1. **Order.**  The log tells at every moment what was due and what was handed over; the ledger
     says that the one is the beginning of the other, because receipts leave the engine's queue at
     one end only and only to a callback.

  2. **Whose.**  Which callback gets a receipt is a law about the log (`Routed`): it is the one that
     was set last, and no receipt is handed over before a loop was taken.  It is proved entry by
     entry, from the roles at the moment of the entry.

  3. **All.**  When nothing is left to happen and a loop runs, none waits, and the two lists are
     equal.

  The crux is that order and completeness are one equation of the ledger, so the induction over the
  run is not done again here; only the law of routing needs a step of its own.
-/
import TxRelay.Proofs.Client.Ledger

namespace TxRelay.Client

variable {config : Config} {network : Network} {m m' : Moment}

/-! ## The law of deliveries -/

/-- A delivery goes to the callback that was set last, and a loop was taken before. -/
def Routed (before : List Event) : Event → Prop
  | .began callback _ => lastSet before = some callback ∧ Claimed before
  | _ => True

/-- A callback that begins is the one in the slot, which is the one that was set last. -/
theorem Routed.step (h : Log.Each Routed m.log) (roles : Roles m) (next : Step m m') :
    Log.Each Routed m'.log := by
  cases next with
  | call call => exact h.snoc trivial
  | finish goes => exact h.snoc trivial
  | happens next =>
    cases next with
    | @begin r c callback free runs round set =>
      obtain ⟨-, rest, -, rfl⟩ := round_takes roles.whole round
      have hcallback : lastSet m.log = some callback := roles.callback.symm.trans set
      exact h.snoc ⟨hcallback, roles.claimed runs⟩
    | drop free runs round unset => exact h
    | stop free runs round => exact h.snoc trivial
    | call busy => exact h.snoc trivial
    | «return» busy => exact h
    | hear head answer => exact h.snoc trivial

/-- Every receipt of a log went to the callback that was set last before it. -/
theorem Reachable.routed (h : Reachable config network m) : Log.Each Routed m.log := by
  induction h with
  | initial => exact Log.Each.nil
  | step before next ih => exact Routed.step ih before.roles next

/-- Each end of a broadcast has its receipt. -/
theorem map_due {jobs : List JobId} {endings : List (Nat × BroadcastResult)}
    (counted : ∀ ending ∈ endings, ending.1 < jobs.length) :
    endings.map (due jobs) = (endings.filterMap (due jobs)).map some := by
  induction endings with
  | nil => rfl
  | cons ending rest ih =>
    have hlt := counted ending List.mem_cons_self
    have hone : due jobs ending = some (Receipt.ofOutcome jobs[ending.1] ending.2) := by
      rw [due, List.getElem?_eq_getElem hlt]
      rfl
    rw [List.map_cons, List.filterMap_cons_some hone, List.map_cons, hone,
      ih fun other hother => counted other (List.mem_cons_of_mem _ hother)]

/-! ## Delivery -/

/-- **Callback delivery.**  Whatever calls were made from outside and inside callbacks, and
    however callbacks ended: the receipts that were handed to callbacks are the first of those
    that were due, which are one for each end of an accepted job's broadcast; no job's broadcast
    ends twice; each delivery went to the callback that was set last before it began, and after a
    loop was taken.  If a loop runs and everything that can happen has happened, all that was due
    was handed over. -/
theorem delivered_in_order (h : Reachable config network m) :
    delivered m.log <+: completed m.log ∧
    (endings m.log).map (due (queuedJobs m.log)) = (completed m.log).map some ∧
    ((endings m.log).map Prod.fst).Nodup ∧
    Log.Each Routed m.log ∧
    (m.Settled → m.client.isRunning = true → delivered m.log = completed m.log) := by
  have ledger := h.ledger
  refine ⟨⟨_, ledger.handed⟩, map_due ledger.counted, (List.nodup_append.mp ledger.once).2.1,
    h.routed, ?_⟩
  intro settled runs
  have hnone := ((settled.idle h.roles).2 runs).2
  have hhanded := ledger.handed
  rw [hnone, List.append_nil] at hhanded
  exact hhanded

/-- A callback sets another one in its place and panics; the receipt that completed next goes to
    the other one. -/
def relayed : Moment :=
  let other : ClientCall := .setCallback "other" (fun _ => []) (fun _ => false)
  let m := Moment.initial {} (.standIn {})
  let m := m.make (.setCallback "one" (fun _ => [other]) (fun _ => true))
  let m := m.make .start
  let m := m.make (.broadcast [1] (some "http://[::1]:8545") ⟨"twin"⟩)
  let m := m.make (.broadcast [2] (some "http://[::1]:8545") ⟨"twin"⟩)
  let m := m.hear (.standIn {}) 1 (.ok (.pending "0x02" "no receipt"))
  let m := m.hear (.standIn {}) 0 (.error (.rpc "busy"))
  let m := { m with client := m.client.round.2 }.begin ⟨"one", fun _ => [other], fun _ => true⟩
    (.ofOutcome ⟨"twin"⟩ (.ok (.pending "0x02" "no receipt")))
  let m := { m with busy := some ⟨[], true⟩ }.make other
  let m := { m with client := m.client.afterwards true, busy := none }
  { m with client := m.client.round.2 }.begin ⟨"other", fun _ => [], fun _ => false⟩
    (.ofOutcome ⟨"twin"⟩ (.error (.rpc "busy")))

/-- It can be reached: its deeds are plain. -/
theorem relayed_reachable : Reachable {} (.standIn {}) relayed := by
  have hready := ((@Reachable.initial {} (.standIn {})).step
    (.call (.setCallback "one"
      (fun _ => [.setCallback "other" (fun _ => []) (fun _ => false)]) (fun _ => true)))).step
    (.call .start)
  have hqueued := (hready.step
    (.call (.broadcast [1] (some "http://[::1]:8545") ⟨"twin"⟩))).step
    (.call (.broadcast [2] (some "http://[::1]:8545") ⟨"twin"⟩))
  have hended := (hqueued.step
    (@Step.finish _ 1 (.ok (.pending "0x02" "no receipt")) rfl)).step
    (@Step.finish _ 0 (.error (.rpc "busy")) rfl)
  have hfirst := (hended.step (.happens (.begin rfl rfl rfl rfl))).step (.happens (.call rfl))
  exact (hfirst.step (.happens (.return rfl))).step (.happens (.begin rfl rfl rfl rfl))

/-- Two receipts, in order of completion, each handed over once. -/
theorem delivered_in_order_relayed :
    Reachable {} (.standIn {}) relayed ∧
    (delivered relayed.log).map Receipt.message =
      ["transaction pending: no receipt", "RPC error: busy"] ∧
    delivered relayed.log <+: completed relayed.log ∧
    (endings relayed.log).map (due (queuedJobs relayed.log)) =
      (completed relayed.log).map some ∧
    ((endings relayed.log).map Prod.fst).Nodup ∧
    Log.Each Routed relayed.log ∧
    (relayed.Settled → relayed.client.isRunning = true →
      delivered relayed.log = completed relayed.log) :=
  ⟨relayed_reachable, rfl, delivered_in_order relayed_reachable⟩

end TxRelay.Client
