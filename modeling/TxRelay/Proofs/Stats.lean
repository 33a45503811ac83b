/-
  One event, two books.

  An event that is counted moves a counter and a metric, in two places that know nothing of each
  other.  Who reads both wants them to agree, and wants both to say how often the thing happened.
  Nothing here knows an engine or a client: events are given, and so is what shows them.

  1. **Events.**  They are those that a caller can see: a job was accepted, a submission was
     refused, a broadcast ended.  From them one reads names, ends and receipts, and how many are of
     each kind. Every refusal has one of three labels (`countP_refused`), every end is a success or
     a failure (`countP_ended`), and the refusals that come from the checks are labelled by the
     check (`countP_reason`).

  2. **What they add up to.**  `Tally.ofEvents` counts them one by one, as the relay does.  `Shows`
     says of each counter and each metric which kind of event it has counted; it speaks of words of
     64 bits, and holds however many events there are.  Deliveries and panics are counted on one
     side only, and `Tally.shown` leaves them out, so that they need not be events.

  3. **What a reader may rely on.**  `Agrees` speaks of numbers: each metric is what its counter
     says, both are what the events say, and the gauge is the difference of two counters.  It
     follows from `Shows` for fewer than 2^64 events that are `Sound`: refusals come from the
     checks, and broadcasts end for accepted jobs, no more of them than jobs.

  The crux is in the last condition.  That no more jobs complete than were submitted cannot be read
  off the events alone; it is a promise of the run, and it makes the gauge a difference of numbers.
-/
import Mathlib.Data.List.Induction
import TxRelay.Proofs.Client.Delivery

namespace TxRelay

/-- What is counted on both sides. -/
inductive Tally.Event where
  | accepted (jobId : JobId)
  | refused (e : EngineError)
  /-- The broadcast of the job with this number ended so. -/
  | ended (job : Nat) (outcome : BroadcastResult)

namespace Tally.Event

variable {events : List Event}

@[simp] def name? : Event → Option JobId
  | accepted jobId => some jobId
  | _ => none

@[simp] def ending? : Event → Option (Nat × BroadcastResult)
  | ended job outcome => some (job, outcome)
  | _ => none

/-- The names of the accepted jobs: the job of number `n` is the `n`-th. -/
def names (events : List Event) : List JobId := events.filterMap name?

/-- The ends of broadcasts, in the order in which they came. -/
def endings (events : List Event) : List (Nat × BroadcastResult) := events.filterMap ending?

/-- An event adds its name, if it has one. -/
@[simp] theorem names_snoc (events : List Event) (x : Event) :
    names (events ++ [x]) = names events ++ x.name?.toList :=
  Log.filterMap_snoc name? events x

/-- An event adds its end, if it is one. -/
@[simp] theorem endings_snoc (events : List Event) (x : Event) :
    endings (events ++ [x]) = endings events ++ x.ending?.toList :=
  Log.filterMap_snoc ending? events x

/-- The receipts of the jobs that completed, in order of completion. -/
def receipts (events : List Event) : List Receipt :=
  (endings events).filterMap (Client.due (names events))

@[simp] def isInvalidEndpoint : Event → Bool
  | refused (.invalidEndpoint _ _) => true
  | _ => false

@[simp] def isRejected : Event → Bool
  | refused (.rejected _) => true
  | _ => false

@[simp] def isInvalidRequest : Event → Bool
  | refused (.invalidRequest _) => true
  | _ => false

/-! ## Refusals and ends -/

/-- The label of a refusal. -/
@[simp] def reason? : Event → Option RejectReason
  | refused e => some (Engine.rejectReason e)
  | _ => none

@[simp] def isAccepted : Event → Bool
  | accepted _ => true
  | _ => false

@[simp] def isEnded : Event → Bool
  | ended _ _ => true
  | _ => false

@[simp] def isRefused : Event → Bool
  | refused _ => true
  | _ => false

/-- A refusal comes from one of the three checks. -/
def Fair : Event → Prop
  | refused e => (∃ message, e = .invalidRequest message) ∨
      (∃ endpoint reason, e = .invalidEndpoint endpoint reason) ∨ ∃ message, e = .rejected message
  | _ => True

/-- Did the transaction succeed? -/
def succeeds : BroadcastResult → Bool
  | .ok (.mined tx) => tx.success
  | _ => false

/-- The receipt says whether the transaction succeeded. -/
theorem success_ofOutcome (jobId : JobId) (outcome : BroadcastResult) :
    (Receipt.ofOutcome jobId outcome).success = succeeds outcome := by
  cases outcome with
  | error e => rfl
  | ok o =>
    cases o with
    | pending hash reason => rfl
    | mined tx => cases hsuccess : tx.success <;> simp [Receipt.ofOutcome, succeeds, hsuccess]

@[simp] def endsWith (success : Bool) : Event → Bool
  | ended _ outcome => succeeds outcome == success
  | _ => false

/-- Every refusal has one of three labels. -/
theorem countP_refused (events : List Event) :
    events.countP isRefused = events.countP (fun x => x.reason? = some .endpoint) +
      events.countP (fun x => x.reason? = some .payload) +
      events.countP (fun x => x.reason? = some .request) := by
  induction events with
  | nil => rfl
  | cons x rest ih =>
    simp only [List.countP_cons, ih]
    cases x with
    | refused e => cases hreason : Engine.rejectReason e <;> simp [hreason] <;> omega
    | _ => simp

/-- Every end is a success or a failure. -/
theorem countP_ended (events : List Event) :
    (endings events).length = events.countP (endsWith true) + events.countP (endsWith false) := by
  rw [endings, List.length_filterMap_eq_countP]
  induction events with
  | nil => rfl
  | cons x rest ih =>
    simp only [List.countP_cons, ih]
    cases x with
    | ended job outcome => cases hsuccess : succeeds outcome <;> simp [hsuccess] <;> omega
    | _ => simp

/-- Refusals that come from the checks are labelled by their kind. -/
theorem countP_reason (fair : ∀ x ∈ events, Fair x) :
    events.countP (fun x => x.reason? = some .endpoint) = events.countP isInvalidEndpoint ∧
    events.countP (fun x => x.reason? = some .payload) = events.countP isRejected ∧
    events.countP (fun x => x.reason? = some .request) = events.countP isInvalidRequest := by
  -- the three differ in the kind only; of each event it is asked whether it is of that kind
  refine ⟨List.countP_congr fun x hx => ?_, List.countP_congr fun x hx => ?_,
    List.countP_congr fun x hx => ?_⟩ <;> have hfair := fair x hx <;> cases x with
    | refused e =>
      rcases hfair with ⟨message, rfl⟩ | ⟨endpoint, reason, rfl⟩ | ⟨message, rfl⟩ <;>
        simp [Engine.rejectReason]
    | _ => simp

/-! ## Receipts -/

/-- Every broadcast that ended was that of an accepted job. -/
def Bounded (events : List Event) : Prop :=
  ∀ ending ∈ endings events, ending.1 < (names events).length

/-- The ends are the events that are ends. -/
theorem length_endings (events : List Event) :
    (endings events).length = events.countP isEnded := by
  rw [endings, List.length_filterMap_eq_countP]
  refine List.countP_congr fun x _ => ?_
  cases x <;> simp

/-- The names are as many as the acceptances. -/
theorem length_names (events : List Event) :
    (names events).length = events.countP isAccepted := by
  rw [names, List.length_filterMap_eq_countP]
  refine List.countP_congr fun x _ => ?_
  cases x <;> simp

/-- Each end has a receipt, since the job has a name. -/
theorem length_receipts (bounded : Bounded events) :
    (receipts events).length = (endings events).length := by
  have hlength := congrArg List.length (Client.map_due bounded)
  rw [List.length_map, List.length_map] at hlength
  exact hlength.symm

/-- The receipts of successes are as many as the successes. -/
theorem countP_receipts (bounded : Bounded events) :
    (receipts events).countP Receipt.success = events.countP (endsWith true) := by
  calc (receipts events).countP Receipt.success
      = (endings events).countP (fun ending => succeeds ending.2) := by
        rw [receipts, List.countP_filterMap]
        refine List.countP_congr fun ending hending => ?_
        have hname := List.getElem?_eq_getElem (bounded ending hending)
        rw [Client.due, hname]
        simp [success_ofOutcome]
    _ = events.countP (endsWith true) := by
        rw [endings, List.countP_filterMap]
        refine List.countP_congr fun x _ => ?_
        cases x <;> simp

end Tally.Event

/-! ## What events add up to -/

namespace Tally

variable {events : List Event} {t : Tally}

/-- All but the deliveries and the panics. -/
def shown (t : Tally) : Tally where
  stats := { t.stats with delivered := 0 }
  metrics := { t.metrics with callbackPanics := 0 }

/-- Count an event. -/
def count (t : Tally) : Event → Tally
  | .accepted _ => t.submitted
  | .refused e => t.rejected (Engine.rejectReason e)
  | .ended _ outcome => t.completed (Event.succeeds outcome)

/-- What is left out is not counted by an event, so it may be left out before or after. -/
theorem shown_count (x : Event) : (t.count x).shown = t.shown.count x := by
  cases x with
  | accepted jobId => rfl
  | refused e => cases hreason : Engine.rejectReason e <;> simp only [count, hreason] <;> rfl
  | ended job outcome =>
    cases hsuccess : Event.succeeds outcome <;> simp only [count, hsuccess] <;> rfl

/-- What events add up to. -/
def ofEvents (events : List Event) : Tally := events.foldl count {}

/-- One more event is counted last. -/
theorem ofEvents_snoc (events : List Event) (x : Event) :
    ofEvents (events ++ [x]) = (ofEvents events).count x := by
  rw [ofEvents, List.foldl_append]
  rfl

/-- How many of the events are such, as a word. -/
def word (p : Event → Bool) (events : List Event) : UInt64 := .ofNat (events.countP p)

/-- One more event moves the word, or leaves it. -/
theorem word_snoc (p : Event → Bool) (events : List Event) (x : Event) :
    word p (events ++ [x]) = if p x then word p events + 1 else word p events := by
  rw [word, List.countP_append, List.countP_singleton]
  split
  · exact UInt64.ofNat_add (events.countP p) 1
  · rfl

/-- Each counter and each metric is the word of a number of events. -/
structure Shows (events : List Event) (t : Tally) : Prop where
  submitted : t.stats.submitted = word Event.isAccepted events
  published : t.metrics.submitted = word Event.isAccepted events
  rejected : t.stats.rejected = word Event.isRefused events
  endpoint : t.metrics.rejectedEndpoint = word (fun x => x.reason? = some .endpoint) events
  payload : t.metrics.rejectedPayload = word (fun x => x.reason? = some .payload) events
  request : t.metrics.rejectedRequest = word (fun x => x.reason? = some .request) events
  completed : t.stats.completed = word Event.isEnded events
  succeeded : t.metrics.succeeded = word (Event.endsWith true) events
  failed : t.metrics.failed = word (Event.endsWith false) events

/-- One more event moves what belongs to it and nothing else. -/
theorem Shows.snoc (h : Shows events t) (x : Event) : Shows (events ++ [x]) (t.count x) := by
  obtain ⟨submitted, published, rejected, endpoint, payload, request, completed, succeeded,
    failed⟩ := h
  cases x with
  | accepted jobId => constructor <;> simp [word_snoc, count, Tally.submitted, setGauge, *]
  | refused e =>
    cases hreason : Engine.rejectReason e <;> constructor <;>
      simp [word_snoc, count, Tally.rejected, Metrics.countRejected, *]
  | ended job outcome =>
    cases hsuccess : Event.succeeds outcome <;> constructor <;>
      simp [word_snoc, count, Tally.completed, Metrics.countReceipt, setGauge, *]

/-- The sum of events shows them. -/
theorem shows_ofEvents (events : List Event) : Shows events (ofEvents events) := by
  induction events using List.reverseRecOn with
  | nil => exact ⟨rfl, rfl, rfl, rfl, rfl, rfl, rfl, rfl, rfl⟩
  | append_singleton events x ih =>
    rw [ofEvents_snoc]
    exact ih.snoc x

/-- The gauge is as the counters have it: it stands from the first acceptance on, and a refusal
    moves neither. -/
theorem gauge_ofEvents (some_name : Event.names events ≠ []) :
    (ofEvents events).metrics.inFlight = some (ofEvents events).stats.inFlight := by
  induction events using List.reverseRecOn with
  | nil => exact absurd rfl some_name
  | append_singleton events x ih =>
    rw [ofEvents_snoc]
    cases x with
    | accepted jobId => rfl
    -- a refusal leaves the names as they were, so there was one before it
    | refused e =>
      rw [Event.names_snoc] at some_name
      have some_name : Event.names events ++ [] ≠ [] := some_name
      rw [List.append_nil] at some_name
      exact (Metrics.inFlight_countRejected _ _).trans (ih some_name)
    | ended job outcome => rfl

end Tally

/-! ## What a reader may rely on -/

/-- The metrics say what the counters say, and what the events say. -/
structure Agrees (events : List Tally.Event) (t : Tally) : Prop where
  accepted : t.stats.submitted.toNat = (Tally.Event.names events).length
  submitted : t.metrics.submitted = t.stats.submitted
  rejected : t.metrics.rejectedEndpoint.toNat + t.metrics.rejectedPayload.toNat +
    t.metrics.rejectedRequest.toNat = t.stats.rejected.toNat
  endpoint : t.metrics.rejectedEndpoint.toNat = events.countP Tally.Event.isInvalidEndpoint
  payload : t.metrics.rejectedPayload.toNat = events.countP Tally.Event.isRejected
  request : t.metrics.rejectedRequest.toNat = events.countP Tally.Event.isInvalidRequest
  completed : t.metrics.succeeded.toNat + t.metrics.failed.toNat = t.stats.completed.toNat
  /-- Every job that completed has a receipt, and the successes are told by the receipts. -/
  receipts : t.stats.completed.toNat = (Tally.Event.receipts events).length
  succeeded : t.metrics.succeeded.toNat = (Tally.Event.receipts events).countP Receipt.success
  /-- The difference is one of numbers: no more jobs completed than were submitted. -/
  gauge : Tally.Event.names events ≠ [] → t.stats.completed ≤ t.stats.submitted ∧
    t.metrics.inFlight = some (t.stats.submitted - t.stats.completed)

/-- What a run promises of its events. -/
structure Tally.Event.Sound (events : List Tally.Event) : Prop where
  fair : ∀ x ∈ events, Tally.Event.Fair x
  bounded : Tally.Event.Bounded events
  once : (Tally.Event.endings events).length ≤ (Tally.Event.names events).length

open Tally.Event in
/-- What shows the sum of sound events agrees, if there are fewer than 2^64 of them. -/
theorem agrees_ofEvents {events : List Tally.Event} {t : Tally}
    (shown : t.shown = Tally.ofEvents events) (sound : Sound events)
    (short : events.length < UInt64.size) : Agrees events t := by
  have hshows : Tally.Shows events t.shown := shown ▸ Tally.shows_ofEvents events
  -- so few events do not turn a counter around
  have hreads (p : Tally.Event → Bool) : (Tally.word p events).toNat = events.countP p :=
    UInt64.toNat_ofNat_of_lt' (Nat.lt_of_le_of_lt List.countP_le_length short)
  obtain ⟨hendpoint, hpayload, hrequest⟩ := countP_reason sound.fair
  have hcompleted : t.stats.completed.toNat = (endings events).length := by
    rw [length_endings, ← hreads]
    exact congrArg UInt64.toNat hshows.completed
  have hsubmitted : t.stats.submitted.toNat = (names events).length := by
    rw [length_names, ← hreads]
    exact congrArg UInt64.toNat hshows.submitted
  have hsucceeded : t.metrics.succeeded.toNat = events.countP (endsWith true) :=
    (congrArg UInt64.toNat hshows.succeeded).trans (hreads _)
  have hfailed : t.metrics.failed.toNat = events.countP (endsWith false) :=
    (congrArg UInt64.toNat hshows.failed).trans (hreads _)
  have hinvalid : t.metrics.rejectedEndpoint.toNat = events.countP isInvalidEndpoint :=
    (congrArg UInt64.toNat hshows.endpoint).trans ((hreads _).trans hendpoint)
  have hrejected : t.metrics.rejectedPayload.toNat = events.countP isRejected :=
    (congrArg UInt64.toNat hshows.payload).trans ((hreads _).trans hpayload)
  have hempty : t.metrics.rejectedRequest.toNat = events.countP isInvalidRequest :=
    (congrArg UInt64.toNat hshows.request).trans ((hreads _).trans hrequest)
  have hrefused : t.stats.rejected.toNat = events.countP isRefused :=
    (congrArg UInt64.toNat hshows.rejected).trans (hreads _)
  have hordered : t.stats.completed ≤ t.stats.submitted := by
    rw [UInt64.le_iff_toNat_le, hcompleted, hsubmitted]
    exact sound.once
  refine ⟨hsubmitted, hshows.published.trans hshows.submitted.symm, ?_, hinvalid, hrejected,
    hempty, ?_, ?_, ?_, fun some_name => ⟨hordered, ?_⟩⟩
  · rw [hrefused, countP_refused, hendpoint, hpayload, hrequest, hinvalid, hrejected, hempty]
  · rw [hsucceeded, hfailed, hcompleted, countP_ended]
  · rw [hcompleted, length_receipts sound.bounded]
  · rw [hsucceeded, countP_receipts sound.bounded]
  · have hgauge : t.metrics.inFlight = some t.stats.inFlight := by
      show t.shown.metrics.inFlight = some t.shown.stats.inFlight
      rw [shown]
      exact Tally.gauge_ofEvents some_name
    rw [hgauge, Stats.inFlight, if_pos hordered]

end TxRelay
