/-
  What the counters say while they are moved.

  Counters are moved by many parties, each in steps of its own, and read by others in between.  At
  such a moment the counters need not add up: a request may be sent and not counted, a broadcast
  may have ended and its receipt not be queued.

  1. **Alone.**  A party that takes its steps while nobody else moves does what the engine's
     operations do: a record (`path_record`), a submission (`path_submit`), the end of a job
     (`path_complete`), a poll (`path_poll`), a copy (`path_read`).  So the engine of the other
     modules is this one, undisturbed.

  2. **Numbers of parties.**  A counter is the number of the parties that have moved it (`Counted`).
     Each step of a party has a balance (`Does.balance`): what a counter gains the party has gained.
     Counters are words that wrap, so the balance is an equation of words, and a party that was
     counted before is added on both sides and cancelled (`word_set`).

  3. **In order.**  Parties go one way, so these numbers stand in the order in which a job passes:

         delivered ≤ taken ≤ queued ≤ completed ≤ tasks ≤ sent = submitted + sent and not counted

     and they never fall (`Path.grows`).

  4. **Copies.**  What a copy holds was true at four moments, one after the other (`Loaded`), and
     the gauge shows one such copy as soon as something was recorded (`Sighted`).

  The crux is the last sum of the third part.  A request is sent before it is counted, so a job may
  be through with everything while its submission is not counted; the counters alone are not in
  order, and `uncounted` says by how much they may be off.
-/
import Mathlib.Logic.Relation
import TxRelay.Engine.Counters
import TxRelay.Proofs.Engine.OneDispatcher

namespace TxRelay

namespace Engine

/-! ## How far a party has come -/

namespace Party

/-- Its request was sent. -/
def sent : Party → Bool
  | recording .acceptance _ | submitted (.ok _) => true
  | _ => false

/-- Its request was sent and is not counted. -/
def uncounted : Party → Bool
  | recording .acceptance .counting => true
  | _ => false

/-- Its request is counted. -/
def counted : Party → Bool
  | recording .acceptance .publishing | recording .acceptance (.copying _) => true
  | submitted (.ok _) => true
  | _ => false

/-- It is a task whose broadcast ended. -/
def task : Party → Bool
  | recording (.completion _) _ | queueing _ | completed => true
  | _ => false

/-- The end of its broadcast is counted. -/
def ended : Party → Bool
  | recording (.completion _) .publishing | recording (.completion _) (.copying _) => true
  | queueing _ | completed => true
  | _ => false

/-- Its receipt was queued. -/
def queued : Party → Bool
  | completed => true
  | _ => false

/-- Its record is over. -/
def recorded : Party → Bool
  | submitted (.ok _) | queueing _ | completed => true
  | _ => false

/-- The copy that it makes. -/
def copy? : Party → Option Copying
  | recording _ (.copying c) | reading c => some c
  | _ => none

/-- It took a receipt. -/
def took : Party → Bool
  | delivering _ | polled (.ok (.ready _)) => true
  | _ => false

/-- It took a receipt and counted it. -/
def delivered : Party → Bool
  | polled (.ok (.ready _)) => true
  | _ => false

/-- A request that was sent is counted or not. -/
theorem countP_sent (parties : List Party) :
    parties.countP sent = parties.countP counted + parties.countP uncounted := by
  induction parties with
  | nil => rfl
  | cons p rest ih =>
    simp only [List.countP_cons, ih]
    have hone : (if p.sent = true then 1 else 0) =
        (if p.counted = true then 1 else 0) + if p.uncounted = true then 1 else 0 := by
      cases p with
      | recording o step => cases o <;> cases step <;> rfl
      | submitted answer => cases answer <;> rfl
      | _ => rfl
    omega

/-- Who counted the end of a broadcast is a task. -/
theorem ended_task (p : Party) (h : p.ended = true) : p.task = true := by
  cases p with
  | recording o step => cases o <;> first | rfl | (cases step <;> cases h)
  | queueing r => rfl
  | completed => rfl
  | _ => cases h

/-- A receipt is queued after its end was counted. -/
theorem queued_ended (p : Party) (h : p.queued = true) : p.ended = true := by
  cases p with
  | completed => rfl
  | _ => cases h

/-- Only a receipt that was taken is counted as delivered. -/
theorem delivered_took (p : Party) (h : p.delivered = true) : p.took = true := by
  cases p with
  | polled result =>
    cases result with
    | ok outcome => cases outcome <;> first | rfl | cases h
    | error e => cases h
  | _ => cases h

end Party

namespace Counters

open Relation (ReflTransGen)
open Callers (countP_set)

variable {validate : Validate} {opening : Counters → Prop} {pollInterval : UInt64}
  {s s' : Counters} {i : Nat} {p p' : Party} {e : Engine}

/-- Steps one after the other. -/
abbrev Path (validate : Validate) (opening : Counters → Prop) : Counters → Counters → Prop :=
  ReflTransGen (Step validate opening)

/-- What steps lead to can be reached. -/
theorem Reachable.path (h : Reachable validate opening pollInterval s)
    (path : Path validate opening s s') : Reachable validate opening pollInterval s' := by
  induction path with
  | refl => exact h
  | tail _ next ih => exact ih.step next

/-! ## Alone -/

section

variable {o : Occurrence} {t t' : Tally}

/-- The record of this party has come so far. -/
def recordAt (s : Counters) (i : Nat) (o : Occurrence) (t : Tally) (step : Recording) : Counters :=
  { s with engine := s.engine.withTally t, parties := s.parties.set i (.recording o step) }

/-- The record of a party goes on by one step. -/
theorem recordAt_step {step step' : Recording} (place : i < s.parties.length)
    (does : Does validate (s.recordAt i o t step) (.recording o step) (s.engine.withTally t')
      (.recording o step'))
    (opens : step = .counting → opening (s.recordAt i o t step)) :
    Step validate opening (s.recordAt i o t step) (s.recordAt i o t' step') := by
  have hstep : Step validate opening (s.recordAt i o t step) _ :=
    .does (List.getElem?_set_self place) does
      fun hbegins => opens (by cases step <;> first | rfl | cases hbegins)
  rw [show (s.recordAt i o t step).parties.set i (.recording o step') =
    s.parties.set i (.recording o step') from List.set_set ..] at hstep
  exact hstep

/-- The record ends with the gauge. -/
theorem recordAt_over {copy : Stats} (place : i < s.parties.length) :
    Step validate opening (s.recordAt i o t (.copying (.done copy)))
      { s with
        engine := s.engine.withTally
          { t with metrics := { t.metrics with inFlight := some copy.inFlight } }
        parties := s.parties.set i (.after o) } := by
  have hover : Step validate opening (s.recordAt i o t (.copying (.done copy))) _ :=
    .does (List.getElem?_set_self place) .setGauge nofun
  rw [show (s.recordAt i o t (.copying (.done copy))).parties.set i (.after o) =
    s.parties.set i (.after o) from List.set_set ..] at hover
  exact hover

/-- **A record that nobody disturbs is what the engine does at once.** -/
theorem path_record (held : s.parties[i]? = some (.recording o .counting)) (opens : opening s) :
    Path validate opening s
      { s with
        engine := s.engine.withTally (o.record s.tally)
        parties := s.parties.set i (.after o) } := by
  obtain ⟨place, hparty⟩ := List.getElem?_eq_some_iff.mp held
  have hstart : s.recordAt i o s.tally .counting = s := by
    rw [recordAt, ← hparty, List.set_getElem_self]
    rfl
  have hcounted : Step validate opening (s.recordAt i o s.tally .counting) _ :=
    recordAt_step place .count fun _ => (by rw [hstart]; exact opens)
  rw [hstart] at hcounted
  have hbegun := (ReflTransGen.single hcounted).tail (recordAt_step place .publish nofun)
  have hdone := (((hbegun.tail (recordAt_step place .copy nofun)).tail
    (recordAt_step place .copy nofun)).tail (recordAt_step place .copy nofun)).tail
    (recordAt_step place .copy nofun)
  have hset := hdone.tail (recordAt_over place)
  cases o <;> exact hset

/-- **A request that is submitted while nobody else moves is enqueued.** -/
theorem path_submit {r : Request} (held : s.parties[i]? = some (.looking r))
    (live : s.engine.phase ≠ .destroyed) (ok : check validate r = .ok ())
    (receives : s.receives = true)
    (opens : opening { s with
      engine := s.engine.push r, parties := s.parties.set i (.recording .acceptance .counting) }) :
    Path validate opening s
      { s with
        engine := s.engine.enqueue r, parties := s.parties.set i (.submitted (.ok ())) } := by
  have place := (List.getElem?_eq_some_iff.mp held).1
  have hlooked : Path validate opening s _ := .single (.does held (.look live ok) nofun)
  have hsent := hlooked.tail
    (.does (List.getElem?_set_self place) (.send receives) nofun)
  rw [List.set_set] at hsent
  have hrecorded : Path validate opening _ _ :=
    path_record (s := { s with
      engine := s.engine.push r, parties := s.parties.set i (.recording .acceptance .counting) })
      (List.getElem?_set_self place) opens
  rw [List.set_set] at hrecorded
  exact hsent.trans hrecorded

/-- **A job that ends while nobody else moves is completed.** -/
theorem path_complete {job : Job} (held : job ∈ s.engine.broadcasting) (outcome : BroadcastResult)
    (opens : opening { s with
      engine := { s.engine with broadcasting := s.engine.broadcasting.erase job }
      parties := s.parties ++
        [.recording (.completion (.ofOutcome job.request.jobId outcome)) .counting] }) :
    Path validate opening s
      { s with
        engine := s.engine.complete job outcome, parties := s.parties ++ [.completed] } := by
  let receipt := Receipt.ofOutcome job.request.jobId outcome
  let erased := { s.engine with broadcasting := s.engine.broadcasting.erase job }
  have hset (p p' : Party) : (s.parties ++ [p]).set s.parties.length p' = s.parties ++ [p'] := by
    simp
  have hplace (p : Party) : (s.parties ++ [p])[s.parties.length]? = some p := by simp
  have hanswered : Path validate opening s { s with
      engine := erased
      parties := s.parties ++ [.recording (.completion receipt) .counting] } :=
    .single (.answer held)
  have hrecorded := hanswered.trans (path_record (hplace _) opens)
  rw [hset] at hrecorded
  have hqueued := hrecorded.tail (.does (hplace _) .queue nofun)
  rw [hset] at hqueued
  exact hqueued

/-- **A poll that finds a receipt while nobody else moves receives it.** -/
theorem path_poll {r : Receipt} {rest : List Receipt} (held : s.parties[i]? = some .polling)
    (head : s.engine.receipts = r :: rest) :
    ∃ e, s.engine.receive? = some (.ok (.ready r), e) ∧
      Path validate opening s
        { s with engine := e, parties := s.parties.set i (.polled (.ok (.ready r))) } := by
  have place := (List.getElem?_eq_some_iff.mp held).1
  refine ⟨{ s.engine with receipts := rest, tally := s.engine.tally.delivered }, ?_, ?_⟩
  · rw [receive?, head]
  · have htaken : Path validate opening s _ := .single (.does held (.take head) nofun)
    have hcounted := htaken.tail (.does (List.getElem?_set_self place) .deliver nofun)
    rw [List.set_set] at hcounted
    exact hcounted

/-- **A copy that nobody disturbs is the counters.** -/
theorem path_read (held : s.parties[i]? = some (.reading .begun)) :
    Path validate opening s { s with parties := s.parties.set i (.reading (.done s.stats)) } := by
  have place := (List.getElem?_eq_some_iff.mp held).1
  have hload (c : Copying) : Step validate opening
      { s with parties := s.parties.set i (.reading c) }
      { s with parties := s.parties.set i (.reading (c.load s.stats)) } := by
    have hstep : Step validate opening { s with parties := s.parties.set i (.reading c) } _ :=
      .does (List.getElem?_set_self place) .load nofun
    rw [List.set_set] at hstep
    exact hstep
  have hfirst : Path validate opening s _ := .single (.does held .load nofun)
  exact ((hfirst.tail (hload _)).tail (hload _)).tail (hload _)

end

/-! ## The counters are numbers of parties -/

/-- One or none, as a word. -/
def bit (b : Bool) : UInt64 := .ofNat b.toNat

/-- What one step of a party leaves in balance: each counter against the parties that moved it,
    and what lies in a queue against the parties that put it there or took it away. -/
structure Balance (s : Counters) (p : Party) (e : Engine) (p' : Party) : Prop where
  submitted : e.tally.stats.submitted + bit p.counted = s.stats.submitted + bit p'.counted
  completed : e.tally.stats.completed + bit p.ended = s.stats.completed + bit p'.ended
  delivered : e.tally.stats.delivered + bit p.delivered = s.stats.delivered + bit p'.delivered
  tasks : p'.task.toNat + e.queue.length + e.broadcasting.length + p.sent.toNat =
    p.task.toNat + s.engine.queue.length + s.engine.broadcasting.length + p'.sent.toNat
  receipts : p'.took.toNat + e.receipts.length + p.queued.toNat =
    p.took.toNat + s.engine.receipts.length + p'.queued.toNat

/-- To count is to move one counter, by the one who counts. -/
theorem Balance.count (o : Occurrence) :
    Balance s (.recording o .counting)
      (s.engine.withTally { s.tally with stats := o.count s.stats })
      (.recording o .publishing) := by
  cases o with
  | acceptance => exact ⟨UInt64.add_zero _, rfl, rfl, rfl, rfl⟩
  | completion r => exact ⟨rfl, UInt64.add_zero _, rfl, rfl, rfl⟩

/-- Every step of a party is in balance. -/
theorem Does.balance (does : Does validate s p e p') : Balance s p e p' := by
  cases does with
  | @count o => exact .count o
  | @publish o => cases o <;> exact ⟨rfl, rfl, rfl, rfl, rfl⟩
  | @copy o => cases o <;> exact ⟨rfl, rfl, rfl, rfl, rfl⟩
  | @setGauge o => cases o <;> exact ⟨rfl, rfl, rfl, rfl, rfl⟩
  -- the request goes into the queue, and its party has sent it
  | send receives =>
    refine ⟨rfl, rfl, rfl, ?_, rfl⟩
    simp [push, Party.task, Party.sent]
    omega
  | queue =>
    refine ⟨rfl, rfl, rfl, rfl, ?_⟩
    simp [Party.took, Party.queued]
  | take head =>
    refine ⟨rfl, rfl, rfl, rfl, ?_⟩
    rw [head, List.length_cons]
    simp [Party.took, Party.queued]
    omega
  | deliver => exact ⟨rfl, rfl, UInt64.add_zero _, rfl, rfl⟩
  | _ => exact ⟨rfl, rfl, rfl, rfl, rfl⟩

/-- How many parties have come so far. -/
abbrev number (s : Counters) (far : Party → Bool) : Nat := s.parties.countP far

/-- Each counter shows how many parties moved it, and the numbers are those of jobs that go
    their way. -/
structure Counted (s : Counters) : Prop where
  submitted : s.stats.submitted = .ofNat (s.number Party.counted)
  completed : s.stats.completed = .ofNat (s.number Party.ended)
  delivered : s.stats.delivered = .ofNat (s.number Party.delivered)
  tasks : s.number Party.task + s.engine.queue.length + s.engine.broadcasting.length ≤
    s.number Party.sent
  receipts : s.number Party.took + s.engine.receipts.length = s.number Party.queued

theorem Counted.initial : Counted (.initial pollInterval) :=
  ⟨rfl, rfl, rfl, Nat.le_refl 0, rfl⟩

/-- A counter and the number of the parties that moved it, after a step of one of them. -/
theorem word_set {far : Party → Bool} {word word' : UInt64} (held : s.parties[i]? = some p)
    (shows : word = .ofNat (s.number far)) (moves : word' + bit (far p) = word + bit (far p')) :
    word' = .ofNat ((s.parties.set i p').countP far) := by
  -- words wrap, so the party that was is added on both sides and cancelled
  have hset := @countP_set i _ _ _ p' far held
  have hsum : word' + bit (far p) = .ofNat ((s.parties.set i p').countP far) + bit (far p) := by
    rw [moves, shows, bit, bit, ← UInt64.ofNat_add, ← UInt64.ofNat_add, hset]
  exact (UInt64.add_left_inj _).mp hsum

/-- A party takes a step, and the counters still are numbers of parties. -/
theorem Counted.does (h : Counted s) (held : s.parties[i]? = some p)
    (does : Does validate s p e p') :
    Counted { s with engine := e, parties := s.parties.set i p' } := by
  -- the step's balance is between two parties; a count of parties changes by just these two
  obtain ⟨submitted, completed, delivered, tasks, receipts⟩ := does.balance
  have hset (far : Party → Bool) : (s.parties.set i p').countP far + (far p).toNat =
      s.number far + (far p').toNat := countP_set far held
  refine ⟨word_set held h.submitted submitted, word_set held h.completed completed,
    word_set held h.delivered delivered, ?_, ?_⟩
  · have htask := hset Party.task
    have hsent := hset Party.sent
    have hbefore := h.tasks
    show (s.parties.set i p').countP Party.task + e.queue.length + e.broadcasting.length ≤
      (s.parties.set i p').countP Party.sent
    omega
  · have htook := hset Party.took
    have hqueued := hset Party.queued
    have hbefore := h.receipts
    show (s.parties.set i p').countP Party.took + e.receipts.length =
      (s.parties.set i p').countP Party.queued
    omega

/-- Parties come to those that are there, and jobs go on to them or are given up. -/
theorem Counted.join (h : Counted s) (more : List Party) (parties : s'.parties = s.parties ++ more)
    (fresh : more.countP Party.counted = 0 ∧ more.countP Party.ended = 0 ∧
      more.countP Party.delivered = 0 ∧ more.countP Party.sent = 0 ∧
      more.countP Party.queued = 0 ∧ more.countP Party.took = 0)
    (stats : s'.stats = s.stats) (receipts : s'.engine.receipts = s.engine.receipts)
    (tasks : more.countP Party.task + s'.engine.queue.length + s'.engine.broadcasting.length ≤
      s.engine.queue.length + s.engine.broadcasting.length) : Counted s' := by
  have hjoin (far : Party → Bool) : s'.number far = s.number far + more.countP far := by
    rw [number, parties, List.countP_append]
  obtain ⟨counted, ended, delivered, sent, queued, took⟩ := fresh
  have htasks := h.tasks
  have hreceipts := h.receipts
  constructor
  · rw [hjoin, counted, stats]
    exact h.submitted
  · rw [hjoin, ended, stats]
    exact h.completed
  · rw [hjoin, delivered, stats]
    exact h.delivered
  · rw [hjoin, hjoin, sent]
    omega
  · rw [hjoin, hjoin, took, queued, receipts]
    exact hreceipts

/-- So they are after every step, whoever takes it. -/
theorem Counted.step (h : Counted s) (next : Step validate opening s s') : Counted s' := by
  have hnobody : s.parties = s.parties ++ [] := (List.append_nil _).symm
  have hnone : ([] : List Party).countP Party.counted = 0 ∧ [].countP Party.ended = 0 ∧
      [].countP Party.delivered = 0 ∧ [].countP Party.sent = 0 ∧
      [].countP Party.queued = 0 ∧ [].countP Party.took = 0 := ⟨rfl, rfl, rfl, rfl, rfl, rfl⟩
  cases next with
  | @call q first =>
    have htask : [q].countP Party.task = 0 := by cases q <;> first | rfl | cases first
    refine h.join [q] rfl ?_ rfl rfl ?_
    · cases q <;> first | exact ⟨rfl, rfl, rfl, rfl, rfl, rfl⟩ | cases first
    · show [q].countP Party.task + s.engine.queue.length + s.engine.broadcasting.length ≤ _
      omega
  | does held does opens => exact h.does held does
  | start fresh => exact h.join [] hnobody hnone rfl rfl (by simp)
  | @receive job rest runs head =>
    refine h.join [] hnobody hnone rfl rfl ?_
    show 0 + rest.length + (s.engine.broadcasting ++ [job]).length ≤ _
    rw [head, List.length_append, List.length_singleton, List.length_cons]
    omega
  | @answer job outcome held =>
    have hlength := List.length_erase_of_mem held
    have hpositive := List.length_pos_of_mem held
    refine h.join _ rfl ⟨rfl, rfl, rfl, rfl, rfl, rfl⟩ rfl rfl ?_
    show 1 + s.engine.queue.length + (s.engine.broadcasting.erase job).length ≤ _
    omega
  -- the jobs that are left are given up, so that the sum of the tasks only falls
  | destroy live => exact h.join [] hnobody hnone rfl rfl (by simp)
  | quit gone => exact h.join [] hnobody hnone rfl rfl (by simp)
  | @abandon job gone =>
    have hfewer := List.length_erase_le (a := job) (l := s.engine.broadcasting)
    refine h.join [] hnobody hnone rfl rfl ?_
    show 0 + s.engine.queue.length + (s.engine.broadcasting.erase job).length ≤ _
    omega

/-- At every moment each counter is the number of the parties that moved it. -/
theorem Reachable.counted (h : Reachable validate opening pollInterval s) : Counted s := by
  induction h with
  | initial => exact .initial
  | step _ next ih => exact ih.step next

/-! ### As numbers -/

/-- With fewer than 2^64 parties a counter is a number. -/
theorem toNat_number (short : s.parties.length < UInt64.size) (far : Party → Bool) :
    (UInt64.ofNat (s.number far)).toNat = s.number far :=
  UInt64.toNat_ofNat_of_lt' (Nat.lt_of_le_of_lt List.countP_le_length short)

/-- Requests that were sent and are not counted. -/
abbrev uncounted (s : Counters) : Nat := s.number Party.uncounted

/-- **The counters are in order, but for the requests that are not counted.** -/
theorem Counted.ordered (h : Counted s) (short : s.parties.length < UInt64.size) :
    s.stats.delivered.toNat ≤ s.stats.completed.toNat ∧
    s.stats.completed.toNat ≤ s.stats.submitted.toNat + s.uncounted := by
  have hdelivered : s.number Party.delivered ≤ s.number Party.took :=
    List.countP_mono_left fun p _ => Party.delivered_took p
  have hqueued : s.number Party.queued ≤ s.number Party.ended :=
    List.countP_mono_left fun p _ => Party.queued_ended p
  have hended : s.number Party.ended ≤ s.number Party.task :=
    List.countP_mono_left fun p _ => Party.ended_task p
  have hsent : s.number Party.sent = s.number Party.counted + s.uncounted :=
    Party.countP_sent s.parties
  have htasks := h.tasks
  have hreceipts := h.receipts
  rw [h.delivered, h.completed, h.submitted, toNat_number short, toNat_number short,
    toNat_number short]
  omega

/-! ## Nothing is taken back -/

/-- A party that counted has counted for good. -/
theorem Does.keeps (does : Does validate s p e p') :
    (p.counted = true → p'.counted = true) ∧ (p.ended = true → p'.ended = true) := by
  cases does with
  | @count o => cases o <;> exact ⟨fun h => (by cases h), fun h => by cases h⟩
  | @publish o => cases o <;> exact ⟨id, id⟩
  | @copy o => cases o <;> exact ⟨id, id⟩
  | @setGauge o => cases o <;> exact ⟨id, id⟩
  | queue => exact ⟨id, id⟩
  | _ => exact ⟨fun h => (by cases h), fun h => by cases h⟩

/-- The numbers grow. -/
structure Grows (s s' : Counters) : Prop where
  parties : s.parties.length ≤ s'.parties.length
  counted : s.number Party.counted ≤ s'.number Party.counted
  ended : s.number Party.ended ≤ s'.number Party.ended

/-- A party that goes one way makes no number smaller. -/
theorem number_set_le {far : Party → Bool} (held : s.parties[i]? = some p)
    (keeps : far p = true → far p' = true) :
    s.number far ≤ (s.parties.set i p').countP far := by
  have hset : (s.parties.set i p').countP far + (far p).toNat = s.number far + (far p').toNat :=
    countP_set far held
  have hbit : (far p).toNat ≤ (far p').toNat := by
    cases hfar : far p with
    | false => exact Nat.zero_le _
    | true => exact Nat.le_of_eq (congrArg Bool.toNat (keeps hfar).symm)
  omega

/-- Parties that come make no number smaller. -/
theorem grows_join {more : List Party} (parties : s'.parties = s.parties ++ more) :
    Grows s s' := by
  have hsub := (List.prefix_append s.parties more).sublist
  rw [← parties] at hsub
  exact ⟨hsub.length_le, hsub.countP_le, hsub.countP_le⟩

/-- No step makes a number smaller. -/
theorem Step.grows (next : Step validate opening s s') : Grows s s' := by
  cases next with
  | call first => exact grows_join rfl
  | does held does opens =>
    obtain ⟨hcounted, hended⟩ := does.keeps
    exact ⟨Nat.le_of_eq (List.length_set).symm, number_set_le held hcounted,
      number_set_le held hended⟩
  | answer held => exact grows_join rfl
  | _ => exact grows_join (List.append_nil _).symm

/-- Nor do many of them. -/
theorem Path.grows (path : Path validate opening s s') : Grows s s' := by
  induction path with
  | refl => exact ⟨Nat.le_refl _, Nat.le_refl _, Nat.le_refl _⟩
  | tail _ next ih =>
    have hstep := next.grows
    exact ⟨Nat.le_trans ih.parties hstep.parties, Nat.le_trans ih.counted hstep.counted,
      Nat.le_trans ih.ended hstep.ended⟩

/-- The two counters of the gauge never fall. -/
theorem Path.stats_le (reached : Reachable validate opening pollInterval s)
    (path : Path validate opening s s') (short : s'.parties.length < UInt64.size) :
    s.stats.submitted ≤ s'.stats.submitted ∧ s.stats.completed ≤ s'.stats.completed := by
  have hgrows := Path.grows path
  have hcounted := reached.counted
  have hcounted' := (reached.path path).counted
  have hshort : s.parties.length < UInt64.size := Nat.lt_of_le_of_lt hgrows.parties short
  rw [UInt64.le_iff_toNat_le, UInt64.le_iff_toNat_le, hcounted.submitted, hcounted'.submitted,
    hcounted.completed, hcounted'.completed, toNat_number hshort, toNat_number short,
    toNat_number hshort, toNat_number short]
  exact ⟨hgrows.counted, hgrows.ended⟩

/-! ## What a copy holds -/

/-- What was loaded was true, one after the other, at moments that lead here. -/
def Loaded (validate : Validate) (opening : Counters → Prop) (pollInterval : UInt64)
    (s : Counters) : Copying → Prop
  | .begun => True
  | .submitted a => ∃ s₁, Reachable validate opening pollInterval s₁ ∧
      Path validate opening s₁ s ∧ s₁.stats.submitted = a
  | .rejected a b => ∃ s₁ s₂, Reachable validate opening pollInterval s₁ ∧
      Path validate opening s₁ s₂ ∧ Path validate opening s₂ s ∧
      s₁.stats.submitted = a ∧ s₂.stats.rejected = b
  | .completed a b c => ∃ s₁ s₂ s₃, Reachable validate opening pollInterval s₁ ∧
      Path validate opening s₁ s₂ ∧ Path validate opening s₂ s₃ ∧ Path validate opening s₃ s ∧
      s₁.stats.submitted = a ∧ s₂.stats.rejected = b ∧ s₃.stats.completed = c
  | .done copy => ∃ s₁ s₂ s₃ s₄, Reachable validate opening pollInterval s₁ ∧
      Path validate opening s₁ s₂ ∧ Path validate opening s₂ s₃ ∧ Path validate opening s₃ s₄ ∧
      Path validate opening s₄ s ∧ copy =
        ⟨s₁.stats.submitted, s₂.stats.rejected, s₃.stats.completed, s₄.stats.delivered⟩

/-- What was true at earlier moments is true of them later. -/
theorem Loaded.later {c : Copying} (h : Loaded validate opening pollInterval s c)
    (next : Step validate opening s s') : Loaded validate opening pollInterval s' c := by
  cases c with
  | begun => trivial
  | submitted a =>
    obtain ⟨s₁, hreached, hpath, hloads⟩ := h
    exact ⟨s₁, hreached, hpath.tail next, hloads⟩
  | rejected a b =>
    obtain ⟨s₁, s₂, hreached, hpath, hlast, hloads⟩ := h
    exact ⟨s₁, s₂, hreached, hpath, hlast.tail next, hloads⟩
  | completed a b c =>
    obtain ⟨s₁, s₂, s₃, hreached, hpath, hpath', hlast, hloads⟩ := h
    exact ⟨s₁, s₂, s₃, hreached, hpath, hpath', hlast.tail next, hloads⟩
  | done copy =>
    obtain ⟨s₁, s₂, s₃, s₄, hreached, hpath, hpath', hpath'', hlast, hloads⟩ := h
    exact ⟨s₁, s₂, s₃, s₄, hreached, hpath, hpath', hpath'', hlast.tail next, hloads⟩

/-- The next counter is loaded at this moment. -/
theorem Loaded.load {c : Copying} (h : Loaded validate opening pollInterval s c)
    (reached : Reachable validate opening pollInterval s) :
    Loaded validate opening pollInterval s (c.load s.stats) := by
  cases c with
  | begun => exact ⟨s, reached, .refl, rfl⟩
  | submitted a =>
    obtain ⟨s₁, hreached, hlast, ha⟩ := h
    exact ⟨s₁, s, hreached, hlast, .refl, ha, rfl⟩
  | rejected a b =>
    obtain ⟨s₁, s₂, hreached, hpath, hlast, ha, hb⟩ := h
    exact ⟨s₁, s₂, s, hreached, hpath, hlast, .refl, ha, hb, rfl⟩
  | completed a b c =>
    obtain ⟨s₁, s₂, s₃, hreached, hpath, hpath', hlast, rfl, rfl, rfl⟩ := h
    exact ⟨s₁, s₂, s₃, s, hreached, hpath, hpath', hlast, .refl, rfl⟩
  | done copy => exact h

/-- The copy of a party is begun or goes on, and the gauge is set by a copy that is done. -/
structure Sight (s : Counters) (p : Party) (e : Engine) (p' : Party) : Prop where
  copy : ∀ c, p'.copy? = some c → c = .begun ∨ ∃ c₀, p.copy? = some c₀ ∧ c = c₀.load s.stats
  gauge : (e.tally.metrics.inFlight = s.tally.metrics.inFlight ∧
      (p'.recorded = true → p.recorded = true)) ∨
    ∃ copy, p.copy? = some (.done copy) ∧ e.tally.metrics.inFlight = some copy.inFlight

/-- To publish an occurrence does not touch the gauge. -/
theorem inFlight_publish (o : Occurrence) (m : Metrics) : (o.publish m).inFlight = m.inFlight := by
  cases o with
  | acceptance => rfl
  | completion r => exact m.inFlight_countReceipt r.success

/-- What a step of a party does to its copy and to the gauge. -/
theorem Does.sight (does : Does validate s p e p') : Sight s p e p' := by
  cases does with
  | count => exact ⟨fun c hc => (by cases hc), Or.inl ⟨rfl, fun h => by cases h⟩⟩
  | @publish o =>
    exact ⟨fun c hc => Or.inl (Option.some.inj hc).symm,
      Or.inl ⟨inFlight_publish o s.tally.metrics, fun h => by cases h⟩⟩
  | @copy o c =>
    exact ⟨fun c' hc => Or.inr ⟨c, rfl, (Option.some.inj hc).symm⟩,
      Or.inl ⟨rfl, fun h => by cases h⟩⟩
  | @setGauge o copy => exact ⟨fun c hc => (by cases o <;> cases hc), Or.inr ⟨copy, rfl, rfl⟩⟩
  | labelRefusal =>
    exact ⟨fun c hc => (by cases hc),
      Or.inl ⟨Metrics.inFlight_countRejected _ _, fun h => by cases h⟩⟩
  | queue => exact ⟨fun c hc => (by cases hc), Or.inl ⟨rfl, fun _ => rfl⟩⟩
  | @load c =>
    exact ⟨fun c' hc => Or.inr ⟨c, rfl, (Option.some.inj hc).symm⟩,
      Or.inl ⟨rfl, fun h => by cases h⟩⟩
  | _ => exact ⟨fun c hc => (by cases hc), Or.inl ⟨rfl, fun h => by cases h⟩⟩

/-- Copies hold what was true, and the gauge shows one of them as soon as something was
    recorded. -/
structure Sighted (validate : Validate) (opening : Counters → Prop) (pollInterval : UInt64)
    (s : Counters) : Prop where
  copies : ∀ p ∈ s.parties, ∀ c, p.copy? = some c → Loaded validate opening pollInterval s c
  gauge : ∀ g, s.tally.metrics.inFlight = some g →
    ∃ copy, Loaded validate opening pollInterval s (.done copy) ∧ g = copy.inFlight
  set : (∃ p ∈ s.parties, p.recorded = true) → s.tally.metrics.inFlight ≠ none

/-- Nobody copies in a new engine, and the gauge is not set. -/
theorem Sighted.initial : Sighted validate opening pollInterval (.initial pollInterval) where
  copies := fun _ h => by cases h
  gauge := fun _ h => by cases h
  set := fun ⟨_, h, _⟩ => by cases h

/-- Parties come that have no copy, and the gauge stays. -/
theorem Sighted.join (h : Sighted validate opening pollInterval s)
    (next : Step validate opening s s') {more : List Party}
    (parties : s'.parties = s.parties ++ more)
    (fresh : ∀ p ∈ more, p.recorded = false ∧ ∀ c, p.copy? = some c → c = .begun)
    (gauge : s'.tally.metrics.inFlight = s.tally.metrics.inFlight) :
    Sighted validate opening pollInterval s' where
  copies := by
    intro p hp c hc
    rw [parties] at hp
    rcases List.mem_append.mp hp with hold | hnew
    · exact (h.copies p hold c hc).later next
    · -- a copy that has just begun has seen nothing
      rw [(fresh p hnew).2 c hc]
      trivial
  gauge := by
    intro g hg
    obtain ⟨copy, hloaded, hcopy⟩ := h.gauge g (gauge ▸ hg)
    exact ⟨copy, hloaded.later next, hcopy⟩
  set := by
    rintro ⟨p, hp, hrecorded⟩
    rw [parties] at hp
    rw [gauge]
    rcases List.mem_append.mp hp with hold | hnew
    · exact h.set ⟨p, hold, hrecorded⟩
    · rw [(fresh p hnew).1] at hrecorded
      cases hrecorded

/-- One party takes a step: its copy goes on or is done, the gauge is set from it or stays. -/
theorem Sighted.does (h : Sighted validate opening pollInterval s)
    (reached : Reachable validate opening pollInterval s) (held : s.parties[i]? = some p)
    (sight : Sight s p e p')
    (next : Step validate opening s { s with engine := e, parties := s.parties.set i p' }) :
    Sighted validate opening pollInterval
      { s with engine := e, parties := s.parties.set i p' } where
  copies := by
    intro q hq c hc
    rcases List.mem_or_eq_of_mem_set hq with hold | rfl
    · exact (h.copies q hold c hc).later next
    · rcases sight.copy c hc with rfl | ⟨c₀, hc₀, rfl⟩
      · trivial
      · exact ((h.copies p (List.mem_of_getElem? held) c₀ hc₀).load reached).later next
  gauge := by
    intro g hg
    -- the gauge stays, or it is set from the copy of this party
    rcases sight.gauge with ⟨hsame, -⟩ | ⟨copy, hcopy, hset⟩
    · obtain ⟨copy, hloaded, hcopy⟩ := h.gauge g (hsame.symm.trans hg)
      exact ⟨copy, hloaded.later next, hcopy⟩
    · have hdone := h.copies p (List.mem_of_getElem? held) _ hcopy
      exact ⟨copy, hdone.later next, Option.some.inj (hg.symm.trans hset)⟩
  set := by
    rintro ⟨q, hq, hrecorded⟩
    show e.tally.metrics.inFlight ≠ none
    rcases sight.gauge with ⟨hsame, hbefore⟩ | ⟨copy, -, hset⟩
    · rw [hsame]
      rcases List.mem_or_eq_of_mem_set hq with hold | rfl
      · exact h.set ⟨q, hold, hrecorded⟩
      · exact h.set ⟨p, List.mem_of_getElem? held, hbefore hrecorded⟩
    · rw [hset]
      exact Option.some_ne_none _

/-- Every step keeps copies and gauge true. -/
theorem Sighted.step (h : Sighted validate opening pollInterval s)
    (reached : Reachable validate opening pollInterval s) (next : Step validate opening s s') :
    Sighted validate opening pollInterval s' := by
  have hnext := next
  cases next with
  | @call q first =>
    refine h.join hnext rfl (List.forall_mem_singleton.mpr ?_) rfl
    cases q with
    | looking r => exact ⟨rfl, fun c hc => by cases hc⟩
    | polling => exact ⟨rfl, fun c hc => by cases hc⟩
    | reading c =>
      cases c with
      | begun => exact ⟨rfl, fun c hc => (Option.some.inj hc).symm⟩
      | _ => cases first
    | _ => cases first
  | does held does opens => exact h.does reached held does.sight hnext
  | answer held =>
    exact h.join hnext rfl (List.forall_mem_singleton.mpr ⟨rfl, fun c hc => by cases hc⟩) rfl
  | _ => exact h.join hnext (List.append_nil _).symm (by simp) rfl

/-- At every moment copies hold what was true, and so does the gauge. -/
theorem Reachable.sighted (h : Reachable validate opening pollInterval s) :
    Sighted validate opening pollInterval s := by
  induction h with
  | initial => exact .initial
  | step before next ih => exact ih.step before next

/-! ## A job that is quick -/

/-- A request, and the job that it becomes. -/
def lone : Job := ⟨0, [1], "http://[::1]:8545", ⟨"job"⟩⟩

def lonePending : BroadcastResult := .ok (.pending "0x02" "no receipt")

/-- The job is with the network, and `submit` has not counted it. -/
def handedOn : Counters where
  engine := { pollInterval := 5, phase := .working, accepted := 1, broadcasting := [lone] }
  dispatching := true
  parties := [.recording .acceptance .counting]

/-- The request is sent, and the dispatcher hands its job on before it is counted. -/
theorem handedOn_reachable : Reachable (fun _ => .ok ()) opening 5 handedOn := by
  have haddress : (Endpoint.parse "http://[::1]:8545").toBool = true := by decide +kernel
  have hcheck : check (fun _ => .ok ()) lone.request = .ok () := check_ok rfl haddress rfl
  have hstarted : Reachable (fun _ => .ok ()) opening 5 _ := Reachable.initial.step (.start rfl)
  have hcalled := hstarted.step (@Step.call _ _ _ (.looking lone.request) rfl)
  have hlooked := hcalled.step (.does (i := 0) rfl (.look (by simp) hcheck) nofun)
  have hsent := hlooked.step (.does (i := 0) rfl (.send rfl) nofun)
  exact hsent.step (.receive rfl rfl)

end Counters

end Engine

end TxRelay
