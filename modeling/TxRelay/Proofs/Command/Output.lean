/-
  What the broadcast command prints.

  Each argument is a request under a name of its own.  What the checks refuse is told on the error
  output, in the order of the arguments; what they accept gets a line on the standard output, in the
  order in which the broadcasts end, as far as the receipts come in time.

  1. **What is to be printed.**  `requests`, `refusals` and `accepted` are read off the arguments
     and the checks; `line` is read off the end of a broadcast.  `Printed` says what a command that
     is over has printed of them.

  2. **Submitting.**  A submission is refused or accepted, and the command counts it accordingly
     (`submit_refused`, `submit_accepted`).

  3. **The arguments so far.**  `Sound` is the invariant: the client has accepted, the command has
     counted and refused exactly those requests that it should, and what was printed, followed by
     what is in the channel, is what the callback got.  Each thing that can happen keeps it
     (`Sound.submit`, `Sound.goOn`, `Sound.print`, `Sound.expire`, `Sound.finish`).

  4. **The stages.**  `Keeps` adds how the stage fits the arguments that are left, and holds at
     every moment (`Reachable.keeps`).

  5. **The end.**  When the command is over, the lines that are due are the printed ones, those that
     came too late, and no other (`Sound.lines`).  It comes to its end unless it waits: every move
     brings the end nearer (`Moves.todo_lt`), and what happens beside it keeps it where it is
     (`Step.todo_le`).

  The crux is the third part of `Sound`.  Receipts go from the callback through a channel to the
  output, and the command never looks back at what it printed; that nothing is printed twice, and
  that it waits for no refused argument, is that printed and not yet printed lines together are the
  deliveries of the client, in their order.
-/
import TxRelay.Command.Moment
import TxRelay.Proofs.Client.Listening
import TxRelay.Proofs.Receipt.RoundTrip

namespace TxRelay.Command

open Client (Listening Calm GoesOn Awaits queuedJobs endings delivered completed due)

/-! ## What is to be printed -/

/-- The arguments as requests, each under its own fresh name; `i` counts them. -/
def requests (s : Surroundings) (endpoint : String) : (i : Nat) → List Bytes → List Request
  | _, [] => []
  | i, rawTx :: rest => ⟨rawTx, endpoint, s.freshId i⟩ :: requests s endpoint (i + 1) rest

/-- What the error output tells of a request: why it is refused, if it is. -/
def refusal? (r : Request) : Option String :=
  match Engine.check validateEnvelope r with
  | .ok _ => none
  | .error e => some (ClientError.rejected r.jobId e).message

/-- What the error output tells of some requests. -/
def refusals (rs : List Request) : List String := rs.filterMap refusal?

/-- The requests that are accepted. -/
def accepted (rs : List Request) : List Request := rs.filter fun r => (refusal? r).isNone

/-- The line for the end of a broadcast: the receipt of the accepted request of that number. -/
def line (accepted : List Request) (ending : Nat × BroadcastResult) : Option String :=
  accepted[ending.1]?.map fun r => (Receipt.ofOutcome r.jobId ending.2).toJson

/-- How many receipts were sent in time. -/
def Moment.arrived (m : Moment) : Nat := m.inTime.getD (delivered m.client.log).length

/-- What a command that is over has printed for these requests. -/
structure Printed (rs : List Request) (m : Moment) : Prop where
  stderr : m.stderr = refusals rs
  /-- No broadcast ends twice. -/
  once : ((endings m.client.log).map Prod.fst).Nodup
  /-- The lines are the first of those that are due, in order of completion. -/
  stdout : m.stdout.map some =
    ((endings m.client.log).map (line (accepted rs))).take m.stdout.length
  /-- What was sent in time was printed. -/
  inTime : m.arrived ≤ m.stdout.length
  bound : m.stdout.length ≤ (accepted rs).length
  /-- If every receipt came in time, each accepted request has its line. -/
  all : m.arrived = (accepted rs).length →
    m.stdout.map some = (endings m.client.log).map (line (accepted rs)) ∧
    ((endings m.client.log).map Prod.fst).Perm (List.range (accepted rs).length)
  /-- A line is one line. -/
  lines : ∀ text ∈ m.stdout, '\n' ∉ text.toList

section

variable {rs rs' : List Request} {r : Request}

theorem refusals_append : refusals (rs ++ rs') = refusals rs ++ refusals rs' :=
  List.filterMap_append

theorem accepted_append : accepted (rs ++ rs') = accepted rs ++ accepted rs' :=
  List.filter_append rs rs'

/-- Every request is refused or accepted. -/
theorem length_accepted_add_length_refusals (rs : List Request) :
    (accepted rs).length + (refusals rs).length = rs.length := by
  induction rs with
  | nil => rfl
  | cons r rs ih =>
    cases hr : refusal? r with
    | none =>
      have haccepted : accepted (r :: rs) = r :: accepted rs := by simp [accepted, hr]
      have hrefusals : refusals (r :: rs) = refusals rs := by simp [refusals, hr]
      rw [haccepted, hrefusals, List.length_cons, List.length_cons]
      omega
    | some text =>
      have haccepted : accepted (r :: rs) = accepted rs := by simp [accepted, hr]
      have hrefusals : refusals (r :: rs) = text :: refusals rs := by simp [refusals, hr]
      rw [haccepted, hrefusals, List.length_cons, List.length_cons]
      omega

theorem refusal?_of_ok (ok : Engine.check validateEnvelope r = .ok ()) : refusal? r = none := by
  rw [refusal?, ok]

theorem refusal?_of_error {e : EngineError} (bad : Engine.check validateEnvelope r = .error e) :
    refusal? r = some (ClientError.rejected r.jobId e).message := by
  rw [refusal?, bad]

theorem accepted_of_ok (ok : Engine.check validateEnvelope r = .ok ()) : accepted [r] = [r] := by
  simp [accepted, refusal?_of_ok ok]

theorem refusals_of_ok (ok : Engine.check validateEnvelope r = .ok ()) : refusals [r] = [] := by
  simp [refusals, refusal?_of_ok ok]

theorem accepted_of_error {e : EngineError}
    (bad : Engine.check validateEnvelope r = .error e) : accepted [r] = [] := by
  simp [accepted, refusal?_of_error bad]

theorem refusals_of_error {e : EngineError}
    (bad : Engine.check validateEnvelope r = .error e) :
    refusals [r] = [(ClientError.rejected r.jobId e).message] := by
  simp [refusals, refusal?_of_error bad]

/-- A request is accepted if nothing is wrong with it. -/
theorem mem_accepted : r ∈ accepted rs ↔ r ∈ rs ∧ Engine.Acceptable validateEnvelope r := by
  rw [accepted, List.mem_filter]
  refine and_congr_right fun _ => ?_
  rcases Engine.check_cases validateEnvelope r with ⟨hacceptable, hcheck⟩ |
    ⟨err, count, hfault, hcheck⟩
  · simp [refusal?_of_ok hcheck, hacceptable]
  · simp [refusal?_of_error hcheck, hfault.not_acceptable]

theorem length_requests (s : Surroundings) (endpoint : String) (i : Nat) (payloads : List Bytes) :
    (requests s endpoint i payloads).length = payloads.length := by
  induction payloads generalizing i with
  | nil => rfl
  | cons rawTx rest ih => simp [requests, ih]

theorem jobId_requests (s : Surroundings) (endpoint : String) (i : Nat) (payloads : List Bytes) :
    (requests s endpoint i payloads).map Request.jobId =
      (List.range' i payloads.length).map s.freshId := by
  induction payloads generalizing i with
  | nil => rfl
  | cons rawTx rest ih => simp [requests, ih, List.range'_succ]

/-- A line is the receipt that is due. -/
theorem line_eq (rs : List Request) (ending : Nat × BroadcastResult) :
    line rs ending = (due (rs.map Request.jobId) ending).map Receipt.toJson := by
  simp [line, due, Function.comp_def]

end

/-! ## Submitting -/

variable {s : Surroundings} {c : Config} {endpoint : String} {wait : UInt64}
  {rs done : List Request} {m m' : Moment}

section

variable {raw : String} {left : List String} {rawTx : Bytes}

/-- The command after a refused submission. -/
theorem submit_refused {e : ClientError} (hex : Hex.decode (Text.trim raw) = .ok rawTx)
    (answer : (m.client.client.perform
      (.broadcast rawTx (some endpoint) (s.freshId m.index))).1 = .failed e) :
    m.submit s endpoint raw left =
      { m with
        client := m.client.make (.broadcast rawTx (some endpoint) (s.freshId m.index))
        stage := .submitting left
        index := m.index + 1
        stderr := m.stderr ++ [e.message] } := by
  rw [Moment.submit, hex]
  simp only [answer]

/-- The command after an accepted submission. -/
theorem submit_accepted (hex : Hex.decode (Text.trim raw) = .ok rawTx)
    (answer : (m.client.client.perform
      (.broadcast rawTx (some endpoint) (s.freshId m.index))).1 = .queued) :
    m.submit s endpoint raw left =
      { m with
        client := m.client.make (.broadcast rawTx (some endpoint) (s.freshId m.index))
        stage := .submitting left
        index := m.index + 1
        expected := m.expected + 1 } := by
  rw [Moment.submit, hex]
  simp only [answer]

end

/-! ## Closing -/

theorem perform_stats {client : Client} {tag : String} (h : Listening tag client) :
    client.perform .stats = (.stats client.engine.tally.stats, client) := by
  simp [Client.perform, Client.stats?, h.alive]

/-- The counters are always told. -/
theorem close_eq {tag : String} (h : Listening tag m.client.client) :
    m.close =
      { m with client := (m.client.make .stats).make .destroy, stage := .ended .done } := by
  simp [Moment.close, perform_stats h, Moment.finish]

/-! ## The arguments so far -/

/-- The command after it submitted these requests. -/
structure Sound (s : Surroundings) (c : Config) (done : List Request) (m : Moment) : Prop where
  reach : Client.Reachable c (clientOf s c).network m.client
  listening : m.Runs → Listening "receipts" m.client.client
  calm : Calm m.client
  queued : queuedJobs m.client.log = (accepted done).map Request.jobId
  /-- The jobs without a receipt are the requests of their numbers. -/
  pending : ∀ job ∈ m.client.client.engine.pending,
    (accepted done)[job.number]? = some job.request
  /-- Each accepted request has no receipt yet, or its broadcast ended. -/
  numbers : m.Runs → (m.client.client.engine.pending.map Job.number ++
    (endings m.client.log).map Prod.fst).Perm (List.range (accepted done).length)
  expected : m.expected = (accepted done).length
  stderr : m.stderr = refusals done
  /-- What was printed and what is in the channel is what was sent. -/
  sent : m.stdout ++ m.channel.map Receipt.toJson =
    (delivered m.client.log).map Receipt.toJson
  inTime : ∀ n, m.inTime = some n → n ≤ (delivered m.client.log).length

/-- No line is missing, or the time was over and what came in time was printed. -/
def Moment.Served (m : Moment) : Prop :=
  m.expected ≤ m.stdout.length ∨ ∃ n, m.inTime = some n ∧ n ≤ m.stdout.length

/-- How far the command has come when these requests were submitted. -/
def Fits (s : Surroundings) (endpoint : String) (rs done : List Request) (m : Moment) : Prop :=
  match m.stage with
  | .submitting left => ∃ payloads,
      left.map (fun raw => Hex.decode (Text.trim raw)) = payloads.map .ok ∧
      rs = done ++ requests s endpoint m.index payloads
  | .waiting => rs = done
  | .closing => rs = done ∧ m.Served
  | .ended ending => rs = done ∧ m.Served ∧ ending = .done

namespace Sound

/-- Another stage changes nothing about the requests. -/
theorem stage (h : Sound s c done m) (runs : m.Runs) (stage : Stage) :
    Sound s c done { m with stage := stage } :=
  ⟨h.reach, fun _ => h.listening runs, h.calm, h.queued, h.pending, fun _ => h.numbers runs,
    h.expected, h.stderr, h.sent, h.inTime⟩

/-- Something happens in the client. -/
theorem goOn {client : Client.Moment} (h : Sound s c done m) (runs : m.Runs)
    (step : Client.Step m.client client) (next : GoesOn "receipts" m.client client) :
    Sound s c done (m.goOn client) := by
  obtain ⟨new, hnew⟩ := next.delivered
  refine ⟨h.reach.step step, fun _ => next.listening (h.listening runs), next.calm h.calm,
    next.queued.trans h.queued, ?_, ?_, h.expected, h.stderr, ?_, ?_⟩
  · intro job hjob
    rcases next.pending with ⟨hsame, -⟩ | ⟨other, outcome, hperm, -⟩
    · exact h.pending job (hsame ▸ hjob)
    · exact h.pending job (hperm.mem_iff.mpr (List.mem_cons_of_mem _ hjob))
  · intro _
    have hnumbers := h.numbers runs
    show (client.client.engine.pending.map Job.number ++
      (endings client.log).map Prod.fst).Perm (List.range (accepted done).length)
    rcases next.pending with ⟨hsame, hendings⟩ | ⟨job, outcome, hperm, hendings⟩
    · rw [hsame, hendings]
      exact hnumbers
    · -- the number moves from the jobs to the endings
      refine List.Perm.trans ?_ hnumbers
      rw [hendings, List.map_append, ← List.append_assoc]
      refine (List.perm_append_singleton _ _).trans ?_
      exact ((hperm.map Job.number).append_right _).symm
  · show m.stdout ++ (m.channel ++ (delivered client.log).drop _).map Receipt.toJson =
      (delivered client.log).map Receipt.toJson
    rw [hnew, List.drop_left, List.map_append, ← List.append_assoc, h.sent, List.map_append]
  · intro n hn
    show n ≤ (delivered client.log).length
    have hbefore := h.inTime n hn
    rw [hnew, List.length_append]
    omega

/-- The next request is submitted. -/
theorem submit {raw : String} {left : List String} {rawTx : Bytes} (h : Sound s c done m)
    (runs : m.Runs) (hex : Hex.decode (Text.trim raw) = .ok rawTx) :
    Sound s c (done ++ [⟨rawTx, endpoint, s.freshId m.index⟩]) (m.submit s endpoint raw left) ∧
    (m.submit s endpoint raw left).stage = .submitting left ∧
    (m.submit s endpoint raw left).index = m.index + 1 := by
  have hlistening := h.listening runs
  have hreach := h.reach.step (.call (.broadcast rawTx (some endpoint) (s.freshId m.index)))
  obtain ⟨hafter, -, -, hcases⟩ := hlistening.submit rawTx endpoint (s.freshId m.index)
  have hpending := hafter.pending
  rcases hcases with ⟨e, hcheck, hanswer, hjobs⟩ | ⟨hcheck, hanswer, hjobs⟩
  · have haccepted : accepted (done ++ [⟨rawTx, endpoint, s.freshId m.index⟩]) = accepted done := by
      rw [accepted_append, accepted_of_error hcheck, List.append_nil]
    rw [hjobs, ← hlistening.pending] at hpending
    rw [submit_refused hex hanswer]
    refine ⟨⟨hreach, fun _ => hafter, h.calm, ?_, ?_, fun _ => ?_, ?_, ?_, ?_, ?_⟩, rfl, rfl⟩
    · rw [haccepted, ← h.queued]
      simp [Client.Moment.make, hanswer]
    · rw [haccepted]
      exact fun job hjob => h.pending job (hpending ▸ hjob)
    · rw [haccepted, Client.endings_make]
      exact hpending ▸ h.numbers runs
    · rw [haccepted]
      exact h.expected
    · rw [refusals_append, refusals_of_error hcheck, h.stderr]
    · simpa using h.sent
    · simpa using h.inTime
  · have haccepted : accepted (done ++ [⟨rawTx, endpoint, s.freshId m.index⟩]) =
        accepted done ++ [⟨rawTx, endpoint, s.freshId m.index⟩] := by
      rw [accepted_append, accepted_of_ok hcheck]
    have hnumber : m.client.client.engine.accepted = (accepted done).length := by
      rw [h.reach.ledger.accepted, h.queued, List.length_map]
    rw [hjobs, ← hlistening.pending, hnumber] at hpending
    rw [submit_accepted hex hanswer]
    refine ⟨⟨hreach, fun _ => hafter, h.calm, ?_, ?_, fun _ => ?_, ?_, ?_, ?_, ?_⟩, rfl, rfl⟩
    · simp [Client.Moment.make, hanswer, haccepted, h.queued]
    · intro job hjob
      have hjob' : job ∈ m.client.client.engine.pending ++ [_] := hpending ▸ hjob
      rw [haccepted]
      rcases List.mem_append.mp hjob' with hold | hnew
      · have hnamed := h.pending job hold
        rwa [List.getElem?_append_left (List.getElem?_eq_some_iff.mp hnamed).1]
      · obtain rfl := List.mem_singleton.mp hnew
        exact List.getElem?_concat_length
    · -- the engine counts as the command does, so that the new number is the next one
      show (List.map Job.number (m.client.client.perform _).2.engine.pending ++ _).Perm _
      rw [hpending, haccepted, List.length_append, List.length_singleton, List.range_succ,
        Client.endings_make, List.map_append, List.append_assoc]
      refine List.Perm.trans ?_ ((h.numbers runs).append_right _)
      rw [List.append_assoc]
      exact List.perm_append_comm.append_left _
    · simp [haccepted, h.expected]
    · rw [refusals_append, refusals_of_ok hcheck, List.append_nil, h.stderr]
    · simpa using h.sent
    · simpa using h.inTime

/-- A receipt is printed. -/
theorem print {r : Receipt} {rest : List Receipt} (h : Sound s c done m) (runs : m.Runs)
    (head : m.channel = r :: rest) : Sound s c done (m.print r rest) := by
  refine ⟨h.reach, fun _ => h.listening runs, h.calm, h.queued, h.pending, fun _ => h.numbers runs,
    h.expected, h.stderr, ?_, h.inTime⟩
  have hsent := h.sent
  rw [head] at hsent
  simpa [Moment.print] using hsent

/-- The time is over. -/
theorem expire (h : Sound s c done m) (runs : m.Runs) : Sound s c done m.expire := by
  refine ⟨h.reach, fun _ => h.listening runs, h.calm, h.queued, h.pending, fun _ => h.numbers runs,
    h.expected, h.stderr, h.sent, ?_⟩
  intro n hn
  obtain rfl := Option.some.inj hn
  exact Nat.le_refl _

/-- The command is over, and its client is destroyed. -/
theorem finish (h : Sound s c done m) (runs : m.Runs) (ending : Ending) :
    Sound s c done (m.finish ending) := by
  have hlistening := h.listening runs
  have hgone : (m.client.client.perform .destroy).2.engine.pending = [] := by
    simp [Client.perform, Client.destroy, hlistening.alive, Engine.pending,
      Engine.destroy_live (hlistening.whole.alive.mp hlistening.alive)]
  refine ⟨h.reach.step (.call .destroy), fun runs' => absurd rfl (runs' ending), h.calm, ?_, ?_,
    fun runs' => absurd rfl (runs' ending), h.expected, h.stderr, ?_, ?_⟩
  · rw [← h.queued]
    simp [Moment.finish, Client.Moment.make, queuedJobs]
  · simp [Moment.finish, Client.Moment.make, hgone]
  · simpa [Moment.finish] using h.sent
  · simpa [Moment.finish] using h.inTime

/-- The counters are asked for, and the client is destroyed. -/
theorem close (h : Sound s c done m) (runs : m.Runs) : Sound s c done m.close := by
  have hlistening := h.listening runs
  have hsame : (m.client.make .stats).client = m.client.client :=
    congrArg Prod.snd (perform_stats hlistening)
  have hasked : Sound s c done { m with client := m.client.make .stats } := by
    refine ⟨h.reach.step (.call .stats), fun _ => ?_, h.calm, ?_, ?_, fun _ => ?_, h.expected,
      h.stderr, ?_, ?_⟩
    · simpa only [hsame] using hlistening
    · rw [← h.queued]
      simp [Client.Moment.make, queuedJobs]
    · simpa only [hsame] using h.pending
    · simpa only [hsame, Client.endings_make] using h.numbers runs
    · simpa using h.sent
    · simpa using h.inTime
  rw [close_eq hlistening]
  exact hasked.finish runs .done

end Sound

/-! ## The stages -/

/-- The stage and the requests fit at every moment. -/
def Keeps (s : Surroundings) (c : Config) (endpoint : String) (rs : List Request) (m : Moment) :
    Prop :=
  ∃ done, Sound s c done m ∧ Fits s endpoint rs done m

/-- The nodes that a command asks. -/
def nodesOf (s : Surroundings) (c : Config) : Rpc.Network where
  node := s.node
  rpcTimeout := c.network.rpcTimeout
  receiptTimeout := c.network.receiptTimeout

/-- The client listens when the command begins. -/
theorem initial_awaits (s : Surroundings) (c : Config) (raws : List String) :
    Awaits "receipts" (Moment.initial s c raws).client.client [] (nodesOf s c) := by
  have hreach := (@Client.Reachable.initial c (clientOf s c).network).step
    (.call (.setCallback "receipts" (fun _ => []) fun _ => false))
  have hwhole := (hreach.step (.call .start)).roles.whole
  exact ⟨⟨hwhole, rfl, rfl, rfl, rfl, rfl, rfl, ⟨_, rfl⟩⟩, rfl, rfl, rfl⟩

/-- Nothing is submitted when the command begins. -/
theorem Sound.initial {raws : List String} : Sound s c [] (.initial s c raws) := by
  have hreach := (@Client.Reachable.initial c (clientOf s c).network).step
    (.call (.setCallback "receipts" (fun _ => []) fun _ => false))
  exact ⟨hreach.step (.call .start), fun _ => (initial_awaits s c raws).listening,
    fun _ hbusy => (nomatch hbusy), rfl, fun _ hjob => (nomatch hjob), fun _ => List.Perm.refl _,
    rfl, rfl, rfl, fun _ hn => (nomatch hn)⟩

theorem Keeps.initial {raws : List String} {payloads : List Bytes}
    (hex : raws.map (fun raw => Hex.decode (Text.trim raw)) = payloads.map .ok) :
    Keeps s c endpoint (requests s endpoint 0 payloads) (.initial s c raws) :=
  ⟨[], .initial, payloads, hex, rfl⟩

/-- A command that waits is not over. -/
theorem Moment.runs_of_waiting (h : m.stage = .waiting) : m.Runs := by
  simp [Moment.Runs, h]

/-- A command that is over makes no move. -/
theorem Moves.runs (next : Moves s endpoint wait m m') : m.Runs := by
  intro ending hended
  cases next with
  | submit stage | await stage | print stage | giveUp stage | complete stage | close stage =>
    cases stage.symm.trans hended

/-- A move of the command. -/
theorem Keeps.moves (clock : s.clock + wait.toNat ≤ lastSecond) (h : Keeps s c endpoint rs m)
    (next : Moves s endpoint wait m m') : Keeps s c endpoint rs m' := by
  obtain ⟨done, hsound, hfits⟩ := h
  have hruns := next.runs
  unfold Fits at hfits
  cases next with
  | @submit raw left stage =>
    rw [stage] at hfits
    obtain ⟨payloads, hhex, rfl⟩ := hfits
    cases payloads with
    | nil => cases hhex
    | cons rawTx rest =>
      obtain ⟨hone, hrest⟩ := List.cons.inj hhex
      obtain ⟨hafter, hstage, hindex⟩ :=
        @Sound.submit s c endpoint done m raw left rawTx hsound hruns hone
      refine ⟨_, hafter, ?_⟩
      rw [Fits, hstage, hindex]
      exact ⟨rest, hrest, by simp [requests]⟩
  | await stage =>
    rw [stage] at hfits
    obtain ⟨payloads, hhex, rfl⟩ := hfits
    obtain rfl : payloads = [] := by simpa using hhex
    rw [Moment.await, if_neg (Nat.not_lt.mpr clock)]
    exact ⟨done, hsound.stage hruns .waiting, List.append_nil _⟩
  | print stage missing sent =>
    rw [stage] at hfits
    refine ⟨done, hsound.print hruns sent, ?_⟩
    rw [Fits, Moment.print, stage]
    exact hfits
  | giveUp stage missing nothing late =>
    rw [stage] at hfits
    refine ⟨done, hsound.stage hruns .closing, hfits, Or.inr ?_⟩
    cases hn : m.inTime with
    | none => exact absurd hn late
    | some n =>
      -- the channel is empty, so that everything that was sent is printed
      have hsent := congrArg List.length hsound.sent
      rw [nothing, List.map_nil, List.append_nil, List.length_map] at hsent
      exact ⟨n, rfl, hsent ▸ hsound.inTime n hn⟩
  | complete stage all =>
    rw [stage] at hfits
    exact ⟨done, hsound.stage hruns .closing, hfits, Or.inl all⟩
  | close stage =>
    rw [stage] at hfits
    obtain ⟨rfl, hserved⟩ := hfits
    refine ⟨rs, hsound.close hruns, ?_⟩
    rw [close_eq (hsound.listening hruns)]
    exact ⟨rfl, hserved, rfl⟩

theorem Keeps.step (clock : s.clock + wait.toNat ≤ lastSecond) (h : Keeps s c endpoint rs m)
    (next : Step s endpoint wait m m') : Keeps s c endpoint rs m' := by
  cases next with
  | moves next => exact h.moves clock next
  | happens runs next =>
    obtain ⟨done, hsound, hfits⟩ := h
    have hnext := (hsound.listening runs).happens hsound.calm next
    exact ⟨done, hsound.goOn runs (.happens next) hnext, hfits⟩
  | answer runs goes =>
    obtain ⟨done, hsound, hfits⟩ := h
    have hnext := (hsound.listening runs).answered goes
    exact ⟨done, hsound.goOn runs (.finish goes) hnext, hfits⟩
  | expire stage early =>
    obtain ⟨done, hsound, hfits⟩ := h
    refine ⟨done, hsound.expire (m.runs_of_waiting stage), ?_⟩
    unfold Fits at hfits ⊢
    rw [stage] at hfits
    rw [Moment.expire, stage]
    exact hfits

theorem Reachable.keeps {raws : List String} {payloads : List Bytes}
    (hex : raws.map (fun raw => Hex.decode (Text.trim raw)) = payloads.map .ok)
    (clock : s.clock + wait.toNat ≤ lastSecond) (h : Reachable s endpoint wait c raws m) :
    Keeps s c endpoint (requests s endpoint 0 payloads) m := by
  induction h with
  | initial => exact Keeps.initial hex
  | step before next ih => exact ih.step clock next

/-! ## The end of a run -/

/-- The numbers of the broadcasts that ended are among those of the accepted requests. -/
theorem Sound.numbers_subperm (h : Sound s c rs m) :
    ((endings m.client.log).map Prod.fst).Subperm (List.range (accepted rs).length) := by
  have ledger := h.reach.ledger
  refine List.subperm_of_subset (List.nodup_append.mp ledger.once).2.1 fun number hnumber => ?_
  obtain ⟨ending, hending, rfl⟩ := List.mem_map.mp hnumber
  have hlt := ledger.counted ending hending
  rw [h.queued, List.length_map] at hlt
  exact List.mem_range.mpr hlt

/-- The lines that are due are the receipts of the broadcasts that ended: the printed ones, those
    in the channel, and those that the callback did not get yet. -/
theorem Sound.lines (h : Sound s c rs m) :
    (endings m.client.log).map (line (accepted rs)) =
      (m.stdout ++ m.channel.map Receipt.toJson ++
        m.client.client.engine.receipts.map Receipt.toJson).map some := by
  have ledger := h.reach.ledger
  calc (endings m.client.log).map (line (accepted rs))
      = ((endings m.client.log).map (due (queuedJobs m.client.log))).map
          (Option.map Receipt.toJson) := by
        rw [List.map_map, h.queued]
        exact List.map_congr_left fun ending _ => line_eq _ ending
    _ = ((completed m.client.log).map Receipt.toJson).map some := by
        rw [Client.map_due ledger.counted, List.map_map, List.map_map]
        rfl
    _ = _ := by rw [h.sent, ← List.map_append, ledger.handed]

theorem Sound.printed (h : Sound s c rs m) (served : m.Served) : Printed rs m := by
  have hsubperm := h.numbers_subperm
  have hlines := h.lines
  have hends := congrArg List.length hlines
  have hsent := congrArg List.length h.sent
  have hcount := hsubperm.length_le
  have hexpected := h.expected
  simp only [List.length_map, List.length_append, List.length_range] at hends hsent hcount
  have harrived : m.arrived ≤ (delivered m.client.log).length := by
    unfold Moment.arrived
    cases hn : m.inTime with
    | none => exact Nat.le_refl _
    | some n => exact h.inTime n hn
  -- the command ended because all had arrived or because the time was over
  have hinTime : m.arrived ≤ m.stdout.length := by
    rcases served with hall | ⟨n, hn, hle⟩
    · omega
    · rw [Moment.arrived, hn]
      exact hle
  have hprefix : m.stdout.map some =
      ((endings m.client.log).map (line (accepted rs))).take m.stdout.length := by
    rw [hlines, ← List.map_take, List.append_assoc, List.take_left]
  refine ⟨h.stderr, (List.nodup_append.mp h.reach.ledger.once).2.1, hprefix, hinTime, by omega,
    fun hall => ⟨?_, hsubperm.perm_of_length_le ?_⟩, ?_⟩
  · rwa [List.take_of_length_le (by rw [List.length_map]; omega)] at hprefix
  · rw [List.length_range, List.length_map]
    omega
  · -- a line has no line break in it, since a receipt is printed without any
    intro text htext hbreak
    have hmem : text ∈ (delivered m.client.log).map Receipt.toJson :=
      h.sent ▸ List.mem_append_left _ htext
    obtain ⟨r, -, rfl⟩ := List.mem_map.mp hmem
    exact absurd (Receipt.printable_toJson r '\n' hbreak) (by decide)

/-! ## The way to the end -/

/-- The command waits: a line is missing, no receipt is there, and the time is not over. -/
def Moment.Waits (m : Moment) : Prop :=
  m.stage = .waiting ∧ m.stdout.length < m.expected ∧ m.channel = [] ∧ m.inTime = none

/-- How many moves the command can still make. -/
def Moment.todo (m : Moment) : Nat :=
  match m.stage with
  | .submitting left => 2 * left.length + (m.expected - m.stdout.length) + 3
  | .waiting => m.expected - m.stdout.length + 2
  | .closing => 1
  | .ended _ => 0

/-- A command that is not over makes a move, unless it waits. -/
theorem moves_or_waits (s : Surroundings) (endpoint : String) (wait : UInt64) (runs : m.Runs) :
    (∃ m', Moves s endpoint wait m m') ∨ m.Waits := by
  cases hstage : m.stage with
  | submitting left =>
    cases left with
    | nil => exact Or.inl ⟨_, .await hstage⟩
    | cons raw left => exact Or.inl ⟨_, .submit hstage⟩
  | waiting =>
    by_cases hall : m.expected ≤ m.stdout.length
    · exact Or.inl ⟨_, .complete hstage hall⟩
    · -- a receipt is missing: one is in the channel, or the time is over, or there is none yet
      have hmissing : m.stdout.length < m.expected := Nat.lt_of_not_le hall
      cases hchannel : m.channel with
      | cons r rest => exact Or.inl ⟨_, .print hstage hmissing hchannel⟩
      | nil =>
        by_cases hlate : m.inTime = none
        · exact Or.inr ⟨hstage, hmissing, hchannel, hlate⟩
        · exact Or.inl ⟨_, .giveUp hstage hmissing hchannel hlate⟩
  | closing => exact Or.inl ⟨_, .close hstage⟩
  | ended ending => exact absurd hstage (runs ending)

theorem Moment.todo_submit (m : Moment) (s : Surroundings) (endpoint raw : String)
    (left : List String) : (m.submit s endpoint raw left).todo ≤
      2 * left.length + (m.expected - m.stdout.length) + 4 := by
  unfold Moment.submit
  split
  · exact Nat.zero_le _
  · dsimp only
    split
    · simp only [Moment.todo]
      omega
    · simp only [Moment.todo]
      omega

/-- Every move brings the end nearer. -/
theorem Moves.todo_lt (next : Moves s endpoint wait m m') : m'.todo < m.todo := by
  cases next with
  | @submit raw left stage =>
    have hafter := m.todo_submit s endpoint raw left
    rw [Moment.todo.eq_def m, stage]
    simp only [List.length_cons]
    omega
  -- to wait costs one, and so does a clock that breaks down
  | await stage =>
    rw [Moment.todo.eq_def m, stage, Moment.await]
    split
    · simp only [Moment.finish, Moment.todo]
      omega
    · simp only [Moment.todo]
      omega
  | print stage missing sent =>
    simp only [Moment.todo, Moment.print, stage, List.length_append, List.length_singleton]
    omega
  | giveUp stage missing nothing late =>
    simp only [Moment.todo, stage]
    omega
  | complete stage all =>
    simp only [Moment.todo, stage]
    omega
  | close stage =>
    rw [Moment.todo.eq_def m, stage, Moment.close]
    split
    · exact Nat.one_pos
    · exact Nat.one_pos

/-- What happens beside the command keeps the end where it is. -/
theorem Step.todo_le (next : Step s endpoint wait m m') : m'.todo ≤ m.todo := by
  cases next with
  | moves next => exact Nat.le_of_lt next.todo_lt
  | happens runs next => exact Nat.le_refl _
  | answer runs goes => exact Nat.le_refl _
  | expire stage early => exact Nat.le_refl _

/-! ## Every moment -/

/-- What holds of a command with these requests at every moment. -/
structure Orderly (s : Surroundings) (endpoint : String) (wait : UInt64) (rs : List Request)
    (m : Moment) : Prop where
  /-- The job of a number is the accepted request of that number. -/
  own : ∀ job ∈ m.client.client.engine.pending, (accepted rs)[job.number]? = some job.request
  /-- Until the command is over it makes a move, unless a receipt is missing that may come. -/
  goes : m.Runs → (∃ m', Moves s endpoint wait m m') ∨
    m.Waits ∧ (delivered m.client.log).length < (accepted rs).length
  /-- Every step leaves fewer moves to make, if it is one, and never more. -/
  ends : ∀ m', Step s endpoint wait m m' →
    m'.todo ≤ m.todo ∧ (Moves s endpoint wait m m' → m'.todo < m.todo)
  /-- When nothing is left to happen in the client, every receipt was sent. -/
  arrives : m.stage = .waiting → m.client.Settled →
    (delivered m.client.log).length = (accepted rs).length
  /-- A command that is over ended well, and has printed what it should. -/
  ended : ∀ ending, m.stage = .ended ending → ending = .done ∧ Printed rs m

theorem Sound.orderly (h : Sound s c done m) (fits : Fits s endpoint rs done m)
    (wait : UInt64) : Orderly s endpoint wait rs m := by
  unfold Fits at fits
  refine ⟨?_, fun runs => ?_, fun m' next => ⟨next.todo_le, Moves.todo_lt⟩, ?_, ?_⟩
  · intro job hjob
    have hjob := h.pending job hjob
    have hlt := (List.getElem?_eq_some_iff.mp hjob).1
    obtain ⟨left, rfl⟩ : ∃ left, rs = done ++ left := by
      split at fits
      · obtain ⟨payloads, -, hrs⟩ := fits
        exact ⟨_, hrs⟩
      · exact ⟨[], by rw [fits, List.append_nil]⟩
      · exact ⟨[], by rw [fits.1, List.append_nil]⟩
      · exact ⟨[], by rw [fits.1, List.append_nil]⟩
    rw [accepted_append, List.getElem?_append_left hlt]
    exact hjob
  · refine (moves_or_waits s endpoint wait runs).imp_right fun hwaits => ⟨hwaits, ?_⟩
    obtain ⟨hstage, hmissing, hchannel, -⟩ := hwaits
    rw [hstage] at fits
    have hsent := congrArg List.length h.sent
    rw [hchannel, List.map_nil, List.append_nil, List.length_map] at hsent
    rw [fits, ← h.expected, ← hsent]
    exact hmissing
  · -- nothing is left to happen, so all jobs have ended and all receipts were handed over
    intro hstage hsettled
    have hruns : m.Runs := m.runs_of_waiting hstage
    rw [hstage] at fits
    obtain ⟨hpending, hreceipts⟩ := (h.listening hruns).settled h.reach.roles hsettled
    have ledger := h.reach.ledger
    have hhanded := congrArg List.length ledger.handed
    have hdue := congrArg List.length (Client.map_due ledger.counted)
    have hnumbers := (h.numbers hruns).length_eq
    simp only [hpending, hreceipts, List.map_nil, List.nil_append, List.append_nil, List.length_map,
      List.length_range] at hhanded hdue hnumbers
    rw [hhanded, fits]
    exact hdue.symm.trans hnumbers
  · intro ending hstage
    rw [hstage] at fits
    obtain ⟨rfl, hserved, hending⟩ := fits
    exact ⟨hending, h.printed hserved⟩

theorem Reachable.orderly {raws : List String} {payloads : List Bytes}
    (hex : raws.map (fun raw => Hex.decode (Text.trim raw)) = payloads.map .ok)
    (clock : s.clock + wait.toNat ≤ lastSecond) (h : Reachable s endpoint wait c raws m) :
    Orderly s endpoint wait (requests s endpoint 0 payloads) m := by
  obtain ⟨done, hsound, hfits⟩ := h.keeps hex clock
  exact hsound.orderly hfits wait

end TxRelay.Command
