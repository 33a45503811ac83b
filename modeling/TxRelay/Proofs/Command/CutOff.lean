/-
  Commands that end before they wait.

  Two things end the broadcast command while its jobs are under way: a malformed argument, and a
  time to wait that is beyond the clock.  Either way the client has accepted what was submitted by
  then, the nodes may have it, and no receipt is printed.

  A `Course` says what ends the command: how the arguments that are left go on, and the end that is
  sure to come.  Everything here is about any course, and the two kinds of end say only that they
  are one.

  1. **The invariant.**  `Silent` is that of the command that waits, `Sound`, with nothing printed
     and other stages around it: the end is ahead, or it has come (`Nearing`).

  2. **The steps.**  A move of the command submits one more argument or comes to the end
     (`Silent.moves`); what the client does beside it changes neither the stage nor the output
     (`Nearing.goOn`).  So every step keeps the invariant, and it holds at every moment
     (`Reachable.silent`).

  3. **What it gives.**  `CutOff` lists what holds until then, without the invariant: what was
     submitted, what was refused, that nothing was printed, and how the command ends if it ends.

  The crux is that no step of a cut-off command waits.  What is left of the arguments decides the
  next move alone, so the client's receipts, whenever they come, find nobody who would print them;
  that is why `Nearing` speaks of the arguments and not of the channel.
-/
import TxRelay.Proofs.Command.Broadcast

namespace TxRelay.Command

open Client (queuedJobs delivered)

variable {s : Surroundings} {c : Config} {endpoint : String} {wait : UInt64}
  {Left : List String → List Bytes → Prop} {ending : Ending} {rs done : List Request}
  {raws : List String} {payloads : List Bytes} {m m' : Moment}

/-! ## The end that is sure to come -/

/-- As long as these payloads are read from the arguments that are left, the command comes to this
    end: at a malformed argument, or when it should wait. -/
structure Course (s : Surroundings) (wait : UInt64) (Left : List String → List Bytes → Prop)
    (ending : Ending) : Prop where
  submit : ∀ raw left payloads, Left (raw :: left) payloads →
    (∃ e, Hex.decode (Text.trim raw) = .error e ∧ payloads = [] ∧
      ending = .failed e.debugForm) ∨
    ∃ rawTx rest, Hex.decode (Text.trim raw) = .ok rawTx ∧ payloads = rawTx :: rest ∧
      Left left rest
  await : ∀ payloads, Left [] payloads →
    payloads = [] ∧ ending = .panicked s.clockOverflow ∧ lastSecond < s.clock + wait.toNat

/-- How far the command has come: the end is ahead, or it has come. -/
def Nearing (s : Surroundings) (endpoint : String) (Left : List String → List Bytes → Prop)
    (ending : Ending) (rs done : List Request) (m : Moment) : Prop :=
  match m.stage with
  | .submitting left => ∃ payloads,
      Left left payloads ∧ rs = done ++ requests s endpoint m.index payloads
  | .waiting | .closing => False
  | .ended ending' => rs = done ∧ ending' = ending ∧ m.client.client.alive = false

/-- The command submits what it reads, and prints nothing. -/
def Silent (s : Surroundings) (c : Config) (endpoint : String)
    (Left : List String → List Bytes → Prop) (ending : Ending) (rs : List Request)
    (m : Moment) : Prop :=
  ∃ done, Sound s c done m ∧ Nearing s endpoint Left ending rs done m ∧ m.stdout = []

/-- A submission prints nothing. -/
theorem stdout_submit (m : Moment) (s : Surroundings) (endpoint raw : String)
    (left : List String) : (m.submit s endpoint raw left).stdout = m.stdout := by
  unfold Moment.submit
  split
  · rfl
  · dsimp only
    split <;> rfl

theorem Silent.initial (reads : Left raws payloads) :
    Silent s c endpoint Left ending (requests s endpoint 0 payloads) (.initial s c raws) :=
  ⟨[], .initial, ⟨payloads, reads, rfl⟩, rfl⟩

/-- The command comes to its end, and its client is destroyed. -/
theorem Sound.cutOff (h : Sound s c done m) (runs : m.Runs) (silent : m.stdout = [])
    (ending : Ending) : Silent s c endpoint Left ending done (m.finish ending) := by
  refine ⟨done, h.finish runs _, ⟨rfl, rfl, ?_⟩, silent⟩
  simp [Moment.finish, Client.Moment.make, Client.perform, Client.destroy,
    (h.listening runs).alive]

/-- A move of the command: it submits one more argument, or comes to its end. -/
theorem Silent.moves (h : Silent s c endpoint Left ending rs m)
    (course : Course s wait Left ending) (next : Moves s endpoint wait m m') :
    Silent s c endpoint Left ending rs m' := by
  obtain ⟨done, hsound, hnears, hsilent⟩ := h
  have hruns := next.runs
  unfold Nearing at hnears
  cases next with
  | @submit raw left stage =>
    rw [stage] at hnears
    obtain ⟨payloads, hleft, rfl⟩ := hnears
    rcases course.submit raw left payloads hleft with
      ⟨e, bad, rfl, rfl⟩ | ⟨rawTx, rest, hex, rfl, hrest⟩
    · have hended : m.submit s endpoint raw left = m.finish (.failed e.debugForm) := by
        rw [Moment.submit, bad]
      rw [hended, requests, List.append_nil]
      exact hsound.cutOff hruns hsilent _
    · obtain ⟨hafter, hstage, hindex⟩ :=
        @Sound.submit s c endpoint done m raw left rawTx hsound hruns hex
      refine ⟨_, hafter, ?_, (stdout_submit m s endpoint raw left).trans hsilent⟩
      rw [Nearing, hstage, hindex]
      exact ⟨rest, hrest, by simp [requests]⟩
  | await stage =>
    rw [stage] at hnears
    obtain ⟨payloads, hleft, rfl⟩ := hnears
    obtain ⟨rfl, rfl, hclock⟩ := course.await payloads hleft
    have hended : m.await s wait = m.finish (.panicked s.clockOverflow) := if_pos hclock
    rw [hended, requests, List.append_nil]
    exact hsound.cutOff hruns hsilent _
  -- the other moves are those of a command that waits or closes, and this one comes to neither
  | print stage missing sent =>
    rw [stage] at hnears
    exact hnears.elim
  | giveUp stage missing nothing late =>
    rw [stage] at hnears
    exact hnears.elim
  | complete stage all =>
    rw [stage] at hnears
    exact hnears.elim
  | close stage =>
    rw [stage] at hnears
    exact hnears.elim

/-- The client goes on while the command submits. -/
theorem Nearing.goOn {client : Client.Moment} (h : Nearing s endpoint Left ending rs done m)
    (runs : m.Runs) : Nearing s endpoint Left ending rs done (m.goOn client) := by
  unfold Nearing at h ⊢
  cases hstage : m.stage with
  | ended ending => exact absurd hstage (runs ending)
  | submitting left =>
    rw [hstage] at h
    rw [Moment.goOn, hstage]
    exact h
  | waiting =>
    rw [hstage] at h
    exact h.elim
  | closing =>
    rw [hstage] at h
    exact h.elim

theorem Silent.step (h : Silent s c endpoint Left ending rs m)
    (course : Course s wait Left ending) (next : Step s endpoint wait m m') :
    Silent s c endpoint Left ending rs m' := by
  cases next with
  | moves next => exact h.moves course next
  | happens runs next =>
    obtain ⟨done, hsound, hnears, hsilent⟩ := h
    have hnext := (hsound.listening runs).happens hsound.calm next
    exact ⟨done, hsound.goOn runs (.happens next) hnext, hnears.goOn runs, hsilent⟩
  | answer runs goes =>
    obtain ⟨done, hsound, hnears, hsilent⟩ := h
    have hnext := (hsound.listening runs).answered goes
    exact ⟨done, hsound.goOn runs (.finish goes) hnext, hnears.goOn runs, hsilent⟩
  | expire stage early =>
    obtain ⟨done, -, hnears, -⟩ := h
    rw [Nearing, stage] at hnears
    exact hnears.elim

theorem Reachable.silent (course : Course s wait Left ending) (reads : Left raws payloads)
    (h : Reachable s endpoint wait c raws m) :
    Silent s c endpoint Left ending (requests s endpoint 0 payloads) m := by
  induction h with
  | initial => exact .initial reads
  | step before next ih => exact ih.step course next

/-! ## What holds until then -/

/-- A command that is over takes no step. -/
theorem Step.runs (next : Step s endpoint wait m m') : m.Runs := by
  cases next with
  | moves next => exact next.runs
  | happens runs next => exact runs
  | answer runs goes => exact runs
  | expire stage early => exact m.runs_of_waiting stage

/-- What holds at every moment of a command that comes to this end when it has submitted these
    requests. -/
structure CutOff (s : Surroundings) (endpoint : String) (wait : UInt64) (rs : List Request)
    (ending : Ending) (m : Moment) : Prop where
  /-- Whatever receipts arrive, none is printed. -/
  silent : m.stdout = []
  unprinted : m.channel.map Receipt.toJson = (delivered m.client.log).map Receipt.toJson
  /-- Nothing else is submitted. -/
  queued : queuedJobs m.client.log <+: (accepted rs).map Request.jobId
  /-- The command waits for nothing. -/
  goes : m.Runs → ∃ m', Moves s endpoint wait m m'
  /-- Every step leaves fewer moves to make, if it is one, and never more. -/
  ends : ∀ m', Step s endpoint wait m m' →
    m'.todo ≤ m.todo ∧ (Moves s endpoint wait m m' → m'.todo < m.todo)
  /-- A command that is over came to this end, and all that could be accepted was accepted.  Its
      client is destroyed, and nothing happens any more. -/
  ended : ∀ ending', m.stage = .ended ending' →
    ending' = ending ∧ m.stderr = refusals rs ∧
    queuedJobs m.client.log = (accepted rs).map Request.jobId ∧
    m.client.client.alive = false ∧ ∀ m', ¬ Step s endpoint wait m m'

theorem Silent.cutOff (h : Silent s c endpoint Left ending rs m) (wait : UInt64) :
    CutOff s endpoint wait rs ending m := by
  obtain ⟨done, hsound, hnears, hsilent⟩ := h
  unfold Nearing at hnears
  refine ⟨hsilent, ?_, ?_, fun runs => ?_, fun m' next => ⟨next.todo_le, Moves.todo_lt⟩, ?_⟩
  · simpa [hsilent] using hsound.sent
  · -- what was submitted are the first of the requests
    obtain ⟨left, rfl⟩ : ∃ left, rs = done ++ left := by
      split at hnears
      · obtain ⟨payloads, -, hrs⟩ := hnears
        exact ⟨_, hrs⟩
      · exact hnears.elim
      · exact hnears.elim
      · exact ⟨[], by rw [hnears.1, List.append_nil]⟩
    rw [hsound.queued, accepted_append, List.map_append]
    exact List.prefix_append _ _
  · rcases moves_or_waits s endpoint wait runs with hmove | ⟨hstage, -⟩
    · exact hmove
    · rw [hstage] at hnears
      exact hnears.elim
  · intro ending' hstage
    rw [hstage] at hnears
    obtain ⟨rfl, hending, hdead⟩ := hnears
    exact ⟨hending, hsound.stderr, hsound.queued, hdead, fun m' next => next.runs ending' hstage⟩

end TxRelay.Command
