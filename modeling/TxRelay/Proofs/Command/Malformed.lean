/-
  What the broadcast command does with a malformed argument.

  The arguments are read and submitted one after the other, so a malformed one ends the command when
  its turn comes.  What stands behind it is never submitted.  What stands before it is: the jobs
  that the client has accepted by then may be at their nodes already, or have their receipts, and
  none of these is printed.  So the command does nothing at all only if it would have accepted
  nothing before the malformed argument.

  1. **The first malformed argument.**  `BreaksOff` reads the arguments up to it.  If one is
     malformed there is a first one (`exists_breaksOff`), and there is one way to read up to it
     (`BreaksOff.unique`, `BreaksOff.split`).

  2. **The command at work.**  Arguments that break off are a course in the sense of the commands
     that end before they wait (`breaksOff_course`), so the invariant of those carries over:
     `Doomed` is the malformed argument ahead, or the command ended at it.

  3. **The command that runs.**  What stands before the malformed argument is submitted, and its
     receipts are there (`submitAll_breaksOff`); then the error is told.

  4. **All or nothing.**  `malformed_argument` puts the two together, and `lost_transaction` is a
     command line at which a transaction is sent and nothing is said of it.

  The crux is the order of reading and submitting.  A command that read all of its arguments first
  would refuse them all or none; here the payloads before the malformed argument have left the
  command for good when it is read.
-/
import TxRelay.Proofs.Command.CutOff

namespace TxRelay.Command

open Client (Awaits queuedJobs delivered replies)

/-! ## The first malformed argument -/

/-- These arguments are read up to a malformed one: the payloads before it, and what is wrong with
    it. -/
inductive BreaksOff : List String → List Bytes → Hex.Error → Prop where
  | here {raw : String} {left : List String} {e : Hex.Error}
      (bad : Hex.decode (Text.trim raw) = .error e) : BreaksOff (raw :: left) [] e
  | later {raw : String} {left : List String} {rawTx : Bytes} {payloads : List Bytes}
      {e : Hex.Error} (hex : Hex.decode (Text.trim raw) = .ok rawTx)
      (more : BreaksOff left payloads e) : BreaksOff (raw :: left) (rawTx :: payloads) e

/-- One of the arguments is malformed, so there is a first one. -/
theorem exists_breaksOff {raws : List String}
    (malformed : ∃ raw ∈ raws, ∃ e, Hex.decode (Text.trim raw) = .error e) :
    ∃ payloads e, BreaksOff raws payloads e := by
  induction raws with
  | nil =>
    obtain ⟨raw, hraw, -⟩ := malformed
    cases hraw
  | cons first left ih =>
    cases hfirst : Hex.decode (Text.trim first) with
    | error e => exact ⟨[], e, .here hfirst⟩
    | ok rawTx =>
      obtain ⟨raw, hraw, e, hbad⟩ := malformed
      rcases List.mem_cons.mp hraw with rfl | hleft
      · cases hfirst.symm.trans hbad
      · obtain ⟨payloads, e, hmore⟩ := ih ⟨raw, hleft, e, hbad⟩
        exact ⟨rawTx :: payloads, e, .later hfirst hmore⟩

/-- They are read in one way. -/
theorem BreaksOff.unique {raws : List String} {payloads payloads' : List Bytes}
    {e e' : Hex.Error} (h : BreaksOff raws payloads e) (h' : BreaksOff raws payloads' e') :
    payloads = payloads' ∧ e = e' := by
  induction h generalizing payloads' with
  | here bad =>
    cases h' with
    | here bad' => exact ⟨rfl, Except.error.inj (bad.symm.trans bad')⟩
    | later hex more => cases bad.symm.trans hex
  | later hex more ih =>
    cases h' with
    | here bad => cases hex.symm.trans bad
    | later hex' more' =>
      obtain ⟨rfl, rfl⟩ := ih more'
      exact ⟨congrArg (· :: _) (Except.ok.inj (hex.symm.trans hex')), rfl⟩

/-- What stands before the malformed argument, the argument itself, and what stands behind it. -/
theorem BreaksOff.split {raws : List String} {payloads : List Bytes} {e : Hex.Error}
    (h : BreaksOff raws payloads e) : ∃ read raw left, raws = read ++ raw :: left ∧
      read.map (fun raw => Hex.decode (Text.trim raw)) = payloads.map .ok ∧
      Hex.decode (Text.trim raw) = .error e := by
  induction h with
  | @here raw left e bad => exact ⟨[], raw, left, rfl, rfl, bad⟩
  | @later first _ _ _ _ hex more ih =>
    obtain ⟨read, raw, left, rfl, hread, bad⟩ := ih
    refine ⟨first :: read, raw, left, rfl, ?_, bad⟩
    rw [List.map_cons, List.map_cons, hex, hread]

variable {s : Surroundings} {c : Config} {endpoint : String} {wait : UInt64} {b : Submitting}
  {n : Rpc.Network} {rs done : List Request} {e : Hex.Error} {raws : List String}
  {payloads : List Bytes} {m m' : Moment}

/-! ## The command at work -/

/-- How far the command has come: the malformed argument is ahead, or the command ended at it. -/
def Nears (s : Surroundings) (endpoint : String) (rs done : List Request) (e : Hex.Error)
    (m : Moment) : Prop :=
  match m.stage with
  | .submitting left => ∃ payloads,
      BreaksOff left payloads e ∧ rs = done ++ requests s endpoint m.index payloads
  | .waiting | .closing => False
  | .ended ending =>
      rs = done ∧ ending = .failed e.debugForm ∧ m.client.client.alive = false

/-- The command submits what stands before the malformed argument, and prints nothing. -/
def Doomed (s : Surroundings) (c : Config) (endpoint : String) (rs : List Request)
    (e : Hex.Error) (m : Moment) : Prop :=
  ∃ done, Sound s c done m ∧ Nears s endpoint rs done e m ∧ m.stdout = []

theorem doomed_iff : Doomed s c endpoint rs e m ↔
    Silent s c endpoint (fun left payloads => BreaksOff left payloads e) (.failed e.debugForm) rs
      m := by
  unfold Doomed Silent Nears Nearing
  cases m.stage <;> rfl

/-- Arguments that break off end the command at the malformed one, and it never waits. -/
theorem breaksOff_course (s : Surroundings) (wait : UInt64) (e : Hex.Error) :
    Course s wait (fun left payloads => BreaksOff left payloads e) (.failed e.debugForm) where
  submit := by
    intro raw left payloads hleft
    cases hleft with
    | here bad => exact Or.inl ⟨e, bad, rfl, rfl⟩
    | later hex more => exact Or.inr ⟨_, _, hex, rfl, more⟩
  await := by
    intro payloads hleft
    cases hleft

theorem Reachable.doomed (breaks : BreaksOff raws payloads e)
    (h : Reachable s endpoint wait c raws m) :
    Doomed s c endpoint (requests s endpoint 0 payloads) e m :=
  doomed_iff.mpr (h.silent (breaksOff_course s wait e) breaks)

/-- What holds at every moment of a command whose arguments break off behind these requests. -/
structure BrokenOff (s : Surroundings) (endpoint : String) (wait : UInt64) (rs : List Request)
    (e : Hex.Error) (m : Moment) : Prop where
  /-- Whatever receipts arrive, none is printed. -/
  silent : m.stdout = []
  unprinted : m.channel.map Receipt.toJson = (delivered m.client.log).map Receipt.toJson
  /-- Nothing behind the malformed argument is submitted. -/
  queued : queuedJobs m.client.log <+: (accepted rs).map Request.jobId
  /-- The command waits for nothing. -/
  goes : m.Runs → ∃ m', Moves s endpoint wait m m'
  /-- Every step leaves fewer moves to make, if it is one, and never more. -/
  ends : ∀ m', Step s endpoint wait m m' →
    m'.todo ≤ m.todo ∧ (Moves s endpoint wait m m' → m'.todo < m.todo)
  /-- A command that is over failed at the malformed argument, and all that could be accepted before
      it was accepted.  Its client is destroyed, and nothing happens any more. -/
  ended : ∀ ending, m.stage = .ended ending →
    ending = .failed e.debugForm ∧ m.stderr = refusals rs ∧
    queuedJobs m.client.log = (accepted rs).map Request.jobId ∧
    m.client.client.alive = false ∧ ∀ m', ¬ Step s endpoint wait m m'

theorem Doomed.brokenOff (h : Doomed s c endpoint rs e m) (wait : UInt64) :
    BrokenOff s endpoint wait rs e m := by
  obtain ⟨silent, unprinted, queued, goes, ends, ended⟩ := (doomed_iff.mp h).cutOff wait
  exact ⟨silent, unprinted, queued, goes, ends, ended⟩

/-! ## The command that runs -/

/-- What stands before the malformed argument is submitted, and its receipts are there. -/
theorem submitAll_breaksOff (h : Awaits "receipts" b.client [] n)
    (breaks : BreaksOff raws payloads e) (s : Surroundings) (endpoint : String) (i : Nat) :
    let rs := requests s endpoint i payloads
    ∃ after, Submitting.submitAll s endpoint i raws b = (.error e, after) ∧
      after.rejections = b.rejections ++ refusals rs ∧
      after.receipts = b.receipts ++ (replies n (accepted rs)).1 ∧
      Awaits "receipts" after.client [] (replies n (accepted rs)).2 := by
  obtain ⟨read, raw, left, rfl, hex, bad⟩ := breaks.split
  obtain ⟨after, hall, hrejections, hreceipts, hafter⟩ :=
    submitAll_prefix h hex s endpoint i (raw :: left)
  refine ⟨after, ?_, hrejections, hreceipts, hafter⟩
  rw [hall, Submitting.submitAll, bad]

/-! ## All or nothing -/

/-- **A malformed argument.**  One of the arguments is no valid hex.  Then the command gets to the
    first such argument and fails there, whatever the client and the nodes do meanwhile.  What
    stands before it has been submitted, as in a command without malformed arguments, and what was
    not refused has been accepted; no receipt of it is printed.

    So it may not be said that such a command does all or nothing: it has accepted nothing exactly
    if nothing before the malformed argument could be accepted.

    The command that runs exits with 1 and prints nothing but errors, and its nodes were asked to
    broadcast all that was accepted. -/
theorem malformed_argument (s : Surroundings) (c : Config) (raws : List String)
    (malformed : ∃ raw ∈ raws, ∃ e, Hex.decode (Text.trim raw) = .error e)
    (endpoint : Option String) (wait : UInt64) :
    let endpoint' := endpoint.getD c.network.defaultEndpoint
    let effect := run s c (.broadcast raws endpoint wait)
    ∃ payloads e, BreaksOff raws payloads e ∧
      let rs := requests s endpoint' 0 payloads
      (∀ m, Reachable s endpoint' wait c raws m → BrokenOff s endpoint' wait rs e m) ∧
      ((∀ m, Reachable s endpoint' wait c raws m → queuedJobs m.client.log = []) ↔
        ∀ r ∈ rs, ¬ Engine.Acceptable validateEnvelope r) ∧
      effect.exitCode = 1 ∧
      effect.stdout = [] ∧
      effect.errorLines = refusals rs ++ ["Error: " ++ e.debugForm] ∧
      effect.client.map (·.network) = some (.nodes (replies (nodesOf s c) (accepted rs)).2) ∧
      ∃ m, Reachable s endpoint' wait c raws m ∧ m.stage = .ended effect.ending ∧
        m.stdout = effect.stdout ∧ m.stderr = effect.stderr := by
  intro endpoint' effect
  obtain ⟨payloads, e, hbreaks⟩ := exists_breaksOff malformed
  refine ⟨payloads, e, hbreaks, ?_⟩
  intro rs
  have hbroken : ∀ m, Reachable s endpoint' wait c raws m → BrokenOff s endpoint' wait rs e m :=
    fun m h => (h.doomed hbreaks).brokenOff wait
  have hbegin : Awaits "receipts" (listening s c).client [] (nodesOf s c) := by
    rw [listening_eq s c raws]
    exact initial_awaits s c raws
  obtain ⟨after, hall, hrejections, -, hafter⟩ := submitAll_breaksOff hbegin hbreaks s endpoint' 0
  have heffect : effect =
      { stderr := refusals rs, ending := .failed e.debugForm,
        client := some after.client.destroy.2 } := by
    have hrun : effect = runBroadcast s c raws endpoint wait := rfl
    rw [runBroadcast, hall] at hrun
    dsimp only at hrun
    rw [hrun, hrejections, listening_eq s c raws]
    rfl
  have hrun : ∃ m, Reachable s endpoint' wait c raws m ∧ m.stage = .ended effect.ending ∧
      m.stdout = effect.stdout ∧ m.stderr = effect.stderr :=
    runBroadcast_reachable s c raws endpoint wait
  -- the client has accepted nothing exactly if nothing could be accepted
  have hnothing : accepted rs = [] ↔ ∀ r ∈ rs, ¬ Engine.Acceptable validateEnvelope r := by
    rw [List.eq_nil_iff_forall_not_mem]
    simp only [mem_accepted, not_and]
  refine ⟨hbroken, ⟨fun hnone => ?_, fun hnone m h => ?_⟩, ?_, ?_, ?_, ?_, hrun⟩
  · -- at the end of the run that there is, all that is acceptable was accepted
    obtain ⟨m, hm, hstage, -⟩ := hrun
    obtain ⟨-, -, hqueued, -⟩ := (hbroken m hm).ended _ hstage
    rw [hnone m hm] at hqueued
    exact hnothing.mp (List.map_eq_nil_iff.mp hqueued.symm)
  · have hqueued := (hbroken m h).queued
    rw [hnothing.mpr hnone] at hqueued
    exact List.prefix_nil.mp hqueued
  · rw [heffect]
    rfl
  · rw [heffect]
  · rw [heffect]
    rfl
  · rw [heffect]
    simp [Client.destroy, hafter.listening.alive, hafter.network, rs]

/-- Of three arguments the second is malformed, and the first is no transaction. -/
theorem malformed_argument_second :
    let raws := ["02", "zz", "c98080808080801b0101"]
    let effect := run offline {} (.broadcast raws (some "http://[::1]:8545") 120)
    effect.exitCode = 1 ∧ effect.stdout = [] ∧
    effect.errorLines =
      ["job first rejected: rejected by network: Invalid transaction payload: input too short",
        "Error: InvalidHexCharacter \x7b c: 'z', index: 0 \x7d"] ∧
    ∀ m, Reachable offline "http://[::1]:8545" 120 {} raws m → queuedJobs m.client.log = [] := by
  intro raws effect
  obtain ⟨payloads, e, hbreaks, -, hnothing, hexit, hstdout, herrors, -⟩ :=
    malformed_argument offline {} raws
      ⟨"zz", by decide, .invalidCharacter 0x7a 0, by decide +kernel⟩
      (some "http://[::1]:8545") 120
  have hsecond : BreaksOff raws [[2]] (.invalidCharacter 0x7a 0) :=
    .later (by decide +kernel) (.here (by decide +kernel))
  obtain ⟨rfl, rfl⟩ := hbreaks.unique hsecond
  refine ⟨hexit, hstdout, herrors.trans (by decide +kernel), hnothing.mpr ?_⟩
  have hrefused : accepted (requests offline "http://[::1]:8545" 0 [[2]]) = [] := by
    decide +kernel
  intro r hr hacceptable
  exact List.not_mem_nil (hrefused ▸ mem_accepted.mpr ⟨hr, hacceptable⟩)

/-! ### What was accepted before -/

/-- A node that acknowledges every transaction and then cannot be reached. -/
def acknowledging : Surroundings :=
  { offline with
    node := fun _ call =>
      match call.question with
      | .send _ =>
        .result (.string "0x2a2a2a2a2a2a2a2a2a2a2a2a2a2a2a2a2a2a2a2a2a2a2a2a2a2a2a2a2a2a2a2a")
      | _ => .unreachable }

/-- A transaction stands before the malformed argument.  It is accepted and sent to the node, and
    the callback has its receipt; the command fails and prints nothing. -/
theorem lost_transaction :
    let raws := ["c98080808080801b0101", "zz"]
    let effect := run acknowledging {} (.broadcast raws (some "http://[::1]:8545") 120)
    effect.exitCode = 1 ∧ effect.stdout = [] ∧
    effect.errorLines = ["Error: InvalidHexCharacter \x7b c: 'z', index: 0 \x7d"] ∧
    (effect.client.map fun c => c.engine.tally.stats) = some
      { submitted := 1, completed := 1, delivered := 1 } ∧
    (effect.client.map fun c => c.network.reported.map (·.question)) =
      some [.send [0xc9, 0x80, 0x80, 0x80, 0x80, 0x80, 0x80, 0x1b, 1, 1]] := by
  decide +kernel

end TxRelay.Command
