/-
  The broadcast command that runs, against the command at work.

  The command that runs lets its client come to rest after each call, so every accepted argument has
  its receipt before the next one is submitted, and the receipts that arrive in time are the first
  of them.  The command at work takes its steps beside its client.  The first is one run of the
  second, so what holds of every run holds of what is printed.

  1. **The command that runs.**  After a submission its client is at rest: a refusal is told, or a
     receipt is there (`submit_awaits`).  With all arguments well-formed it gets to the end of them
     (`submitAll_awaits`), and a malformed one stops it behind what stands before
     (`submitAll_prefix`).

  2. **Steps one after the other.**  In the command at work the nodes can be let answer one by one
     (`hear_path`, `hears_path`), and the lines be printed one by one (`print_path`).

  3. **The run.**  The nodes keep all jobs until the last argument was submitted, answer for as many
     as arrive in time, and answer no more before the time is over.  `Alike` relates the two
     commands on the way: what the one has received by then, the other has under way.

  4. **The end.**  What the command that runs prints, and how it ends, is what this run comes to
     (`runBroadcast_reachable`).

  The crux is that the two do the same work at different times.  When an argument is submitted, the
  command that runs hears its node at once, and the other does not; so a state of the one is no
  state of the other until the waiting begins.  `Alike` says what each has, not that they are equal,
  and `Alike.finish` closes the gap: the answers that were kept back are the receipts that are there
  already.

  `broadcast_output` then says all that is said of the output, of the command that runs and of every
  run of the command at work.
-/
import Mathlib.Logic.Relation
import TxRelay.Proofs.Command.Output

namespace TxRelay.Command

open Relation (ReflTransGen)
open Client (Listening Awaits replies delivered)

variable {s : Surroundings} {c : Config} {endpoint : String} {wait : UInt64} {b : Submitting}
  {n : Rpc.Network} {m m' : Moment} {jobs : List Job}

/-! ## The command that runs -/

/-- A submission is a call, after which the client comes to rest. -/
theorem submit_eq (rawTx : Bytes) (jobId : JobId) :
    let call := b.client.perform (.broadcast rawTx (some endpoint) jobId)
    let rest := Client.settle Client.patience call.2
    let after : Submitting :=
      { b with client := rest.2, receipts := b.receipts ++ rest.1.map (·.receipt) }
    b.submit endpoint rawTx jobId =
      match call.1 with
      | .failed e => { after with rejections := b.rejections ++ [e.message] }
      | _ => after := by
  intro call rest after
  have hcall : b.call (.broadcast rawTx (some endpoint) jobId) = (call.1, after) := rfl
  rw [Submitting.submit, hcall]
  cases call.1 <;> rfl

/-- After a submission the client comes to rest: a refusal is told, or a receipt is there. -/
theorem submit_awaits (h : Awaits "receipts" b.client [] n) (endpoint : String) (rawTx : Bytes)
    (jobId : JobId) :
    let rs : List Request := [⟨rawTx, endpoint, jobId⟩]
    let after := b.submit endpoint rawTx jobId
    after.rejections = b.rejections ++ refusals rs ∧
    after.receipts = b.receipts ++ (replies n (accepted rs)).1 ∧
    Awaits "receipts" after.client [] (replies n (accepted rs)).2 := by
  intro rs after
  have hafter : after = _ := submit_eq rawTx jobId
  obtain ⟨hlistening, hnetwork, hreceipts, hcases⟩ := h.listening.submit rawTx endpoint jobId
  have hnone := hreceipts.trans h.receipts
  have hnodes := hnetwork.trans h.network
  rcases hcases with ⟨e, hcheck, hanswer, hjobs⟩ | ⟨hcheck, hanswer, hjobs⟩
  · have hrest : Awaits "receipts" _ [] n := ⟨hlistening, hjobs.trans h.jobs, hnone, hnodes⟩
    rw [hanswer, hrest.settle_nil] at hafter
    rw [hafter, accepted_of_error hcheck, refusals_of_error hcheck]
    exact ⟨rfl, rfl, hrest⟩
  · rw [h.jobs, List.nil_append] at hjobs
    have hasked : Awaits "receipts" _ [_] n := ⟨hlistening, hjobs, hnone, hnodes⟩
    have hsettle : Client.settle Client.patience _ = _ := hasked.settle_one 9998
    rw [hanswer, hsettle] at hafter
    rw [hafter, accepted_of_ok hcheck, refusals_of_ok hcheck]
    exact ⟨(List.append_nil _).symm, rfl, (hasked.heard _ _).2.2⟩

/-- The client is at rest before the first submission. -/
theorem listening_eq (s : Surroundings) (c : Config) (raws : List String) :
    listening s c = { client := (Moment.initial s c raws).client.client } := by
  have hrest := (initial_awaits s c raws).settle_nil Client.patience
  have hset : ({ client := clientOf s c } : Submitting).call
      (.setCallback "receipts" (fun _ => []) fun _ => false) =
        (.set, { client := ((clientOf s c).perform
          (.setCallback "receipts" (fun _ => []) fun _ => false)).2 }) := rfl
  have hstart : (({ client := ((clientOf s c).perform
      (.setCallback "receipts" (fun _ => []) fun _ => false)).2 } : Submitting).call .start).2 =
        { client := (Client.settle Client.patience (Moment.initial s c raws).client.client).2,
          receipts :=
            (Client.settle Client.patience (Moment.initial s c raws).client.client).1.map
              (·.receipt) } := rfl
  rw [listening, hset]
  dsimp only
  rw [hstart, hrest]
  rfl

/-- Well-formed arguments are submitted one after the other, whatever stands behind them, and the
    receipts of the accepted ones are there. -/
theorem submitAll_prefix {read : List String} {payloads : List Bytes}
    (h : Awaits "receipts" b.client [] n)
    (hex : read.map (fun raw => Hex.decode (Text.trim raw)) = payloads.map .ok)
    (s : Surroundings) (endpoint : String) (i : Nat) (left : List String) :
    let rs := requests s endpoint i payloads
    ∃ after, Submitting.submitAll s endpoint i (read ++ left) b =
        Submitting.submitAll s endpoint (i + read.length) left after ∧
      after.rejections = b.rejections ++ refusals rs ∧
      after.receipts = b.receipts ++ (replies n (accepted rs)).1 ∧
      Awaits "receipts" after.client [] (replies n (accepted rs)).2 := by
  induction read generalizing payloads b n i with
  | nil =>
    obtain rfl : payloads = [] := by simpa using hex.symm
    exact ⟨b, rfl, (List.append_nil _).symm, (List.append_nil _).symm, h⟩
  | cons raw read ih =>
    cases payloads with
    | nil => cases hex
    | cons rawTx payloads =>
      obtain ⟨hone, hrest⟩ := List.cons.inj hex
      obtain ⟨hrejections, hreceipts, hafter⟩ :=
        submit_awaits h endpoint rawTx (s.freshId i)
      -- the rest is submitted with nodes that have answered for the first
      obtain ⟨after, hall, hrejections', hreceipts', hafter'⟩ := ih hafter hrest (i + 1)
      have hrs : requests s endpoint i (rawTx :: payloads) =
          [⟨rawTx, endpoint, s.freshId i⟩] ++ requests s endpoint (i + 1) payloads := rfl
      refine ⟨after, ?_, ?_, ?_, ?_⟩
      · have hdecode : Hex.decode (Text.trim raw) = .ok rawTx := hone
        rw [List.cons_append, Submitting.submitAll, hdecode, List.length_cons,
          Nat.add_comm read.length, ← Nat.add_assoc]
        exact hall
      · rw [hrejections', hrejections, hrs, refusals_append, List.append_assoc]
      · rw [hreceipts', hreceipts, hrs, accepted_append, Client.replies_append, List.append_assoc]
      · rw [hrs, accepted_append, Client.replies_append]
        exact hafter'

/-- All arguments are submitted, if none is malformed. -/
theorem submitAll_awaits {raws : List String} {payloads : List Bytes}
    (h : Awaits "receipts" b.client [] n)
    (hex : raws.map (fun raw => Hex.decode (Text.trim raw)) = payloads.map .ok)
    (s : Surroundings) (endpoint : String) (i : Nat) :
    let rs := requests s endpoint i payloads
    ∃ after, Submitting.submitAll s endpoint i raws b = (.ok (), after) ∧
      after.rejections = b.rejections ++ refusals rs ∧
      after.receipts = b.receipts ++ (replies n (accepted rs)).1 := by
  obtain ⟨after, hall, hrejections, hreceipts, -⟩ := submitAll_prefix h hex s endpoint i []
  rw [List.append_nil] at hall
  exact ⟨after, hall, hrejections, hreceipts⟩

/-! ## One run of the command at work -/

section

variable (s : Surroundings) (endpoint : String) (wait : UInt64)

/-- Steps one after the other. -/
abbrev Path : Moment → Moment → Prop := ReflTransGen (Step s endpoint wait)

end

theorem Reachable.path {raws : List String} (h : Reachable s endpoint wait c raws m)
    (path : Path s endpoint wait m m') : Reachable s endpoint wait c raws m' := by
  induction path with
  | refl => exact h
  | tail _ next ih => exact ih.step next

/-- The callback got nothing. -/
theorem goOn_silent {client : Client.Moment}
    (silent : delivered client.log = delivered m.client.log) :
    m.goOn client = { m with client := client } := by
  rw [Moment.goOn, silent, List.drop_length, List.append_nil]

/-- The callback got this receipt. -/
theorem goOn_sends {client : Client.Moment} {r : Receipt}
    (sends : delivered client.log = delivered m.client.log ++ [r]) :
    m.goOn client = { m with client := client, channel := m.channel ++ [r] } := by
  rw [Moment.goOn, sends, List.drop_left]

/-- The node answers for the oldest job, and the callback sends its receipt. -/
theorem hear_path (s : Surroundings) (endpoint : String) (wait : UInt64) {job : Job}
    {rest : List Job} (runs : m.Runs)
    (h : Awaits "receipts" m.client.client (job :: rest) n) (idle : m.client.busy = none) :
    let reply := n.broadcast job.request.rawTx job.request.endpoint
    ∃ client, Awaits "receipts" client.client rest reply.2 ∧ client.busy = none ∧
      Path s endpoint wait m
        { m with
          client := client
          channel := m.channel ++ [Receipt.ofOutcome job.request.jobId reply.1] } := by
  intro reply
  let r := Receipt.ofOutcome job.request.jobId reply.1
  obtain ⟨hreceipts, hlistening, hafter⟩ := h.heard reply.1 reply.2
  let heard : Client.Moment := m.client.hear (.nodes reply.2) job.number reply.1
  have hheard : heard.client = m.client.client.heard job reply.1 reply.2 := by
    simp [heard, Client.Moment.hear, Client.heard,
      Engine.finish_head h.listening.whole.alone reply.1 h.jobs]
  rw [← hheard] at hreceipts hlistening hafter
  let begun : Client.Moment :=
    { heard with client := heard.client.taken [] }.begin (Client.listener "receipts") r
  let rested : Client.Moment := { begun with busy := none }
  -- three steps: the broadcast ends, the callback begins, the callback is over
  have hhear : Step s endpoint wait m { m with client := heard } := by
    have hsilent : delivered heard.log = delivered m.client.log := by
      simp [heard, Client.Moment.hear]
    rw [← goOn_silent hsilent]
    exact .happens runs (.hear h.jobs (by rw [h.network]; rfl))
  have hbegin : Step s endpoint wait { m with client := heard }
      { m with client := begun, channel := m.channel ++ [r] } := by
    have hsends : delivered begun.log = delivered heard.log ++ [r] := by
      simp [begun, Client.Moment.begin]
    rw [← goOn_sends (m := { m with client := heard }) hsends]
    exact .happens runs (.begin idle hlistening.runs (hlistening.round_takes hreceipts)
      hafter.listening.callback)
  have hrested : Step s endpoint wait { m with client := begun, channel := m.channel ++ [r] }
      { m with client := rested, channel := m.channel ++ [r] } := by
    have hsilent : delivered rested.log = delivered begun.log := rfl
    rw [← goOn_silent (m := { m with client := begun, channel := m.channel ++ [r] }) hsilent]
    exact .happens runs (@Client.Happens.return begun false rfl)
  exact ⟨rested, hafter, rfl, ((ReflTransGen.single hhear).tail hbegin).tail hrested⟩

/-- The nodes answer for so many of the oldest jobs, and the callback sends their receipts. -/
theorem hears_path (s : Surroundings) (endpoint : String) (wait : UInt64) (runs : m.Runs)
    (h : Awaits "receipts" m.client.client jobs n) (idle : m.client.busy = none) (k : Nat) :
    ∃ client, Listening "receipts" client.client ∧
      Path s endpoint wait m
        { m with
          client := client
          channel := m.channel ++ (replies n (jobs.map Job.request)).1.take k } := by
  -- on the jobs, each of which takes one of the `k` answers
  induction jobs generalizing m n k with
  | nil =>
    refine ⟨m.client, h.listening, ?_⟩
    rw [List.map_nil, replies, List.take_nil, List.append_nil]
  | cons job rest ih =>
    cases k with
    | zero =>
      refine ⟨m.client, h.listening, ?_⟩
      rw [List.take_zero, List.append_nil]
    | succ k =>
      obtain ⟨client, hawaits, hidle, hfirst⟩ :=
        hear_path s endpoint wait runs h idle
      obtain ⟨client', hlistening, hothers⟩ := ih (m := { m with
        client := client
        channel := m.channel ++ [Receipt.ofOutcome job.request.jobId
          (n.broadcast job.request.rawTx job.request.endpoint).1] }) runs hawaits hidle k
      refine ⟨client', hlistening, hfirst.trans ?_⟩
      rw [List.append_assoc] at hothers
      exact hothers

/-- The receipts in the channel are printed, if so many lines are missing. -/
theorem print_path (stage : m.stage = .waiting)
    (missing : m.stdout.length + m.channel.length ≤ m.expected) :
    Path s endpoint wait m
      { m with channel := [], stdout := m.stdout ++ m.channel.map Receipt.toJson } := by
  obtain ⟨channel, hchannel⟩ : ∃ channel, m.channel = channel := ⟨_, rfl⟩
  induction channel generalizing m with
  | nil =>
    rw [hchannel, List.map_nil, List.append_nil, ← hchannel]
  | cons r rest ih =>
    rw [hchannel, List.length_cons] at missing
    have hprint : Step s endpoint wait m (m.print r rest) :=
      .moves (.print stage (by omega) hchannel)
    have hothers := ih (m := m.print r rest) stage
      (by simp only [Moment.print, List.length_append, List.length_singleton]; omega) rfl
    refine (ReflTransGen.single hprint).trans ?_
    rw [hchannel, List.map_cons]
    simpa [Moment.print] using hothers

/-- The command that runs and the command at work after the same submissions: what the one has
    heard, the other still waits for. -/
structure Alike (n : Rpc.Network) (b : Submitting) (m : Moment) (jobs : List Job) : Prop where
  rested : Awaits "receipts" b.client [] (replies n (jobs.map Job.request)).2
  awaits : Awaits "receipts" m.client.client jobs n
  idle : m.client.busy = none
  receipts : b.receipts = (replies n (jobs.map Job.request)).1
  rejections : b.rejections = m.stderr
  expected : m.expected = jobs.length
  channel : m.channel = []
  stdout : m.stdout = []
  early : m.inTime = none

/-- Both submit one more. -/
theorem Alike.submit {raw : String} {rawTx : Bytes} (h : Alike n b m jobs)
    (hex : Hex.decode (Text.trim raw) = .ok rawTx) (s : Surroundings) (endpoint : String)
    (left : List String) :
    (m.submit s endpoint raw left).stage = .submitting left ∧
    (m.submit s endpoint raw left).index = m.index + 1 ∧
    ∃ jobs', Alike n (b.submit endpoint rawTx (s.freshId m.index)) (m.submit s endpoint raw left)
      jobs' := by
  obtain ⟨hrejections, hreceipts, hrested⟩ :=
    submit_awaits h.rested endpoint rawTx (s.freshId m.index)
  obtain ⟨hlistening, hnetwork, hnone, hcases⟩ :=
    h.awaits.listening.submit rawTx endpoint (s.freshId m.index)
  rcases hcases with ⟨e, hcheck, hanswer, hjobs⟩ | ⟨hcheck, hanswer, hjobs⟩
  · rw [accepted_of_error hcheck] at hreceipts hrested
    rw [refusals_of_error hcheck, h.rejections] at hrejections
    -- refused: no job, and no reply of the nodes
    rw [submit_refused hex hanswer]
    refine ⟨rfl, rfl, jobs, hrested, ⟨hlistening, ?_, ?_, ?_⟩, h.idle, ?_, hrejections, h.expected,
      h.channel, h.stdout, h.early⟩
    · exact hjobs.trans h.awaits.jobs
    · exact hnone.trans h.awaits.receipts
    · exact hnetwork.trans h.awaits.network
    · exact hreceipts.trans ((List.append_nil _).trans h.receipts)
  · rw [accepted_of_ok hcheck] at hreceipts hrested
    rw [refusals_of_ok hcheck, List.append_nil, h.rejections] at hrejections
    rw [h.awaits.jobs] at hjobs
    rw [submit_accepted hex hanswer]
    refine ⟨rfl, rfl, _, ?_, ⟨hlistening, hjobs, ?_, ?_⟩, h.idle, ?_, hrejections, ?_, h.channel,
      h.stdout, h.early⟩
    · rw [List.map_append, Client.replies_append]
      exact hrested
    · exact hnone.trans h.awaits.receipts
    · exact hnetwork.trans h.awaits.network
    · rw [List.map_append, Client.replies_append, ← h.receipts]
      exact hreceipts
    · simp [h.expected]

/-- Both submit until an argument is malformed. -/
theorem Alike.submitAll {raws : List String} (h : Alike n b m jobs)
    (stage : m.stage = .submitting raws) (s : Surroundings) (endpoint : String) (wait : UInt64) :
    let result := Submitting.submitAll s endpoint m.index raws b
    (∃ e m', result.1 = .error e ∧ Path s endpoint wait m m' ∧
      m'.stage = .ended (.failed e.debugForm) ∧ m'.stderr = result.2.rejections ∧ m'.stdout = []) ∨
    ∃ m' jobs', result.1 = .ok () ∧ Path s endpoint wait m m' ∧ m'.stage = .submitting [] ∧
      Alike n result.2 m' jobs' := by
  induction raws generalizing b m jobs with
  | nil => exact Or.inr ⟨m, jobs, rfl, .refl, stage, h⟩
  | cons raw left ih =>
    have hmove : Step s endpoint wait m (m.submit s endpoint raw left) := .moves (.submit stage)
    cases hex : Hex.decode (Text.trim raw) with
    | error e =>
      -- a malformed argument ends both
      have hended : m.submit s endpoint raw left = m.finish (.failed e.debugForm) := by
        rw [Moment.submit, hex]
      have hresult : Submitting.submitAll s endpoint m.index (raw :: left) b = (.error e, b) := by
        rw [Submitting.submitAll, hex]
      rw [hresult]
      refine Or.inl ⟨e, _, rfl, .single hmove, ?_, ?_, ?_⟩
      · rw [hended]
        rfl
      · rw [hended]
        exact h.rejections.symm
      · rw [hended]
        exact h.stdout
    | ok rawTx =>
      obtain ⟨hstage, hindex, jobs', hafter⟩ := h.submit hex s endpoint left
      have hresult : Submitting.submitAll s endpoint m.index (raw :: left) b =
          Submitting.submitAll s endpoint (m.submit s endpoint raw left).index left
            (b.submit endpoint rawTx (s.freshId m.index)) := by
        rw [Submitting.submitAll, hex, hindex]
      rw [hresult]
      rcases ih hafter hstage with ⟨e, m', herror, hpath, hrest⟩ | ⟨m', jobs'', hok, hpath, hrest⟩
      · exact Or.inl ⟨e, m', herror, .head hmove hpath, hrest⟩
      · exact Or.inr ⟨m', jobs'', hok, .head hmove hpath, hrest⟩

/-- With everything submitted, so many receipts arrive in time, and the command ends. -/
theorem Alike.finish (h : Alike n b m jobs) (stage : m.stage = .waiting) (s : Surroundings)
    (endpoint : String) (wait : UInt64) (k : Nat) :
    ∃ m', Path s endpoint wait m m' ∧ m'.stage = .ended .done ∧
      m'.stdout = (b.receipts.take k).map Receipt.toJson ∧ m'.stderr = b.rejections := by
  have hruns : m.Runs := m.runs_of_waiting stage
  obtain ⟨client, hlistening, harrive⟩ := hears_path s endpoint wait hruns h.awaits h.idle k
  rw [← h.receipts, h.channel, List.nil_append] at harrive
  have hcount : b.receipts.length = m.expected := by
    rw [h.receipts, Client.length_replies, List.length_map, h.expected]
  let arrived : Moment := { m with client := client, channel := b.receipts.take k }
  have hprint := @print_path s endpoint wait arrived stage (by
    show m.stdout.length + (b.receipts.take k).length ≤ m.expected
    rw [h.stdout, List.length_nil, List.length_take]
    omega)
  let printed : Moment := { arrived with
    channel := [], stdout := m.stdout ++ (b.receipts.take k).map Receipt.toJson }
  -- either no line is missing, or the time is over first
  have hclosing : ∃ m', Path s endpoint wait printed m' ∧ m'.stage = .closing ∧
      m'.client = client ∧ m'.stdout = printed.stdout ∧ m'.stderr = m.stderr := by
    by_cases hall : m.expected ≤ printed.stdout.length
    · exact ⟨_, .single (.moves (.complete stage hall)), rfl, rfl, rfl, rfl⟩
    · have hexpire : Step s endpoint wait printed printed.expire := .expire stage h.early
      have hgiveUp : Moves s endpoint wait printed.expire _ :=
        .giveUp stage (Nat.lt_of_not_le hall) rfl (by simp [Moment.expire])
      exact ⟨_, (ReflTransGen.single hexpire).tail (.moves hgiveUp), rfl, rfl, rfl, rfl⟩
  obtain ⟨m', hpath, hstage, hclient, hstdout, hstderr⟩ := hclosing
  have hclose := close_eq (hclient ▸ hlistening)
  refine ⟨m'.close, ((harrive.trans hprint).trans hpath).tail (.moves (.close hstage)), ?_, ?_, ?_⟩
  · rw [hclose]
  · rw [hclose]
    show m'.stdout = _
    rw [hstdout]
    show m.stdout ++ _ = _
    rw [h.stdout, List.nil_append]
  · rw [hclose]
    show m'.stderr = _
    rw [hstderr, h.rejections]

/-- What the command that runs prints, and how it ends, is what one run of the command at work
    prints, and how that ends. -/
theorem runBroadcast_reachable (s : Surroundings) (c : Config) (raws : List String)
    (endpoint : Option String) (wait : UInt64) :
    let effect := runBroadcast s c raws endpoint wait
    ∃ m, Reachable s (endpoint.getD c.network.defaultEndpoint) wait c raws m ∧
      m.stage = .ended effect.ending ∧ m.stdout = effect.stdout ∧ m.stderr = effect.stderr := by
  intro effect
  have hstart : Alike (nodesOf s c) (listening s c) (.initial s c raws) [] := by
    rw [listening_eq s c raws]
    exact ⟨initial_awaits s c raws, initial_awaits s c raws, rfl, rfl, rfl, rfl, rfl, rfl, rfl⟩
  have hcases := hstart.submitAll rfl s (endpoint.getD c.network.defaultEndpoint) wait
  obtain ⟨⟨result, after⟩, hresult⟩ : ∃ result, Submitting.submitAll s
      (endpoint.getD c.network.defaultEndpoint) 0 raws (listening s c) = result := ⟨_, rfl⟩
  have heffect : effect = runBroadcast s c raws endpoint wait := rfl
  rw [runBroadcast, hresult] at heffect
  have hindex : (Moment.initial s c raws).index = 0 := rfl
  rw [hindex, hresult] at hcases
  rcases hcases with ⟨e, m, rfl, hpath, hstage, hstderr, hstdout⟩ |
    ⟨m, jobs, rfl, hpath, hstage, halike⟩
  · rw [heffect]
    exact ⟨m, Reachable.initial.path hpath, hstage, hstdout, hstderr⟩
  · dsimp only at heffect
    have hawait : Step s (endpoint.getD c.network.defaultEndpoint) wait m (m.await s wait) :=
      .moves (.await hstage)
    have hawaited := (Reachable.initial.path hpath).step hawait
    by_cases hclock : lastSecond < s.clock + wait.toNat
    · have hended : m.await s wait = m.finish (.panicked s.clockOverflow) := if_pos hclock
      rw [if_pos hclock] at heffect
      rw [heffect]
      refine ⟨_, hawaited, ?_, ?_, ?_⟩
      · rw [hended]
        rfl
      · rw [hended]
        exact halike.stdout
      · rw [hended]
        exact halike.rejections.symm
    · have hwaiting : m.await s wait = { m with stage := .waiting } := if_neg hclock
      rw [if_neg hclock] at heffect
      rw [hwaiting] at hawaited
      have hwaits : Alike (nodesOf s c) after { m with stage := .waiting } jobs :=
        ⟨halike.rested, halike.awaits, halike.idle, halike.receipts, halike.rejections,
          halike.expected, halike.channel, halike.stdout, halike.early⟩
      -- the nodes answer for as many jobs as arrive in time
      obtain ⟨m', hend, hdone, hstdout, hstderr⟩ := hwaits.finish rfl s
        (endpoint.getD c.network.defaultEndpoint) wait (s.arrivals wait)
      rw [heffect]
      exact ⟨m', hawaited.path hend, hdone, hstdout, hstderr⟩

/-! ## The output -/

/-- **The output of the broadcast command.**  The arguments are valid hex, the clock can show when
    the time is over, and the fresh names are distinct.  Each argument is a request, which is
    refused or accepted, and the names of the accepted ones are distinct.

    However the client and the nodes go on beside it, the command comes to its end: it waits only
    while the receipt of an accepted request is missing that may come in time.  It ends well, with
    the refusals on the error output in the order of the arguments.  On the standard output stand
    the first of the lines that are due, one for each accepted request in the order in which the
    broadcasts ended, and among them all whose receipts came in time (`Orderly`, `Printed`).

    The command that runs is one such run: it exits with 0, and its lines are the receipts that the
    nodes give for the accepted requests one after the other, as far as they arrive. -/
theorem broadcast_output (s : Surroundings) (c : Config) (raws : List String)
    (payloads : List Bytes)
    (hex : raws.map (fun raw => Hex.decode (Text.trim raw)) = payloads.map .ok)
    (endpoint : Option String) (wait : UInt64) (clock : s.clock + wait.toNat ≤ lastSecond)
    (fresh : ((List.range raws.length).map s.freshId).Nodup) :
    let endpoint' := endpoint.getD c.network.defaultEndpoint
    let rs := requests s endpoint' 0 payloads
    let effect := run s c (.broadcast raws endpoint wait)
    ((accepted rs).map Request.jobId).Nodup ∧
    (accepted rs).length + (refusals rs).length = raws.length ∧
    (∀ m, Reachable s endpoint' wait c raws m → Orderly s endpoint' wait rs m) ∧
    effect.exitCode = 0 ∧
    effect.errorLines = refusals rs ∧
    effect.stdout =
      ((replies (nodesOf s c) (accepted rs)).1.take (s.arrivals wait)).map Receipt.toJson ∧
    ∃ m, Reachable s endpoint' wait c raws m ∧ m.stage = .ended effect.ending ∧
      m.stdout = effect.stdout ∧ m.stderr = effect.stderr := by
  intro endpoint' rs effect
  have hlength : payloads.length = raws.length := by
    simpa using (congrArg List.length hex).symm
  -- the command that runs begins with a client that listens and has no jobs
  have hbegin : Awaits "receipts" (listening s c).client [] (nodesOf s c) := by
    rw [listening_eq s c raws]
    exact initial_awaits s c raws
  obtain ⟨after, hall, hrejections, hreceipts⟩ := submitAll_awaits hbegin hex s endpoint' 0
  have heffect : effect = runBroadcast s c raws endpoint wait := rfl
  rw [runBroadcast, hall] at heffect
  dsimp only at heffect
  rw [if_neg (Nat.not_lt.mpr clock), hrejections, hreceipts, listening_eq s c raws] at heffect
  refine ⟨?_, ?_, fun m h => h.orderly hex clock, ?_, ?_, ?_,
    runBroadcast_reachable s c raws endpoint wait⟩
  · have hnames : (rs.map Request.jobId).Nodup := by
      rw [jobId_requests, hlength, ← List.range_eq_range']
      exact fresh
    exact hnames.sublist (List.filter_sublist.map _)
  · rw [length_accepted_add_length_refusals, length_requests, hlength]
  · rw [heffect]
    rfl
  · rw [heffect]
    rfl
  · rw [heffect]
    rfl

/-- Two fresh names, a node that cannot be reached, and time enough. -/
def offline : Surroundings where
  file := fun _ => none
  key := none
  node := Rpc.Node.unreachable
  freshId := fun i => ⟨if i = 0 then "first" else "second"⟩
  clock := 0
  arrivals := fun _ => 2
  mainThread := 1
  sourceFile := "src/main.rs"

/-- An argument that is no transaction, and the shortest that is one. -/
theorem broadcast_output_mixed :
    let effect := run offline {}
      (.broadcast ["02", " 0xc98080808080801b0101\n"] (some "http://[::1]:8545") 120)
    effect.exitCode = 0 ∧
    effect.errorLines =
      ["job first rejected: rejected by network: Invalid transaction payload: input too short"] ∧
    effect.stdout =
      ["\x7b\"transaction_hash\":\"\",\"success\":false,\"message\":\"RPC error: error sending " ++
        "request for url (http://[::1]:8545/)\",\"job_id\":\"second\"\x7d"] := by
  obtain ⟨-, -, -, hexit, herrors, hstdout, -⟩ := broadcast_output offline {}
    ["02", " 0xc98080808080801b0101\n"]
    [[2], [0xc9, 0x80, 0x80, 0x80, 0x80, 0x80, 0x80, 0x1b, 1, 1]] (by decide +kernel)
    (some "http://[::1]:8545") 120 (by decide) (by decide)
  refine ⟨hexit, herrors.trans ?_, hstdout.trans ?_⟩
  · decide +kernel
  · decide +kernel

end TxRelay.Command
