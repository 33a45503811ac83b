/-
  A client that only listens.

  Its loop runs, its nodes answer, and its callback makes no calls and never panics, so that nothing
  inside the client disturbs the loop.

  1. **What goes on.**  Few things can happen in such a client (`Listening.happens`): the callback
     begins with the oldest receipt, it is over, or a broadcast ends.  None of them stops the
     listening, and each moves one thing on: a receipt from waiting to handed over, or a job from
     under way to waiting.

  2. **Submissions.**  A submission is accepted or refused, and the client listens on (`submit`).

  3. **Left alone.**  When the client is left alone, the jobs that wait for their nodes get their
     receipts in order of acceptance (`replies`), each reply from the nodes as the replies before
     left them, and every receipt goes to the callback (`settle_one` and the induction on the jobs).

  The crux is that `Listening` is kept by all that can happen, so the question of what can happen is
  answered once; what comes out of it are short equations for a drained loop and for one reply.
-/
import TxRelay.Proofs.Client.Refusals
import TxRelay.Proofs.Client.Session

namespace TxRelay

/-! ## The checks, read off what is wrong -/

namespace Engine

variable {validate : Validate} {r : Request} {err : EngineError} {count : Metrics → Metrics}

/-- What is acceptable passes the check. -/
theorem Acceptable.check (h : Acceptable validate r) : check validate r = .ok () := by
  rcases check_cases validate r with ⟨-, hcheck⟩ | ⟨err, count, hfault, -⟩
  · exact hcheck
  · exact absurd h hfault.not_acceptable

/-- What has a fault fails it, for that fault. -/
theorem FirstFault.check (h : FirstFault validate r err count) :
    check validate r = .error err := by
  unfold Engine.check
  cases h with
  | request empty => simp [empty]
  | endpoint payload bad => simp [payload, bad]
  | payload payload endpoint bad => simp [payload, endpoint, bad]

end Engine

namespace Client

variable {tag : String} {c d : Client} {m m' : Moment}

/-- A call does not end a broadcast. -/
@[simp] theorem endings_make (m : Moment) (call : ClientCall) :
    endings (m.make call).log = endings m.log := by
  simp [Moment.make]

/-- A call does not hand over a receipt. -/
@[simp] theorem delivered_make (m : Moment) (call : ClientCall) :
    delivered (m.make call).log = delivered m.log := by
  simp [Moment.make]

/-! ## Listening -/

/-- A callback of this name that does nothing else. -/
def listener (tag : String) : Callback := ⟨tag, fun _ => [], fun _ => false⟩

/-- The loop of a live client runs, and nothing tells it to end. -/
structure Listening (tag : String) (c : Client) : Prop where
  whole : Whole c
  alive : c.alive = true
  goes : c.stopAsked = false
  callback : c.callback = some (listener tag)
  runs : c.isRunning = true
  works : c.engine.phase = .working
  queue : c.engine.queue = []
  nodes : ∃ n, c.network = .nodes n

/-- The callback has nothing left to do, if it runs. -/
def Calm (m : Moment) : Prop := ∀ busy, m.busy = some busy → busy = ⟨[], false⟩

/-- What goes on in a client that listens. -/
inductive GoesOn (tag : String) (m : Moment) : Moment → Prop where
  /-- The callback begins with the oldest receipt. -/
  | begin {r : Receipt} {rest : List Receipt} (head : m.client.engine.receipts = r :: rest) :
      GoesOn tag m (Moment.begin { m with client := m.client.taken rest } (listener tag) r)
  /-- The callback is over. -/
  | return : GoesOn tag m { m with busy := none }
  /-- A broadcast ends. -/
  | hear {n : Rpc.Network} {job : Job} {outcome : BroadcastResult}
      (held : job ∈ m.client.engine.broadcasting)
      (finish : m.client.engine.finish job.number outcome =
        (true, m.client.engine.complete job outcome)) :
      GoesOn tag m (m.hear (.nodes n) job.number outcome)

namespace Listening

/-- Nobody told the loop to end. -/
theorem mustEnd (h : Listening tag c) : c.mustEnd = false := by
  rw [Client.mustEnd, h.goes, h.alive]
  rfl

/-- With no receipt there the loop waits. -/
theorem round_waits (h : Listening tag c) (none : c.engine.receipts = []) :
    c.round = (.waits, c) := by
  rcases round_cases h.whole with ⟨hend, -⟩ | ⟨-, -, hround⟩ | ⟨-, r, rest, hreceipts, -⟩
  · cases hend.symm.trans h.mustEnd
  · exact hround
  · cases none.symm.trans hreceipts

/-- Otherwise it takes the oldest. -/
theorem round_takes {r : Receipt} {rest : List Receipt} (h : Listening tag c)
    (head : c.engine.receipts = r :: rest) : c.round = (.takes r, c.taken rest) := by
  rcases round_cases h.whole with ⟨hend, -⟩ | ⟨-, hnone, -⟩ | ⟨-, r', rest', hreceipts, hround⟩
  · cases hend.symm.trans h.mustEnd
  · cases head.symm.trans hnone
  · obtain ⟨rfl, rfl⟩ := List.cons.inj (head.symm.trans hreceipts)
    exact hround

/-- It listens on without the receipt. -/
theorem taken (h : Listening tag c) (rest : List Receipt) : Listening tag (c.taken rest) :=
  ⟨h.whole.taken, h.alive, h.goes, h.callback, h.runs, h.works, h.queue, h.nodes⟩

/-- A loop that waits is drained. -/
theorem drain_waits (h : Listening tag c) (none : c.engine.receipts = []) (rounds : Nat) :
    drain (rounds + 1) c = ([], c) := by
  have hloop : c.loop.isNone = false := by simpa [isRunning] using h.runs
  simp [drain, hloop, h.round_waits none]

/-- The oldest receipt goes to the callback, and the rest is drained after it. -/
theorem drain_takes {r : Receipt} {rest : List Receipt} (h : Listening tag c)
    (head : c.engine.receipts = r :: rest) (rounds : Nat) :
    drain (rounds + 1) c =
      (⟨tag, r, []⟩ :: (drain rounds (c.taken rest)).1, (drain rounds (c.taken rest)).2) := by
  have hloop : c.loop.isNone = false := by simpa [isRunning] using h.runs
  have hcallback : (c.taken rest).callback = some (listener tag) := h.callback
  simp only [drain, hloop, h.round_takes head, hcallback, Bool.false_eq_true, if_false]
  rfl

/-! ## What goes on -/

/-- A broadcast that ends does not stop the listening. -/
theorem complete (h : Listening tag c) (n : Rpc.Network) (job : Job) (outcome : BroadcastResult) :
    Listening tag { c with network := .nodes n, engine := c.engine.complete job outcome } :=
  ⟨⟨⟨h.whole.alone.pollers, h.whole.alone.sender⟩, h.whole.alive⟩, h.alive, h.goes, h.callback,
    h.runs, h.works, h.queue, ⟨n, rfl⟩⟩

/-- What can happen in a client that listens. -/
theorem happens (h : Listening tag m.client) (calm : Calm m) (next : Happens m m') :
    GoesOn tag m m' := by
  cases next with
  | @begin r d callback free runs round set =>
    obtain ⟨-, rest, hreceipts, rfl⟩ := Client.round_takes h.whole round
    obtain rfl : listener tag = callback := Option.some.inj (h.callback.symm.trans set)
    exact .begin hreceipts
  | drop free runs round unset =>
    obtain ⟨-, rest, -, rfl⟩ := Client.round_takes h.whole round
    -- a receipt would be dropped, but the callback is set
    cases h.callback.symm.trans unset
  | stop free runs round =>
    obtain ⟨hend, -, -⟩ := round_ends h.whole round
    -- the loop would end, but nobody told it to
    cases hend.symm.trans h.mustEnd
  | call busy => cases calm _ busy
  | «return» busy =>
    cases calm _ busy
    exact .return
  | @hear job rest outcome network head answer =>
    obtain ⟨n, hn⟩ := h.nodes
    rw [hn] at answer
    obtain ⟨-, rfl⟩ := Prod.mk.inj (Option.some.inj answer)
    exact .hear (by simp [head]) (Engine.finish_head h.whole.alone outcome head)

/-- A broadcast that ends is that of a job which waits for its node. -/
theorem answered {number : Nat} {outcome : BroadcastResult} (h : Listening tag m.client)
    (goes : (m.client.engine.finish number outcome).1 = true) :
    GoesOn tag m (m.hear m.client.network number outcome) := by
  obtain ⟨n, hn⟩ := h.nodes
  rcases Engine.finish_alone h.whole.alone number outcome with
    ⟨job, held, rfl, hfinish⟩ | hfinish
  · rw [hn]
    exact .hear held hfinish
  · rw [hfinish] at goes
    cases goes

/-- Every job without a receipt is at its node. -/
theorem pending (h : Listening tag c) : c.engine.pending = c.engine.broadcasting := by
  rw [Engine.pending, h.queue, List.nil_append]

/-- If nothing is left to happen, every job has its receipt, and every receipt was handed over. -/
theorem settled (h : Listening tag m.client) (roles : Roles m) (settled : m.Settled) :
    m.client.engine.pending = [] ∧ m.client.engine.receipts = [] := by
  refine ⟨?_, ((settled.idle roles).2 h.runs).2⟩
  rw [h.pending]
  cases hjobs : m.client.engine.broadcasting with
  | nil => rfl
  | cons job rest =>
    obtain ⟨n, hn⟩ := h.nodes
    have hanswer (request : Request) :
        ∃ reply, m.client.network.broadcast? request.rawTx request.endpoint = some reply := by
      rw [hn]
      exact ⟨_, rfl⟩
    obtain ⟨⟨outcome, network⟩, hreply⟩ := hanswer job.request
    exact absurd (Happens.hear hjobs hreply) (settled _)

end Listening

/-! ## What goes on, against the log -/

namespace GoesOn

/-- Nor does anything else that goes on. -/
theorem listening (next : GoesOn tag m m') (h : Listening tag m.client) :
    Listening tag m'.client := by
  cases next with
  | begin head => exact h.taken _
  | «return» => exact h
  | @hear n job outcome held finish =>
    show Listening tag { m.client with
      network := .nodes n, engine := (m.client.engine.finish job.number outcome).2 }
    rw [finish]
    exact h.complete n job outcome

/-- The callback under way, if any, has no calls left to make. -/
theorem calm (next : GoesOn tag m m') (h : Calm m) : Calm m' := by
  cases next with
  | begin head =>
    rintro busy hbusy
    exact (Option.some.inj hbusy).symm
  | «return» =>
    rintro busy hbusy
    cases hbusy
  | hear held finish => exact h

/-- Nothing is accepted. -/
theorem queued (next : GoesOn tag m m') : queuedJobs m'.log = queuedJobs m.log := by
  cases next with
  | begin head => simp [Moment.begin]
  | «return» => rfl
  | hear held finish => simp [Moment.hear]

/-- A receipt more is handed over, or none. -/
theorem delivered (next : GoesOn tag m m') : ∃ new, delivered m'.log = delivered m.log ++ new := by
  cases next with
  | begin head => exact ⟨_, delivered_snoc _ _⟩
  | «return» => exact ⟨[], (List.append_nil _).symm⟩
  | hear held finish => exact ⟨_, delivered_snoc _ _⟩

/-- The jobs without a receipt and the ends of broadcasts change together: only the end of a
    job's broadcast takes the job away. -/
theorem pending (next : GoesOn tag m m') :
    (m'.client.engine.pending = m.client.engine.pending ∧ endings m'.log = endings m.log) ∨
    ∃ job outcome, m.client.engine.pending.Perm (job :: m'.client.engine.pending) ∧
      endings m'.log = endings m.log ++ [(job.number, outcome)] := by
  cases next with
  | begin head => exact Or.inl ⟨rfl, by simp [Moment.begin]⟩
  | «return» => exact Or.inl ⟨rfl, rfl⟩
  | @hear n job outcome held finish =>
    refine Or.inr ⟨job, outcome, ?_, by simp [Moment.hear]⟩
    show m.client.engine.pending.Perm
      (job :: (m.client.engine.finish job.number outcome).2.pending)
    rw [finish]
    exact Engine.pending_complete held

end GoesOn

namespace Listening

/-! ## Submissions -/

/-- What can come of a submission: it is refused, and only the counters change, or its job waits
    for its node behind the others. -/
theorem submit (h : Listening tag c) (rawTx : Bytes) (endpoint : String) (jobId : JobId) :
    let r : Request := ⟨rawTx, endpoint, jobId⟩
    let result := c.perform (.broadcast rawTx (some endpoint) jobId)
    Listening tag result.2 ∧ result.2.network = c.network ∧
    result.2.engine.receipts = c.engine.receipts ∧
    ((∃ err, Engine.check validateEnvelope r = .error err ∧
        result.1 = .failed (.rejected jobId err) ∧
        result.2.engine.broadcasting = c.engine.broadcasting) ∨
      (Engine.check validateEnvelope r = .ok () ∧ result.1 = .queued ∧
        result.2.engine.broadcasting = c.engine.broadcasting ++ [⟨c.engine.accepted, r⟩])) := by
  intro r result
  obtain ⟨n, hn⟩ := h.nodes
  have hvalidate : c.network.validate = validateEnvelope := by rw [hn]; rfl
  rcases perform_broadcast h.whole h.alive rawTx (some endpoint) jobId with
    ⟨hacceptable, hperform⟩ | ⟨err, count, hfault, hperform⟩
  · have hresult : result = (.queued, { c with engine := c.engine.accept r }) := hperform
    have hengine : c.engine.accept r =
        { c.engine with
          accepted := c.engine.accepted + 1
          broadcasting := c.engine.broadcasting ++ [⟨c.engine.accepted, r⟩]
          tally := c.engine.tally.submitted } := by
      simp [Engine.accept, Engine.enqueue, Engine.dispatch, h.works, h.queue]
    rw [hresult, hengine]
    refine ⟨?_, rfl, rfl, Or.inr ⟨?_, rfl, rfl⟩⟩
    · exact ⟨⟨⟨h.whole.alone.pollers, h.whole.alone.sender⟩, h.whole.alive⟩, h.alive, h.goes,
        h.callback, h.runs, h.works, h.queue, h.nodes⟩
    · rw [← hvalidate]
      exact hacceptable.check
  · have hresult : result = (.failed (.rejected jobId err), c.mapTally (Engine.refuse count)) :=
      hperform
    rw [hresult]
    refine ⟨?_, rfl, rfl, Or.inl ⟨err, ?_, rfl, rfl⟩⟩
    · exact ⟨⟨⟨h.whole.alone.pollers, h.whole.alone.sender⟩, h.whole.alive⟩, h.alive, h.goes,
        h.callback, h.runs, h.works, h.queue, h.nodes⟩
    · rw [← hvalidate]
      exact hfault.check

end Listening

/-! ## Left alone -/

/-- The receipts of requests that are broadcast one after the other, and the nodes after that. -/
def replies (n : Rpc.Network) : List Request → List Receipt × Rpc.Network
  | [] => ([], n)
  | r :: rs =>
    let (outcome, n) := n.broadcast r.rawTx r.endpoint
    let (more, n) := replies n rs
    (Receipt.ofOutcome r.jobId outcome :: more, n)

/-- Each request gets one receipt. -/
theorem length_replies (n : Rpc.Network) (rs : List Request) :
    (replies n rs).1.length = rs.length := by
  induction rs generalizing n with
  | nil => rfl
  | cons r rs ih => simp [replies, ih]

/-- The replies to some requests, then to others, from the nodes as the first ones left them. -/
theorem replies_append (n : Rpc.Network) (rs rs' : List Request) :
    replies n (rs ++ rs') =
      ((replies n rs).1 ++ (replies (replies n rs).2 rs').1, (replies (replies n rs).2 rs').2) := by
  induction rs generalizing n with
  | nil => rfl
  | cons r rs ih => simp [replies, ih]

/-- A client that listens, with these jobs at its nodes and no receipt. -/
structure Awaits (tag : String) (c : Client) (jobs : List Job) (n : Rpc.Network) : Prop where
  listening : Listening tag c
  jobs : c.engine.broadcasting = jobs
  receipts : c.engine.receipts = []
  network : c.network = .nodes n

/-- The client after a node answered for a job. -/
def heard (c : Client) (job : Job) (outcome : BroadcastResult) (n : Rpc.Network) : Client :=
  { c with network := .nodes n, engine := c.engine.complete job outcome }

namespace Awaits

variable {jobs rest : List Job} {job : Job} {n : Rpc.Network}

/-- While the jobs wait for their nodes there is nothing to deliver. -/
theorem deliver (h : Awaits tag c jobs n) : c.deliver = ([], c) := by
  rw [Client.deliver, h.receipts]
  exact h.listening.drain_waits h.receipts 0

/-- The nodes answer for the first of the jobs. -/
theorem hear? (h : Awaits tag c (job :: rest) n) :
    let reply := n.broadcast job.request.rawTx job.request.endpoint
    c.hear? = some (c.heard job reply.1 reply.2) := by
  have hfinish := fun outcome => Engine.finish_head h.listening.whole.alone outcome h.jobs
  simp [Client.hear?, h.jobs, h.network, Network.broadcast?, hfinish, heard]

/-- The loop takes the receipt of the job that was answered. -/
theorem heard (h : Awaits tag c (job :: rest) n) (outcome : BroadcastResult) (n' : Rpc.Network) :
    let d := c.heard job outcome n'
    d.engine.receipts = [Receipt.ofOutcome job.request.jobId outcome] ∧
    Listening tag d ∧ Awaits tag (d.taken []) rest n' := by
  have hlistening : Listening tag (c.heard job outcome n') := h.listening.complete n' job outcome
  refine ⟨?_, hlistening, hlistening.taken [], ?_, rfl, rfl⟩
  · simp [Client.heard, Engine.complete, h.receipts]
  · simp [Client.heard, Client.taken, Engine.complete, h.jobs]

/-- Its receipt goes to the callback. -/
theorem deliver_heard (h : Awaits tag c (job :: rest) n) (outcome : BroadcastResult)
    (n' : Rpc.Network) :
    (c.heard job outcome n').deliver =
      ([⟨tag, Receipt.ofOutcome job.request.jobId outcome, []⟩],
        (c.heard job outcome n').taken []) := by
  obtain ⟨hreceipts, hlistening, hafter⟩ := h.heard outcome n'
  have hlast := hafter.listening.drain_waits hafter.receipts 0
  rw [Client.deliver, hreceipts, List.length_singleton, hlistening.drain_takes hreceipts, hlast]

/-- With no job left nothing more happens. -/
theorem settle_nil (h : Awaits tag c [] n) (rounds : Nat) : settle rounds c = ([], c) := by
  cases rounds with
  | zero => exact h.deliver
  | succ rounds => simp [settle, h.deliver, Client.hear?, h.jobs]

/-- A job that is alone at its node gets its receipt, and the callback gets it. -/
theorem settle_one (h : Awaits tag c [job] n) (rounds : Nat) :
    let reply := n.broadcast job.request.rawTx job.request.endpoint
    settle (rounds + 2) c =
      ([⟨tag, Receipt.ofOutcome job.request.jobId reply.1, []⟩],
        (c.heard job reply.1 reply.2).taken []) := by
  intro reply
  obtain ⟨-, -, hafter⟩ := h.heard reply.1 reply.2
  have hnone : ((c.heard job reply.1 reply.2).taken []).hear? = none := by
    simp [Client.hear?, hafter.jobs]
  simp [settle, h.deliver, h.hear?, h.deliver_heard, hnone, reply]

end Awaits

end Client

end TxRelay
