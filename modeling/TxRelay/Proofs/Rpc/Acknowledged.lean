/-
  A transaction that a node has taken.

  A broadcast asks a node twice.  First the node gets the transaction; if that fails, the caller may
  send it again.  Then the node is asked for the receipt until one is there; whatever goes wrong
  now, the node has the transaction, and a caller that is told of a failure would send it a second
  time.

  1. **What a receipt says.**  `success`, the message and the hash of a receipt are read off the
     outcome of the broadcast, and nothing else goes into them (`success_iff`, `message_iff`).

  2. **What a node says.**  `verdict` is what the node makes of the transaction: its reply to the
     first question, and nothing else.

  3. **Asking.**  `Asked` lists the questions that were put on the way from one state of the network
     to another.  It composes, so the questions of a broadcast are those of its parts.

  4. **Waiting.**  The wait for the receipt ends in two ways only, a receipt or a reason why there
     is none (`Awaited`), by induction on the rounds.

  5. **Broadcasts.**  `Reported` ties the outcome of a broadcast to the verdict: a refused endpoint
     asks nothing, a question that failed or came late is an error, and an acknowledged transaction
     is a success, mined or pending.  From it each clause about receipts is read off
     (`Reported.receipt`, `Reported.tells`).

  The crux is in part 5: the only questions after the acknowledgement are for the receipt, and both
  ends of the wait are made into a success with the hash that the node gave.
-/
import TxRelay.Proofs.Endpoint
import TxRelay.Receipt

namespace TxRelay

/-! ## What a receipt says -/

namespace Receipt

variable {jobId : JobId} {outcome : BroadcastResult}

/-- A receipt tells of success if the transaction was mined and did succeed. -/
theorem success_iff : (ofOutcome jobId outcome).success = true ↔
    ∃ tx, outcome = .ok (.mined tx) ∧ tx.success = true := by
  cases outcome with
  | error e => simp [ofOutcome]
  | ok o =>
    cases o with
    | pending hash reason => simp [ofOutcome]
    | mined tx => cases hsuccess : tx.success <;> simp [ofOutcome, hsuccess]

/-- No error has an empty message. -/
theorem message_ne_empty (e : NetworkError) : e.message ≠ "" := by
  have hbegins {s t : String} (h : s ≠ "") : s ++ t ≠ "" := fun hnone =>
    h (String.append_eq_empty_iff.mp hnone).1
  cases e with
  | rpc m => exact hbegins (by decide)
  | timeout secs => exact hbegins (hbegins (by decide))
  | invalidEndpoint endpoint reason => exact hbegins (hbegins (hbegins (by decide)))
  | invalidPayload m => exact hbegins (by decide)
  | wallet m => exact hbegins (by decide)

/-- A receipt has nothing to explain if the transaction succeeded, and only then. -/
theorem message_iff : (ofOutcome jobId outcome).message = "" ↔
    (ofOutcome jobId outcome).success = true := by
  cases outcome with
  | error e => simp [ofOutcome, message_ne_empty]
  | ok o =>
    cases o with
    | pending hash reason => simp [ofOutcome]
    | mined tx => cases hsuccess : tx.success <;> simp [ofOutcome, hsuccess]

/-- The receipt has the hash of its outcome. -/
theorem hash_ok {o : Outcome} : (ofOutcome jobId (.ok o)).transactionHash = o.hash := by
  cases o with
  | pending hash reason => rfl
  | mined tx => cases hsuccess : tx.success <;> simp [ofOutcome, hsuccess, Outcome.hash]

end Receipt

namespace Rpc

/-! ## What a node says -/

/-- What a node makes of a transaction that it is sent. -/
inductive Verdict where
  /-- The node has the transaction and gave its hash in time. -/
  | acknowledged (hash : Hash)
  | failed (text : String)
  /-- Nothing was heard in time. -/
  | late
deriving DecidableEq

/-- The verdict as the answer to a question. -/
def Verdict.answer : Verdict → Except Network.Fault Hash
  | acknowledged hash => .ok hash
  | failed text => .error (.failed text)
  | late => .error .timeout

/-- The transaction of this value's receipt: its own hash and its own status. -/
structure Confirms (v : Json.Value) (tx : MinedTx) : Prop where
  hash : ∃ named hash, v.member? "transactionHash" = some named ∧ hashOf named = .ok hash ∧
    tx.hash = Hex.encode0x hash.val
  status : tx.success = true ↔ quantity? v "status" = some 1

/-- An object that is read as a receipt says what the receipt says. -/
theorem receiptOf_some {v : Json.Value} {tx : MinedTx} (h : receiptOf v = .ok (some tx)) :
    Confirms v tx := by
  unfold receiptOf at h
  split at h
  · cases h
  · split at h
    · cases h
    · rename_i named hnamed
      split at h
      · cases h
      · rename_i hash hhash
        split at h
        · cases h
        · obtain rfl := Option.some.inj (Except.ok.inj h)
          exact ⟨⟨named, hash, hnamed, hhash, rfl⟩, decide_eq_true_iff⟩
  · cases h

namespace Network

variable {n n' : Network} {url : Url.Web} {rawTx : Bytes} {hash : Hash}

/-- The verdict of the node at this address on a transaction that it is sent next. -/
def verdict (n : Network) (url : Url.Web) (rawTx : Bytes) : Verdict :=
  match n.node n.calls ⟨url, .send rawTx⟩ with
  | .unreachable => .failed ("error sending request for url (" ++ shownUrl url ++ ")")
  | reply =>
    if n.rpcTimeout = 0 then .late
    else
      match reply with
      | .result v =>
        match hashOf v with
        | .ok hash => .acknowledged hash
        | .error text => .failed text
      | .failure f => .failed (failureText f)
      | .unusable text => .failed text
      | .unreachable | .silence => .late

/-! ## Asking -/

/-- The network after questions were asked: the node and the limits are what they were. -/
structure Asked (n n' : Network) (calls : List Call) : Prop where
  node : n'.node = n.node
  rpcTimeout : n'.rpcTimeout = n.rpcTimeout
  calls : n'.calls = n.calls ++ calls

/-- No question was put. -/
theorem Asked.none : Asked n n [] := ⟨rfl, rfl, (List.append_nil _).symm⟩

/-- Questions, and more questions. -/
theorem Asked.trans {n'' : Network} {calls more : List Call} (h : Asked n n' calls)
    (h' : Asked n' n'' more) : Asked n n'' (calls ++ more) where
  node := h'.node.trans h.node
  rpcTimeout := h'.rpcTimeout.trans h.rpcTimeout
  calls := by rw [h'.calls, h.calls, List.append_assoc]

/-- One question. -/
theorem Asked.ask (n : Network) (url : Url.Web) (q : Question) :
    Asked n (n.ask url q).2 [⟨url, q⟩] := by
  unfold Network.ask
  dsimp only
  split <;> exact ⟨rfl, rfl, rfl⟩

/-- What is asked without a limit is answered by the node. -/
theorem node_of_ask {q : Question} {v : Json.Value} (unlimited : isLimited q = false)
    (h : (n.ask url q).1 = .ok v) : n.node n.calls ⟨url, q⟩ = .result v := by
  unfold Network.ask at h
  simp only [unlimited, Bool.false_eq_true, and_false, if_false] at h
  split at h
  · rename_i value hreply
    obtain rfl := Except.ok.inj h
    exact hreply
  · cases h
  · cases h
  · cases h
  · cases h

/-- What is read off the answer to a transaction is the verdict. -/
theorem decoded_send (n : Network) (url : Url.Web) (rawTx : Bytes) :
    decoded hashOf (n.ask url (.send rawTx)).1 = (n.verdict url rawTx).answer := by
  unfold Network.ask verdict
  by_cases hlimit : n.rpcTimeout = 0
  · cases hreply : n.node n.calls ⟨url, .send rawTx⟩ <;>
      simp [hreply, hlimit, isLimited, heardAtOnce, decoded, Verdict.answer]
  · cases hreply : n.node n.calls ⟨url, .send rawTx⟩ with
    | result v => cases hread : hashOf v <;> simp [hreply, hlimit, hread, decoded, Verdict.answer]
    | _ => simp [hreply, hlimit, decoded, Verdict.answer]

/-- An answer that is decoded was given, and its value could be read. -/
theorem decoded_ok {α : Type} {read : Json.Value → Except String α}
    {answer : Except Fault Json.Value} {a : α} (h : decoded read answer = .ok a) :
    ∃ v, answer = .ok v ∧ read v = .ok a := by
  cases answer with
  | error fault => cases h
  | ok v =>
    dsimp only [decoded] at h
    split at h
    · rename_i b hread
      obtain rfl := Except.ok.inj h
      exact ⟨v, rfl, hread⟩
    · cases h

/-! ## Waiting for the receipt -/

/-- The end of a wait: only receipts were asked for, and one that was found is what the node
    answered to the last question. -/
structure Awaited (n : Network) (url : Url.Web) (hash : Hash)
    (ended : Except String MinedTx × Network) : Prop where
  asked : ∃ rounds, Asked n ended.2 (List.replicate rounds ⟨url, .receipt hash⟩)
  found : ∀ tx, ended.1 = .ok tx → ∃ before v,
    ended.2.calls = before ++ [⟨url, .receipt hash⟩] ∧
      n.node before ⟨url, .receipt hash⟩ = .result v ∧ Confirms v tx

/-- One more question before the rest of the wait. -/
theorem Awaited.later {ended : Except String MinedTx × Network}
    (h : Awaited n' url hash ended) (asked : Asked n n' [⟨url, .receipt hash⟩]) :
    Awaited n url hash ended := by
  refine ⟨?_, fun tx htx => ?_⟩
  · obtain ⟨rounds, hrest⟩ := h.asked
    exact ⟨rounds + 1, asked.trans hrest⟩
  · obtain ⟨before, v, hcalls, hanswer, hconfirms⟩ := h.found tx htx
    rw [asked.node] at hanswer
    exact ⟨before, v, hcalls, hanswer, hconfirms⟩

/-- The wait ends with a receipt or with a reason, whatever the node says. -/
theorem awaited (rounds : Nat) (first : Bool) (n : Network) (url : Url.Web) (hash : Hash) :
    Awaited n url hash (awaitReceipt rounds first n url hash) := by
  -- on the questions that are left
  induction rounds generalizing first n with
  | zero => exact ⟨⟨0, Asked.none⟩, fun tx htx => by cases htx⟩
  | succ rounds ih =>
    have hasked := Asked.ask n url (.receipt hash)
    have hnode := @node_of_ask n url (.receipt hash)
    unfold awaitReceipt
    rcases hask : n.ask url (.receipt hash) with ⟨answer, asked⟩
    rw [hask] at hasked hnode
    dsimp only
    split
    · exact ⟨⟨1, hasked⟩, fun tx htx => by cases htx⟩
    · exact ⟨⟨1, hasked⟩, fun tx htx => by cases htx⟩
    · exact (ih false asked).later hasked
    · rename_i tx hfound
      split
      · exact (ih false asked).later hasked
      · refine ⟨⟨1, hasked⟩, fun tx' htx => ?_⟩
        obtain rfl := Except.ok.inj htx
        obtain ⟨v, hanswer, hread⟩ := decoded_ok hfound
        exact ⟨n.calls, v, hasked.calls, hnode rfl hanswer, receiptOf_some hread⟩

/-! ## Broadcasts -/

/-- The end of a broadcast to a node at this address, and the network after it. -/
inductive Reported (n : Network) (url : Url.Web) (rawTx : Bytes) :
    BroadcastResult × Network → Prop where
  | failed {text : String} {n' : Network} (verdict : n.verdict url rawTx = .failed text)
      (asked : Asked n n' [⟨url, .send rawTx⟩]) : Reported n url rawTx (.error (.rpc text), n')
  | late {n' : Network} (verdict : n.verdict url rawTx = .late)
      (asked : Asked n n' [⟨url, .send rawTx⟩]) :
      Reported n url rawTx (.error (.timeout n.rpcTimeout), n')
  | mined {hash : Hash} {rounds : Nat} {n' : Network} {tx : MinedTx} {before : List Call}
      {v : Json.Value} (verdict : n.verdict url rawTx = .acknowledged hash)
      (asked : Asked n n' (⟨url, .send rawTx⟩ :: List.replicate rounds ⟨url, .receipt hash⟩))
      (calls : n'.calls = before ++ [⟨url, .receipt hash⟩])
      (answer : n.node before ⟨url, .receipt hash⟩ = .result v) (confirms : Confirms v tx) :
      Reported n url rawTx (.ok (.mined tx), n')
  | pending {hash : Hash} {rounds : Nat} {n' : Network} {reason : String}
      (verdict : n.verdict url rawTx = .acknowledged hash)
      (asked : Asked n n' (⟨url, .send rawTx⟩ :: List.replicate rounds ⟨url, .receipt hash⟩)) :
      Reported n url rawTx (.ok (.pending (Hex.encode0x hash.val) reason), n')

/-- Finding the address asks nothing. -/
theorem asked_resolve {endpoint : String} (h : n.resolve endpoint = .ok (url, n')) :
    Asked n n' [] := by
  unfold Network.resolve at h
  split at h
  · obtain ⟨-, rfl⟩ := Prod.mk.inj (Except.ok.inj h)
    exact Asked.none
  · split at h
    · cases h
    · obtain ⟨-, rfl⟩ := Prod.mk.inj (Except.ok.inj h)
      exact ⟨rfl, rfl, (List.append_nil _).symm⟩

/-- With no question put the verdict is the same. -/
theorem Asked.verdict (h : Asked n n' []) (url : Url.Web) (rawTx : Bytes) :
    n'.verdict url rawTx = n.verdict url rawTx := by
  have hcalls := h.calls
  rw [List.append_nil] at hcalls
  rw [Network.verdict, Network.verdict, h.node, h.rpcTimeout, hcalls]

/-- To resolve an endpoint puts no question. -/
theorem Reported.resolved {ended : BroadcastResult × Network} (h : Reported n' url rawTx ended)
    (asked : Asked n n' []) : Reported n url rawTx ended := by
  have hverdict := asked.verdict url rawTx
  cases h with
  | failed verdict more => exact .failed (hverdict.symm.trans verdict) (asked.trans more)
  | late verdict more =>
    rw [asked.rpcTimeout]
    exact .late (hverdict.symm.trans verdict) (asked.trans more)
  | mined verdict more calls answer confirms =>
    rw [asked.node] at answer
    exact .mined (hverdict.symm.trans verdict) (asked.trans more) calls answer confirms
  | pending verdict more => exact .pending (hverdict.symm.trans verdict) (asked.trans more)

/-- A broadcast to an endpoint that spells an address. -/
theorem Faithful.reported {endpoint : String} (h : Faithful n)
    (spelled : Endpoint.parse endpoint = .ok url) (rawTx : Bytes) :
    Reported n url rawTx (n.broadcast rawTx endpoint) := by
  unfold Network.broadcast
  rcases h.resolve endpoint with ⟨why, hparse, -⟩ | ⟨url', n₁, hparse, hresolve, -⟩
  · cases spelled.symm.trans hparse
  · obtain rfl := Except.ok.inj (spelled.symm.trans hparse)
    rw [hresolve]
    -- the endpoint is resolved before anything is asked
    refine Reported.resolved ?_ (asked_resolve hresolve)
    have hasked := Asked.ask n₁ url (.send rawTx)
    have hread := decoded_send n₁ url rawTx
    dsimp only
    rcases hask : n₁.ask url (.send rawTx) with ⟨answer, n₂⟩
    rw [hask] at hasked hread
    dsimp only at hread ⊢
    rw [hread]
    cases hverdict : n₁.verdict url rawTx with
    | failed text => exact .failed hverdict hasked
    | late =>
      have hlimit := hasked.rpcTimeout
      show Reported n₁ url rawTx (.error (.timeout n₂.rpcTimeout), n₂)
      rw [hlimit]
      exact .late hverdict hasked
    | acknowledged hash =>
      have hawaited := awaited n₂.receiptRounds true n₂ url hash
      dsimp only [Verdict.answer]
      rcases hawait : awaitReceipt n₂.receiptRounds true n₂ url hash with ⟨result, n₃⟩
      rw [hawait] at hawaited
      -- from here on only the receipt is asked for
      obtain ⟨rounds, hwaited⟩ := hawaited.asked
      cases result with
      | error reason => exact .pending hverdict (hasked.trans hwaited)
      | ok tx =>
        obtain ⟨before, v, hcalls, hanswer, hconfirms⟩ := hawaited.found tx rfl
        rw [hasked.node] at hanswer
        exact .mined hverdict (hasked.trans hwaited) hcalls hanswer hconfirms

/-! ## Receipts -/

/-- The node at this endpoint has the transaction and gave its hash in time. -/
def Acknowledges (n : Network) (endpoint : String) (rawTx : Bytes) : Prop :=
  ∃ url hash, Endpoint.parse endpoint = .ok url ∧ n.verdict url rawTx = .acknowledged hash

/-- The hash is missing exactly if the node did not acknowledge the transaction. -/
theorem Reported.receipt {ended : BroadcastResult × Network} (h : Reported n url rawTx ended)
    (jobId : JobId) : (Receipt.ofOutcome jobId ended.1).transactionHash = "" ↔
      ∀ hash, n.verdict url rawTx ≠ .acknowledged hash := by
  have hmarked (bs : Bytes) : Hex.encode0x bs ≠ "" := by simp [Hex.encode0x]
  cases h with
  | failed verdict asked => simp [Receipt.ofOutcome, verdict]
  | late verdict asked => simp [Receipt.ofOutcome, verdict]
  | mined verdict asked calls answer confirms =>
    obtain ⟨named, own, -, -, hown⟩ := confirms.hash
    simp [Receipt.hash_ok, Outcome.hash, verdict, hown, hmarked]
  | pending verdict asked => simp [Receipt.hash_ok, Outcome.hash, verdict, hmarked]

/-- What the verdict makes of the broadcast. -/
theorem Reported.tells {result : BroadcastResult} (h : Reported n url rawTx (result, n')) :
    (∃ more, n'.calls = n.calls ++ ⟨url, .send rawTx⟩ :: more ∧
      ∀ call ∈ more, ∃ hash, call = ⟨url, .receipt hash⟩) ∧
    (∀ text, n.verdict url rawTx = .failed text → result = .error (.rpc text)) ∧
    (n.verdict url rawTx = .late → result = .error (.timeout n.rpcTimeout)) ∧
    ∀ hash, n.verdict url rawTx = .acknowledged hash →
      (∃ tx before v, result = .ok (.mined tx) ∧ n'.calls = before ++ [⟨url, .receipt hash⟩] ∧
        n.node before ⟨url, .receipt hash⟩ = .result v ∧ Confirms v tx) ∨
      ∃ reason, result = .ok (.pending (Hex.encode0x hash.val) reason) := by
  cases h with
  | failed verdict asked =>
    refine ⟨⟨[], asked.calls, by simp⟩, ?_⟩
    simp [verdict]
  | late verdict asked =>
    refine ⟨⟨[], asked.calls, by simp⟩, ?_⟩
    simp [verdict]
  | @mined hash _ _ tx before v verdict asked calls answer confirms =>
    refine ⟨⟨_, asked.calls, fun call hcall => ⟨hash, List.eq_of_mem_replicate hcall⟩⟩, ?_⟩
    simp only [verdict, reduceCtorEq, false_implies, implies_true, Verdict.acknowledged.injEq,
      true_and]
    rintro _ rfl
    exact Or.inl ⟨tx, before, v, rfl, calls, answer, confirms⟩
  | @pending hash _ _ reason verdict asked =>
    refine ⟨⟨_, asked.calls, fun call hcall => ⟨hash, List.eq_of_mem_replicate hcall⟩⟩, ?_⟩
    simp only [verdict, reduceCtorEq, false_implies, implies_true, Verdict.acknowledged.injEq,
      true_and]
    rintro _ rfl
    exact Or.inr ⟨reason, rfl⟩

/-- **A transaction that a node has is never called unsent.**  Whatever nodes reply, and whatever
    the network was used for before: an endpoint that spells no address is refused and nothing is
    asked.  Otherwise the transaction is sent once, and after that at most its receipt is asked
    for.  The broadcast fails if the node reports a failure, or gives no answer in time; if the
    node acknowledges the transaction, the result is its receipt with that receipt's hash and
    status, or a pending transaction of the acknowledged hash.  So a receipt without a hash means
    that the node did not acknowledge, and one without a message that the transaction succeeded. -/
theorem acknowledged_never_unsent (used : n.InUse) {endpoint : String} (rawTx : Bytes)
    (jobId : JobId) {result : BroadcastResult} {n' : Network}
    (ends : n.broadcast rawTx endpoint = (result, n')) :
    (∀ why, Endpoint.parse endpoint = .error why →
      result = .error (.invalidEndpoint endpoint why.reason) ∧ n' = n) ∧
    (∀ url, Endpoint.parse endpoint = .ok url →
      (∃ more, n'.calls = n.calls ++ ⟨url, .send rawTx⟩ :: more ∧
        ∀ call ∈ more, ∃ hash, call = ⟨url, .receipt hash⟩) ∧
      (∀ text, n.verdict url rawTx = .failed text → result = .error (.rpc text)) ∧
      (n.verdict url rawTx = .late → result = .error (.timeout n.rpcTimeout)) ∧
      ∀ hash, n.verdict url rawTx = .acknowledged hash →
        (∃ tx before v, result = .ok (.mined tx) ∧
          n'.calls = before ++ [⟨url, .receipt hash⟩] ∧
          n.node before ⟨url, .receipt hash⟩ = .result v ∧ Confirms v tx) ∨
        ∃ reason, result = .ok (.pending (Hex.encode0x hash.val) reason)) ∧
    ((Receipt.ofOutcome jobId result).transactionHash = "" ↔ ¬ n.Acknowledges endpoint rawTx) ∧
    ((Receipt.ofOutcome jobId result).success = true ↔
      ∃ tx, result = .ok (.mined tx) ∧ tx.success = true) ∧
    ((Receipt.ofOutcome jobId result).message = "" ↔
      (Receipt.ofOutcome jobId result).success = true) := by
  have hrefused : ∀ why, Endpoint.parse endpoint = .error why →
      result = .error (.invalidEndpoint endpoint why.reason) ∧ n' = n := by
    intro why hparse
    rcases used.faithful.broadcast rawTx endpoint with ⟨why', hnone, hsame⟩ | ⟨⟨url, hurl⟩, -⟩
    · obtain rfl := Except.error.inj (hparse.symm.trans hnone)
      exact Prod.mk.inj (ends.symm.trans hsame)
    · cases hparse.symm.trans hurl
  have hreported : ∀ url, Endpoint.parse endpoint = .ok url →
      Reported n url rawTx (result, n') := by
    intro url hparse
    rw [← ends]
    exact used.faithful.reported hparse rawTx
  refine ⟨hrefused, fun url hparse => (hreported url hparse).tells, ?_, Receipt.success_iff,
    Receipt.message_iff⟩
  unfold Acknowledges
  cases hparse : Endpoint.parse endpoint with
  | error why =>
    rw [(hrefused why hparse).1]
    simp [Receipt.ofOutcome]
  | ok url =>
    rw [(hreported url hparse).receipt jobId]
    simp

/-- A node that acknowledges a transaction and has no receipt yet; then it cannot be reached. -/
def fleeting : Network where
  node := fun before call =>
    match call.question with
    | .send _ =>
      .result (.string "0x2a2a2a2a2a2a2a2a2a2a2a2a2a2a2a2a2a2a2a2a2a2a2a2a2a2a2a2a2a2a2a2a")
    | .receipt _ => if before.length < 2 then .result .null else .unreachable
    | .balance _ => .silence
  rpcTimeout := 10
  receiptTimeout := 60

/-- The node acknowledges it, and is not heard of again. -/
theorem fleeting_acknowledges : fleeting.Acknowledges "http://[::1]:8545" [1] := by
  have haddress : (Endpoint.parse "http://[::1]:8545").toBool = true := by decide +kernel
  have hhash : hashOf (.string
      "0x2a2a2a2a2a2a2a2a2a2a2a2a2a2a2a2a2a2a2a2a2a2a2a2a2a2a2a2a2a2a2a2a") =
      .ok ⟨List.replicate 32 0x2a, rfl⟩ := by decide +kernel
  cases hparse : Endpoint.parse "http://[::1]:8545" with
  | error why =>
    rw [hparse] at haddress
    cases haddress
  | ok url =>
    refine ⟨url, ⟨List.replicate 32 0x2a, rfl⟩, hparse, ?_⟩
    simp [verdict, fleeting, hhash]

/-- The transaction counts as sent, with its hash. -/
theorem acknowledged_never_unsent_fleeting :
    fleeting.InUse ∧ fleeting.Acknowledges "http://[::1]:8545" [1] ∧
    (fleeting.broadcast [1] "http://[::1]:8545").1 = .ok (.pending
      "0x2a2a2a2a2a2a2a2a2a2a2a2a2a2a2a2a2a2a2a2a2a2a2a2a2a2a2a2a2a2a2a2a"
      "error sending request for url (http://[::1]:8545/)") ∧
    (Receipt.ofOutcome ⟨"job"⟩ (fleeting.broadcast [1] "http://[::1]:8545").1).transactionHash ≠
      "" := by
  have hused : fleeting.InUse := .fresh rfl
  obtain ⟨-, -, hreceipt, -⟩ :=
    @acknowledged_never_unsent _ hused "http://[::1]:8545" [1] ⟨"job"⟩ _ _ rfl
  refine ⟨hused, fleeting_acknowledges, by decide +kernel, fun hempty => ?_⟩
  exact hreceipt.mp hempty fleeting_acknowledges

end Network

end Rpc

end TxRelay
