/-
  The checks of an endpoint agree.

  Three places look at an endpoint.  The rules for settings read the address themselves and look at
  its scheme; a submission asks `Endpoint.parse`; a network of nodes looks the text up among those
  that it knows, and asks `Endpoint.parse` about a new one.  They agree on every text, and a text
  that one refuses the others refuse for the same reason.

  1. **The scheme.**  An address is one of the web exactly if its scheme is http or https
     (`Url.parse_web_iff`).  So it does not matter whether one looks at the kind of the address or
     at its scheme.

  2. **The rules for settings.**  The rule about the endpoint is broken exactly if the check refuses
     the text, and says why (`checkEndpoint_eq`).  No other rule names the endpoint
     (`check_endpoint`), so the list of all violations says it too (`rule_agrees`, `rule_message`).

  3. **Submissions.**  Of a request that is in order otherwise, the engine says what the check says
     (`submit_endpoint`).

  4. **Networks of nodes.**  What a network remembers of a text is what the text spells: it is
     `Faithful`, whatever it was asked before (`InUse.faithful`).  A faithful network goes to the
     address that the text spells or refuses it in the words of the check (`Faithful.resolve`), and
     whatever goes wrong after that is not called the endpoint's fault (`errorOf_ne`).

  The crux is the memory.  A network's answer depends on what it was asked before, and the claim is
  that it does not; `Faithful` is the invariant that carries this, and it is kept because only
  `resolve` adds to the memory, and adds what it has just read.
-/
import TxRelay.Config.Load
import TxRelay.Proofs.Engine.Alone
import TxRelay.Rpc.Network

namespace TxRelay

/-! ## Addresses and their schemes -/

namespace Url

/-- An address of the web. -/
def Location.IsWeb : Location → Prop
  | web _ => True
  | other _ => False

theorem knownAddress_ok {scheme : String} {ownPort : Nat} {cs : List Char} {location : Location}
    (h : knownAddress scheme ownPort cs = .ok location) :
    location.scheme = scheme ∧ (location.IsWeb ↔ scheme = "http" ∨ scheme = "https") := by
  unfold knownAddress at h
  cases ha : authority true cs with
  | error e =>
    rw [ha] at h
    cases h
  | ok a =>
    rw [ha] at h
    by_cases hweb : scheme = "http" ∨ scheme = "https"
    · simp only [bind, Except.bind, if_pos hweb] at h
      obtain rfl := Except.ok.inj h
      exact ⟨rfl, iff_of_true trivial hweb⟩
    · simp only [bind, Except.bind, if_neg hweb] at h
      obtain rfl := Except.ok.inj h
      exact ⟨rfl, iff_of_false id hweb⟩

/-- The schemes of the web are known. -/
theorem unknown_scheme {scheme : String} (unknown : knownPort scheme = none) :
    ¬ (scheme = "http" ∨ scheme = "https") := by
  rintro (rfl | rfl)
  · cases unknown
  · cases unknown

/-- An address is one of the web exactly if its scheme says so. -/
theorem parse_web_iff {s : String} {location : Location} (h : parse s = .ok location) :
    location.IsWeb ↔ location.scheme = "http" ∨ location.scheme = "https" := by
  unfold parse at h
  split at h
  · cases h
  · rename_i scheme rest hscheme
    split at h
    · rename_i ownPort hport
      obtain ⟨hsame, hweb⟩ := knownAddress_ok h
      rw [hsame]
      exact hweb
    · rename_i hport
      -- a scheme that is not known gives an address of no web, whatever stands behind it
      have hother (location' : Location) (h' : location' = .other scheme) :
          location'.IsWeb ↔ location'.scheme = "http" ∨ location'.scheme = "https" := by
        subst h'
        exact iff_of_false id (unknown_scheme hport)
      apply hother
      split at h
      · cases hhost : fileHost rest with
        | error e =>
          rw [hhost] at h
          cases h
        | ok u =>
          rw [hhost] at h
          exact (Except.ok.inj h).symm
      · split at h
        · rename_i cs
          cases ha : authority false cs with
          | error e =>
            rw [ha] at h
            cases h
          | ok a =>
            rw [ha] at h
            exact (Except.ok.inj h).symm
        · exact (Except.ok.inj h).symm

end Url

/-- A text that the check refuses is refused in these words; any other is an endpoint. -/
theorem Endpoint.resolve_cases (s : String) :
    (∃ why, parse s = .error why ∧ resolve s = .error (.invalidEndpoint s why.reason)) ∨
    (∃ url, parse s = .ok url ∧ resolve s = .ok url) := by
  unfold resolve
  cases parse s with
  | error why => exact Or.inl ⟨why, rfl, rfl⟩
  | ok url => exact Or.inr ⟨url, rfl, rfl⟩

/-! ## The rules for settings -/

namespace Config

/-- The rule about the endpoint is broken exactly if the text is no endpoint, and says why. -/
theorem checkEndpoint_eq (endpoint : String) :
    checkEndpoint endpoint =
      match Endpoint.parse endpoint with
      | .ok _ => []
      | .error why => [.badEndpoint why] := by
  unfold checkEndpoint Endpoint.parse
  cases hparse : Url.parse endpoint with
  | error e => rfl
  | ok location =>
    have hweb := Url.parse_web_iff hparse
    cases location with
    | web address =>
      have hscheme : address.scheme = "http" ∨ address.scheme = "https" := hweb.mp trivial
      have hlisted : ["http", "https"].contains address.scheme = true := by simpa using hscheme
      simp only [Url.Location.scheme, hlisted]
      rfl
    | other scheme =>
      have hscheme : ¬ (scheme = "http" ∨ scheme = "https") := fun h => hweb.mpr h
      have hlisted : ["http", "https"].contains scheme = false := by simpa using hscheme
      simp only [Url.Location.scheme, hlisted]
      rfl

theorem filter_require {kept : Bool} {v : Violation} {field : String} (other : v.field ≠ field) :
    (require kept v).filter (·.field = field) = [] := by
  unfold require
  split
  · rfl
  · simp [other]

/-- The violations that name the endpoint are those of its rule. -/
theorem check_endpoint (c : Config) :
    c.check.filter (·.field = "network.default_endpoint") =
      checkEndpoint c.network.defaultEndpoint := by
  have hrule : (checkEndpoint c.network.defaultEndpoint).filter
      (·.field = "network.default_endpoint") = checkEndpoint c.network.defaultEndpoint := by
    rw [checkEndpoint_eq]
    split <;> rfl
  have hworkers : Violation.noWorkers.field ≠ "network.default_endpoint" := by decide
  have hinterval : Violation.noPollInterval.field ≠ "network.default_endpoint" := by decide
  have hrpc : Violation.noRpcTimeout.field ≠ "network.default_endpoint" := by decide
  have hreceipt : Violation.noReceiptTimeout.field ≠ "network.default_endpoint" := by decide
  have hmetrics (address : String) :
      (Violation.badMetricsAddress address).field ≠ "network.default_endpoint" := by
    show "observability.metrics_address" ≠ "network.default_endpoint"
    decide
  unfold check
  simp only [List.filter_append, filter_require hworkers, filter_require hinterval,
    filter_require hrpc, filter_require hreceipt, filter_require (hmetrics _), hrule,
    List.nil_append, List.append_nil]

/-- The rules say of the endpoint what the check says. -/
theorem rule_agrees (c : Config) :
    (∀ v ∈ c.check, v.field ≠ "network.default_endpoint") ↔
      ∃ url, Endpoint.resolve c.network.defaultEndpoint = .ok url := by
  have hrule := check_endpoint c
  rw [checkEndpoint_eq] at hrule
  have hnone : (∀ v ∈ c.check, v.field ≠ "network.default_endpoint") ↔
      c.check.filter (·.field = "network.default_endpoint") = [] := by
    rw [List.filter_eq_nil_iff]
    simp
  rw [hnone, hrule]
  rcases Endpoint.resolve_cases c.network.defaultEndpoint with
    ⟨why, hparse, hresolve⟩ | ⟨url, hparse, hresolve⟩
  · rw [hparse, hresolve]
    simp
  · rw [hparse, hresolve]
    simp

/-- The rule that a text breaks which is no endpoint, and its message. -/
theorem rule_message {c : Config} {why : Endpoint.Refusal}
    (refused : Endpoint.parse c.network.defaultEndpoint = .error why) :
    ∃ v, c.check.filter (·.field = "network.default_endpoint") = [v] ∧
      (∀ scheme, why = .unsupportedScheme scheme → v.message = why.reason) ∧
      (∀ err, why = .notAnAddress err → v.message = "invalid URL: " ++ why.reason) := by
  refine ⟨.badEndpoint why, ?_, ?_, ?_⟩
  · rw [check_endpoint, checkEndpoint_eq, refused]
  · rintro scheme rfl
    rfl
  · rintro err rfl
    rfl

end Config

/-! ## Submissions -/

namespace Engine

/-- The engine is live, and nothing but its endpoint can be wrong with the request. -/
structure Decides (e : Engine) (validate : Validate) (r : Request) : Prop where
  live : e.phase ≠ .destroyed
  payload : r.rawTx.isEmpty = false
  valid : validate r.rawTx = .ok ()

/-- What the engine then says is what the check says. -/
theorem submit_endpoint {validate : Validate} {r : Request} {e : Engine}
    (decides : e.Decides validate r) :
    (submit validate r e).1 =
      match Endpoint.parse r.endpoint with
      | .ok _ => .ok ()
      | .error why => .error (.invalidEndpoint r.endpoint why.reason) := by
  have hcheck : check validate r =
      match Endpoint.parse r.endpoint with
      | .ok _ => .ok ()
      | .error why => .error (.invalidEndpoint r.endpoint why.reason) := by
    unfold check
    rw [decides.payload, decides.valid]
    cases Endpoint.parse r.endpoint <;> rfl
  rcases @submit_live e validate r decides.live with ⟨err, hbad, hsubmit⟩ | ⟨hok, hsubmit⟩
  · rw [hsubmit, ← hcheck, hbad]
  · rw [hsubmit, ← hcheck, hok]

theorem submission_agrees {validate : Validate} {r : Request} {e : Engine}
    (decides : e.Decides validate r) :
    (∀ spelled reason, (submit validate r e).1 ≠ .error (.invalidEndpoint spelled reason)) ↔
      ∃ url, Endpoint.resolve r.endpoint = .ok url := by
  rw [submit_endpoint decides]
  rcases Endpoint.resolve_cases r.endpoint with
    ⟨why, hparse, hresolve⟩ | ⟨url, hparse, hresolve⟩
  · rw [hparse, hresolve]
    simp
  · rw [hparse, hresolve]
    simp

end Engine

/-! ## Networks of nodes -/

namespace Rpc.Network

variable {n n' : Network}

/-- What the network remembers of a text is what the text spells. -/
def Faithful (n : Network) : Prop :=
  ∀ entry ∈ n.cached, Endpoint.parse entry.1 = .ok entry.2

/-- A network in use: it was new once, and answered questions and sent transactions since. -/
inductive InUse : Network → Prop where
  | fresh {n : Network} (new : n.cached = []) : InUse n
  | broadcast {n : Network} (before : InUse n) (rawTx : Bytes) (endpoint : String) :
      InUse (n.broadcast rawTx endpoint).2
  | balance {n : Network} (before : InUse n) (account : Address) (endpoint : String) :
      InUse (n.balance account endpoint).2

theorem lookup_mem {endpoint : String} {url : Url.Web} {cached : List (String × Url.Web)}
    (h : cached.lookup endpoint = some url) : (endpoint, url) ∈ cached := by
  induction cached with
  | nil => cases h
  | cons entry rest ih =>
    obtain ⟨known, address⟩ := entry
    rw [List.lookup_cons] at h
    split at h
    · rename_i hsame
      obtain rfl := Option.some.inj h
      obtain rfl := eq_of_beq hsame
      exact List.mem_cons_self
    · exact List.mem_cons_of_mem _ (ih h)

/-- A faithful network goes to the address that the endpoint spells, and refuses it if there is
    none, in the words of the check. -/
theorem Faithful.resolve (h : Faithful n) (endpoint : String) :
    (∃ why, Endpoint.parse endpoint = .error why ∧
      n.resolve endpoint = .error (.invalidEndpoint endpoint why.reason)) ∨
    (∃ url n', Endpoint.parse endpoint = .ok url ∧ n.resolve endpoint = .ok (url, n') ∧
      Faithful n') := by
  unfold Network.resolve
  cases hcached : n.cached.lookup endpoint with
  | some url =>
    have hspelled : Endpoint.parse endpoint = .ok url := h (endpoint, url) (lookup_mem hcached)
    exact Or.inr ⟨url, n, hspelled, rfl, h⟩
  | none =>
    unfold Endpoint.resolve
    cases hparse : Endpoint.parse endpoint with
    | error why => exact Or.inl ⟨why, rfl, rfl⟩
    | ok url =>
      refine Or.inr ⟨url, _, rfl, rfl, ?_⟩
      intro entry hentry
      rcases List.mem_append.mp hentry with hold | hnew
      · exact h entry hold
      · obtain rfl := List.mem_singleton.mp hnew
        exact hparse

/-! ### Questions leave the memory alone -/

@[simp] theorem ask_cached (url : Url.Web) (q : Question) :
    (n.ask url q).2.cached = n.cached := by
  unfold ask
  dsimp only
  split <;> rfl

theorem awaitReceipt_cached (rounds : Nat) (first : Bool) (url : Url.Web) (hash : Hash) :
    (awaitReceipt rounds first n url hash).2.cached = n.cached := by
  induction rounds generalizing first n with
  | zero => rfl
  | succ rounds ih =>
    have hasked := ask_cached (n := n) url (.receipt hash)
    unfold awaitReceipt
    rcases hask : n.ask url (.receipt hash) with ⟨answer, asked⟩
    rw [hask] at hasked
    dsimp only
    split
    · exact hasked
    · exact hasked
    · exact (ih false).trans hasked
    · split
      · exact (ih false).trans hasked
      · exact hasked

theorem Faithful.of_cached (h : Faithful n) (same : n'.cached = n.cached) : Faithful n' := by
  intro entry hentry
  rw [same] at hentry
  exact h entry hentry

/-- What went wrong with a question is not the endpoint's fault. -/
theorem errorOf_ne (fault : Fault) (endpoint reason : String) :
    n.errorOf fault ≠ .invalidEndpoint endpoint reason := by
  cases fault <;> simp [errorOf]

/-- A faithful network's broadcast: the endpoint is refused in the words of the check, or it is
    one, and then nothing that goes wrong is called its fault. -/
theorem Faithful.broadcast (h : Faithful n) (rawTx : Bytes) (endpoint : String) :
    (∃ why, Endpoint.parse endpoint = .error why ∧
      n.broadcast rawTx endpoint = (.error (.invalidEndpoint endpoint why.reason), n)) ∨
    ((∃ url, Endpoint.parse endpoint = .ok url) ∧
      (∀ spelled reason,
        (n.broadcast rawTx endpoint).1 ≠ .error (.invalidEndpoint spelled reason)) ∧
      Faithful (n.broadcast rawTx endpoint).2) := by
  unfold Network.broadcast
  rcases h.resolve endpoint with ⟨why, hparse, hresolve⟩ | ⟨url, n₁, hparse, hresolve, hfaithful⟩
  · rw [hresolve]
    exact Or.inl ⟨why, hparse, rfl⟩
  · rw [hresolve]
    refine Or.inr ⟨⟨url, hparse⟩, ?_⟩
    have hasked := ask_cached (n := n₁) url (.send rawTx)
    rcases hask : n₁.ask url (.send rawTx) with ⟨answer, n₂⟩
    rw [hask] at hasked
    dsimp only
    rw [hask]
    dsimp only
    split
    · rename_i fault hfault
      refine ⟨fun spelled reason heq => errorOf_ne fault spelled reason (Except.error.inj heq), ?_⟩
      exact hfaithful.of_cached hasked
    · -- the node has taken it, and no wait for a receipt calls the endpoint invalid
      rename_i hash hhash
      have hawaited := awaitReceipt_cached (n := n₂) n₂.receiptRounds true url hash
      rcases hawait : awaitReceipt n₂.receiptRounds true n₂ url hash with ⟨mined, n₃⟩
      rw [hawait] at hawaited
      have hkept : Faithful n₃ := hfaithful.of_cached (hawaited.trans hasked)
      cases mined with
      | ok tx => exact ⟨fun spelled reason heq => (by cases heq), hkept⟩
      | error reason => exact ⟨fun spelled reason heq => (by cases heq), hkept⟩

/-- A faithful network's balance: the same. -/
theorem Faithful.balance (h : Faithful n) (account : Address) (endpoint : String) :
    (∃ why, Endpoint.parse endpoint = .error why ∧
      n.balance account endpoint = (.error (.invalidEndpoint endpoint why.reason), n)) ∨
    ((∃ url, Endpoint.parse endpoint = .ok url) ∧
      (∀ spelled reason,
        (n.balance account endpoint).1 ≠ .error (.invalidEndpoint spelled reason)) ∧
      Faithful (n.balance account endpoint).2) := by
  unfold Network.balance
  rcases h.resolve endpoint with ⟨why, hparse, hresolve⟩ | ⟨url, n₁, hparse, hresolve, hfaithful⟩
  · rw [hresolve]
    exact Or.inl ⟨why, hparse, rfl⟩
  · rw [hresolve]
    refine Or.inr ⟨⟨url, hparse⟩, ?_⟩
    have hasked := ask_cached (n := n₁) url (.balance account)
    rcases hask : n₁.ask url (.balance account) with ⟨answer, n₂⟩
    rw [hask] at hasked
    have hkept : Faithful n₂ := hfaithful.of_cached hasked
    dsimp only
    rw [hask]
    dsimp only
    split
    · exact ⟨fun spelled reason heq => (by cases heq), hkept⟩
    · rename_i fault hfault
      exact ⟨fun spelled reason heq =>
        errorOf_ne fault spelled reason (Except.error.inj heq), hkept⟩

/-- A network in use is faithful: a new one remembers nothing, and what is remembered later was
    read off its text. -/
theorem InUse.faithful (h : InUse n) : Faithful n := by
  induction h with
  | fresh new =>
    intro entry hentry
    rw [new] at hentry
    cases hentry
  | broadcast _ rawTx endpoint ih =>
    rcases ih.broadcast rawTx endpoint with ⟨why, -, hsame⟩ | ⟨-, -, hfaithful⟩
    · rw [hsame]
      exact ih
    · exact hfaithful
  | balance _ account endpoint ih =>
    rcases ih.balance account endpoint with ⟨why, -, hsame⟩ | ⟨-, -, hfaithful⟩
    · rw [hsame]
      exact ih
    · exact hfaithful

/-- A result of the network says of the endpoint what the check says. -/
def Agrees {α : Type} (endpoint : String) (result : Except NetworkError α) : Prop :=
  ((∀ spelled reason, result ≠ .error (.invalidEndpoint spelled reason)) ↔
    ∃ url, Endpoint.resolve endpoint = .ok url) ∧
  ∀ why, Endpoint.parse endpoint = .error why →
    result = .error (.invalidEndpoint endpoint why.reason)

theorem Agrees.of_cases {α : Type} {endpoint : String} {result : Except NetworkError α}
    (h : (∃ why, Endpoint.parse endpoint = .error why ∧
        result = .error (.invalidEndpoint endpoint why.reason)) ∨
      ((∃ url, Endpoint.parse endpoint = .ok url) ∧
        ∀ spelled reason, result ≠ .error (.invalidEndpoint spelled reason))) :
    Agrees endpoint result := by
  unfold Agrees Endpoint.resolve
  rcases h with ⟨why, hparse, rfl⟩ | ⟨⟨url, hparse⟩, hfair⟩
  · rw [hparse]
    simp
  · rw [hparse]
    simpa using hfair

theorem InUse.agrees (h : InUse n) (rawTx : Bytes) (account : Address) (endpoint : String) :
    Agrees endpoint (n.broadcast rawTx endpoint).1 ∧
      Agrees endpoint (n.balance account endpoint).1 := by
  constructor
  · apply Agrees.of_cases
    rcases h.faithful.broadcast rawTx endpoint with ⟨why, hparse, hsame⟩ | ⟨hparse, hfair, -⟩
    · exact Or.inl ⟨why, hparse, congrArg Prod.fst hsame⟩
    · exact Or.inr ⟨hparse, hfair⟩
  · apply Agrees.of_cases
    rcases h.faithful.balance account endpoint with ⟨why, hparse, hsame⟩ | ⟨hparse, hfair, -⟩
    · exact Or.inl ⟨why, hparse, congrArg Prod.fst hsame⟩
    · exact Or.inr ⟨hparse, hfair⟩

end Rpc.Network

end TxRelay
