/-
  Every broken rule is reported, and nothing else.

  There are six rules.  Each is about one field; the one about the metrics address counts only if
  metrics are enabled.

  1. **The rules.**  `Broken` says of each rule, without the check, when settings break it, and
     `message` what is then said, which depends on the content of that field alone.

  2. **The report.**  The check goes through the rules one after the other; the report is the list
     of the broken rules in their fixed order (`check_eq`).  So a rule is looked at whatever became
     of those before it.

  3. **Changes of one field.**  A change of one field is seen in the entry of that field and nowhere
     else (`Change.others_check`): the entries of the other rules are the same before and after.

  4. **Loading.**  Settings that were read are refused with the whole report, or accepted if it is
     empty (`load_fits`).

  The crux is that `report` is made of the rule and the content of its field, and not of the
  settings, so that messages are local by their type; what is left to prove is that the check gives
  nothing else.
-/
import TxRelay.Proofs.Config.Load
import TxRelay.Proofs.Endpoint

namespace TxRelay.Config

/-! ## The rules -/

/-- What a text must be to be an endpoint. -/
def IsWebAddress (s : String) : Prop :=
  ∃ address, Url.parse s = .ok address ∧ (address.scheme = "http" ∨ address.scheme = "https")

instance (s : String) : Decidable (IsWebAddress s) :=
  match h : Url.parse s with
  | .error _ => .isFalse fun ⟨_, ok, _⟩ => nomatch h.symm.trans ok
  | .ok address =>
    decidable_of_iff (address.scheme = "http" ∨ address.scheme = "https")
      ⟨fun web => ⟨address, h, web⟩,
        fun ⟨_, ok, web⟩ => Except.ok.inj (h.symm.trans ok) ▸ web⟩

/-- The rules that settings have to keep. -/
inductive Rule where
  | workers
  | pollInterval
  | endpoint
  | rpcTimeout
  | receiptTimeout
  | metricsAddress
deriving DecidableEq, Repr

namespace Rule

/-- The order in which broken rules are reported. -/
def all : List Rule :=
  [workers, pollInterval, endpoint, rpcTimeout, receiptTimeout, metricsAddress]

/-- The path of the field that a rule is about. -/
def path : Rule → String
  | workers => "engine.worker_threads"
  | pollInterval => "engine.poll_interval_ms"
  | endpoint => "network.default_endpoint"
  | rpcTimeout => "network.rpc_timeout_secs"
  | receiptTimeout => "network.receipt_timeout_secs"
  | metricsAddress => "observability.metrics_address"

/-- What that field holds. -/
def Content : Rule → Type
  | workers | pollInterval | rpcTimeout | receiptTimeout => UInt64
  | endpoint | metricsAddress => String

/-- The content of the field. -/
def content (c : Config) : (r : Rule) → r.Content
  | workers => c.engine.workerThreads
  | pollInterval => c.engine.pollInterval
  | endpoint => c.network.defaultEndpoint
  | rpcTimeout => c.network.rpcTimeout
  | receiptTimeout => c.network.receiptTimeout
  | metricsAddress => c.observability.metricsAddress

/-- The settings break the rule. -/
def Broken (c : Config) : Rule → Prop
  | workers => ¬ 1 ≤ c.engine.workerThreads.toNat
  | pollInterval => ¬ 0 < c.engine.pollInterval.toNat
  | endpoint => ¬ IsWebAddress c.network.defaultEndpoint
  | rpcTimeout => ¬ 0 < c.network.rpcTimeout.toNat
  | receiptTimeout => ¬ 0 < c.network.receiptTimeout.toNat
  | metricsAddress => c.observability.metricsEnabled = true ∧
      ¬ SocketAddress.isValid c.observability.metricsAddress = true

instance (c : Config) : DecidablePred (Broken c)
  | workers => inferInstanceAs (Decidable (¬ 1 ≤ c.engine.workerThreads.toNat))
  | pollInterval => inferInstanceAs (Decidable (¬ 0 < c.engine.pollInterval.toNat))
  | endpoint => inferInstanceAs (Decidable (¬ IsWebAddress c.network.defaultEndpoint))
  | rpcTimeout => inferInstanceAs (Decidable (¬ 0 < c.network.rpcTimeout.toNat))
  | receiptTimeout => inferInstanceAs (Decidable (¬ 0 < c.network.receiptTimeout.toNat))
  | metricsAddress => inferInstanceAs (Decidable (_ ∧ ¬ _ = true))

/-- What is said of a field that breaks the rule. -/
def message : (r : Rule) → r.Content → String
  | workers, _ => "must be at least 1"
  | pollInterval, _ | rpcTimeout, _ | receiptTimeout, _ => "must be greater than 0"
  | endpoint, text =>
    match Url.parse text with
    | .error e => "invalid URL: " ++ e.message
    | .ok address => "unsupported scheme '" ++ address.scheme ++ "'"
  | metricsAddress, (text : String) => "'" ++ text ++ "' is not a socket address"

/-- The entry for a field that breaks the rule. -/
def report : (r : Rule) → r.Content → Violation
  | workers, _ => .noWorkers
  | pollInterval, _ => .noPollInterval
  | endpoint, text =>
    match Url.parse text with
    | .error e => .badEndpoint (.notAnAddress e)
    | .ok address => .badEndpoint (.unsupportedScheme address.scheme)
  | rpcTimeout, _ => .noRpcTimeout
  | receiptTimeout, _ => .noReceiptTimeout
  | metricsAddress, text => .badMetricsAddress text

theorem mem_all (r : Rule) : r ∈ all := by cases r <;> decide

/-- No two rules are about one field. -/
theorem path_inj {r r' : Rule} : r.path = r'.path ↔ r = r' := by
  cases r <;> cases r' <;> decide

/-- A report names the field of its rule, -/
theorem field_report (r : Rule) (x : r.Content) : (r.report x).field = r.path := by
  cases r with
  | endpoint =>
    dsimp only [report]
    split <;> rfl
  | _ => rfl

/-- and says what the rule says of its content. -/
theorem message_report (r : Rule) (x : r.Content) : (r.report x).message = r.message x := by
  cases r with
  | endpoint =>
    dsimp only [report, message]
    split <;> rfl
  | _ => rfl

/-- The entries for one rule: one if it is broken, none otherwise. -/
def entries (c : Config) (r : Rule) : List Violation :=
  if r.Broken c then [r.report (r.content c)] else []

end Rule

/-! ## The report -/

/-- What is required and not kept is reported once. -/
theorem require_eq {kept : Bool} {v : Violation} {p : Prop} [Decidable p] (h : kept = true ↔ ¬ p) :
    require kept v = if p then [v] else [] := by
  unfold require
  by_cases hp : p
  · rw [if_pos hp, if_neg fun hkept => h.mp hkept hp]
  · rw [if_neg hp, if_pos (h.mpr hp)]

/-- The check of the endpoint is its rule. -/
theorem checkEndpoint_eq_entries (c : Config) :
    checkEndpoint c.network.defaultEndpoint = Rule.endpoint.entries c := by
  unfold checkEndpoint Rule.entries
  cases hparse : Url.parse c.network.defaultEndpoint with
  | error e =>
    have hbroken : Rule.endpoint.Broken c := fun ⟨_, ok, _⟩ => nomatch hparse.symm.trans ok
    simp [if_pos hbroken, Rule.report, Rule.content, hparse]
  | ok address =>
    have hkept : ["http", "https"].contains address.scheme = true ↔
        ¬ Rule.endpoint.Broken c := by
      simpa [Rule.Broken, IsWebAddress, hparse] using or_iff_not_imp_left
    simp only [require_eq hkept, Rule.report, Rule.content, hparse]

/-- The check looks at every rule in turn. -/
theorem check_eq (c : Config) : c.check = Rule.all.flatMap (Rule.entries c) := by
  have hpositive (n : UInt64) : decide (n ≠ 0) = true ↔ ¬ ¬ 0 < n.toNat := by
    rw [decide_eq_true_iff, Classical.not_not, Nat.pos_iff_ne_zero, ne_eq, ← UInt64.toNat_inj]
    rfl
  have hmetrics : (!c.observability.metricsEnabled ||
      SocketAddress.isValid c.observability.metricsAddress) = true ↔
        ¬ Rule.metricsAddress.Broken c := by
    cases henabled : c.observability.metricsEnabled <;> simp [Rule.Broken, henabled]
  unfold check
  rw [checkEndpoint_eq_entries, require_eq (p := Rule.workers.Broken c) (hpositive _),
    require_eq (p := Rule.pollInterval.Broken c) (hpositive _),
    require_eq (p := Rule.rpcTimeout.Broken c) (hpositive _),
    require_eq (p := Rule.receiptTimeout.Broken c) (hpositive _), require_eq hmetrics]
  simp [Rule.all, Rule.entries, Rule.report, Rule.content]

/-- What is reported is a broken rule, and each of them is. -/
theorem mem_check {c : Config} {v : Violation} :
    v ∈ c.check ↔ ∃ r, Rule.Broken c r ∧ v = r.report (r.content c) := by
  simp [check_eq, Rule.entries, Rule.mem_all]

/-- The report as paths and messages. -/
theorem check_shown (c : Config) :
    c.check.map (fun v => (v.field, v.message)) =
      (Rule.all.filter fun r => r.Broken c).map fun r => (r.path, r.message (r.content c)) := by
  rw [check_eq]
  induction Rule.all with
  | nil => rfl
  | cons r rest ih =>
    rw [List.flatMap_cons, List.map_append, ih, Rule.entries]
    by_cases hbroken : r.Broken c
    · simp [hbroken, Rule.field_report, Rule.message_report]
    · simp [hbroken]

/-- Settings that break every rule. -/
example :
    let c : Config := {
      engine := { workerThreads := 0, pollInterval := 0 }
      network := { defaultEndpoint := "ws://localhost:8546", rpcTimeout := 0, receiptTimeout := 0 }
      observability := { metricsEnabled := true, metricsAddress := "nowhere" } }
    c.check.map Violation.text =
      ["engine.worker_threads: must be at least 1",
        "engine.poll_interval_ms: must be greater than 0",
        "network.default_endpoint: unsupported scheme 'ws'",
        "network.rpc_timeout_secs: must be greater than 0",
        "network.receipt_timeout_secs: must be greater than 0",
        "observability.metrics_address: 'nowhere' is not a socket address"] := by
  decide +kernel

/-! ## Changes of one field -/

/-- Another value for one field. -/
inductive Change where
  | workerThreads (n : UInt64)
  | pollInterval (n : UInt64)
  | defaultEndpoint (text : String)
  | chainId (n : UInt64)
  | rpcTimeout (n : UInt64)
  | receiptTimeout (n : UInt64)
  | logLevel (text : String)
  | logFormat (format : LogFormat)
  | metricsEnabled (b : Bool)
  | metricsAddress (text : String)

namespace Change

/-- The settings with the new value. -/
def apply (c : Config) : Change → Config
  | workerThreads n => { c with engine.workerThreads := n }
  | pollInterval n => { c with engine.pollInterval := n }
  | defaultEndpoint text => { c with network.defaultEndpoint := text }
  | chainId n => { c with network.chainId := n }
  | rpcTimeout n => { c with network.rpcTimeout := n }
  | receiptTimeout n => { c with network.receiptTimeout := n }
  | logLevel text => { c with observability.logLevel := text }
  | logFormat format => { c with observability.logFormat := format }
  | metricsEnabled b => { c with observability.metricsEnabled := b }
  | metricsAddress text => { c with observability.metricsAddress := text }

/-- The rule that looks at the field, if one does. -/
def rule? : Change → Option Rule
  | workerThreads _ => some .workers
  | pollInterval _ => some .pollInterval
  | defaultEndpoint _ => some .endpoint
  | rpcTimeout _ => some .rpcTimeout
  | receiptTimeout _ => some .receiptTimeout
  | metricsEnabled _ | metricsAddress _ => some .metricsAddress
  | chainId _ | logLevel _ | logFormat _ => none

/-- The entries about other fields. -/
def others (change : Change) (vs : List Violation) : List Violation :=
  vs.filter fun v => some v.field ≠ change.rule?.map Rule.path

/-- The rules about other fields do not see the change. -/
theorem entries_apply {change : Change} {r : Rule} (other : change.rule? ≠ some r) (c : Config) :
    r.entries (change.apply c) = r.entries c := by
  cases change <;> cases r <;> first | exact absurd rfl other | rfl

/-- A change leaves the entries of other rules. -/
theorem others_entries (change : Change) (c : Config) (r : Rule) :
    change.others (r.entries c) = if change.rule? = some r then [] else r.entries c := by
  unfold others Rule.entries
  by_cases hbroken : r.Broken c
  · cases hrule : change.rule? with
    | none => simp [hbroken]
    | some r' =>
      by_cases hsame : r' = r
      · simp [hbroken, hsame, Rule.field_report]
      · simp [hbroken, hsame, Ne.symm hsame, Rule.field_report, Rule.path_inj]
  · simp [hbroken]

/-- A change of one field changes nothing about the entries of the others. -/
theorem others_check (change : Change) (c : Config) :
    change.others (change.apply c).check = change.others c.check := by
  rw [check_eq, check_eq]
  induction Rule.all with
  | nil => rfl
  | cons r rest ih =>
    have happend (vs ws : List Violation) :
        change.others (vs ++ ws) = change.others vs ++ change.others ws := List.filter_append vs ws
    rw [List.flatMap_cons, List.flatMap_cons, happend, happend, ih, others_entries, others_entries]
    by_cases hrule : change.rule? = some r
    · rw [if_pos hrule, if_pos hrule]
    · rw [if_neg hrule, if_neg hrule, entries_apply hrule]

end Change

/-! ## Loading -/

/-- A text that fits the settings is loaded, or refused for what the rules say of them. -/
theorem load_fits {bytes : Bytes} {s : String} {es : Toml.Entries} {c : Config}
    (text : String.fromUTF8? ⟨bytes.toArray⟩ = some s) (toml : Toml.parse s = some es)
    (fits : ofToml es = .ok c) :
    load (some bytes) = if c.check = [] then .ok c else .error (.invalid c.check) := by
  simp only [load, text, ofText, toml, fits, checked]
  split
  · rename_i hkept
    rw [if_pos hkept]
  · rename_i hbroken
    rw [if_neg hbroken]

/-- **Every broken rule is reported, and nothing else.**  The report of any settings has one entry
    for each broken rule, in the fixed order, with the path of its field and a message that
    depends on what the field holds; it is empty exactly if no rule is broken.  With another value
    in one field, the entries of the other fields are what they were.  A file whose text fits the
    settings is loaded as these settings if the report is empty, and refused with the report
    otherwise. -/
theorem check_complete (c : Config) :
    c.check.map (fun v => (v.field, v.message)) =
      (Rule.all.filter fun r => r.Broken c).map (fun r => (r.path, r.message (r.content c))) ∧
    (c.check = [] ↔ ∀ r, ¬ Rule.Broken c r) ∧
    (∀ change : Change, change.others (change.apply c).check = change.others c.check) ∧
    ∀ bytes s es, String.fromUTF8? ⟨bytes.toArray⟩ = some s → Toml.parse s = some es →
      ofToml es = .ok c →
        load (some bytes) = if c.check = [] then .ok c else .error (.invalid c.check) := by
  refine ⟨check_shown c, ?_, fun change => change.others_check c, fun _ _ _ => load_fits⟩
  rw [List.eq_nil_iff_forall_not_mem]
  constructor
  · intro hnone r hbroken
    exact hnone _ (mem_check.mpr ⟨r, hbroken, rfl⟩)
  · intro hkept v hv
    obtain ⟨r, hbroken, -⟩ := mem_check.mp hv
    exact hkept r hbroken

/-- A file that breaks three rules. -/
def brokenThrice : String :=
  "[engine]\nworker_threads = 0\n\n[network]\ndefault_endpoint = 'ws://localhost'\n\n" ++
    "[observability]\nmetrics_enabled = true\nmetrics_address = 'nowhere'\n"

/-- Three rules are broken at once, and each is reported. -/
theorem check_complete_thrice :
    ∃ c : Config, load (some (Bytes.ofString brokenThrice)) = .error (.invalid c.check) ∧
      c.check.map (fun v => (v.field, v.message)) =
        [("engine.worker_threads", "must be at least 1"),
          ("network.default_endpoint", "unsupported scheme 'ws'"),
          ("observability.metrics_address", "'nowhere' is not a socket address")] := by
  let c : Config := {
    engine := { workerThreads := 0 }
    network := { defaultEndpoint := "ws://localhost" }
    observability := { metricsEnabled := true, metricsAddress := "nowhere" } }
  -- the text is read in one computation, and the reading is taken apart again
  have hreads : (Toml.parse brokenThrice).bind (fun es => (ofToml es).toOption) = some c := by
    decide +kernel
  obtain ⟨es, htoml, hfits⟩ := Option.bind_eq_some_iff.mp hreads
  have hfits : ofToml es = .ok c := by
    cases hread : ofToml es with
    | error e =>
      rw [hread] at hfits
      cases hfits
    | ok d =>
      rw [hread] at hfits
      exact congrArg Except.ok (Option.some.inj hfits)
  obtain ⟨hshown, -, -, hload⟩ := check_complete c
  have hthree : ((Rule.all.filter fun r => r.Broken c).map fun r =>
      (r.path, r.message (r.content c))) =
        [("engine.worker_threads", "must be at least 1"),
          ("network.default_endpoint", "unsupported scheme 'ws'"),
          ("observability.metrics_address", "'nowhere' is not a socket address")] := by
    decide +kernel
  rw [hthree] at hshown
  refine ⟨c, ?_, hshown⟩
  rw [hload _ _ es (Bytes.fromUTF8?_ofString brokenThrice) htoml hfits, if_neg]
  intro hnone
  rw [hnone] at hshown
  cases hshown

end TxRelay.Config
