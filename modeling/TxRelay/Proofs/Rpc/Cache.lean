/-
  One provider for each endpoint.

  Calls race for the provider of an endpoint: several may find none, and each of these makes its
  own. Only the first that inserts its provider leaves a mark, and all of them ask through it.

  1. **What a step does.**  A step of one call moves this call on, and may add one provider or one
     request.  Insertion keeps what is there (`insert_known`) and otherwise adds at the end
     (`insert_unknown`), so the providers only grow (`Does.grows`).

  2. **The invariant.**  `Exact` says of every provider that some call made it from the endpoint's
     own address (`Made`), of every request that it went through the endpoint's own provider
     (`Own`), and of every call that its stage goes with what is stored (`Fits`).

  3. **Later.**  `Later` compares two moments: the providers of the first begin those of the second,
     and so do the requests.  What held of a provider, a request or a stage holds later on, and with
     this a step is only what it adds (`Does.exact`).

  4. **The keys.**  An endpoint has a provider exactly if a call used it and it spells an address
     (`Exact.mem_endpoints_iff`).

  5. **Alone.**  A call that nobody disturbs does what `Network.broadcast` and `Network.balance`
     say, from the first look at the providers to the last request.

  The crux is that a provider is stored for good.  So what a call once found it will always find,
  and a call that comes too late with its own provider goes on with the one that is there.
-/
import Mathlib.Data.List.Nodup
import Mathlib.Logic.Relation
import TxRelay.Proofs.Endpoint
import TxRelay.Rpc.Moment

namespace TxRelay.Rpc

open Relation (ReflTransGen)

variable {n : Network} {m m' : Moment} {i j : Nat} {t t' : Task} {p : Provider} {stage : Stage}
  {e : String}

/-! ## What a step does -/

namespace Moment

/-- The endpoints that have a provider, oldest first. -/
def endpoints (m : Moment) : List String := m.providers.map Prod.fst

/-- The network has as many endpoints as there are providers. -/
@[simp] theorem cachedEndpoints_network (m : Moment) :
    m.network.cachedEndpoints = m.endpoints.length := by
  simp [Network.cachedEndpoints, network, endpoints]

/-- An endpoint is known if a provider is found for it. -/
theorem mem_endpoints : e ∈ m.endpoints ↔ ∃ p, m.providers.lookup e = some p := by
  rw [← Option.isSome_iff_exists, List.lookup_isSome_iff]
  simp [endpoints]

@[simp] theorem goes_providers : (m.goes i t stage).providers = m.providers := rfl

@[simp] theorem goes_requests : (m.goes i t stage).requests = m.requests := rfl

@[simp] theorem goes_network : (m.goes i t stage).network = m.network := rfl

/-- The call goes on, and the others stay where they are. -/
theorem goes_task (task : m.tasks[i]? = some t) :
    (m.goes i t stage).tasks[j]? =
      if i = j then some { t with stage := stage } else m.tasks[j]? := by
  have hi : i < m.tasks.length := (List.getElem?_eq_some_iff.mp task).1
  simp [goes, List.getElem?_set, hi]

/-- To insert a provider moves no call, -/
theorem insert_tasks (m : Moment) (e : String) (p : Provider) : (m.insert e p).tasks = m.tasks := by
  unfold insert
  split <;> rfl

/-- and makes no request. -/
theorem insert_requests (m : Moment) (e : String) (p : Provider) :
    (m.insert e p).requests = m.requests := by
  unfold insert
  split <;> rfl

/-- A second provider for an endpoint is dropped. -/
theorem insert_known (known : m.providers.lookup e = some p) (made : Provider) :
    m.insert e made = m := by
  simp [insert, known]

/-- The first one is put at the end. -/
theorem insert_unknown (unknown : m.providers.lookup e = none) (made : Provider) :
    m.insert e made = { m with providers := m.providers ++ [(e, made)] } := by
  simp [insert, unknown]

/-- An answer is the end of a call, or it asks on through the same provider. -/
theorem hears_cases (m : Moment) (purpose : Purpose) (p : Provider)
    (answer : Except Network.Fault Json.Value) (next : Asking) :
    (∃ later, m.hears purpose p answer next = .asking p later) ∨
    ∃ result, m.hears purpose p answer next = .ended result := by
  cases next with
  | request =>
    cases purpose with
    | balance account =>
      refine Or.inr ?_
      cases hread : Network.decoded balanceOf answer <;> simp [hears, hread]
    | broadcast rawTx => cases hread : Network.decoded hashOf answer <;> simp [hears, hread]
  | receipt hash rounds first =>
    dsimp only [hears]
    split
    · exact Or.inr ⟨_, rfl⟩
    · exact Or.inr ⟨_, rfl⟩
    · exact Or.inl ⟨_, rfl⟩
    · split
      · exact Or.inl ⟨_, rfl⟩
      · exact Or.inr ⟨_, rfl⟩

end Moment

/-- A step moves no call but its own. -/
theorem Does.tasks (h : Does m i t m' stage) : m'.tasks = m.tasks := by
  cases h with
  | inserted => exact m.insert_tasks _ _
  | _ => rfl

/-- What an insertion does: the first one stores its provider, a later one takes the stored one. -/
theorem Does.inserts {made : Provider} (h : Does m i t m' stage)
    (inserting : t.stage = .inserting made) :
    (∀ p, m.providers.lookup t.endpoint = some p →
      m'.providers = m.providers ∧ stage = .asking p .request) ∧
    (m.providers.lookup t.endpoint = none →
      m'.providers = m.providers ++ [(t.endpoint, made)] ∧ stage = .asking made .request) := by
  cases h with
  | @inserted _ p inserts stored =>
    obtain rfl := Stage.inserting.inj (inserting.symm.trans inserts)
    refine ⟨fun q known => ?_, fun unknown => ?_⟩
    · rw [Moment.insert_known known] at stored ⊢
      obtain rfl := Option.some.inj (known.symm.trans stored)
      exact ⟨rfl, rfl⟩
    · rw [Moment.insert_unknown unknown] at stored ⊢
      rw [List.lookup_append, unknown, Option.none_or, List.lookup_cons_self] at stored
      obtain rfl := Option.some.inj stored
      exact ⟨rfl, rfl⟩
  | found looks | missing looks | refused looks | parsed looks | asked looks | unconfirmed looks
  | dropped looks => cases inserting.symm.trans looks

/-- Only the first insertion changes the providers. -/
theorem Does.grows (h : Does m i t m' stage) :
    m'.providers = m.providers ∨
    ∃ made, t.stage = .inserting made ∧ m.providers.lookup t.endpoint = none ∧
      m'.providers = m.providers ++ [(t.endpoint, made)] ∧ stage = .asking made .request := by
  have hinserts (made : Provider) := @Does.inserts _ _ _ _ _ made h
  cases h with
  | @inserted made _ inserting stored =>
    cases hknown : m.providers.lookup t.endpoint with
    | some p => exact Or.inl ((hinserts made inserting).1 p hknown).1
    | none => exact Or.inr ⟨made, inserting, rfl, (hinserts made inserting).2 hknown⟩
  | _ => exact Or.inl rfl

/-- Providers are added at the end. -/
theorem Does.isPrefix (h : Does m i t m' stage) : m.providers <+: m'.providers := by
  rcases h.grows with hsame | ⟨made, -, -, hgrown, -⟩
  · exact hsame ▸ List.prefix_rfl
  · rw [hgrown]
    exact List.prefix_append _ _

/-- The one step that makes a request asks through the provider that the call has. -/
theorem Does.requests (h : Does m i t m' stage) :
    m'.requests = m.requests ∨
    ∃ p next q, t.stage = .asking p next ∧ m'.requests = m.requests ++ [⟨i, p, ⟨p.url, q⟩⟩] := by
  cases h with
  | @asked p next q asks => exact Or.inr ⟨p, next, q, asks, rfl⟩
  | inserted => exact Or.inl (m.insert_requests _ _)
  | _ => exact Or.inl rfl

/-! ## The invariant -/

/-- What is known of a call by the stage that it is at. -/
def Fits (m : Moment) (i : Nat) (t : Task) : Stage → Prop
  | .looking | .parsing => True
  | .inserting made => made.maker = i ∧ Endpoint.parse t.endpoint = .ok made.url
  | .asking p _ => m.providers.lookup t.endpoint = some p
  | .ended result =>
    t.endpoint ∈ m.endpoints ∨
    ∃ why, Endpoint.parse t.endpoint = .error why ∧
      result = t.purpose.failed (.invalidEndpoint t.endpoint why.reason)

/-- A provider was made by a call for the endpoint that it is stored under. -/
structure Made (m : Moment) (e : String) (p : Provider) : Prop where
  maker : ∃ t, m.tasks[p.maker]? = some t ∧ t.endpoint = e ∧ t.stage.Passed
  spelled : Endpoint.parse e = .ok p.url

/-- A request goes through the one provider of its call's endpoint. -/
structure Own (m : Moment) (r : Asked) : Prop where
  provider : ∃ t, m.tasks[r.number]? = some t ∧ m.providers.lookup t.endpoint = some r.provider
  url : r.call.url = r.provider.url

/-- What holds of every reachable moment. -/
structure Exact (m : Moment) : Prop where
  once : m.endpoints.Nodup
  made : ∀ e p, m.providers.lookup e = some p → Made m e p
  fits : ∀ i t, m.tasks[i]? = some t → Fits m i t t.stage
  own : ∀ r ∈ m.requests, Own m r

/-- Nothing is forgotten: providers stay, and calls keep their endpoints and do not go back. -/
structure Later (m m' : Moment) : Prop where
  providers : m.providers <+: m'.providers
  tasks : ∀ (i : Nat) (t : Task), m.tasks[i]? = some t → ∃ t' : Task, m'.tasks[i]? = some t' ∧
    t'.endpoint = t.endpoint ∧ (t.stage.Passed → t'.stage.Passed)

/-- A provider that was found is found later on, the same one. -/
theorem Later.lookup (h : Later m m') (known : m.providers.lookup e = some p) :
    m'.providers.lookup e = some p :=
  h.providers.lookup_eq_some known

/-- Where a provider came from does not change, -/
theorem Later.made (h : Later m m') (made : Made m e p) : Made m' e p where
  maker := by
    obtain ⟨t, htask, rfl, hpassed⟩ := made.maker
    obtain ⟨t', htask', hendpoint, hkept⟩ := h.tasks _ t htask
    exact ⟨t', htask', hendpoint, hkept hpassed⟩
  spelled := made.spelled

/-- nor through which one a request went. -/
theorem Later.own (h : Later m m') {r : Asked} (own : Own m r) : Own m' r where
  provider := by
    obtain ⟨t, htask, hknown⟩ := own.provider
    obtain ⟨t', htask', hendpoint, -⟩ := h.tasks _ t htask
    exact ⟨t', htask', by rw [hendpoint]; exact h.lookup hknown⟩
  url := own.url

/-- What is known of a call stays true while others move. -/
theorem Fits.later (grown : m.providers <+: m'.providers) (h : Fits m i t stage) :
    Fits m' i t stage := by
  cases stage with
  | looking | parsing | inserting => exact h
  | asking p next => exact grown.lookup_eq_some h
  | ended result =>
    refine h.imp_left fun hknown => ?_
    obtain ⟨p, hp⟩ := Moment.mem_endpoints.mp hknown
    exact Moment.mem_endpoints.mpr ⟨p, grown.lookup_eq_some hp⟩

/-! ## One step -/

/-- A call that has passed stays so, and only a call that has a provider or is refused passes. -/
theorem Does.passed (h : Does m i t m' stage) (passed : t.stage.Passed) : stage.Passed := by
  cases h with
  | missing looks | refused looks | parsed looks | inserted looks =>
    rw [looks] at passed
    exact passed.elim
  | @asked p next q asks question =>
    rcases m.hears_cases t.purpose p (m.ask i p q).1 next with ⟨later, hlater⟩ | ⟨result, hresult⟩
    · rw [hlater]
      trivial
    · rw [hresult]
      trivial
  | _ => trivial

/-- What a step leads to is later. -/
theorem Does.later (h : Does m i t m' stage) (task : m.tasks[i]? = some t) :
    Later m (m'.goes i t stage) where
  providers := h.isPrefix
  tasks := fun j u hu => by
    have htask : m'.tasks[i]? = some t := by rw [h.tasks]; exact task
    rw [Moment.goes_task htask, h.tasks]
    split
    · rename_i hsame
      subst hsame
      obtain rfl := Option.some.inj (task.symm.trans hu)
      exact ⟨_, rfl, rfl, h.passed⟩
    · exact ⟨u, hu, rfl, id⟩

/-- The call itself knows at its next stage what it should. -/
theorem Does.fits (h : Does m i t m' stage) (fits : Fits m i t t.stage) : Fits m' i t stage := by
  -- a call that asks is known to have its provider, so that its endpoint is among the known ones
  have hasks {p : Provider} {next : Asking} (asks : t.stage = .asking p next) :
      m.providers.lookup t.endpoint = some p := by
    rw [asks] at fits
    exact fits
  cases h with
  | missing => trivial
  | found looks known => exact known
  | refused parses bad =>
    rcases Endpoint.resolve_cases t.endpoint with ⟨why, hparse, hresolve⟩ | ⟨url, -, hresolve⟩
    · obtain rfl := Except.error.inj (bad.symm.trans hresolve)
      exact Or.inr ⟨why, hparse, rfl⟩
    · cases bad.symm.trans hresolve
  | parsed parses good =>
    rcases Endpoint.resolve_cases t.endpoint with ⟨why, -, hresolve⟩ | ⟨url, hparse, hresolve⟩
    · cases good.symm.trans hresolve
    · obtain rfl := Except.ok.inj (good.symm.trans hresolve)
      exact ⟨rfl, hparse⟩
  | inserted inserts stored => exact stored
  | @asked p next q asks question =>
    have hknown : (m.ask i p q).2.providers.lookup t.endpoint = some p := hasks asks
    rcases m.hears_cases t.purpose p (m.ask i p q).1 next with ⟨later, hlater⟩ | ⟨result, hresult⟩
    · rw [hlater]
      exact hknown
    · rw [hresult]
      exact Or.inl (Moment.mem_endpoints.mpr ⟨p, hknown⟩)
  | unconfirmed asks | dropped asks => exact Or.inl (Moment.mem_endpoints.mpr ⟨_, hasks asks⟩)

/-- A provider that is there after the step was there before, or the call made it just now. -/
theorem Does.made (h : Does m i t m' stage) (task : m.tasks[i]? = some t) (before : Exact m)
    (known : m'.providers.lookup e = some p) : Made (m'.goes i t stage) e p := by
  have hlater := h.later task
  -- a provider that is stored just now was made by this call, which says so since it parsed
  rcases h.grows with hsame | ⟨made, inserts, -, hgrown, hasking⟩
  · rw [hsame] at known
    exact hlater.made (before.made e p known)
  · rw [hgrown, List.lookup_append, Option.or_eq_some_iff] at known
    rcases known with hold | ⟨-, hnew⟩
    · exact hlater.made (before.made e p hold)
    · have hfits := before.fits i t task
      rw [inserts] at hfits
      rw [List.lookup_cons] at hnew
      split at hnew
      · rename_i hsame
        obtain rfl := eq_of_beq hsame
        obtain rfl := Option.some.inj hnew
        refine ⟨⟨{ t with stage := stage }, ?_, rfl, ?_⟩, hfits.2⟩
        · rw [hfits.1, Moment.goes_task (h.tasks ▸ task), if_pos rfl]
        · rw [hasking]
          trivial
      · cases hnew

/-- A step of a call keeps providers, requests and stages exact. -/
theorem Does.exact (h : Does m i t m' stage) (task : m.tasks[i]? = some t) (before : Exact m) :
    Exact (m'.goes i t stage) where
  once := by
    rw [Moment.endpoints, Moment.goes_providers]
    rcases h.grows with hsame | ⟨made, -, hnone, hgrown, -⟩
    · rw [hsame]
      exact before.once
    · -- a provider is added only for an endpoint that has none
      have hfresh : t.endpoint ∉ m.endpoints := fun hmem => by
        obtain ⟨p, hp⟩ := Moment.mem_endpoints.mp hmem
        cases hnone.symm.trans hp
      rw [hgrown, List.map_append, List.map_singleton, ← List.concat_eq_append]
      exact List.Nodup.concat hfresh before.once
  made := fun e p known => h.made task before known
  fits := by
    intro j u hu
    rw [Moment.goes_task (h.tasks ▸ task), h.tasks] at hu
    split at hu
    · rename_i hsame
      subst hsame
      obtain rfl := Option.some.inj hu
      exact h.fits (before.fits _ t task)
    · exact (before.fits j u hu).later h.isPrefix
  own := by
    have hlater := h.later task
    intro r hr
    rcases h.requests with hsame | ⟨p, next, q, asks, hgrown⟩
    · exact hlater.own (before.own r (hsame ▸ hr))
    · rw [Moment.goes_requests, hgrown] at hr
      rcases List.mem_append.mp hr with hold | hnew
      · exact hlater.own (before.own r hold)
      · obtain rfl := List.mem_singleton.mp hnew
        have hfits := before.fits i t task
        rw [asks] at hfits
        exact hlater.own ⟨⟨t, task, hfits⟩, rfl⟩

/-! ## Runs -/

/-- Every moment is later than itself. -/
theorem Later.refl (m : Moment) : Later m m where
  providers := List.prefix_rfl
  tasks := fun _ t h => ⟨t, h, rfl, id⟩

/-- Later than later is later. -/
theorem Later.trans {m'' : Moment} (h : Later m m') (h' : Later m' m'') : Later m m'' where
  providers := h.providers.trans h'.providers
  tasks := fun i t ht => by
    obtain ⟨t', ht', hendpoint, hpassed⟩ := h.tasks i t ht
    obtain ⟨t'', ht'', hendpoint', hpassed'⟩ := h'.tasks i t' ht'
    exact ⟨t'', ht'', hendpoint'.trans hendpoint, hpassed' ∘ hpassed⟩

/-- Every step leads to something later. -/
theorem Step.later (h : Step m m') : Later m m' := by
  cases h with
  | call endpoint purpose =>
    refine ⟨List.prefix_rfl, fun i t ht => ⟨t, ?_, rfl, id⟩⟩
    rw [List.getElem?_append_left (List.getElem?_eq_some_iff.mp ht).1]
    exact ht
  | does task next => exact next.later task

/-- Every step keeps the invariant. -/
theorem Step.exact (h : Step m m') (before : Exact m) : Exact m' := by
  have hlater := h.later
  cases h with
  | does task next => exact next.exact task before
  | call endpoint purpose =>
    refine ⟨before.once, fun e p known => hlater.made (before.made e p known), ?_,
      fun r hr => hlater.own (before.own r hr)⟩
    intro i t ht
    rw [List.getElem?_append] at ht
    split at ht
    · exact before.fits i t ht
    · obtain rfl := List.mem_singleton.mp (List.mem_of_getElem? ht)
      trivial

/-- The invariant holds at every moment. -/
theorem Reachable.exact (h : Reachable n m) : Exact m := by
  induction h with
  | initial => constructor <;> simp [Moment.initial, Moment.endpoints]
  | step _ next ih => exact next.exact ih

/-- What the steps lead to, one after the other. -/
abbrev Path : Moment → Moment → Prop := ReflTransGen Step

/-- What steps lead to is later. -/
theorem Path.later (h : Path m m') : Later m m' := by
  induction h with
  | refl => exact Later.refl m
  | tail _ next ih => exact ih.trans next.later

/-! ## One provider for each endpoint -/

/-- A call has used the endpoint: it looked for the provider, and made one or was refused. -/
def Moment.Used (m : Moment) (e : String) : Prop :=
  ∃ t ∈ m.tasks, t.endpoint = e ∧ t.stage.Passed

/-- The endpoints that are known are those that were used and spell an address. -/
theorem Exact.mem_endpoints_iff (h : Exact m) :
    e ∈ m.endpoints ↔ m.Used e ∧ ∃ url, Endpoint.parse e = .ok url := by
  constructor
  · intro hmem
    obtain ⟨p, hp⟩ := Moment.mem_endpoints.mp hmem
    obtain ⟨t, htask, hendpoint, hpassed⟩ := (h.made e p hp).maker
    exact ⟨⟨t, List.mem_of_getElem? htask, hendpoint, hpassed⟩, p.url, (h.made e p hp).spelled⟩
  · rintro ⟨⟨t, ht, rfl, hpassed⟩, url, hurl⟩
    obtain ⟨i, htask⟩ := List.mem_iff_getElem?.mp ht
    have hfits := h.fits i t htask
    cases hstage : t.stage with
    | looking | parsing | inserting =>
      rw [hstage] at hpassed
      exact hpassed.elim
    | asking p next =>
      rw [hstage] at hfits
      exact Moment.mem_endpoints.mpr ⟨p, hfits⟩
    | ended result =>
      rw [hstage] at hfits
      -- a call that ended has its provider, or its endpoint spells no address
      rcases hfits with hknown | ⟨why, hwhy, -⟩
      · exact hknown
      · cases hurl.symm.trans hwhy

/-- What becomes of a call whose endpoint is refused. -/
theorem Exact.refused (h : Exact m) {why : Endpoint.Refusal} (task : m.tasks[i]? = some t)
    (refused : Endpoint.parse t.endpoint = .error why) :
    t.endpoint ∉ m.endpoints ∧ (∀ r ∈ m.requests, r.number ≠ i) ∧
    (t.stage.Passed →
      t.stage = .ended (t.purpose.failed (.invalidEndpoint t.endpoint why.reason))) := by
  have hunknown : t.endpoint ∉ m.endpoints := fun hmem => by
    obtain ⟨-, url, hurl⟩ := h.mem_endpoints_iff.mp hmem
    cases refused.symm.trans hurl
  refine ⟨hunknown, fun r hr hnumber => ?_, fun hpassed => ?_⟩
  · obtain ⟨t', htask', hknown⟩ := (h.own r hr).provider
    obtain rfl := Option.some.inj (task.symm.trans (hnumber ▸ htask'))
    exact hunknown (Moment.mem_endpoints.mpr ⟨_, hknown⟩)
  · have hfits := h.fits i t task
    cases hstage : t.stage with
    | looking | parsing | inserting =>
      rw [hstage] at hpassed
      exact hpassed.elim
    | asking p next =>
      rw [hstage] at hfits
      exact (hunknown (Moment.mem_endpoints.mpr ⟨p, hfits⟩)).elim
    | ended result =>
      rw [hstage] at hfits
      rcases hfits with hknown | ⟨why', hwhy, rfl⟩
      · exact (hunknown hknown).elim
      · obtain rfl := Except.error.inj (refused.symm.trans hwhy)
        rfl

/-- **Each endpoint has one provider, and keeps it.**  Whatever calls are made, and however their
    steps follow each other: no endpoint has two providers, and those that have one are those that
    a call has used and that spell an address.  A provider goes to the address that its endpoint
    spells.  A call that asks has the provider of its own endpoint, and every request of a call
    went through that one and to the address that the call's endpoint spells.  A call whose
    endpoint is refused asks nothing, leaves nothing behind and ends with the reason.  Of the
    calls that race to insert a provider the first one does, and the others take that one.  What
    is stored stays, whatever becomes of the calls. -/
theorem one_provider_each (h : Reachable n m) :
    m.endpoints.Nodup ∧
    (∀ e, e ∈ m.endpoints ↔ m.Used e ∧ ∃ url, Endpoint.parse e = .ok url) ∧
    (∀ e p, m.providers.lookup e = some p → Endpoint.parse e = .ok p.url) ∧
    (∀ (i : Nat) (t : Task) p next, m.tasks[i]? = some t → t.stage = .asking p next →
      m.providers.lookup t.endpoint = some p) ∧
    (∀ r ∈ m.requests, ∃ t : Task, m.tasks[r.number]? = some t ∧
      m.providers.lookup t.endpoint = some r.provider ∧
      Endpoint.parse t.endpoint = .ok r.call.url) ∧
    (∀ (i : Nat) (t : Task) why, m.tasks[i]? = some t → Endpoint.parse t.endpoint = .error why →
      t.endpoint ∉ m.endpoints ∧ (∀ r ∈ m.requests, r.number ≠ i) ∧
      (t.stage.Passed →
        t.stage = .ended (t.purpose.failed (.invalidEndpoint t.endpoint why.reason)))) ∧
    (∀ (i : Nat) (t : Task) made m' stage, m.tasks[i]? = some t → t.stage = .inserting made →
      Does m i t m' stage →
      (∀ p, m.providers.lookup t.endpoint = some p →
        m'.providers = m.providers ∧ stage = .asking p .request) ∧
      (m.providers.lookup t.endpoint = none →
        m'.providers = m.providers ++ [(t.endpoint, made)] ∧ stage = .asking made .request)) ∧
    (∀ m', Path m m' → m.providers <+: m'.providers ∧
      m.network.cachedEndpoints ≤ m'.network.cachedEndpoints) := by
  have hexact := h.exact
  refine ⟨hexact.once, fun e => hexact.mem_endpoints_iff, fun e p known =>
    (hexact.made e p known).spelled, ?_, ?_, fun i t why task refused =>
    hexact.refused task refused, fun i t made m' stage task inserting does =>
    does.inserts inserting, ?_⟩
  · intro i t p next task asking
    have hfits := hexact.fits i t task
    rw [asking] at hfits
    exact hfits
  · -- a request went through the endpoint's provider, which was made from its address
    intro r hr
    obtain ⟨t, htask, hknown⟩ := (hexact.own r hr).provider
    refine ⟨t, htask, hknown, ?_⟩
    rw [(hexact.own r hr).url]
    exact (hexact.made t.endpoint r.provider hknown).spelled
  · intro m' path
    have hgrown := path.later.providers
    simp only [Moment.cachedEndpoints_network, Moment.endpoints, List.length_map]
    exact ⟨hgrown, hgrown.length_le⟩

/-- A node that never answers. -/
def mute : Network where
  node := fun _ _ => .silence
  rpcTimeout := 2
  receiptTimeout := 2

/-- The address of a node on this machine. -/
def home : Url.Web where
  scheme := "http"
  user := ⟨[], none⟩
  host := .ipv6 [0, 0, 0, 0, 0, 0, 0, 1]
  port := some 8545
  path := ['/']
  query := none
  fragment := none

/-- Two calls raced for one provider, and the second was the first to insert its own.  The first
    asked through it and got no answer. -/
def raced : Moment where
  node := mute.node
  rpcTimeout := 2
  receiptTimeout := 2
  providers := [("http://[::1]:8545", ⟨1, home⟩)]
  requests := [⟨0, ⟨1, home⟩, ⟨home, .send [1]⟩⟩]
  tasks :=
    [⟨"http://[::1]:8545", .broadcast [1], .ended (.broadcast (.error (.timeout 2)))⟩,
      ⟨"http://[::1]:8545", .broadcast [2], .asking ⟨1, home⟩ .request⟩]

/-- Two calls found no provider, and the second inserted its own first. -/
theorem raced_reachable : Reachable mute raced := by
  have hhome : Endpoint.resolve "http://[::1]:8545" = .ok home := by decide +kernel
  have hcalled := ((@Reachable.initial mute).step (.call "http://[::1]:8545" (.broadcast [1]))).step
    (.call "http://[::1]:8545" (.broadcast [2]))
  have hmissing := (hcalled.step (@Step.does _ 0 _ _ _ rfl (.missing rfl rfl))).step
    (@Step.does _ 1 _ _ _ rfl (.missing rfl rfl))
  have hparsed := (hmissing.step (@Step.does _ 0 _ _ _ rfl (.parsed rfl hhome))).step
    (@Step.does _ 1 _ _ _ rfl (.parsed rfl hhome))
  have hinserted := (hparsed.step (@Step.does _ 1 _ _ _ rfl (.inserted rfl rfl))).step
    (@Step.does _ 0 _ _ _ rfl (.inserted rfl rfl))
  have hasked := hinserted.step (@Step.does _ 0 _ _ _ rfl (.asked rfl rfl))
  exact hasked

/-- Both ask through the provider that came first, and the other one is gone. -/
theorem one_provider_each_race :
    Reachable mute raced ∧ raced.endpoints = ["http://[::1]:8545"] ∧
    (∀ r ∈ raced.requests, r.provider = ⟨1, home⟩) ∧
    ∀ m', Path raced m' → 1 ≤ m'.network.cachedEndpoints := by
  obtain ⟨-, -, -, -, hown, -, -, hkept⟩ := one_provider_each raced_reachable
  refine ⟨raced_reachable, rfl, fun r hr => ?_, fun m' path => (hkept m' path).2⟩
  obtain ⟨t, htask, hknown, -⟩ := hown r hr
  obtain rfl := List.mem_singleton.mp hr
  obtain rfl := Option.some.inj htask
  exact (Option.some.inj hknown).symm

/-! ## Calls made alone -/

/-- One call goes on. -/
def Acts (i : Nat) (m m' : Moment) : Prop :=
  ∃ t m₁ stage, m.tasks[i]? = some t ∧ Does m i t m₁ stage ∧ m' = m₁.goes i t stage

/-- While the calls before it stand still, the last call comes to this end and leaves this
    network behind. -/
def Finishes (others : List Task) (m : Moment) (t : Task) (n' : Network) (result : Result) : Prop :=
  m.tasks = others ++ [t] → ∃ m', ReflTransGen (Acts others.length) m m' ∧ m'.network = n' ∧
    m'.tasks = others ++ [{ t with stage := .ended result }]

variable {others : List Task} {n' : Network} {result : Result}

/-- A call that has ended has finished. -/
theorem Finishes.done (h : t.stage = .ended result) : Finishes others m t m.network result := by
  intro htasks
  exact ⟨m, ReflTransGen.refl, rfl, by rw [htasks, ← h]⟩

/-- A call does one step more. -/
theorem Finishes.next (h : Does m others.length t m' stage)
    (rest : Finishes others (m'.goes others.length t stage) { t with stage := stage } n' result) :
    Finishes others m t n' result := by
  intro htasks
  have hgoes : (m'.goes others.length t stage).tasks = others ++ [{ t with stage := stage }] := by
    simp [Moment.goes, h.tasks, htasks]
  obtain ⟨m'', hpath, hnetwork, hended⟩ := rest hgoes
  refine ⟨m'', hpath.head ⟨t, m', stage, ?_, h, rfl⟩, hnetwork, hended⟩
  simp [htasks]

/-- A question changes nothing of the network but what is written down. -/
theorem Network.ask_network (n : Network) (url : Url.Web) (q : Question) :
    (n.ask url q).2 =
      { n with calls := n.calls ++ [⟨url, q⟩], answered := (n.ask url q).2.answered } := by
  unfold Network.ask
  dsimp only
  split <;> rfl

/-- A question changes no error that the nodes would give, -/
theorem Network.errorOf_ask (n : Network) (url : Url.Web) (q : Question) (fault : Fault) :
    (n.ask url q).2.errorOf fault = n.errorOf fault := by
  rw [ask_network]
  cases fault <;> rfl

/-- and not how often a receipt is asked for. -/
theorem Network.receiptRounds_ask (n : Network) (url : Url.Web) (q : Question) :
    (n.ask url q).2.receiptRounds = n.receiptRounds := by
  rw [ask_network]
  rfl

/-- A question of a call is a question to the network. -/
theorem Moment.ask_network (m : Moment) (i : Nat) (p : Provider) (q : Question) :
    (m.ask i p q).2.network = (m.network.ask p.url q).2 := by
  rw [Network.ask_network]
  simp only [network, Moment.ask, List.map_append]
  rfl

/-- A call asks a question. -/
theorem Finishes.ask {next : Asking} {q : Question} (asks : t.stage = .asking p next)
    (question : next.question? t.purpose = some q)
    (rest : ∀ m' : Moment, m'.network = (m.network.ask p.url q).2 →
      Finishes others m' { t with stage := m.hears t.purpose p (m.network.ask p.url q).1 next }
        n' result) :
    Finishes others m t n' result := by
  exact .next (.asked asks question) (rest _ (m.ask_network others.length p q))

/-- What is left of a broadcast that waits for its receipt. -/
theorem finishes_await {hash : Hash} (rounds : Nat) (first : Bool)
    (asks : t.stage = .asking p (.receipt hash rounds first)) :
    Finishes others m t (Network.awaitReceipt rounds first m.network p.url hash).2
      (.broadcast (.ok
        (match (Network.awaitReceipt rounds first m.network p.url hash).1 with
        | .ok tx => .mined tx
        | .error reason => .pending (Hex.encode0x hash.val) reason))) := by
  -- on the questions that are left
  induction rounds generalizing first m t with
  | zero => exact .next (.unconfirmed asks) (.done rfl)
  | succ rounds ih =>
    refine .ask asks rfl fun m' hm' => ?_
    have hmore {t' : Task} (asks' : t'.stage = .asking p (.receipt hash rounds false)) :=
      @ih m' t' false asks'
    rw [hm'] at hmore
    unfold Network.awaitReceipt
    dsimp only [Moment.hears]
    rcases hask : m.network.ask p.url (.receipt hash) with ⟨answer, n₁⟩
    rw [hask] at hm' hmore
    subst hm'
    cases hread : Network.decoded receiptOf answer with
    | error fault => cases fault <;> exact .done rfl
    | ok found =>
      cases found with
      | none => exact hmore rfl
      | some tx =>
        cases first with
        | true => exact hmore rfl
        | false => exact .done rfl

/-- The network knows the addresses of the providers. -/
theorem Moment.lookup_network (m : Moment) (e : String) :
    m.network.cached.lookup e = (m.providers.lookup e).map Provider.url := by
  show (m.providers.map fun entry => (entry.1, entry.2.url)).lookup e = _
  induction m.providers with
  | nil => rfl
  | cons entry rest ih =>
    rw [List.map_cons, List.lookup_cons, List.lookup_cons, ih]
    cases e == entry.1 <;> rfl

/-- A call that looks for a provider gets it, or is refused, as the network says. -/
theorem finishes_resolve (others : List Task) (m : Moment) (looks : t.stage = .looking) :
    (∃ why, m.network.resolve t.endpoint = .error why ∧
      Finishes others m t m.network (t.purpose.failed why)) ∨
    ∃ m₁ p, m.network.resolve t.endpoint = .ok (p.url, m₁.network) ∧
      ∀ n' result, Finishes others m₁ { t with stage := .asking p .request } n' result →
        Finishes others m t n' result := by
  unfold Network.resolve
  rw [Moment.lookup_network]
  cases hknown : m.providers.lookup t.endpoint with
  | some p =>
    exact Or.inr ⟨m.goes others.length t (.asking p .request), p, rfl, fun n' result rest =>
      .next (.found looks hknown) rest⟩
  | none =>
    dsimp only [Option.map_none]
    cases hresolve : Endpoint.resolve t.endpoint with
    | error why =>
      exact Or.inl ⟨why, rfl, .next (.missing looks hknown) (.next (.refused rfl hresolve)
        (.done rfl))⟩
    | ok url =>
      -- nobody comes between the look and the insertion, so the provider is the call's own
      let made : Provider := ⟨others.length, url⟩
      let parsing := m.goes others.length t .parsing
      let inserting := parsing.goes others.length { t with stage := .parsing } (.inserting made)
      have hinsert : inserting.insert t.endpoint made =
          { inserting with providers := m.providers ++ [(t.endpoint, made)] } :=
        @Moment.insert_unknown inserting _ hknown made
      have hstored : (inserting.insert t.endpoint made).providers.lookup t.endpoint =
          some made := by
        rw [hinsert, List.lookup_append, hknown, Option.none_or, List.lookup_cons_self]
      refine Or.inr ⟨_, made, ?_, fun n' result rest => .next (.missing looks hknown)
        (.next (.parsed rfl hresolve) (.next (.inserted rfl hstored) rest))⟩
      rw [Moment.goes_network, hinsert]
      simp [Moment.network, inserting, parsing, made, Moment.goes]

/-- **A broadcast that nobody disturbs does what the network says.**  While the calls before it
    stand still, it comes to this end and leaves this network behind. -/
theorem broadcast_undisturbed (m : Moment) (endpoint : String) (rawTx : Bytes) :
    Finishes others m ⟨endpoint, .broadcast rawTx, .looking⟩
      (m.network.broadcast rawTx endpoint).2
      (.broadcast (m.network.broadcast rawTx endpoint).1) := by
  unfold Network.broadcast
  rcases @finishes_resolve ⟨endpoint, .broadcast rawTx, .looking⟩ others m rfl with
    ⟨why, hresolve, hrefused⟩ | ⟨m₁, p, hresolve, hrest⟩
  · rw [hresolve]
    exact hrefused
  · rw [hresolve]
    -- the endpoint is resolved; the first question sends the transaction
    refine hrest _ _ (.ask rfl rfl fun m₂ hm₂ => ?_)
    have hfault := m₁.network.errorOf_ask p.url (.send rawTx)
    have hrounds := m₁.network.receiptRounds_ask p.url (.send rawTx)
    dsimp only [Moment.hears, Purpose.question] at hm₂ ⊢
    rw [← hm₂] at hfault hrounds ⊢
    cases hread : Network.decoded hashOf (m₁.network.ask p.url (.send rawTx)).1 with
    | error fault => exact .done (by simp only [hfault])
    | ok hash =>
      have hawait := @finishes_await m₂ ⟨endpoint, .broadcast rawTx,
        .asking p (.receipt hash m₁.network.receiptRounds true)⟩ p others hash _ true rfl
      rw [hrounds]
      dsimp only
      rcases hended : Network.awaitReceipt m₁.network.receiptRounds true m₂.network p.url hash with
        ⟨result, n₃⟩
      rw [hended] at hawait
      cases result <;> exact hawait

/-- The same of a call that asks for a balance. -/
theorem balance_undisturbed (m : Moment) (endpoint : String) (account : Address) :
    Finishes others m ⟨endpoint, .balance account, .looking⟩
      (m.network.balance account endpoint).2
      (.balance (m.network.balance account endpoint).1) := by
  unfold Network.balance
  rcases @finishes_resolve ⟨endpoint, .balance account, .looking⟩ others m rfl with
    ⟨why, hresolve, hrefused⟩ | ⟨m₁, p, hresolve, hrest⟩
  · rw [hresolve]
    exact hrefused
  · rw [hresolve]
    refine hrest _ _ (.ask rfl rfl fun m₂ hm₂ => ?_)
    have hfault := m₁.network.errorOf_ask p.url (.balance account)
    dsimp only [Moment.hears, Purpose.question] at hm₂ ⊢
    rw [← hm₂] at hfault ⊢
    cases hread : Network.decoded balanceOf (m₁.network.ask p.url (.balance account)).1 with
    | ok wei => exact .done rfl
    | error fault => exact .done (by simp only [hfault])

end TxRelay.Rpc
