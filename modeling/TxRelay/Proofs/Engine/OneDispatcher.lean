/-
  One dispatcher, and one end.

  Calls that start the engine meet in two places: at the slot of the receiver, which one of them
  finds full, and at the exchange of the phase, which fails if the engine was destroyed in between.
  `destroy` swaps the phase whatever it was, and `submit` looks at the phase before it sends.  Any
  number of these calls take their steps in any order.

  1. **Counting calls.**  A `Census` says how many calls come to the exchange, drop the receiver,
     are about to spawn, have started or have destroyed the engine.  One step of one call changes
     each of these numbers by what the call itself changes (`census_set`).

  2. **Where the receiver is.**  `Balanced` relates the numbers to the phase.  It is stated over
     numbers alone, so each step is one lemma that `omega` closes; `Kept.does` then matches the
     steps with the lemmas, and `Reachable.kept` is the induction.

  3. **Alone.**  A call that nobody disturbs does what the engine's operation does (`start_alone`,
     `destroy_alone`, `submit_alone`).

  4. **After the end.**  No step leads out of the last phase; whoever spawned a dispatcher won the
     exchange, and won it before the end (`Step.past`, `Spawners`).  A receiver that is gone does
     not come back (`Step.nobody`), so once the call that lost the exchange has dropped it, nothing
     is sent any more (`Step.lost`).

  The crux is that the receiver is never copied (`Balanced.once`), and that the phase tells where it
  is in a live engine: in the slot or in a call that comes to its exchange as long as the engine is
  `created`, in the call that won the exchange or in its dispatcher as soon as it is `working`.  So
  a call that loses the exchange lost it to `destroy` (`Balanced.lose`): had another call won it,
  that call would have the receiver.
-/
import Mathlib.Logic.Relation
import TxRelay.Engine.Callers
import TxRelay.Proofs.Engine.Lifecycle

namespace TxRelay.Engine

namespace Call

/-- The call exchanges the phase next. -/
@[simp] def exchanges : Call → Bool
  | exchanging => true
  | _ => false

@[simp] def drops : Call → Bool
  | dropping => true
  | _ => false

@[simp] def spawns : Call → Bool
  | spawning => true
  | _ => false

/-- The call started the engine. -/
@[simp] def won : Call → Bool
  | started (.ok true) => true
  | _ => false

/-- The call destroyed the engine: it answered `true`, or is about to. -/
@[simp] def ends : Call → Bool
  | triggering | destroyed true => true
  | _ => false

/-- The call knows that the engine was destroyed. -/
@[simp] def late : Call → Bool
  | dropping | triggering | destroyed _ => true
  | _ => false

end Call

namespace Callers

open Relation (ReflTransGen)

variable {validate : Validate} {pollInterval : UInt64} {s s' : Callers} {i j : Nat} {c c' : Call}

/-! ## Counting calls -/

/-- How many calls got how far. -/
structure Census where
  exchanges : Nat
  drops : Nat
  spawns : Nat
  won : Nat
  ends : Nat

def census (calls : List Call) : Census where
  exchanges := calls.countP Call.exchanges
  drops := calls.countP Call.drops
  spawns := calls.countP Call.spawns
  won := calls.countP Call.won
  ends := calls.countP Call.ends

/-- The numbers before and after a step of one call. -/
structure Census.Moves (n n' : Census) (c c' : Call) : Prop where
  exchanges : n'.exchanges + c.exchanges.toNat = n.exchanges + c'.exchanges.toNat
  drops : n'.drops + c.drops.toNat = n.drops + c'.drops.toNat
  spawns : n'.spawns + c.spawns.toNat = n.spawns + c'.spawns.toNat
  won : n'.won + c.won.toNat = n.won + c'.won.toNat
  ends : n'.ends + c.ends.toNat = n.ends + c'.ends.toNat

/-- What one entry of a list adds to a number, the entry that takes its place adds instead. -/
theorem countP_set {α : Type} {l : List α} {a b : α} (p : α → Bool) (held : l[i]? = some a) :
    (l.set i b).countP p + (p a).toNat = l.countP p + (p b).toNat := by
  obtain ⟨hi, rfl⟩ := List.getElem?_eq_some_iff.mp held
  have hpos (hp : p l[i] = true) : 0 < l.countP p :=
    List.countP_pos_iff.mpr ⟨_, List.getElem_mem hi, hp⟩
  rw [List.countP_set hi]
  cases ha : p l[i] with
  | true =>
    have := hpos ha
    cases p b <;> simp <;> omega
  | false => cases p b <;> simp

/-- The calls that have the receiver are of three kinds. -/
theorem countP_holds (calls : List Call) : calls.countP Call.holds =
    (census calls).exchanges + (census calls).drops + (census calls).spawns := by
  induction calls with
  | nil => rfl
  | cons c calls ih =>
    simp only [census, List.countP_cons] at ih ⊢
    cases c <;> simp [ih] <;> omega

/-- A step of one call changes the numbers by what the call changes. -/
theorem census_set (held : s.calls[i]? = some c) :
    (census s.calls).Moves (census (s.calls.set i c')) c c' where
  exchanges := countP_set _ held
  drops := countP_set _ held
  spawns := countP_set _ held
  won := countP_set _ held
  ends := countP_set _ held

/-! ## Where the receiver is -/

/-- The numbers of a phase of this rank: of slot, calls and dispatchers, and of those dispatchers
    that still run. -/
structure Balanced (rank slot : Nat) (n : Census) (spawned running : Nat) : Prop where
  /-- The receiver is not copied, and each dispatcher that was spawned got it. -/
  once : slot + n.exchanges + n.drops + n.spawns + spawned ≤ 1
  runs : running ≤ spawned
  created : rank = 0 → slot + n.exchanges = 1
  working : rank = 1 → n.spawns + running = 1
  won : n.won = spawned
  live : rank < 2 → n.ends = 0
  ended : rank = 2 → n.ends = 1

namespace Balanced

variable {rank slot spawned running : Nat} {n n' : Census}

/-- A call goes on that is counted as before. -/
theorem quiet (h : Balanced rank slot n spawned running) (moves : n.Moves n' c c')
    (exchanges : c.exchanges = c'.exchanges) (drops : c.drops = c'.drops)
    (spawns : c.spawns = c'.spawns) (won : c.won = c'.won) (ends : c.ends = c'.ends) :
    Balanced rank slot n' spawned running := by
  obtain ⟨hexchanges, hdrops, hspawns, hwon, hends⟩ := moves
  rw [exchanges] at hexchanges
  rw [drops] at hdrops
  rw [spawns] at hspawns
  rw [won] at hwon
  rw [ends] at hends
  obtain ⟨once, runs, created, working, won, live, ended⟩ := h
  constructor <;> omega

/-- A call takes the receiver out of the slot. -/
theorem take (h : Balanced rank 1 n spawned running) (moves : n.Moves n' .taking .exchanging) :
    Balanced rank 0 n' spawned running := by
  obtain ⟨hexchanges, hdrops, hspawns, hwon, hends⟩ := moves
  simp at hexchanges hdrops hspawns hwon hends
  obtain ⟨once, runs, created, working, won, live, ended⟩ := h
  constructor <;> omega

/-- A call exchanges the phase, and has the receiver still. -/
theorem win (h : Balanced 0 slot n spawned running) (moves : n.Moves n' .exchanging .spawning) :
    Balanced 1 slot n' spawned running := by
  obtain ⟨hexchanges, hdrops, hspawns, hwon, hends⟩ := moves
  simp at hexchanges hdrops hspawns hwon hends
  obtain ⟨once, runs, created, working, won, live, ended⟩ := h
  constructor <;> omega

/-- A call loses the exchange only if the engine was destroyed. -/
theorem lose (h : Balanced rank slot n spawned running) (moves : n.Moves n' .exchanging .dropping)
    (late : rank ≠ 0) : Balanced rank slot n' spawned running ∧ rank ≠ 1 := by
  obtain ⟨hexchanges, hdrops, hspawns, hwon, hends⟩ := moves
  simp at hexchanges hdrops hspawns hwon hends
  obtain ⟨once, runs, created, working, won, live, ended⟩ := h
  refine ⟨?_, by omega⟩
  constructor <;> omega

/-- The call that lost drops the receiver. -/
theorem drop {e : EngineError} (h : Balanced rank slot n spawned running)
    (moves : n.Moves n' .dropping (.started (.error e))) (gone : rank = 2) :
    Balanced rank slot n' spawned running := by
  obtain ⟨hexchanges, hdrops, hspawns, hwon, hends⟩ := moves
  simp at hexchanges hdrops hspawns hwon hends
  obtain ⟨once, runs, created, working, won, live, ended⟩ := h
  constructor <;> omega

/-- The call that won hands the receiver to its dispatcher. -/
theorem spawn (h : Balanced rank slot n spawned running)
    (moves : n.Moves n' .spawning (.started (.ok true))) :
    Balanced rank slot n' (spawned + 1) (running + 1) := by
  obtain ⟨hexchanges, hdrops, hspawns, hwon, hends⟩ := moves
  simp at hexchanges hdrops hspawns hwon hends
  obtain ⟨once, runs, created, working, won, live, ended⟩ := h
  constructor <;> omega

/-- A call destroys the engine, as the first one. -/
theorem swap (h : Balanced rank slot n spawned running) (moves : n.Moves n' .swapping .triggering)
    (live : rank < 2) : Balanced 2 slot n' spawned running := by
  obtain ⟨hexchanges, hdrops, hspawns, hwon, hends⟩ := moves
  simp at hexchanges hdrops hspawns hwon hends
  obtain ⟨once, runs, created, working, won, hlive, ended⟩ := h
  constructor <;> omega

/-- A dispatcher ends with the engine. -/
theorem quit (h : Balanced rank slot n spawned (running + 1)) (gone : rank = 2) :
    Balanced rank slot n spawned running := by
  obtain ⟨once, runs, created, working, won, live, ended⟩ := h
  constructor <;> omega

end Balanced

/-- What holds between any two steps. -/
structure Kept (s : Callers) : Prop where
  balanced : Balanced s.engine.phase.rank s.slot.toNat (census s.calls) s.dispatchers.length
    (s.dispatchers.countP Spawned.runs)
  late : ∀ c ∈ s.calls, c.late = true → s.engine.phase = .destroyed
  triggered : s.shutdown.triggered = true → s.engine.phase = .destroyed

/-- The receiver of a new engine lies in its slot. -/
theorem Kept.initial : Kept (initial pollInterval) where
  balanced := ⟨Nat.le_refl 1, Nat.le_refl 0, fun _ => rfl, fun h => (by cases h), rfl,
    fun _ => rfl, fun h => (by cases h)⟩
  late := fun _ h => by cases h
  triggered := fun h => by cases h

/-- The receiver has one holder at most. -/
theorem Kept.holders_le (h : Kept s) : s.holders ≤ 1 := by
  have honce := h.balanced.once
  have hruns := h.balanced.runs
  rw [holders, countP_holds]
  omega

/-- Whoever knows that the engine was destroyed knew before, or learned it in this step. -/
theorem Kept.late_set (h : Kept s) (new : c'.late = true → s.engine.phase = .destroyed) :
    ∀ c ∈ s.calls.set i c', c.late = true → s.engine.phase = .destroyed := by
  intro c hc hlate
  rcases List.mem_or_eq_of_mem_set hc with hold | rfl
  · exact h.late c hold hlate
  · exact new hlate

/-- A call goes on that is counted as before, and the phase stays. -/
theorem Kept.quiet (h : Kept s) {engine : Engine} (phase : engine.phase = s.engine.phase)
    (held : s.calls[i]? = some c)
    (same : c.exchanges = c'.exchanges ∧ c.drops = c'.drops ∧ c.spawns = c'.spawns ∧
      c.won = c'.won ∧ c.ends = c'.ends)
    (late : c'.late = true → s.engine.phase = .destroyed) :
    Kept { s with engine := engine, calls := s.calls.set i c' } := by
  obtain ⟨exchanges, drops, spawns, won, ends⟩ := same
  refine ⟨?_, ?_, ?_⟩
  · rw [phase]
    exact h.balanced.quiet (census_set held) exchanges drops spawns won ends
  · rw [phase]
    exact h.late_set late
  · rw [phase]
    exact h.triggered

/-- A step of a call, whichever it takes. -/
theorem Kept.does (h : Kept s) (held : s.calls[i]? = some c) (does : Does validate s i c s' c') :
    Kept { s' with calls := s.calls.set i c' } := by
  have hlate := h.late
  have htriggered := h.triggered
  have hbalanced := h.balanced
  have hmoves : (census s.calls).Moves (census (s.calls.set i c')) c c' := census_set held
  cases does with
  | checkGone gone => exact h.quiet rfl held (by simp) (by simp)
  | check live => exact h.quiet rfl held (by simp) (by simp)
  | takeNone empty => exact h.quiet rfl held (by simp) (by simp)
  | take there =>
    rw [there] at hbalanced
    exact ⟨hbalanced.take hmoves, h.late_set (by simp), htriggered⟩
  | exchange fresh =>
    rw [fresh] at hbalanced
    refine ⟨hbalanced.win hmoves, fun d hd hd' => ?_, fun ht => ?_⟩
    · exact absurd (h.late_set (by simp) d hd hd') (by simp [fresh])
    · exact absurd (htriggered ht) (by simp [fresh])
  | exchangeLate late =>
    have hrank : s.engine.phase.rank ≠ 0 := by
      intro hzero
      cases hphase : s.engine.phase with
      | created => exact late hphase
      | working | destroyed => simp [hphase, Phase.rank] at hzero
    -- the balance rules out that the engine works, so it was destroyed
    obtain ⟨hlost, hgone⟩ := hbalanced.lose hmoves hrank
    refine ⟨hlost, h.late_set fun _ => ?_, htriggered⟩
    cases hphase : s.engine.phase with
    | created => exact absurd hphase late
    | working => exact absurd (by rw [hphase]; rfl) hgone
    | destroyed => rfl
  | drop =>
    have hgone : s.engine.phase = .destroyed := hlate _ (List.mem_of_getElem? held) rfl
    exact ⟨hbalanced.drop hmoves (by rw [hgone]; rfl), h.late_set (by simp), htriggered⟩
  | spawn =>
    refine ⟨?_, h.late_set (by simp), htriggered⟩
    have hspawn := hbalanced.spawn hmoves
    simpa using hspawn
  | swapGone gone => exact h.quiet rfl held (by simp) fun _ => gone
  | swap live =>
    refine ⟨hbalanced.swap hmoves ?_, fun _ _ _ => rfl, fun _ => rfl⟩
    cases hphase : s.engine.phase with
    | created | working => decide
    | destroyed => exact absurd hphase live
  | trigger =>
    have hgone : s.engine.phase = .destroyed := hlate _ (List.mem_of_getElem? held) rfl
    refine ⟨?_, h.late_set fun _ => hgone, fun _ => hgone⟩
    exact hbalanced.quiet hmoves rfl rfl rfl rfl rfl
  | lookGone gone => exact h.quiet rfl held (by simp) (by simp)
  | refuse live bad => exact h.quiet rfl held (by simp) (by simp)
  | look live ok => exact h.quiet rfl held (by simp) (by simp)
  | send receives => exact h.quiet rfl held (by simp) (by simp)
  | bounce gone => exact h.quiet rfl held (by simp) (by simp)

/-- A call that begins is not counted. -/
theorem census_call (first : c.first = true) (calls : List Call) :
    census (calls ++ [c]) = census calls := by
  cases c <;> simp [Call.first] at first <;> simp [census]

/-- Every step keeps the balance. -/
theorem Kept.step (h : Kept s) (next : Step validate s s') : Kept s' := by
  cases next with
  | @call c first =>
    refine ⟨?_, fun d hd hlate => ?_, h.triggered⟩
    · rw [census_call first]
      exact h.balanced
    · rcases List.mem_append.mp hd with hold | hnew
      · exact h.late d hold hlate
      · obtain rfl := List.mem_singleton.mp hnew
        cases d <;> simp [Call.first] at first hlate
  | does held does => exact h.does held does
  | receive held runs head => exact ⟨h.balanced, h.late, h.triggered⟩
  | @quit k d held runs triggered =>
    have hgone := h.triggered triggered
    have hbalanced := h.balanced
    -- a dispatcher less is running
    have hcount : s.dispatchers.countP Spawned.runs =
        (s.dispatchers.set k { d with runs := false }).countP Spawned.runs + 1 := by
      have hset := countP_set (b := { d with runs := false }) Spawned.runs held
      rw [runs] at hset
      exact hset.symm
    rw [hcount] at hbalanced
    refine ⟨?_, h.late, h.triggered⟩
    show Balanced s.engine.phase.rank _ _ (s.dispatchers.set k _).length _
    rw [List.length_set]
    exact hbalanced.quit (by rw [hgone]; rfl)
  | answer =>
    refine ⟨?_, ?_, ?_⟩
    · rw [phase_finish]
      exact h.balanced
    · rw [phase_finish]
      exact h.late
    · rw [phase_finish]
      exact h.triggered

/-- The balance holds at every moment. -/
theorem Reachable.kept (h : Reachable validate pollInterval s) : Kept s := by
  induction h with
  | initial => exact Kept.initial
  | step _ next ih => exact ih.step next

/-! ## After the end -/

/-- Steps lead from one state to another. -/
abbrev Path (validate : Validate) : Callers → Callers → Prop := ReflTransGen (Step validate)

/-- What steps lead to can be reached. -/
theorem Reachable.path (h : Reachable validate pollInterval s) (path : Path validate s s') :
    Reachable validate pollInterval s' := by
  induction path with
  | refl => exact h
  | tail _ next ih => exact ih.step next

/-! ## Calls that nobody disturbs -/

/-- The call that began last takes a step. -/
theorem Path.last {calls : List Call}
    (does : Does validate { s with calls := calls ++ [c] } calls.length c s' c') :
    Path validate { s with calls := calls ++ [c] } { s' with calls := calls ++ [c'] } := by
  have hheld : (calls ++ [c])[calls.length]? = some c := by simp
  have hset : (calls ++ [c]).set calls.length c' = calls ++ [c'] := by simp
  have hstep := Step.does (s := { s with calls := calls ++ [c] }) hheld does
  rw [hset] at hstep
  exact ReflTransGen.single hstep

/-- A dispatcher hands all requests to the network. -/
theorem Path.drain {k : Nat} {d : Spawned} (held : s.dispatchers[k]? = some d)
    (runs : d.runs = true) : Path validate s { s with
      engine := { s.engine with
        queue := [], broadcasting := s.engine.broadcasting ++ s.engine.queue } } := by
  obtain ⟨jobs, hjobs⟩ : ∃ jobs, s.engine.queue = jobs := ⟨_, rfl⟩
  induction jobs generalizing s with
  | nil =>
    rw [hjobs, List.append_nil, ← hjobs]
  | cons job rest ih =>
    have hreceive : Step validate s _ := .receive held runs hjobs
    have hrest := ih (s := { s with
      engine := { s.engine with
        queue := rest, broadcasting := s.engine.broadcasting ++ [job] } }) held rfl
    have hpath := (ReflTransGen.single hreceive).trans hrest
    simpa [hjobs, List.append_assoc] using hpath

/-- Where the receiver is while no call has it: in its slot until the engine works, and then with
    the dispatcher. -/
theorem Kept.settled (h : Kept s) (idle : ∀ c ∈ s.calls, c.holds = false) :
    (s.engine.phase = .created → s.slot = true ∧ s.dispatchers = []) ∧
    (s.engine.phase = .working →
      s.slot = false ∧ ∃ d, s.dispatchers[0]? = some d ∧ d.runs = true) := by
  have hnone : s.calls.countP Call.holds = 0 :=
    List.countP_eq_zero.mpr fun c hc => by rw [idle c hc]; exact Bool.false_ne_true
  rw [countP_holds] at hnone
  -- no call has the receiver, so it is in its slot or with a dispatcher
  have honce := h.balanced.once
  refine ⟨fun fresh => ?_, fun works => ?_⟩
  · have hcreated := h.balanced.created (by rw [fresh]; rfl)
    have hslot : s.slot.toNat = 1 := by omega
    exact ⟨by simpa using hslot, List.length_eq_zero_iff.mp (by omega)⟩
  · have hworking := h.balanced.working (by rw [works]; rfl)
    have hruns := h.balanced.runs
    have hslot : s.slot.toNat = 0 := by omega
    refine ⟨by simpa using hslot, ?_⟩
    obtain ⟨d, hd⟩ := List.length_eq_one_iff.mp (show s.dispatchers.length = 1 by omega)
    refine ⟨d, by rw [hd]; rfl, ?_⟩
    have hone : s.dispatchers.countP Spawned.runs = 1 := by omega
    rw [hd] at hone
    by_contra hstopped
    simp [hstopped] at hone

/-- A call of `startWorking` that nobody disturbs does what the operation does. -/
theorem start_alone (h : Kept s) (idle : ∀ c ∈ s.calls, c.holds = false) :
    ∃ later, Path validate s later ∧ later.engine = s.engine.startWorking.2 ∧
      later.calls = s.calls ++ [.started s.engine.startWorking.1] := by
  obtain ⟨hfresh, hworks⟩ := h.settled idle
  have hcall : Path validate s { s with calls := s.calls ++ [.checking] } :=
    ReflTransGen.single (.call rfl)
  cases hphase : s.engine.phase with
  | destroyed =>
    have hstart : s.engine.startWorking = (.error .destroyed, s.engine) := by
      simp [startWorking, hphase]
    rw [hstart]
    exact ⟨_, hcall.trans (Path.last (.checkGone hphase)), rfl, rfl⟩
  | working =>
    obtain ⟨hslot, -⟩ := hworks hphase
    have hstart : s.engine.startWorking = (.ok false, s.engine) := by
      simp [startWorking, hphase]
    have hcheck := hcall.trans (Path.last (.check (by simp [hphase])))
    rw [hstart]
    -- the engine works already, and its dispatcher has the receiver
    exact ⟨_, hcheck.trans (Path.last (.takeNone hslot)), rfl, rfl⟩
  | created =>
    obtain ⟨hslot, hnone⟩ := hfresh hphase
    have hcheck := hcall.trans (Path.last (.check (by simp [hphase])))
    have htake := hcheck.trans (Path.last (.take hslot))
    have hwin := htake.trans (Path.last (.exchange hphase))
    have hspawn := hwin.trans (Path.last .spawn)
    have hdrain := hspawn.trans
      (Path.drain (k := 0) (d := ⟨s.calls.length, true⟩) (by simp [hnone, become]) rfl)
    refine ⟨_, hdrain, ?_, ?_⟩
    · simp [startWorking, hphase, dispatch, become]
    · simp [startWorking, hphase]

/-- So does a call of `destroy`, -/
theorem destroy_alone : ∃ later, Path validate s later ∧
    later.engine.phase = s.engine.destroy.2.phase ∧
    later.calls = s.calls ++ [.destroyed s.engine.destroy.1] := by
  have hcall : Path validate s { s with calls := s.calls ++ [.swapping] } :=
    ReflTransGen.single (.call rfl)
  have hafter : s.engine.destroy.2.phase = .destroyed := destroy_phase
  rw [hafter]
  by_cases gone : s.engine.phase = .destroyed
  · have hdestroy : s.engine.destroy.1 = false := by simp [Engine.destroy, gone]
    rw [hdestroy]
    exact ⟨_, hcall.trans (Path.last (.swapGone gone)), gone, rfl⟩
  · have hdestroy : s.engine.destroy.1 = true := by
      cases hphase : s.engine.phase with
      | created | working => simp [Engine.destroy, hphase]
      | destroyed => exact absurd hphase gone
    rw [hdestroy]
    have hswap := hcall.trans (Path.last (.swap gone))
    exact ⟨_, hswap.trans (Path.last .trigger), rfl, rfl⟩

/-- and a call of `submit`, with all that its request leads to. -/
theorem submit_alone (h : Kept s) (idle : ∀ c ∈ s.calls, c.holds = false) (r : Request) :
    ∃ later, Path validate s later ∧ later.engine = (Engine.submit validate r s.engine).2 ∧
      later.calls = s.calls ++ [.submitted (Engine.submit validate r s.engine).1] := by
  obtain ⟨hfresh, hworks⟩ := h.settled idle
  have hcall : Path validate s { s with calls := s.calls ++ [.looking r] } :=
    ReflTransGen.single (.call rfl)
  by_cases live : s.engine.phase ≠ .destroyed
  · rcases @submit_live s.engine validate r live with ⟨e, hbad, hsubmit⟩ | ⟨hok, hsubmit⟩
    · rw [hsubmit]
      exact ⟨_, hcall.trans (Path.last (.refuse live hbad)), rfl, rfl⟩
    · have hlook := hcall.trans (Path.last (.look live hok))
      rw [hsubmit]
      cases hphase : s.engine.phase with
      | destroyed => exact absurd hphase live
      | created =>
        obtain ⟨hslot, -⟩ := hfresh hphase
        -- the receiver is in its slot, so the request lies in the channel
        have hsend := hlook.trans (Path.last (.send (by simp [holders, hslot])))
        exact ⟨_, hsend, by simp [accept, enqueue, dispatch, hphase], rfl⟩
      | working =>
        obtain ⟨-, d, hd, hruns⟩ := hworks hphase
        have hreceives : s.dispatchers.countP Spawned.runs ≠ 0 :=
          Nat.ne_of_gt (List.countP_pos_iff.mpr ⟨d, List.mem_of_getElem? hd, hruns⟩)
        have hsend := hlook.trans (Path.last (.send (by simp only [holders]; omega)))
        -- the dispatcher takes it out at once
        have hdrain := hsend.trans (Path.drain hd hruns)
        exact ⟨_, hdrain, by simp [accept, enqueue, dispatch, hphase], rfl⟩
  · have gone : s.engine.phase = .destroyed := not_ne_iff.mp live
    have hsubmit : Engine.submit validate r s.engine = (.error .destroyed, s.engine) := by
      simp [submit, gone]
    rw [hsubmit]
    exact ⟨_, hcall.trans (Path.last (.lookGone gone)), rfl, rfl⟩

/-- No step leads out of the last phase. -/
theorem Does.gone (does : Does validate s i c s' c') (gone : s.engine.phase = .destroyed) :
    s'.engine.phase = .destroyed := by
  cases does with
  | exchange fresh => cases gone.symm.trans fresh
  | swap live => rfl
  | _ => exact gone

/-- A destroyed engine stays so. -/
theorem Step.gone (next : Step validate s s') (gone : s.engine.phase = .destroyed) :
    s'.engine.phase = .destroyed := by
  cases next with
  | call | receive | quit => exact gone
  | does held does => exact does.gone gone
  | answer => exact (phase_finish _ _).trans gone

/-- The call won the exchange. -/
def Past (s : Callers) (i : Nat) : Prop :=
  s.calls[i]? = some .spawning ∨ s.calls[i]? = some (.started (.ok true))

/-- A call that stands here after another one began stood here before, or it is that one. -/
theorem getElem?_snoc {α : Type} {l : List α} {a b : α} (h : (l ++ [b])[j]? = some a) :
    l[j]? = some a ∨ a = b := by
  rw [List.getElem?_append] at h
  split at h
  · exact Or.inl h
  · exact Or.inr (List.mem_singleton.mp (List.mem_of_getElem? h))

/-- After the end no call wins the exchange. -/
theorem Step.past (next : Step validate s s') (gone : s.engine.phase = .destroyed)
    (past : s'.Past j) : s.Past j := by
  cases next with
  | @call c first =>
    rcases past with h | h
    · rcases getElem?_snoc h with hold | rfl
      · exact Or.inl hold
      · cases first
    · rcases getElem?_snoc h with hold | rfl
      · exact Or.inr hold
      · cases first
  | @does i c c' _ held does =>
    by_cases hj : i = j
    · subst hj
      obtain ⟨hi, -⟩ := List.getElem?_eq_some_iff.mp held
      rw [Past, List.getElem?_set_self hi] at past
      cases does with
      | exchange fresh => cases gone.symm.trans fresh
      -- it won the exchange before the engine was destroyed
      | spawn => exact Or.inl held
      | _ => simp at past
    · simpa [Past, List.getElem?_set_ne hj] using past
  | receive | quit | answer => exact past

/-- A call that spawns a dispatcher answers that it started the engine. -/
theorem Does.dispatchers (does : Does validate s i c s' c') : s'.dispatchers = s.dispatchers ∨
    (s'.dispatchers = s.dispatchers ++ [⟨i, true⟩] ∧ c' = .started (.ok true)) := by
  cases does with
  | spawn => exact Or.inr ⟨rfl, rfl⟩
  | _ => exact Or.inl rfl

/-- A dispatcher was spawned by a call that answered so. -/
def Spawners (s : Callers) : Prop :=
  ∀ d ∈ s.dispatchers, s.calls[d.caller]? = some (.started (.ok true))

/-- A step spawns no dispatcher but for the call that answers so. -/
theorem Spawners.step (h : Spawners s) (next : Step validate s s') : Spawners s' := by
  intro d hd
  cases next with
  | call first =>
    have hbefore := h d hd
    obtain ⟨hlt, -⟩ := List.getElem?_eq_some_iff.mp hbefore
    exact (List.getElem?_append_left hlt).trans hbefore
  | @does i c c' _ held does =>
    obtain ⟨hi, -⟩ := List.getElem?_eq_some_iff.mp held
    show (s.calls.set i c')[d.caller]? = _
    by_cases hcaller : i = d.caller
    · subst hcaller
      rcases does.dispatchers with hsame | ⟨-, rfl⟩
      · -- a call that answered takes no step
        obtain rfl := Option.some.inj (held.symm.trans (h d (hsame ▸ hd)))
        cases does
      · exact List.getElem?_set_self hi
    · rw [List.getElem?_set_ne hcaller]
      rcases does.dispatchers with hsame | ⟨hsnoc, -⟩
      · exact h d (hsame ▸ hd)
      · rcases List.mem_append.mp (hsnoc ▸ hd : d ∈ s.dispatchers ++ [⟨i, true⟩]) with hold | hnew
        · exact h d hold
        · obtain rfl := List.mem_singleton.mp hnew
          exact absurd rfl hcaller
  | receive | answer => exact h d hd
  | @quit k d' held runs triggered =>
    rcases List.mem_or_eq_of_mem_set hd with hold | rfl
    · exact h d hold
    · exact h d' (List.mem_of_getElem? held)

/-- At every moment a dispatcher belongs to the call that started the engine. -/
theorem Reachable.spawners (h : Reachable validate pollInterval s) : Spawners s := by
  induction h with
  | initial => exact fun d hd => by cases hd
  | step _ next ih => exact ih.step next

/-- Nobody has the receiver if neither slot nor call nor dispatcher has it. -/
theorem holders_eq_zero : s.holders = 0 ↔ s.slot = false ∧ (∀ c ∈ s.calls, c.holds = false) ∧
    ∀ d ∈ s.dispatchers, d.runs = false := by
  rw [holders, Nat.add_eq_zero_iff, Nat.add_eq_zero_iff, List.countP_eq_zero, List.countP_eq_zero]
  cases s.slot <;> simp

/-- A call without the receiver gets it from the slot only. -/
theorem Does.holders (does : Does validate s i c s' c') (empty : s.slot = false)
    (without : c.holds = false) :
    s'.slot = false ∧ c'.holds = false ∧ s'.dispatchers = s.dispatchers := by
  cases does with
  | take there => cases empty.symm.trans there
  | exchange | exchangeLate | drop | spawn => cases without
  | _ => exact ⟨empty, rfl, rfl⟩

/-- A receiver that is gone does not come back. -/
theorem Step.nobody (next : Step validate s s') (nobody : s.holders = 0) : s'.holders = 0 := by
  obtain ⟨hslot, hcalls, hdispatchers⟩ := holders_eq_zero.mp nobody
  refine holders_eq_zero.mpr ?_
  cases next with
  | @call c first =>
    refine ⟨hslot, fun d hd => ?_, hdispatchers⟩
    rcases List.mem_append.mp hd with hold | hnew
    · exact hcalls d hold
    · obtain rfl := List.mem_singleton.mp hnew
      cases d <;> simp [Call.first] at first ⊢
  | does held does =>
    obtain ⟨hslot', hcall, hsame⟩ :=
      does.holders hslot (hcalls _ (List.mem_of_getElem? held))
    refine ⟨hslot', fun d hd => ?_, fun d hd => hdispatchers d (hsame ▸ hd)⟩
    rcases List.mem_or_eq_of_mem_set hd with hold | rfl
    · exact hcalls d hold
    · exact hcall
  | receive | answer => exact ⟨hslot, hcalls, hdispatchers⟩
  -- a dispatcher that ends has the receiver no more than before
  | quit held runs triggered =>
    refine ⟨hslot, hcalls, fun d hd => ?_⟩
    rcases List.mem_or_eq_of_mem_set hd with hold | rfl
    · exact hdispatchers d hold
    · rfl

/-- A call that lost the exchange drops the only receiver. -/
theorem Step.lost (kept : Kept s) (next : Step validate s s')
    (lost : s.calls[i]? = some .dropping ∨ s.holders = 0) :
    s'.calls[i]? = some .dropping ∨ s'.holders = 0 := by
  rcases lost with hdrops | hnobody
  · obtain ⟨hi, -⟩ := List.getElem?_eq_some_iff.mp hdrops
    cases next with
    | call first => exact Or.inl ((List.getElem?_append_left hi).trans hdrops)
    | receive | quit | answer => exact Or.inl hdrops
    | @does j c c' _ held does =>
      by_cases hj : j = i
      · subst hj
        obtain rfl := Option.some.inj (held.symm.trans hdrops)
        cases does
        have hcount : (s.calls.set j (.started (.error .destroyed))).countP Call.holds + 1 =
            s.calls.countP Call.holds := countP_set Call.holds held
        -- it was the only one that had the receiver
        have hone := kept.holders_le
        refine Or.inr ?_
        simp only [holders] at hone ⊢
        omega
      · exact Or.inl ((List.getElem?_set_ne hj).trans hdrops)
  · exact Or.inr (next.nobody hnobody)

/-- A submission that looks at a destroyed engine is refused. -/
theorem refused_at_look (gone : s.engine.phase = .destroyed) {r : Request} :
    Does validate s i (.looking r) s' c' ↔ s' = s ∧ c' = .submitted (.error .destroyed) := by
  constructor
  · intro does
    cases does with
    | lookGone => exact ⟨rfl, rfl⟩
    | refuse live bad => exact absurd gone live
    | look live ok => exact absurd gone live
  · rintro ⟨rfl, rfl⟩
    exact .lookGone gone

/-- A submission that sends is refused if nobody receives. -/
theorem refused_at_send (nobody : s.holders = 0) {r : Request} :
    Does validate s i (.sending r) s' c' ↔ s' = s ∧ c' = .submitted (.error .destroyed) := by
  constructor
  · intro does
    cases does with
    | send receives => exact absurd nobody receives
    | bounce => exact ⟨rfl, rfl⟩
  · rintro ⟨rfl, rfl⟩
    exact .bounce nobody

/-- What holds from a destroyed engine on. -/
theorem Reachable.after (h : Reachable validate pollInterval s) (gone : s.engine.phase = .destroyed)
    (path : Path validate s s') :
    s'.engine.phase = .destroyed ∧ ∀ d ∈ s'.dispatchers, s.Past d.caller := by
  have hafter : s'.engine.phase = .destroyed ∧ ∀ i, s'.Past i → s.Past i := by
    induction path with
    | refl => exact ⟨gone, fun _ past => past⟩
    | tail _ next ih =>
      obtain ⟨hgone, hpast⟩ := ih
      exact ⟨next.gone hgone, fun i past => hpast i (next.past hgone past)⟩
  obtain ⟨hgone, hpast⟩ := hafter
  exact ⟨hgone, fun d hd => hpast _ (Or.inr ((h.path path).spawners d hd))⟩

/-- From the lost exchange on, the call has yet to drop the receiver or nobody has it. -/
theorem Reachable.lost (h : Reachable validate pollInterval s)
    (lost : s.calls[i]? = some .dropping) (path : Path validate s s') :
    s'.calls[i]? = some .dropping ∨ s'.holders = 0 := by
  induction path with
  | refl => exact Or.inl lost
  | tail before next ih => exact next.lost (h.path before).kept ih

/-- **One dispatcher, and one end.**  Whatever calls of `startWorking`, `destroy` and `submit` are
    made, in any order of their steps: one dispatcher is spawned at most, and while it runs it
    alone has the receiver of requests; one call at most answers that it started the engine.  If
    `destroy` was called, one call answers that it destroyed the engine, or is about to, and no
    other does.  A destroyed engine stays so, and its dispatcher, if it ever gets one, is that of a
    call that won the exchange before.  When a call lost the exchange, every submission that looks
    at the engine later is refused; and when that call has returned, so is every one that had
    looked before and sends later. -/
theorem one_dispatcher (h : Reachable validate pollInterval s) :
    (s.dispatchers.length ≤ 1 ∧ ∀ d ∈ s.dispatchers, d.runs = true →
      s.slot = false ∧ ∀ c ∈ s.calls, c.holds = false) ∧
    s.calls.countP Call.won ≤ 1 ∧
    (s.calls.countP Call.ends ≤ 1 ∧
      ((.triggering ∈ s.calls ∨ ∃ b, .destroyed b ∈ s.calls) → s.calls.countP Call.ends = 1)) ∧
    (s.engine.phase = .destroyed → ∀ later, Path validate s later →
      later.engine.phase = .destroyed ∧ ∀ d ∈ later.dispatchers, s.Past d.caller) ∧
    (∀ i : Nat, s.calls[i]? = some .dropping → ∀ later, Path validate s later → ∀ j r s' c,
      (Does validate later j (.looking r) s' c ↔
        s' = later ∧ c = .submitted (.error .destroyed)) ∧
      (later.calls[i]? ≠ some .dropping →
        (Does validate later j (.sending r) s' c ↔
          s' = later ∧ c = .submitted (.error .destroyed)))) := by
  have kept := h.kept
  have honce := kept.balanced.once
  have hone := kept.holders_le
  have hlength : s.dispatchers.length ≤ 1 := by omega
  -- how many calls destroyed the engine is told by the phase
  have hends : s.engine.phase ≠ .destroyed → s.calls.countP Call.ends = 0 := by
    intro live
    refine kept.balanced.live ?_
    cases hphase : s.engine.phase with
    | created | working => decide
    | destroyed => exact absurd hphase live
  have hended : s.engine.phase = .destroyed → s.calls.countP Call.ends = 1 :=
    fun gone => kept.balanced.ended (by rw [gone]; rfl)
  refine ⟨⟨hlength, fun d hd runs => ?_⟩, ?_, ⟨?_, ?_⟩, fun gone later path => h.after gone path,
    fun i lost later path j r s' c => ⟨?_, fun returned => ?_⟩⟩
  · have hruns : 0 < s.dispatchers.countP Spawned.runs := List.countP_pos_iff.mpr ⟨d, hd, runs⟩
    rw [holders] at hone
    have hslot : s.slot.toNat = 0 := by omega
    have hcalls : s.calls.countP Call.holds = 0 := by omega
    refine ⟨by simpa using hslot, fun c hc => ?_⟩
    simpa using List.countP_eq_zero.mp hcalls c hc
  · rw [show s.calls.countP Call.won = s.dispatchers.length from kept.balanced.won]
    exact hlength
  · by_cases gone : s.engine.phase = .destroyed
    · exact Nat.le_of_eq (hended gone)
    · rw [hends gone]
      exact Nat.zero_le 1
  · rintro (hmem | ⟨b, hmem⟩)
    · exact hended (kept.late _ hmem rfl)
    · exact hended (kept.late _ hmem rfl)
  · have gone := kept.late _ (List.mem_of_getElem? lost) rfl
    exact refused_at_look (h.after gone path).1
  · rcases h.lost lost path with hdrops | hnobody
    · exact absurd hdrops returned
    · exact refused_at_send hnobody

/-- A call took the receiver and lost the exchange to `destroy`, which was called twice; a
    submission that had looked before is refused as well. -/
theorem one_dispatcher_raced : ∃ (s later : Callers) (r : Request),
    Reachable (fun _ => .ok ()) 1000 s ∧ Path (fun _ => .ok ()) s later ∧
    s.calls = [.dropping, .sending r, .triggering, .destroyed false] ∧
    s.calls.countP Call.ends = 1 ∧ later.engine.phase = .destroyed ∧ later.dispatchers = [] ∧
    Does (fun _ => .ok ()) later 1 (.sending r) later (.submitted (.error .destroyed)) ∧
    Does (fun _ => .ok ()) later 4 (.looking r) later (.submitted (.error .destroyed)) := by
  let r : Request := ⟨[1], "http://[::1]:8545", ⟨"job"⟩⟩
  have hcheck : Engine.check (fun _ => .ok ()) r = .ok () := check_ok rfl (by decide) rfl
  have hinitial : Reachable (fun _ => .ok ()) 1000 (.initial 1000) := .initial
  have hbegun := (((hinitial.step (.call (c := .checking) rfl)).step
    (.call (c := .looking r) rfl)).step (.call (c := .swapping) rfl)).step
    (.call (c := .swapping) rfl)
  -- both look at the phase before it is swapped
  have hlooked := ((hbegun.step (@Step.does _ _ 0 _ _ _ rfl (.check (by decide)))).step
    (@Step.does _ _ 1 _ _ _ rfl (.look (by decide) hcheck))).step
    (@Step.does _ _ 0 _ _ _ rfl (.take rfl))
  have hlost := ((hlooked.step (@Step.does _ _ 2 _ _ _ rfl (.swap (by decide)))).step
    (@Step.does _ _ 3 _ _ _ rfl (.swapGone rfl))).step
    (@Step.does _ _ 0 _ _ _ rfl (.exchangeLate (by decide)))
  obtain ⟨s, hs, hcalls, hphase, hnone⟩ : ∃ s, Reachable (fun _ => .ok ()) 1000 s ∧
      s.calls = [.dropping, .sending r, .triggering, .destroyed false] ∧
      s.engine.phase = .destroyed ∧ s.dispatchers = [] := ⟨_, hlost, rfl, rfl, rfl⟩
  have hheld : s.calls[0]? = some .dropping := by rw [hcalls]; rfl
  have hdrop : Path (fun _ => .ok ()) s _ := ReflTransGen.single (.does hheld .drop)
  obtain ⟨-, -, ⟨-, hends⟩, hgone, hrefused⟩ := one_dispatcher hs
  have hmem : .destroyed false ∈ s.calls := by simp [hcalls]
  refine ⟨s, _, r, hs, hdrop, hcalls, hends (Or.inr ⟨false, hmem⟩), (hgone hphase _ hdrop).1,
    hnone, ?_, ?_⟩
  · exact ((hrefused 0 hheld _ hdrop 1 r _ _).2 (by simp [hcalls])).mpr ⟨rfl, rfl⟩
  · exact (hrefused 0 hheld _ hdrop 4 r _ _).1.mpr ⟨rfl, rfl⟩

end Callers

end TxRelay.Engine
