import Mathlib.Algebra.BigOperators.Ring.Finset
import Mathlib.Algebra.Order.BigOperators.Group.Finset
import TemporalSdk.Library.Keyed
import TemporalSdk.Worker.OperatorInstances

/-!
# The counters of the workflow operator

Each counter is compared with what it counts. The difference never shrinks: it grows when a group
is closed that had no instance, or behind whose handler an activation waited. A handler that throws
is counted for ever.
-/

namespace TemporalSdk

variable {C : Type}

namespace WorkflowRun

/-- The run's part of the number of instances. -/
def cached (r : WorkflowRun C) : ℕ := if r.held.isSome then 1 else 0

/-- How many activations are dropped when the group is closed. -/
def dropped (r : WorkflowRun C) : RunInput C → ℕ
  | .advance outcome => r.group.elim 0 fun g => g.current.elim 0 fun h =>
      if h.closes outcome then g.waiting.length else 0
  | _ => 0

/-- Whether a group without an instance is closed. -/
def unheld (r : WorkflowRun C) : RunInput C → ℕ
  | .advance outcome => r.group.elim 0 fun g => g.current.elim 0 fun h =>
      if h.closes outcome && h.stage.state.isNone then 1 else 0
  | _ => 0

variable {r r' : WorkflowRun C} {g : ActivationGroup C} {h : Handler C} {runId : String}
  {effect : OperatorEffect C}

lemma inFlight_receive (item : ActivationItem) :
    (r.receive g item).inFlight = g.current.toList.length + g.waiting.length + 1 := by
  unfold receive
  cases hcurrent : g.current with
  | none => simp [inFlight, call, Nat.add_comm]
  | some h => simp [inFlight, Nat.add_assoc]

lemma inFlight_callNext (hcurrent : g.current = none) : (r.callNext g).inFlight = g.waiting.length := by
  unfold callNext
  split
  · rename_i hwaiting
    simp [inFlight, hcurrent, hwaiting]
  · rename_i item waiting hwaiting
    simp [inFlight, call, hwaiting, Nat.add_comm]

lemma held_call (item : ActivationItem) : (r.call g item).held = g.state :=
  Handler.start_state g.state item

lemma held_receive (item : ActivationItem) : (r.receive g item).held = g.held := by
  unfold receive
  split
  · rename_i hcurrent
    rw [held_call, ActivationGroup.held, hcurrent]
  · rfl

lemma held_callNext (hcurrent : g.current = none) : (r.callNext g).held = g.state := by
  unfold callNext
  split
  · simp [held, ActivationGroup.held, hcurrent]
  · exact held_call _

/-- The effect on `numInFlightActivations` is the change of what it counts, but for activations
that are dropped. -/
lemma inFlight_step {input : RunInput C} (hstep : r.step runId input = some (r', effect)) :
    (r.inFlight : ℤ) + effect.inFlight = r'.inFlight + r.dropped input := by
  cases input with
  | poll activation =>
    obtain ⟨-, rfl, rfl⟩ := step_poll hstep
    rw [inFlight_receive]
    cases hgroup : r.group with
    | none => simp [inFlight, hgroup, dropped]
    | some g => simp [inFlight, hgroup, dropped]
  | evict =>
    obtain ⟨g, hgroup, -, rfl, rfl⟩ := step_evict hstep
    rw [inFlight_receive]
    simp [inFlight, hgroup, dropped]
  | advance outcome =>
    obtain ⟨g, h, hgroup, hcurrent, hresult⟩ := step_advance hstep
    have hcount : r.inFlight = 1 + g.waiting.length := by simp [inFlight, hgroup, hcurrent]
    have hdropped : r.dropped (.advance outcome) = if h.closes outcome then g.waiting.length else 0 := by
      simp [dropped, hgroup, hcurrent]
    rw [hcount, hdropped]
    rcases hresult with ⟨stage, calls, hadvance, rfl, rfl⟩ | ⟨state, close, completion, hadvance, rfl, rfl⟩
    · rw [(Handler.advance_await hadvance).closes]
      simp [inFlight]
    · rw [(Handler.done_eq hadvance).1]
      unfold finish
      cases close with
      | true => simp [inFlight]
      | false =>
        simp only [Bool.false_eq_true, if_false]
        rw [inFlight_callNext rfl]
        push_cast
        omega

/-- The effect on `numCachedWorkflows` is the change of what it counts, but for groups without an
instance that are closed. -/
lemma cached_step {input : RunInput C} (hstep : r.step runId input = some (r', effect)) :
    (r.cached : ℤ) + effect.cached + r.unheld input = r'.cached := by
  cases input with
  | poll activation =>
    obtain ⟨-, rfl, rfl⟩ := step_poll hstep
    unfold cached
    rw [held_receive]
    cases hgroup : r.group with
    | none => simp [held, hgroup, ActivationGroup.held, unheld]
    | some g => simp [held, hgroup, unheld]
  | evict =>
    obtain ⟨g, hgroup, -, rfl, rfl⟩ := step_evict hstep
    unfold cached
    have hsame : ({ g with evicted := true } : ActivationGroup C).held = g.held := rfl
    rw [held_receive, (held_of_group hgroup).1, hsame]
    simp [unheld]
  | advance outcome =>
    obtain ⟨g, h, hgroup, hcurrent, hresult⟩ := step_advance hstep
    have hheld : r.held = h.stage.state := by
      rw [(held_of_group hgroup).1, ActivationGroup.held, hcurrent]
    have hunheld : r.unheld (.advance outcome) =
        if h.closes outcome && h.stage.state.isNone then 1 else 0 := by
      simp [unheld, hgroup, hcurrent]
    unfold cached
    rw [hheld, hunheld]
    rcases hresult with ⟨stage, calls, hadvance, rfl, rfl⟩ | ⟨state, close, completion, hadvance, rfl, rfl⟩
    · rw [(Handler.advance_await hadvance).closes]
      show _ = (((if stage.state.isSome then 1 else 0 : ℕ)) : ℤ)
      rcases (Handler.advance_await hadvance).instanceOf with ⟨hsame, rfl | ⟨workflow, -, rfl⟩⟩ | ⟨hnone, hnew, rfl⟩
      · simp [hsame]
      · simp [hsame, WorkflowCall.isCreateWorkflow]
      · simp [hnone, hnew, WorkflowCall.isCreateWorkflow]
    · rw [(Handler.done_eq hadvance).1]
      unfold finish
      cases close with
      | true => cases hstate : h.stage.state <;> simp [held]
      | false =>
        obtain ⟨-, rfl⟩ := Handler.keeps_of_advance hadvance
        simp only [Bool.false_eq_true, if_false]
        rw [held_callNext rfl]
        simp

lemma inFlight_pos_of_rejection (hrejection : r.rejection.isSome = true) : 0 < r.inFlight := by
  obtain ⟨error, herror⟩ := Option.isSome_iff_exists.mp hrejection
  obtain ⟨g, hgroup, hg⟩ := Option.bind_eq_some_iff.mp herror
  obtain ⟨h, hcurrent, -⟩ := Option.bind_eq_some_iff.mp hg
  simp only [inFlight, hgroup, hcurrent, Option.toList_some, List.length_singleton]
  omega

/-- The handler of a step that ends the operator throws. -/
lemma error_advance (hgroup : r.group = some g) (hcurrent : g.current = some h)
    {outcome : Except JsError C} (hstep : r.step runId (.advance outcome) = some (r', effect)) :
    effect.error.isSome = h.rejects outcome := by
  obtain ⟨g', h', hgroup', hcurrent', hresult⟩ := step_advance hstep
  obtain rfl : g = g' := Option.some.inj (hgroup.symm.trans hgroup')
  obtain rfl : h = h' := Option.some.inj (hcurrent.symm.trans hcurrent')
  rcases hresult with ⟨stage, calls, hadvance, -, rfl⟩ | ⟨state, close, completion, hadvance, -, rfl⟩
  · exact (Handler.advance_await hadvance).rejects.symm
  · exact (Handler.done_eq hadvance).2.symm

end WorkflowRun

namespace OperatorState

/-- Nothing is being processed. -/
def Quiescent (w : OperatorState C) : Prop := ∀ runId, (w.runs runId).currentItem = none

/-- Nothing is being processed, or its results reach nobody as a handler has thrown. -/
def AtRest (w : OperatorState C) : Prop := w.error.isSome = true ∨ w.Quiescent

/-- The runs whose instance is held as state. -/
def heldRuns (w : OperatorState C) : Finset String :=
  w.runIds.filter fun runId => (w.runs runId).state.isSome

structure CountersOk (w : OperatorState C) : Prop where
  inFlight_nonneg : 0 ≤ w.numInFlightActivations
  cached_nonneg : 0 ≤ w.numCachedWorkflows
  tracked : ∀ runId, (w.runs runId).state.isSome = true → runId ∈ w.runIds
  inFlight : AtRest w → w.numInFlightActivations = 0
  cached : AtRest w → w.numCachedWorkflows = w.heldRuns.card

/-- A handler is about to throw, or a group is about to be closed that has no instance, or behind
whose handler an activation waits. -/
def unbalances (w : OperatorState C) : OperatorInput C → Bool
  | .advance runId outcome => (w.runs runId).group.any fun g => g.current.any fun h =>
      h.rejects outcome || h.closes outcome && (h.stage.state.isNone || !g.waiting.isEmpty)
  | _ => false

/-- What `numInFlightActivations` counts too much. -/
def excess (w : OperatorState C) : ℤ :=
  w.numInFlightActivations - ∑ runId ∈ w.runIds, ((w.runs runId).inFlight : ℤ)

/-- What `numCachedWorkflows` counts too little. -/
def deficit (w : OperatorState C) : ℤ :=
  ∑ runId ∈ w.runIds, ((w.runs runId).cached : ℤ) - w.numCachedWorkflows

variable {w w' : OperatorState C}

structure Counted (w : OperatorState C) : Prop where
  inv : Inv w
  tracked : ∀ runId, runId ∉ w.runIds → (w.runs runId).group = none
  thrown : w.error.isSome = true → ∃ runId ∈ w.runIds, 0 < (w.runs runId).inFlight

lemma counted_initial : Counted (initial : OperatorState C) := ⟨inv_initial, fun _ _ => rfl, by simp [initial]⟩

lemma Counted.inFlight_eq_zero (h : Counted w) {runId : String} (hrun : runId ∉ w.runIds) :
    ((w.runs runId).inFlight : ℤ) = 0 ∧ ((w.runs runId).cached : ℤ) = 0 := by
  have hgroup := h.tracked runId hrun
  simp [WorkflowRun.inFlight, WorkflowRun.cached, WorkflowRun.held, hgroup]

lemma Counted.step (h : Counted w) {input : OperatorInput C} (hstep : w.step input = some w') :
    Counted w' := by
  have hinv := h.inv.step hstep
  have herror := error_of_step hstep
  have hrun (runId : String) (input : RunInput C) (hstep : w.stepRun runId input = some w') : Counted w' := by
    obtain ⟨r, effect, hr, rfl⟩ := stepRun_eq_some.mp hstep
    refine ⟨hinv, fun runId' hnotMem => ?_, fun hthrown => ⟨runId, Finset.mem_insert_self _ _, ?_⟩⟩
    · have hne : runId' ≠ runId := fun heq => hnotMem (heq ▸ Finset.mem_insert_self _ _)
      rw [update_runs_of_ne w r effect hne]
      exact h.tracked runId' fun hmem => hnotMem (Finset.mem_insert_of_mem hmem)
    · rw [update_runs_self]
      have hrejection := WorkflowRun.rejection_step hr (h.inv.going herror runId)
      rw [update, herror] at hthrown
      exact WorkflowRun.inFlight_pos_of_rejection (hrejection ▸ hthrown)
  cases input with
  | poll activation => exact hrun _ _ (step_poll hstep).2
  | shutdown =>
    obtain ⟨-, rfl⟩ := step_shutdown hstep
    exact ⟨hinv, h.tracked, h.thrown⟩
  | evict runId => exact hrun _ _ (step_evict hstep).2
  | advance runId outcome => exact hrun _ _ (step_advance hstep)

/-- A step of one run moves each counter as far as what it counts, but for what gets lost. -/
lemma Counted.stepRun (h : Counted w) {runId : String} {input : RunInput C}
    (hstep : w.stepRun runId input = some w') :
    w'.excess = w.excess + (w.runs runId).dropped input ∧
      w'.deficit = w.deficit + (w.runs runId).unheld input := by
  obtain ⟨r, effect, hrun, rfl⟩ := stepRun_eq_some.mp hstep
  have hinFlight := WorkflowRun.inFlight_step hrun
  have hcached := WorkflowRun.cached_step hrun
  have hsumInFlight := Keyed.sum_insert_update (fun r : WorkflowRun C => (r.inFlight : ℤ)) w.runs w.runIds
    runId r fun hnotMem => (h.inFlight_eq_zero hnotMem).1
  have hsumCached := Keyed.sum_insert_update (fun r : WorkflowRun C => (r.cached : ℤ)) w.runs w.runIds
    runId r fun hnotMem => (h.inFlight_eq_zero hnotMem).2
  simp only [excess, deficit, update] at hsumInFlight hsumCached ⊢
  rw [hsumInFlight, hsumCached]
  constructor
  · omega
  · omega

/-- Nothing else changes the difference between a counter and what it counts. -/
lemma Counted.step_diff (h : Counted w) {input : OperatorInput C} (hstep : w.step input = some w') :
    ∃ dropped unheld : ℕ, w'.excess = w.excess + dropped ∧ w'.deficit = w.deficit + unheld ∧
      (w.unbalances input = false ↔ w'.error = none ∧ dropped = 0 ∧ unheld = 0) := by
  have herror := error_of_step hstep
  have hinv := h.inv.going herror
  cases input with
  | poll activation =>
    have hstep := (step_poll hstep).2
    obtain ⟨hexcess, hdeficit⟩ := h.stepRun hstep
    obtain ⟨r, effect, hrun, rfl⟩ := stepRun_eq_some.mp hstep
    obtain ⟨-, -, rfl⟩ := WorkflowRun.step_poll hrun
    exact ⟨_, _, hexcess, hdeficit, iff_of_true rfl ⟨by simp [update, herror], rfl, rfl⟩⟩
  | shutdown =>
    obtain ⟨-, rfl⟩ := step_shutdown hstep
    exact ⟨0, 0, by simp [excess], by simp [deficit], iff_of_true rfl ⟨herror, rfl, rfl⟩⟩
  | evict runId =>
    have hstep := (step_evict hstep).2
    obtain ⟨hexcess, hdeficit⟩ := h.stepRun hstep
    obtain ⟨r, effect, hrun, rfl⟩ := stepRun_eq_some.mp hstep
    obtain ⟨-, -, -, -, rfl⟩ := WorkflowRun.step_evict hrun
    exact ⟨_, _, hexcess, hdeficit, iff_of_true rfl ⟨by simp [update, herror], rfl, rfl⟩⟩
  | advance runId outcome =>
    have hstep := step_advance hstep
    obtain ⟨hexcess, hdeficit⟩ := h.stepRun hstep
    refine ⟨_, _, hexcess, hdeficit, ?_⟩
    obtain ⟨r, effect, hrun, rfl⟩ := stepRun_eq_some.mp hstep
    obtain ⟨g, handler, hgroup, hcurrent, -⟩ := WorkflowRun.step_advance hrun
    have hthrown : (w.update runId r effect).error = none ↔ handler.rejects outcome = false := by
      rw [← WorkflowRun.error_advance hgroup hcurrent hrun, update, herror]
      simp
    rw [hthrown]
    simp only [unbalances, WorkflowRun.dropped, WorkflowRun.unheld, hgroup, hcurrent, Option.any_some,
      Option.elim_some]
    cases handler.rejects outcome <;> cases handler.closes outcome <;> cases handler.stage.state <;> simp

/-- The invariant as long as the counters are exact. -/
structure Exact (w : OperatorState C) : Prop where
  counted : Counted w
  going : w.error = none
  excess : w.excess = 0
  deficit : w.deficit = 0

structure Unbalanced (w : OperatorState C) : Prop where
  counted : Counted w
  excess : 0 ≤ w.excess
  deficit : 0 ≤ w.deficit
  one : w.error = none → 0 < w.excess + w.deficit

lemma Exact.step (h : Exact w) {input : OperatorInput C} (hinput : w.unbalances input = false)
    (hstep : w.step input = some w') : Exact w' := by
  obtain ⟨dropped, unheld, hexcess, hdeficit, hiff⟩ := h.counted.step_diff hstep
  obtain ⟨hgoing, rfl, rfl⟩ := hiff.mp hinput
  exact ⟨h.counted.step hstep, hgoing, by rw [hexcess, h.excess]; rfl, by rw [hdeficit, h.deficit]; rfl⟩

lemma Exact.unbalanced (h : Exact w) {input : OperatorInput C} (hinput : ¬w.unbalances input = false)
    (hstep : w.step input = some w') : Unbalanced w' := by
  obtain ⟨dropped, unheld, hexcess, hdeficit, hiff⟩ := h.counted.step_diff hstep
  rw [hiff] at hinput
  rw [h.excess] at hexcess
  rw [h.deficit] at hdeficit
  refine ⟨h.counted.step hstep, by omega, by omega, fun hgoing => ?_⟩
  have hlost : ¬(dropped = 0 ∧ unheld = 0) := fun hzero => hinput ⟨hgoing, hzero⟩
  omega

/-- What is lost stays lost, and after a handler has thrown there are no steps. -/
lemma Unbalanced.step (h : Unbalanced w) {input : OperatorInput C} (hstep : w.step input = some w') :
    Unbalanced w' := by
  obtain ⟨dropped, unheld, hexcess, hdeficit, -⟩ := h.counted.step_diff hstep
  have hexcess' := h.excess
  have hdeficit' := h.deficit
  have hone := h.one (error_of_step hstep)
  exact ⟨h.counted.step hstep, by omega, by omega, fun _ => by omega⟩

/-- When nothing is being processed, nothing is in flight, and the instances are those held as
state. -/
lemma Counted.quiescent (h : Counted w) (hquiescent : Quiescent w) :
    ∑ runId ∈ w.runIds, ((w.runs runId).inFlight : ℤ) = 0 ∧
      ∑ runId ∈ w.runIds, ((w.runs runId).cached : ℤ) = w.heldRuns.card := by
  have hrun (runId : String) : (w.runs runId).inFlight = 0 ∧ (w.runs runId).held = (w.runs runId).state := by
    cases hgroup : (w.runs runId).group with
    | none => simp [WorkflowRun.inFlight, WorkflowRun.held, WorkflowRun.state, hgroup]
    | some g =>
      have hcurrent : g.current = none := by
        have hnone := hquiescent runId
        rw [WorkflowRun.currentItem_of_group hgroup, Option.map_eq_none_iff] at hnone
        exact hnone
      have hwaiting := ((h.inv.runs runId).group g hgroup).idle hcurrent
      simp [WorkflowRun.inFlight, WorkflowRun.held, WorkflowRun.state, ActivationGroup.held, hgroup, hcurrent,
        hwaiting]
  constructor
  · refine Finset.sum_eq_zero fun runId _ => ?_
    rw [(hrun runId).1]
    rfl
  · rw [heldRuns, Finset.natCast_card_filter]
    refine Finset.sum_congr rfl fun runId _ => ?_
    rw [WorkflowRun.cached, (hrun runId).2]
    split <;> rfl

lemma Exact.countersOk (h : Exact w) : CountersOk w := by
  have hexcess := h.excess
  have hdeficit := h.deficit
  unfold OperatorState.excess at hexcess
  unfold OperatorState.deficit at hdeficit
  have hinFlight : 0 ≤ ∑ runId ∈ w.runIds, ((w.runs runId).inFlight : ℤ) :=
    Finset.sum_nonneg fun _ _ => Int.natCast_nonneg _
  have hcached : 0 ≤ ∑ runId ∈ w.runIds, ((w.runs runId).cached : ℤ) :=
    Finset.sum_nonneg fun _ _ => Int.natCast_nonneg _
  have hquiescent (hrest : AtRest w) : Quiescent w := by
    rcases hrest with hthrown | hquiescent
    · rw [h.going] at hthrown
      cases hthrown
    · exact hquiescent
  refine ⟨by omega, by omega, fun runId hheld => ?_, fun hrest => ?_, fun hrest => ?_⟩
  · by_contra hnotMem
    rw [WorkflowRun.state, h.counted.tracked runId hnotMem] at hheld
    cases hheld
  · have hzero := (h.counted.quiescent (hquiescent hrest)).1
    omega
  · have hcard := (h.counted.quiescent (hquiescent hrest)).2
    omega

/-- A handler that has thrown is counted. -/
lemma Unbalanced.inFlight_pos (h : Unbalanced w) (hthrown : w.error.isSome = true) :
    0 < w.numInFlightActivations := by
  obtain ⟨runId, hmem, hpos⟩ := h.counted.thrown hthrown
  have hle : ((w.runs runId).inFlight : ℤ) ≤ ∑ runId ∈ w.runIds, ((w.runs runId).inFlight : ℤ) :=
    Finset.single_le_sum (f := fun runId => ((w.runs runId).inFlight : ℤ)) (fun _ _ => Int.natCast_nonneg _) hmem
  have hexcess := h.excess
  unfold OperatorState.excess at hexcess
  omega

lemma Unbalanced.not_countersOk (h : Unbalanced w) (hrest : AtRest w) : ¬CountersOk w := by
  intro hok
  have hinFlight := hok.inFlight hrest
  cases herror : w.error with
  | some error =>
    have hpos := h.inFlight_pos (by rw [herror]; rfl)
    omega
  | none =>
    have hquiescent : Quiescent w := hrest.resolve_left (by simp [herror])
    have hone := h.one herror
    have hcached := hok.cached hrest
    obtain ⟨hzero, hcard⟩ := h.counted.quiescent hquiescent
    unfold OperatorState.excess OperatorState.deficit at hone
    omega

/-- The counters are exact as long as no step unbalances them; afterwards they are wrong whenever
the operator is at rest. -/
theorem countersOk_of_balanced (inputs : List (OperatorInput C)) (w : OperatorState C)
    (hrun : Transition.run step initial inputs = some w) :
    (Transition.Meets step (fun w input => unbalances w input = false) initial inputs → CountersOk w) ∧
      (AtRest w → CountersOk w →
        Transition.Meets step (fun w input => unbalances w input = false) initial inputs) := by
  have hbroken := Transition.meets_or_broken (I := Exact) (B := Unbalanced)
    (fun _ _ _ h hinput hstep => h.step hinput hstep)
    (fun _ _ _ h hinput hstep => h.unbalanced hinput hstep) (fun _ _ _ h hstep => h.step hstep)
    ⟨counted_initial, rfl, rfl, rfl⟩ hrun
  rcases hbroken with ⟨hmeets, hexact⟩ | ⟨hmeets, hunbalanced⟩
  · exact ⟨fun _ => hexact.countersOk, fun _ _ => hmeets⟩
  · exact ⟨fun h => absurd h hmeets, fun hrest hok => absurd hok (hunbalanced.not_countersOk hrest)⟩

/-- A run is started, activated and evicted. -/
theorem countersOk_startedAndEvicted :
    ∃ w, Transition.run step initial startedAndEvicted = some w ∧ CountersOk w :=
  ⟨_, rfl, (countersOk_of_balanced startedAndEvicted _ rfl).1 (by decide)⟩

/-- Core evicts a run of which the worker has no instance. -/
theorem not_countersOk_untracked :
    ∃ w : OperatorState Unit, Transition.run step initial
        [.poll ⟨"a", none, [.removeFromCache "not found"]⟩, .advance "a" (.ok ())] = some w ∧
      ¬CountersOk w := by
  refine ⟨_, rfl, fun h => ?_⟩
  have hnonneg := h.cached_nonneg
  revert hnonneg
  decide

end OperatorState

end TemporalSdk
