import TemporalSdk.Worker.OperatorTurns

/-!
# The Workflow instances of a run

An instance that has been created is disposed of when the run is evicted, unless its group has
been closed by an activation that had other jobs.
-/

namespace TemporalSdk

variable {C : Type}

/-- The calls of a run, when `created` instances have been created, `held` is the one that the
operator has, and `undisposed` is that instance as long as it has not been disposed of. -/
structure Instances (calls : List WorkflowCall) (created : ℕ)
    (held undisposed : Option WorkflowInstance) : Prop where
  fresh : ∀ i, .createWorkflow i ∈ calls → i.number < created
  distinct : ∀ i, calls.count (.createWorkflow i) ≤ 1
  mem_held : ∀ i, held = some i → .createWorkflow i ∈ calls
  held_of_undisposed : ∀ i, undisposed = some i → held = some i
  disposed : ∀ i, calls.count (.dispose i) =
    if .createWorkflow i ∈ calls ∧ undisposed ≠ some i then 1 else 0
  notUsed : calls.Pairwise fun call call' => ∀ i, call = .dispose i → call' ≠ .activate i

namespace Instances

variable {calls : List WorkflowCall} {created : ℕ} {held undisposed : Option WorkflowInstance}
  {workflow : WorkflowInstance}

lemma nil : Instances [] 0 none none :=
  ⟨by simp, fun _ => Nat.zero_le _, by simp, by simp, fun _ => rfl, List.Pairwise.nil⟩

lemma notMem_dispose (h : Instances calls created held (some workflow)) :
    WorkflowCall.dispose workflow ∉ calls := by
  intro hmem
  have hpos := List.count_pos_iff.mpr hmem
  rw [h.disposed workflow, if_neg (by simp)] at hpos
  exact absurd hpos (Nat.lt_irrefl 0)

lemma activate (h : Instances calls created held (some workflow)) :
    Instances (calls ++ [.activate workflow]) created held (some workflow) := by
  refine ⟨fun i hi => h.fresh i (by simpa using hi), fun i => ?_, fun i hi => ?_, h.held_of_undisposed,
    fun i => ?_, ?_⟩
  · simpa [List.count_append] using h.distinct i
  · exact List.mem_append_left _ (h.mem_held i hi)
  · simpa [List.count_append] using h.disposed i
  · rw [List.pairwise_append]
    refine ⟨h.notUsed, List.pairwise_singleton _ _, fun call hcall call' hcall' i hi => ?_⟩
    rw [List.mem_singleton] at hcall'
    subst hcall' hi
    intro heq
    cases heq
    exact h.notMem_dispose hcall

lemma create (h : Instances calls created none none) (runId : String) :
    Instances (calls ++ [.createWorkflow ⟨runId, created⟩]) (created + 1) (some ⟨runId, created⟩)
      (some ⟨runId, created⟩) := by
  have hnew : WorkflowCall.createWorkflow ⟨runId, created⟩ ∉ calls := fun hmem =>
    absurd (h.fresh _ hmem) (Nat.lt_irrefl _)
  refine ⟨fun i hi => ?_, fun i => ?_, fun i hi => ?_, fun i hi => hi, fun i => ?_, ?_⟩
  · rcases List.mem_append.mp hi with hold | hlast
    · exact Nat.lt_succ_of_lt (h.fresh i hold)
    · cases List.mem_singleton.mp hlast
      exact Nat.lt_succ_self _
  · rw [List.count_append]
    by_cases hi : i = ⟨runId, created⟩
    · subst hi
      rw [List.count_eq_zero_of_not_mem hnew]
      simp
    · have hlast : [WorkflowCall.createWorkflow ⟨runId, created⟩].count (.createWorkflow i) = 0 :=
        List.count_eq_zero_of_not_mem (by simpa using hi)
      rw [hlast, Nat.add_zero]
      exact h.distinct i
  · cases hi
    exact List.mem_concat_self
  · have hold := h.disposed i
    by_cases hi : i = ⟨runId, created⟩
    · subst hi
      rw [if_neg (fun hmem => hnew hmem.1)] at hold
      simp [List.count_append, hold]
    · have hne : (⟨runId, created⟩ : WorkflowInstance) ≠ i := Ne.symm hi
      simpa [List.count_append, hi, hne] using hold
  · rw [List.pairwise_append]
    refine ⟨h.notUsed, List.pairwise_singleton _ _, fun call _ call' hcall' i _ => ?_⟩
    rw [List.mem_singleton] at hcall'
    subst hcall'
    simp

lemma dispose (h : Instances calls created held held) :
    Instances (calls ++ held.toList.map .dispose) created held none := by
  cases held with
  | none => simpa using h
  | some workflow =>
    refine ⟨fun i hi => h.fresh i (by simpa using hi), fun i => ?_, fun i hi => ?_, by simp, fun i => ?_, ?_⟩
    · simpa [List.count_append] using h.distinct i
    · exact List.mem_append_left _ (h.mem_held i hi)
    · have hold := h.disposed i
      by_cases hi : i = workflow
      · subst hi
        have hcreated := h.mem_held i rfl
        rw [if_neg (by simp)] at hold
        simp [List.count_append, hold, hcreated]
      · have hne : workflow ≠ i := Ne.symm hi
        simpa [List.count_append, hi, hne] using hold
    · rw [List.pairwise_append]
      refine ⟨h.notUsed, List.pairwise_singleton _ _, fun call _ call' hcall' i _ => ?_⟩
      simp only [Option.toList_some, List.map_cons, List.map_nil, List.mem_singleton] at hcall'
      subst hcall'
      simp

/-- What has been disposed of need not be held. -/
lemma drop (h : Instances calls created held none) : Instances calls created none none :=
  ⟨h.fresh, h.distinct, by simp, by simp, h.disposed, h.notUsed⟩

end Instances

namespace Handler

variable {h : Handler C} {created : ℕ} {outcome : Except JsError C} {state : Option WorkflowInstance}
  {completion : Option (WorkflowCompletion C)}

/-- The group stays open only after an instance has been activated. -/
lemma keeps_of_advance (hadvance : h.advance created outcome = some (.done state false completion)) :
    h.stage.isEnding = false ∧ state = h.stage.state := by
  rcases advance_done hadvance with ⟨-, -, hclose, -⟩ | ⟨workflow, result, hstage, rfl, -⟩ | ⟨_, _, -, -, hclose, -⟩
  · cases hclose
  · rw [hstage]
    exact ⟨rfl, rfl⟩
  · cases hclose

end Handler

namespace ActivationGroup

/-- The instance that a group has: its state, or the handler's. -/
def held (g : ActivationGroup C) : Option WorkflowInstance :=
  match g.current with
  | none => g.state
  | some h => h.stage.state

/-- The same, unless the handler has already called `dispose`. -/
def undisposed (g : ActivationGroup C) : Option WorkflowInstance :=
  match g.current with
  | none => g.state
  | some h => if h.jobs = [] then none else h.stage.state

end ActivationGroup

namespace WorkflowRun

def held (r : WorkflowRun C) : Option WorkflowInstance := r.group.bind ActivationGroup.held

def undisposed (r : WorkflowRun C) : Option WorkflowInstance := r.group.bind ActivationGroup.undisposed

/-- Every instance is disposed of at most once, exactly once when the operator has let go of it,
and not activated afterwards. -/
structure DisposedOnce (r : WorkflowRun C) : Prop where
  distinct : ∀ i, r.calls.count (.createWorkflow i) ≤ 1
  atMostOnce : ∀ i, r.calls.count (.dispose i) ≤ 1
  notLeaked : ∀ i, .createWorkflow i ∈ r.calls → r.held ≠ some i → r.calls.count (.dispose i) = 1
  notUsed : r.calls.Pairwise fun call call' => ∀ i, call = .dispose i → call' ≠ .activate i

/-- The invariant of runs in which no instance has been leaked. -/
def InstancesOk (r : WorkflowRun C) : Prop := Instances r.calls r.created r.held r.undisposed

variable {r r' : WorkflowRun C} {g : ActivationGroup C} {h : Handler C} {runId : String}
  {effect : OperatorEffect C}

lemma InstancesOk.disposedOnce (hok : InstancesOk r) : DisposedOnce r := by
  refine ⟨hok.distinct, fun i => ?_, fun i hi hheld => ?_, hok.notUsed⟩
  · rw [hok.disposed i]
    split
    · exact le_refl _
    · exact Nat.zero_le _
  · rw [hok.disposed i, if_pos ⟨hi, fun hundisposed => hheld (hok.held_of_undisposed i hundisposed)⟩]

lemma instancesOk_initial : InstancesOk (initial : WorkflowRun C) := Instances.nil

lemma held_of_group (hgroup : r.group = some g) : r.held = g.held ∧ r.undisposed = g.undisposed := by
  rw [held, undisposed, hgroup]
  exact ⟨rfl, rfl⟩

/-- The handler is called with the group's state, and disposes of it or keeps it. -/
lemma instancesOk_call {item : ActivationItem} (hinstances : Instances r.calls r.created g.state g.state) :
    InstancesOk (r.call g item) := by
  have hheld : (r.call g item).held = g.state := Handler.start_state g.state item
  unfold InstancesOk
  rw [hheld]
  simp only [call, undisposed, Option.bind_some, ActivationGroup.undisposed]
  rw [Handler.start_calls, Handler.start_state]
  split
  · exact hinstances.dispose
  · rw [List.append_nil]
    exact hinstances

lemma instancesOk_callNext (hcurrent : g.current = none)
    (hinstances : Instances r.calls r.created g.state g.state) : InstancesOk (r.callNext g) := by
  unfold callNext
  split
  · have hgroup : ({ r with group := some g } : WorkflowRun C).held = g.state ∧
        ({ r with group := some g } : WorkflowRun C).undisposed = g.state := by
      simp [held, undisposed, ActivationGroup.held, ActivationGroup.undisposed, hcurrent]
    unfold InstancesOk
    rw [hgroup.1, hgroup.2]
    exact hinstances
  · exact instancesOk_call hinstances

lemma InstancesOk.receive (hok : Instances r.calls r.created g.held g.undisposed) (item : ActivationItem) :
    InstancesOk (r.receive g item) := by
  unfold WorkflowRun.receive
  cases hcurrent : g.current with
  | none =>
    have hstate : g.held = g.state ∧ g.undisposed = g.state := by
      simp [ActivationGroup.held, ActivationGroup.undisposed, hcurrent]
    rw [hstate.1, hstate.2] at hok
    exact instancesOk_call hok
  | some h =>
    simp only [ActivationGroup.held, ActivationGroup.undisposed, hcurrent] at hok
    exact hok

/-- An activation that has other jobs keeps its instance until it ends; when nothing but an
eviction was to be done, the instance has been disposed of. -/
lemma InstancesOk.advance (hok : InstancesOk r) (hrun : r.Ok runId) {outcome : Except JsError C}
    (hkept : ∀ g h, r.group = some g → g.current = some h → h.closes outcome = true →
      h.stage.state.isSome = true → h.jobs = [])
    (hstep : r.step runId (.advance outcome) = some (r', effect)) : InstancesOk r' := by
  obtain ⟨g, h, hgroup, hcurrent, hresult⟩ := step_advance hstep
  have hwf := (hrun.group g hgroup).handler h hcurrent
  have hheld : g.held = h.stage.state ∧ g.undisposed = if h.jobs = [] then none else h.stage.state := by
    simp [ActivationGroup.held, ActivationGroup.undisposed, hcurrent]
  unfold InstancesOk at hok
  rw [(held_of_group hgroup).1, (held_of_group hgroup).2, hheld.1, hheld.2] at hok
  rcases hresult with ⟨stage, calls, hadvance, rfl, -⟩ | ⟨state, close, completion, hadvance, rfl, -⟩
  · obtain ⟨-, -, -, hending, hstate⟩ := Handler.advance_await hadvance
    show Instances (r.calls ++ calls) _ stage.state (if h.jobs = [] then none else stage.state)
    rcases hstate with ⟨hsame, rfl | ⟨workflow, hworkflow, rfl⟩⟩ | ⟨hnone, hnew, rfl⟩
    · rw [hsame, List.append_nil]
      exact hok
    · have hjobs : h.jobs ≠ [] := fun hjobs => by
        have hcalls := (hending (hwf.ending hjobs)).2
        cases hcalls
      rw [if_neg hjobs, hworkflow] at hok
      rw [if_neg hjobs, hsame, hworkflow]
      exact hok.activate
    · have hjobs : h.jobs ≠ [] := fun hjobs => by
        have hcalls := (hending (hwf.ending hjobs)).2
        cases hcalls
      rw [if_neg hjobs, hnone] at hok
      rw [if_neg hjobs, hnew]
      exact hok.create _
  · cases close with
    | true =>
      have hnone : (if h.jobs = [] then none else h.stage.state) = none := by
        split
        · rfl
        · rename_i hjobs
          by_contra hsome
          exact hjobs (hkept g h hgroup hcurrent ((Handler.done_eq hadvance).1)
            (Option.isSome_iff_ne_none.mpr hsome))
      rw [hnone] at hok
      exact hok.drop
    | false =>
      obtain ⟨hending, rfl⟩ := Handler.keeps_of_advance hadvance
      have hjobs : h.jobs ≠ [] := fun hjobs => by
        rw [hwf.ending hjobs] at hending
        cases hending
      rw [if_neg hjobs] at hok
      exact instancesOk_callNext rfl hok

lemma InstancesOk.poll (hok : InstancesOk r) {activation : WorkflowActivation}
    (hstep : r.step runId (.poll activation) = some (r', effect)) : InstancesOk r' := by
  obtain ⟨-, rfl, -⟩ := step_poll hstep
  refine InstancesOk.receive ?_ _
  unfold InstancesOk held undisposed at hok
  cases hgroup : r.group with
  | none =>
    rw [hgroup] at hok
    exact hok
  | some g =>
    rw [hgroup] at hok
    exact hok

lemma InstancesOk.evict (hok : InstancesOk r) (hstep : r.step runId .evict = some (r', effect)) :
    InstancesOk r' := by
  obtain ⟨g, hgroup, -, rfl, -⟩ := step_evict hstep
  refine InstancesOk.receive ?_ _
  unfold InstancesOk at hok
  rw [(held_of_group hgroup).1, (held_of_group hgroup).2] at hok
  exact hok

/-! ### Leaks -/

/-- An instance that nobody refers to any more and that has not been disposed of. -/
structure Leaked (r : WorkflowRun C) (i : WorkflowInstance) : Prop where
  created : .createWorkflow i ∈ r.calls
  number : i.number < r.created
  notDisposed : .dispose i ∉ r.calls
  state : r.state ≠ some i
  held : r.held ≠ some i

/-- When the group has ended, an instance that was not disposed of is leaked. -/
lemma leaked_of_no_group {i : WorkflowInstance} (hcreated : .createWorkflow i ∈ r.calls)
    (hnumber : i.number < r.created) (hnotDisposed : .dispose i ∉ r.calls) (hgroup : r.group = none) :
    Leaked r i := by
  refine ⟨hcreated, hnumber, hnotDisposed, ?_, ?_⟩
  · rw [state, hgroup]
    exact (Option.some_ne_none i).symm
  · rw [held, hgroup]
    exact (Option.some_ne_none i).symm

lemma Leaked.not_disposedOnce {i : WorkflowInstance} (h : Leaked r i) : ¬DisposedOnce r := by
  intro hdisposed
  have hcount := hdisposed.notLeaked i h.created h.held
  rw [List.count_eq_zero_of_not_mem h.notDisposed] at hcount
  cases hcount

lemma leaked_call {i : WorkflowInstance} {item : ActivationItem} (hcreated : .createWorkflow i ∈ r.calls)
    (hnumber : i.number < r.created) (hdisposed : .dispose i ∉ r.calls) (hstate : g.state ≠ some i) :
    Leaked (r.call g item) i := by
  refine ⟨List.mem_append_left _ hcreated, hnumber, fun hmem => ?_, hstate, ?_⟩
  · rcases List.mem_append.mp hmem with hold | hnew
    · exact hdisposed hold
    · rw [Handler.start_calls] at hnew
      split at hnew
      · obtain ⟨workflow, hworkflow, heq⟩ := List.mem_map.mp hnew
        cases heq
        exact hstate (Option.mem_toList.mp hworkflow)
      · cases hnew
  · have hheld : (r.call g item).held = g.state := Handler.start_state g.state item
    rw [hheld]
    exact hstate

lemma leaked_callNext {i : WorkflowInstance} (hcurrent : g.current = none)
    (hcreated : .createWorkflow i ∈ r.calls) (hnumber : i.number < r.created)
    (hdisposed : .dispose i ∉ r.calls) (hstate : g.state ≠ some i) : Leaked (r.callNext g) i := by
  unfold callNext
  split
  · refine ⟨hcreated, hnumber, hdisposed, hstate, ?_⟩
    simpa [held, ActivationGroup.held, hcurrent] using hstate
  · exact leaked_call hcreated hnumber hdisposed hstate

lemma leaked_receive {i : WorkflowInstance} {item : ActivationItem} (hcreated : .createWorkflow i ∈ r.calls)
    (hnumber : i.number < r.created) (hdisposed : .dispose i ∉ r.calls) (hstate : g.state ≠ some i)
    (hheld : g.held ≠ some i) : Leaked (r.receive g item) i := by
  unfold receive
  split
  · exact leaked_call hcreated hnumber hdisposed hstate
  · exact ⟨hcreated, hnumber, hdisposed, hstate, hheld⟩

/-- A leaked instance stays leaked. -/
lemma Leaked.step {i : WorkflowInstance} {input : RunInput C} (h : Leaked r i)
    (hstep : r.step runId input = some (r', effect)) : Leaked r' i := by
  cases input with
  | poll activation =>
    obtain ⟨-, rfl, -⟩ := step_poll hstep
    have hgroup : (r.group.getD ⟨none, none, [], false⟩).state ≠ some i ∧
        (r.group.getD ⟨none, none, [], false⟩).held ≠ some i := by
      have hstate := h.state
      have hheld := h.held
      unfold WorkflowRun.state at hstate
      unfold WorkflowRun.held at hheld
      cases hgroup : r.group with
      | none => exact ⟨(Option.some_ne_none i).symm, (Option.some_ne_none i).symm⟩
      | some g =>
        rw [hgroup] at hstate hheld
        exact ⟨hstate, hheld⟩
    exact leaked_receive h.created h.number h.notDisposed hgroup.1 hgroup.2
  | evict =>
    obtain ⟨g, hgroup, -, rfl, -⟩ := step_evict hstep
    have hstate := h.state
    have hheld := h.held
    rw [state_of_group hgroup] at hstate
    rw [(held_of_group hgroup).1] at hheld
    exact leaked_receive h.created h.number h.notDisposed hstate hheld
  | advance outcome =>
    obtain ⟨g, handler, hgroup, hcurrent, hresult⟩ := step_advance hstep
    have hstate := h.state
    have hheld := h.held
    rw [state_of_group hgroup] at hstate
    rw [(held_of_group hgroup).1, ActivationGroup.held, hcurrent] at hheld
    rcases hresult with ⟨stage, calls, hadvance, rfl, -⟩ | ⟨state, close, completion, hadvance, rfl, -⟩
    · have hkeeps := (Handler.advance_await hadvance).instanceOf
      have hcalls : .dispose i ∉ calls ∧ stage.state ≠ some i := by
        rcases hkeeps with ⟨hsame, rfl | ⟨workflow, -, rfl⟩⟩ | ⟨-, hnew, rfl⟩
        · exact ⟨by simp, hsame ▸ hheld⟩
        · exact ⟨by simp, hsame ▸ hheld⟩
        · refine ⟨by simp, fun heq => ?_⟩
          rw [hnew] at heq
          cases heq
          exact absurd h.number (Nat.lt_irrefl _)
      refine ⟨List.mem_append_left _ h.created, Nat.lt_add_right _ h.number, fun hmem => ?_, hstate, hcalls.2⟩
      exact (List.mem_append.mp hmem).elim h.notDisposed hcalls.1
    · unfold finish
      cases close with
      | true =>
        exact leaked_of_no_group h.created h.number h.notDisposed rfl
      | false =>
        obtain ⟨-, rfl⟩ := Handler.keeps_of_advance hadvance
        exact leaked_callNext rfl h.created h.number h.notDisposed hheld

/-- An activation with other jobs closes the group of its instance. -/
lemma leaked_of_closes (hok : InstancesOk r) (hgroup : r.group = some g) (hcurrent : g.current = some h)
    {outcome : Except JsError C} (hstep : r.step runId (.advance outcome) = some (r', effect))
    (hcloses : h.closes outcome = true) {i : WorkflowInstance} (hstate : h.stage.state = some i)
    (hjobs : h.jobs ≠ []) : Leaked r' i := by
  have hheld : r.held = some i ∧ r.undisposed = some i := by
    rw [(held_of_group hgroup).1, (held_of_group hgroup).2]
    simp [ActivationGroup.held, ActivationGroup.undisposed, hcurrent, hstate, hjobs]
  unfold InstancesOk at hok
  rw [hheld.1, hheld.2] at hok
  obtain ⟨g', h', hgroup', hcurrent', hresult⟩ := step_advance hstep
  obtain rfl : g = g' := Option.some.inj (hgroup.symm.trans hgroup')
  obtain rfl : h = h' := Option.some.inj (hcurrent.symm.trans hcurrent')
  rcases hresult with ⟨stage, calls, hadvance, -, -⟩ | ⟨state, close, completion, hadvance, rfl, -⟩
  · rw [(Handler.advance_await hadvance).closes] at hcloses
    cases hcloses
  · rw [(Handler.done_eq hadvance).1] at hcloses
    subst hcloses
    have hcreated := hok.mem_held i rfl
    exact leaked_of_no_group hcreated (hok.fresh i hcreated) hok.notMem_dispose rfl

end WorkflowRun

/-! ### The operator -/

namespace OperatorState

/-- An activation that has jobs other than an eviction and has reached an instance is about to
close its group. -/
def leaksInstance (w : OperatorState C) : OperatorInput C → Bool
  | .advance runId outcome => ((w.runs runId).group.bind ActivationGroup.current).any fun h =>
      h.closes outcome && h.stage.state.isSome && !h.jobs.isEmpty
  | _ => false

variable {w w' : OperatorState C}

/-- The invariant of the operator as long as no instance is leaked. -/
def InstancesOk (w : OperatorState C) : Prop := Inv w ∧ ∀ runId, (w.runs runId).InstancesOk

def SomeLeaked (w : OperatorState C) : Prop := ∃ runId i, (w.runs runId).Leaked i

lemma InstancesOk.stepRun (h : InstancesOk w) {input : OperatorInput C} (hstep : w.step input = some w')
    {runId : String} {r : WorkflowRun C} {effect : OperatorEffect C} (hw' : w.update runId r effect = w')
    (hr : r.InstancesOk) : InstancesOk w' := by
  refine ⟨h.1.step hstep, fun runId' => ?_⟩
  subst hw'
  by_cases hrun : runId' = runId
  · subst hrun
    rw [update_runs_self]
    exact hr
  · rw [update_runs_of_ne w r effect hrun]
    exact h.2 runId'

lemma InstancesOk.step (h : InstancesOk w) {input : OperatorInput C} (hinput : w.leaksInstance input = false)
    (hstep : w.step input = some w') : InstancesOk w' := by
  have hstep' := hstep
  cases input with
  | poll activation =>
    obtain ⟨r, effect, hrun, hw'⟩ := stepRun_eq_some.mp (step_poll hstep).2
    exact h.stepRun hstep' hw' ((h.2 _).poll hrun)
  | shutdown =>
    refine ⟨h.1.step hstep, ?_⟩
    obtain ⟨-, rfl⟩ := step_shutdown hstep
    exact h.2
  | evict runId =>
    obtain ⟨r, effect, hrun, hw'⟩ := stepRun_eq_some.mp (step_evict hstep).2
    exact h.stepRun hstep' hw' ((h.2 _).evict hrun)
  | advance runId outcome =>
    obtain ⟨r, effect, hrun, hw'⟩ := stepRun_eq_some.mp (step_advance hstep)
    refine h.stepRun hstep' hw' ((h.2 runId).advance (h.1.runs runId) ?_ hrun)
    intro g handler hgroup hcurrent hcloses hsome
    simpa [leaksInstance, hgroup, hcurrent, hcloses, hsome] using hinput

lemma SomeLeaked.step (h : SomeLeaked w) {input : OperatorInput C} (hstep : w.step input = some w') :
    SomeLeaked w' := by
  obtain ⟨runId, i, hleaked⟩ := h
  have hkept (runId' : String) (input : RunInput C) (hrun : w.stepRun runId' input = some w') :
      SomeLeaked w' := by
    obtain ⟨r, effect, hr, rfl⟩ := stepRun_eq_some.mp hrun
    refine ⟨runId, i, ?_⟩
    by_cases heq : runId = runId'
    · subst heq
      rw [update_runs_self]
      exact hleaked.step hr
    · rw [update_runs_of_ne w r effect heq]
      exact hleaked
  cases input with
  | poll activation => exact hkept _ _ (step_poll hstep).2
  | shutdown =>
    obtain ⟨-, rfl⟩ := step_shutdown hstep
    exact ⟨runId, i, hleaked⟩
  | evict runId' => exact hkept _ _ (step_evict hstep).2
  | advance runId' outcome => exact hkept _ _ (step_advance hstep)

lemma someLeaked_of_leaksInstance (h : InstancesOk w) {input : OperatorInput C}
    (hinput : w.leaksInstance input = true) (hstep : w.step input = some w') : SomeLeaked w' := by
  cases input with
  | poll activation => cases hinput
  | shutdown => cases hinput
  | evict runId => cases hinput
  | advance runId outcome =>
    obtain ⟨r, effect, hrun, rfl⟩ := stepRun_eq_some.mp (step_advance hstep)
    obtain ⟨handler, hhandler, hleaks⟩ := (Option.any_eq_true _ _).mp hinput
    obtain ⟨g, hgroup, hcurrent⟩ := Option.bind_eq_some_iff.mp hhandler
    simp only [Bool.and_eq_true, Bool.not_eq_true', List.isEmpty_eq_false_iff] at hleaks
    obtain ⟨⟨hcloses, hsome⟩, hjobs⟩ := hleaks
    obtain ⟨i, hi⟩ := Option.isSome_iff_exists.mp hsome
    refine ⟨runId, i, ?_⟩
    rw [update_runs_self]
    exact WorkflowRun.leaked_of_closes (h.2 runId) hgroup hcurrent hrun hcloses hi hjobs

lemma instancesOk_initial : InstancesOk (initial : OperatorState C) :=
  ⟨inv_initial, fun _ => WorkflowRun.instancesOk_initial⟩

/-- All instances of all runs are disposed of exactly once if and only if no activation with
other jobs than an eviction closes the group of an instance. -/
theorem disposedOnce_iff (inputs : List (OperatorInput C)) (w : OperatorState C)
    (hrun : Transition.run step initial inputs = some w) :
    (∀ runId, (w.runs runId).DisposedOnce) ↔
      Transition.Meets step (fun w input => leaksInstance w input = false) initial inputs := by
  have hbroken := Transition.meets_or_broken (I := InstancesOk) (B := SomeLeaked)
    (fun _ _ _ h hinput hstep => h.step hinput hstep)
    (fun _ _ _ h hinput hstep => someLeaked_of_leaksInstance h (Bool.eq_true_of_not_eq_false hinput) hstep)
    (fun _ _ _ h hstep => h.step hstep) instancesOk_initial hrun
  rcases hbroken with ⟨hmeets, hok⟩ | ⟨hmeets, runId, i, hleaked⟩
  · exact iff_of_true (fun runId => (hok.2 runId).disposedOnce) hmeets
  · exact iff_of_false (fun h => hleaked.not_disposedOnce (h runId)) hmeets

/-- A run that is started, activated and evicted. -/
def startedAndEvicted : List (OperatorInput Unit) :=
  [.poll ⟨"a", some ⟨0, 0⟩, [.startWorkflow ⟨some "w", some "t", some 1, some "r", some 1, some ⟨0, 0⟩⟩]⟩,
    .advance "a" (.ok ()), .advance "a" (.ok ()), .advance "a" (.ok ()), .advance "a" (.ok ()),
    .advance "a" (.ok ()), .advance "a" (.ok ()), .poll ⟨"a", none, [.removeFromCache "cache full"]⟩,
    .advance "a" (.ok ())]

theorem disposedOnce_startedAndEvicted :
    ∃ w, Transition.run step initial startedAndEvicted = some w ∧
      ((∀ runId, (w.runs runId).DisposedOnce) ↔
        Transition.Meets step (fun w input => leaksInstance w input = false) initial startedAndEvicted) ∧
      (w.runs "a").calls = [.createWorkflow ⟨"a", 0⟩, .activate ⟨"a", 0⟩, .dispose ⟨"a", 0⟩] :=
  ⟨_, rfl, disposedOnce_iff startedAndEvicted _ rfl, rfl⟩

/-- An activation that fails in the workflow closes the group and leaves the instance behind. -/
theorem not_disposedOnce_failed :
    ∃ w : OperatorState Unit, Transition.run step initial
        [.poll ⟨"a", some ⟨0, 0⟩, [.startWorkflow ⟨some "w", some "t", some 1, some "r", some 1, some ⟨0, 0⟩⟩]⟩,
          .advance "a" (.ok ()), .advance "a" (.ok ()), .advance "a" (.ok ()),
          .advance "a" (.error (.typeError "thrown")), .advance "a" (.ok ()), .advance "a" (.ok ()),
          .poll ⟨"a", none, [.removeFromCache "cache full"]⟩, .advance "a" (.ok ())] = some w ∧
      ¬∀ runId, (w.runs runId).DisposedOnce := by
  refine ⟨_, rfl, fun h => ?_⟩
  have hcount := (h "a").notLeaked ⟨"a", 0⟩ (by decide) (by decide)
  revert hcount
  decide

end OperatorState

end TemporalSdk
