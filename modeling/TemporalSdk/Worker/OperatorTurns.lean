import TemporalSdk.Worker.WorkflowOperator

/-!
# The turns of a run

A run's activations take turns: the handler is called with the state that the turn before has
left, and ends before it is called again. Each turn of a polled activation gives one completion.
-/

namespace TemporalSdk

variable {C : Type}

/-! ### The handler -/

namespace HandlerStage

/-- Nothing is awaited from an instance any more. -/
def isEnding : HandlerStage C → Bool
  | disposing _ => true
  | failing _ _ => true
  | rejected _ _ => true
  | _ => false

/-- A bound for the number of `await`s to come. -/
def rank : HandlerStage C → ℕ
  | disposing _ => 2
  | describing => 7
  | creating => 6
  | decoding _ => 5
  | activating _ => 4
  | encoding _ => 3
  | sinkCalls _ _ => 2
  | failing _ _ => 1
  | rejected _ _ => 0

lemma rank_le (stage : HandlerStage C) : stage.rank ≤ 7 := by
  cases stage <;> simp [rank]

lemma caught_eq (state : Option WorkflowInstance) (error : JsError) :
    (caught (C := C) state error).rank ≤ 1 ∧ (caught (C := C) state error).isEnding = true ∧
      (caught (C := C) state error).state = state ∧
      (caught (C := C) state error).rejection.isSome = error.isUnexpectedError := by
  unfold caught
  cases error.isUnexpectedError with
  | true => exact ⟨Nat.zero_le _, rfl, rfl, rfl⟩
  | false => exact ⟨le_refl _, rfl, rfl, rfl⟩

lemma activationFailed_eq (workflow : WorkflowInstance) (error : JsError) :
    (activationFailed (C := C) workflow error).rank ≤ 2 ∧
      (activationFailed (C := C) workflow error).state = some workflow ∧
      (activationFailed (C := C) workflow error).rejection.isSome = error.isUnexpectedError := by
  unfold activationFailed
  cases error.isUnexpectedError with
  | true => exact ⟨Nat.zero_le _, rfl, rfl⟩
  | false => exact ⟨le_refl _, rfl, rfl⟩

end HandlerStage

namespace Handler

variable {h : Handler C} {created : ℕ} {outcome : Except JsError C} {stage : HandlerStage C}
  {calls : List WorkflowCall} {state : Option WorkflowInstance} {close : Bool}
  {completion : Option (WorkflowCompletion C)}

/-- From one `await` to the next the handler keeps its instance, which may be activated if the
activation has jobs, or it gets a new one. It throws if and only if it is left rejected. -/
structure Awaited (h : Handler C) (created : ℕ) (outcome : Except JsError C) (stage : HandlerStage C)
    (calls : List WorkflowCall) : Prop where
  closes : h.closes outcome = false
  rejects : h.rejects outcome = stage.rejection.isSome
  rank : stage.rank < h.stage.rank
  ending : h.stage.isEnding = true → stage.isEnding = true ∧ calls = []
  instanceOf : (stage.state = h.stage.state ∧
      (calls = [] ∨ ∃ workflow, h.stage.state = some workflow ∧ calls = [.activate workflow])) ∨
    h.stage.state = none ∧ stage.state = some ⟨h.item.activation.runId, created⟩ ∧
      calls = [.createWorkflow ⟨h.item.activation.runId, created⟩]

lemma Awaited.of_kept (hcloses : h.closes outcome = false) (hrejects : h.rejects outcome = stage.rejection.isSome)
    (hrank : stage.rank < h.stage.rank) (hending : h.stage.isEnding = true → stage.isEnding = true)
    (hstate : stage.state = h.stage.state) : h.Awaited created outcome stage [] :=
  ⟨hcloses, hrejects, hrank, fun h => ⟨hending h, rfl⟩, Or.inl ⟨hstate, Or.inl rfl⟩⟩

/-- What is thrown reaches the outer `catch` block. -/
lemma Awaited.caught {err : JsError} (hcloses : h.closes outcome = false)
    (hrejects : h.rejects outcome = err.isUnexpectedError) (hrank : 1 < h.stage.rank) :
    h.Awaited created outcome (.caught h.stage.state err) [] := by
  obtain ⟨hle, hending, hstate, hrejection⟩ := HandlerStage.caught_eq (C := C) h.stage.state err
  exact .of_kept hcloses (hrejects.trans hrejection.symm) (lt_of_le_of_lt hle hrank) (fun _ => hending) hstate

/-- What is thrown while the instance is activated reaches the inner one. -/
lemma Awaited.activationFailed {workflow : WorkflowInstance} {err : JsError} (hcloses : h.closes outcome = false)
    (hrejects : h.rejects outcome = err.isUnexpectedError) (hrank : 2 < h.stage.rank)
    (hending : h.stage.isEnding = false) (hstate : h.stage.state = some workflow) :
    h.Awaited created outcome (.activationFailed workflow err) [] := by
  obtain ⟨hle, hactivation, hrejection⟩ := HandlerStage.activationFailed_eq (C := C) workflow err
  exact .of_kept hcloses (hrejects.trans hrejection.symm) (lt_of_le_of_lt hle hrank) (by simp [hending])
    (hactivation.trans hstate.symm)

lemma advance_await (hadvance : h.advance created outcome = some (.await stage calls)) :
    h.Awaited created outcome stage calls := by
  unfold advance at hadvance
  cases hstage : h.stage with
  | disposing state =>
    have hstate : h.stage.state = state := by rw [hstage]; rfl
    rw [hstage] at hadvance
    rcases state with - | workflow
    · dsimp only at hadvance
      split at hadvance
      · rename_i hclose
        cases hadvance
        refine .of_kept ?_ ?_ ?_ (fun _ => rfl) hstate.symm
        · simpa [closes, hstage] using hclose
        · simp [rejects, hstage, HandlerStage.rejection]
        · simp [hstage, HandlerStage.rank]
      · split at hadvance <;> cases hadvance
    · rcases outcome with err | _
      · cases hadvance
        rw [← hstate]
        refine .caught ?_ ?_ ?_
        · simp [closes, hstage]
        · simp [rejects, hstage]
        · simp [hstage, HandlerStage.rank]
      · dsimp only at hadvance
        split at hadvance
        · rename_i hclose
          cases hadvance
          refine .of_kept ?_ ?_ ?_ (fun _ => rfl) hstate.symm
          · simpa [closes, hstage] using hclose
          · simp [rejects, hstage, HandlerStage.rejection]
          · simp [hstage, HandlerStage.rank]
        · split at hadvance <;> cases hadvance
  | describing =>
    have hstate : h.stage.state = none := by rw [hstage]; rfl
    have hcloses : h.closes outcome = false := by simp [closes, hstage]
    rw [hstage] at hadvance
    rcases outcome with err | value
    · cases hadvance
      rw [← hstate]
      exact .caught hcloses (by simp [rejects, hstage]) (by simp [hstage, HandlerStage.rank])
    · have hrejects : h.rejects (.ok value) = false := by simp [rejects, hstage]
      dsimp only at hadvance
      split at hadvance <;> cases hadvance <;>
        exact .of_kept hcloses hrejects (by simp [hstage, HandlerStage.rank])
          (by simp [hstage, HandlerStage.isEnding]) hstate.symm
  | creating =>
    have hstate : h.stage.state = none := by rw [hstage]; rfl
    have hcloses : h.closes outcome = false := by simp [closes, hstage]
    rw [hstage] at hadvance
    rcases outcome with err | _
    · cases hadvance
      rw [← hstate]
      exact .caught hcloses (by simp [rejects, hstage]) (by simp [hstage, HandlerStage.rank])
    · cases hadvance
      exact ⟨hcloses, by simp [rejects, hstage, HandlerStage.rejection], by simp [hstage, HandlerStage.rank],
        by simp [hstage, HandlerStage.isEnding], Or.inr ⟨hstate, rfl, rfl⟩⟩
  | decoding workflow =>
    have hstate : h.stage.state = some workflow := by rw [hstage]; rfl
    have hcloses : h.closes outcome = false := by simp [closes, hstage]
    have hending : h.stage.isEnding = false := by rw [hstage]; rfl
    rw [hstage] at hadvance
    rcases outcome with err | _
    · cases hadvance
      exact .activationFailed hcloses (by simp [rejects, hstage]) (by simp [hstage, HandlerStage.rank]) hending hstate
    · cases hadvance
      exact ⟨hcloses, by simp [rejects, hstage, HandlerStage.rejection], by simp [hstage, HandlerStage.rank],
        by simp [hending], Or.inl ⟨hstate.symm, Or.inr ⟨workflow, hstate, rfl⟩⟩⟩
  | activating workflow =>
    have hstate : h.stage.state = some workflow := by rw [hstage]; rfl
    have hcloses : h.closes outcome = false := by simp [closes, hstage]
    have hending : h.stage.isEnding = false := by rw [hstage]; rfl
    rw [hstage] at hadvance
    rcases outcome with err | _
    · cases hadvance
      exact .activationFailed hcloses (by simp [rejects, hstage]) (by simp [hstage, HandlerStage.rank]) hending hstate
    · cases hadvance
      exact .of_kept hcloses (by simp [rejects, hstage, HandlerStage.rejection])
        (by simp [hstage, HandlerStage.rank]) (by simp [hending]) hstate.symm
  | encoding workflow =>
    have hstate : h.stage.state = some workflow := by rw [hstage]; rfl
    have hcloses : h.closes outcome = false := by simp [closes, hstage]
    have hending : h.stage.isEnding = false := by rw [hstage]; rfl
    rw [hstage] at hadvance
    rcases outcome with err | _
    · cases hadvance
      exact .activationFailed hcloses (by simp [rejects, hstage]) (by simp [hstage, HandlerStage.rank]) hending hstate
    · cases hadvance
      exact .of_kept hcloses (by simp [rejects, hstage, HandlerStage.rejection])
        (by simp [hstage, HandlerStage.rank]) (by simp [hending]) hstate.symm
  | sinkCalls workflow result =>
    have hstate : h.stage.state = some workflow := by rw [hstage]; rfl
    have hrank : 1 < h.stage.rank := by simp [hstage, HandlerStage.rank]
    rw [hstage] at hadvance
    rcases outcome with err | _
    · cases hadvance
      rw [← hstate]
      exact .caught (by simp [closes, hstage]) (by simp [rejects, hstage]) hrank
    · rcases result with err | completion
      · cases hadvance
        rw [← hstate]
        exact .caught (by simp [closes, hstage]) (by simp [rejects, hstage]) hrank
      · cases hadvance
  | failing state error =>
    rw [hstage] at hadvance
    rcases outcome with err | _
    · cases hadvance
      refine .of_kept ?_ ?_ ?_ (fun _ => rfl) ?_
      · simp [closes, hstage]
      · simp [rejects, hstage, HandlerStage.rejection]
      · simp [hstage, HandlerStage.rank]
      · rw [hstage]
        rfl
    · cases hadvance
  | rejected state error =>
    rw [hstage] at hadvance
    cases hadvance

/-- The handler ends with an eviction, with the instance's completion, or with a failure. -/
lemma advance_done (hadvance : h.advance created outcome = some (.done state close completion)) :
    ((∃ state', h.stage = .disposing state') ∧ state = none ∧ close = true ∧ h.close = true ∧
        completion = if h.item.synthetic then none else some ⟨h.item.activation.runId, .successful⟩) ∨
      (∃ workflow result, h.stage = .sinkCalls workflow (.ok result) ∧ state = some workflow ∧
        close = h.close ∧ completion = some ⟨workflow.runId, .activated result⟩) ∨
      ∃ state' err, h.stage = .failing state' err ∧ state = none ∧ close = true ∧
        completion = some ⟨h.item.activation.runId, .failed err⟩ := by
  unfold advance at hadvance
  cases hstage : h.stage with
  | disposing state' =>
    rw [hstage] at hadvance
    rcases state' with - | workflow
    · dsimp only at hadvance
      split at hadvance
      · cases hadvance
      · rename_i hclose
        have hclose : h.close = true := by simpa using hclose
        split at hadvance <;> cases hadvance <;> rename_i hsynthetic <;>
          exact Or.inl ⟨⟨_, rfl⟩, rfl, hclose, hclose, by simp [hsynthetic]⟩
    · rcases outcome with err | _
      · cases hadvance
      · dsimp only at hadvance
        split at hadvance
        · cases hadvance
        · rename_i hclose
          have hclose : h.close = true := by simpa using hclose
          split at hadvance <;> cases hadvance <;> rename_i hsynthetic <;>
            exact Or.inl ⟨⟨_, rfl⟩, rfl, hclose, hclose, by simp [hsynthetic]⟩
  | describing =>
    rw [hstage] at hadvance
    rcases outcome with err | _
    · cases hadvance
    · dsimp only at hadvance
      split at hadvance <;> cases hadvance
  | creating =>
    rw [hstage] at hadvance
    rcases outcome with err | _ <;> cases hadvance
  | decoding workflow =>
    rw [hstage] at hadvance
    rcases outcome with err | _ <;> cases hadvance
  | activating workflow =>
    rw [hstage] at hadvance
    rcases outcome with err | _ <;> cases hadvance
  | encoding workflow =>
    rw [hstage] at hadvance
    rcases outcome with err | _ <;> cases hadvance
  | sinkCalls workflow result =>
    rw [hstage] at hadvance
    rcases outcome with err | _
    · cases hadvance
    · rcases result with err | result
      · cases hadvance
      · cases hadvance
        exact Or.inr (Or.inl ⟨workflow, result, rfl, rfl, rfl, rfl⟩)
  | failing state' error =>
    rw [hstage] at hadvance
    rcases outcome with err | _
    · cases hadvance
    · cases hadvance
      exact Or.inr (Or.inr ⟨state', error, rfl, rfl, rfl, rfl⟩)
  | rejected state' error =>
    rw [hstage] at hadvance
    cases hadvance

/-- At its end the handler closes its group as told, and does not throw. -/
lemma done_eq (hadvance : h.advance created outcome = some (.done state close completion)) :
    h.closes outcome = close ∧ h.rejects outcome = false := by
  rcases advance_done hadvance with ⟨⟨state', hstage⟩, -, rfl, hclose, -⟩ |
    ⟨workflow, result, hstage, -, rfl, -⟩ | ⟨state', err, hstage, -, rfl, -⟩
  · unfold advance at hadvance
    unfold closes rejects
    rw [hstage] at hadvance ⊢
    rcases state' with - | workflow
    · exact ⟨hclose, rfl⟩
    · rcases outcome with err | _
      · cases hadvance
      · exact ⟨hclose, rfl⟩
  · unfold advance at hadvance
    unfold closes rejects
    rw [hstage] at hadvance ⊢
    rcases outcome with err | _
    · cases hadvance
    · exact ⟨rfl, rfl⟩
  · unfold advance at hadvance
    unfold closes rejects
    rw [hstage] at hadvance ⊢
    rcases outcome with err' | _
    · cases hadvance
    · exact ⟨rfl, rfl⟩

lemma rank_pos_of_done (hadvance : h.advance created outcome = some (.done state close completion)) :
    0 < h.stage.rank := by
  rcases advance_done hadvance with ⟨⟨state', hstage⟩, -⟩ | ⟨workflow, result, hstage, -⟩ | ⟨state', err, hstage, -⟩ <;>
    simp [hstage, HandlerStage.rank]

lemma isSome_advance (hstage : h.stage.rejection = none) : (h.advance created outcome).isSome = true := by
  unfold advance
  split <;> first | rfl | simp_all [HandlerStage.rejection]

lemma startStage_rejection (timestamp : Option Timestamp) (jobs : List ActivationJob) :
    (startStage (C := C) timestamp jobs).rejection = none := by
  unfold startStage
  split
  · rfl
  · split
    · rfl
    · split <;> rfl

lemma start_rejection (state : Option WorkflowInstance) (item : ActivationItem) :
    (start (C := C) state item).1.stage.rejection = none := by
  unfold start
  dsimp only
  split
  · rfl
  · split
    · rfl
    · exact startStage_rejection _ _

lemma start_item (state : Option WorkflowInstance) (item : ActivationItem) :
    (start (C := C) state item).1.item = item := by
  unfold start
  dsimp only
  split
  · rfl
  · split <;> rfl

lemma startStage_state (timestamp : Option Timestamp) (jobs : List ActivationJob) :
    (startStage (C := C) timestamp jobs).state = none := by
  unfold startStage
  split
  · rfl
  · split
    · rfl
    · split <;> rfl

lemma start_state (state : Option WorkflowInstance) (item : ActivationItem) :
    (start (C := C) state item).1.stage.state = state := by
  unfold start
  dsimp only
  split
  · rfl
  · split
    · rfl
    · exact startStage_state _ _

lemma start_jobs (state : Option WorkflowInstance) (item : ActivationItem) :
    (start (C := C) state item).1.jobs = item.activation.jobs.eraseP ActivationJob.isRemoveFromCache := by
  unfold start
  dsimp only
  split
  · rfl
  · split <;> rfl

/-- An instance is disposed of at the start when nothing but an eviction is to be done. -/
lemma start_calls (state : Option WorkflowInstance) (item : ActivationItem) :
    (start (C := C) state item).2 =
      if (start (C := C) state item).1.jobs = [] then state.toList.map .dispose else [] := by
  rw [start_jobs]
  unfold start
  dsimp only
  split
  · rfl
  · split <;> rfl

lemma start_isEnding {state : Option WorkflowInstance} {item : ActivationItem}
    (hjobs : (start (C := C) state item).1.jobs = []) :
    (start (C := C) state item).1.stage.isEnding = true := by
  rw [start_jobs] at hjobs
  unfold start
  dsimp only
  rw [if_pos hjobs]
  rfl

/-- A call of the handler for a run. -/
structure Wf (runId : String) (h : Handler C) : Prop where
  forRun : h.item.activation.runId = runId
  instanceOf : ∀ workflow, h.stage.state = some workflow → workflow.runId = runId
  ending : h.jobs = [] → h.stage.isEnding = true
  synthetic : h.item.synthetic = true → h.jobs = []

lemma wf_start {runId : String} {item : ActivationItem} (hitem : item.activation.runId = runId)
    (hsynthetic : item.synthetic = true → item.activation = selfInducedShutdownEviction runId)
    (hstate : ∀ workflow, state = some workflow → workflow.runId = runId) :
    Wf runId (start (C := C) state item).1 where
  forRun := by rw [start_item, hitem]
  instanceOf := by rwa [start_state]
  ending := start_isEnding
  synthetic := by
    rw [start_item, start_jobs]
    intro h
    rw [hsynthetic h]
    rfl

lemma Wf.await {runId : String} (hwf : Wf runId h)
    (hadvance : h.advance created outcome = some (.await stage calls)) : Wf runId { h with stage } := by
  obtain ⟨-, -, -, hending, hstate⟩ := advance_await hadvance
  refine ⟨hwf.forRun, fun workflow hworkflow => ?_, fun hjobs => (hending (hwf.ending hjobs)).1, hwf.synthetic⟩
  rcases hstate with ⟨hsame, -⟩ | ⟨-, hnew, -⟩
  · exact hwf.instanceOf workflow (hsame ▸ hworkflow)
  · rw [hnew] at hworkflow
    cases hworkflow
    exact hwf.forRun

end Handler

/-! ### Turns -/

/-- The log of a run in which `current`, if any, has not ended, and `state` has been left. -/
inductive Turns : List (Turn C) → Option ActivationItem → Option WorkflowInstance → Prop
  | nil : Turns [] none none
  | started {turns : List (Turn C)} {state : Option WorkflowInstance} (item : ActivationItem)
      (h : Turns turns none state) : Turns (turns ++ [.started item state]) (some item) state
  | finished {turns : List (Turn C)} {item : ActivationItem} {state : Option WorkflowInstance}
      (state' : Option WorkflowInstance) (completion : Option (WorkflowCompletion C))
      (h : Turns turns (some item) state) : Turns (turns ++ [.finished item state' completion]) none state'

namespace Turn

/-- The polled activations whose turn has started. -/
def startedPolled : Turn C → Option WorkflowActivation
  | started item _ => if item.synthetic then none else some item.activation
  | finished _ _ _ => none

def finishedPolled : Turn C → Option WorkflowActivation
  | started _ _ => none
  | finished item _ _ => if item.synthetic then none else some item.activation

def completion : Turn C → Option (WorkflowCompletion C)
  | started _ _ => none
  | finished _ _ completion => completion

/-- A turn that has ended gives a completion for its run if the activation was polled; a shutdown
eviction gives one only when it fails. -/
def Completed (runId : String) : Turn C → Prop
  | started _ _ => True
  | finished item _ completion =>
    item.activation.runId = runId ∧
      if item.synthetic then ∀ c, completion = some c → ∃ err, c = ⟨runId, .failed err⟩
      else ∃ status, completion = some ⟨runId, status⟩

end Turn

/-- The turns that have ended are those that have started, but for the current one. -/
lemma Turns.finishedPolled {turns : List (Turn C)} {current : Option ActivationItem}
    {state : Option WorkflowInstance} (h : Turns turns current state) :
    turns.filterMap Turn.startedPolled = turns.filterMap Turn.finishedPolled ++
      (current.filter fun item => !item.synthetic).toList.map ActivationItem.activation := by
  induction h with
  | nil => rfl
  | started item h ih =>
    simp only [List.filterMap_append, ih]
    cases hsynthetic : item.synthetic <;>
      simp [Turn.startedPolled, Turn.finishedPolled, Option.filter, hsynthetic]
  | finished state' completion h ih =>
    rename_i item _
    simp only [List.filterMap_append, ih]
    cases hsynthetic : item.synthetic <;>
      simp [Turn.startedPolled, Turn.finishedPolled, Option.filter, hsynthetic]

/-! ### Runs -/

/-- An open group of a run: behind the handler only the shutdown eviction can wait. -/
structure ActivationGroup.Ok (runId : String) (g : ActivationGroup C) : Prop where
  idle : g.current = none → g.waiting = []
  waiting : ∀ item ∈ g.waiting, item = ⟨selfInducedShutdownEviction runId, true⟩
  handler : ∀ h, g.current = some h → h.Wf runId
  instanceOf : ∀ workflow, g.state = some workflow → workflow.runId = runId
  polling : g.evicted = false → g.waiting = [] ∧ ∀ h, g.current = some h → h.item.synthetic = false

namespace WorkflowRun

def currentItem (r : WorkflowRun C) : Option ActivationItem :=
  r.group.bind fun g => g.current.map Handler.item

/-- The instance that the operator holds as the state of the run. -/
def state (r : WorkflowRun C) : Option WorkflowInstance := r.group.bind ActivationGroup.state

/-- The invariant of a run. -/
structure Ok (runId : String) (r : WorkflowRun C) : Prop where
  turns : Turns r.turns r.currentItem r.state
  polled : r.turns.filterMap Turn.startedPolled = r.polled
  completed : ∀ turn ∈ r.turns, turn.Completed runId
  outstanding : r.outstanding = r.currentItem.any fun item => !item.synthetic
  group : ∀ g, r.group = some g → g.Ok runId

variable {r r' : WorkflowRun C} {g : ActivationGroup C} {h : Handler C} {runId : String}
  {effect : OperatorEffect C}

lemma ok_initial : Ok runId (initial : WorkflowRun C) := by
  refine ⟨.nil, rfl, fun turn hturn => ?_, rfl, fun g hg => ?_⟩
  · cases hturn
  · cases hg

lemma currentItem_of_group (hgroup : r.group = some g) :
    r.currentItem = g.current.map Handler.item := by
  rw [currentItem, hgroup, Option.bind_some]

lemma state_of_group (hgroup : r.group = some g) : r.state = g.state := by
  rw [state, hgroup, Option.bind_some]

/-- The handler is called between two turns. -/
lemma ok_call {item : ActivationItem} (hturns : Turns r.turns none g.state)
    (hpolled : r.turns.filterMap Turn.startedPolled ++
      (if item.synthetic then [] else [item.activation]) = r.polled)
    (hcompleted : ∀ turn ∈ r.turns, turn.Completed runId) (houtstanding : r.outstanding = !item.synthetic)
    (hitem : item.activation.runId = runId)
    (hsynthetic : item.synthetic = true → item.activation = selfInducedShutdownEviction runId)
    (hpolling : g.evicted = false → g.waiting = [] ∧ item.synthetic = false)
    (hwaiting : ∀ item ∈ g.waiting, item = ⟨selfInducedShutdownEviction runId, true⟩)
    (hinstance : ∀ workflow, g.state = some workflow → workflow.runId = runId) :
    Ok runId (r.call g item) := by
  have hcurrent : (r.call g item).currentItem = some item := by
    simp [call, currentItem, Handler.start_item]
  refine ⟨?_, ?_, ?_, ?_, ?_⟩
  · rw [hcurrent]
    exact Turns.started item hturns
  · simp only [call, List.filterMap_append, ← hpolled]
    cases hkind : item.synthetic <;> simp [Turn.startedPolled, hkind]
  · intro turn hturn
    rcases List.mem_append.mp hturn with hold | hnew
    · exact hcompleted turn hold
    · rw [List.mem_singleton.mp hnew]
      trivial
  · rw [hcurrent]
    exact houtstanding
  · intro g' hg'
    cases hg'
    refine ⟨by simp, hwaiting, fun h hh => ?_, hinstance, fun hevicted => ⟨(hpolling hevicted).1, fun h hh => ?_⟩⟩
    · cases hh
      exact Handler.wf_start hitem hsynthetic hinstance
    · cases hh
      rw [Handler.start_item]
      exact (hpolling hevicted).2

lemma Ok.currentItem_eq_none (hok : Ok runId r) (hgroup : r.group = some g) (hcurrent : g.current = none) :
    r.currentItem = none ∧ r.outstanding = false := by
  have hitem : r.currentItem = none := by rw [currentItem_of_group hgroup, hcurrent, Option.map_none]
  exact ⟨hitem, by rw [hok.outstanding, hitem]; rfl⟩

lemma Ok.poll (hok : Ok runId r) {activation : WorkflowActivation} (hactivation : activation.runId = runId)
    (hpolling : ∀ g, r.group = some g → g.evicted = false)
    (hstep : r.step runId (.poll activation) = some (r', effect)) : Ok runId r' := by
  obtain ⟨houtstanding, rfl, -⟩ := step_poll hstep
  have hitem : r.currentItem = none := by
    cases hgroup : r.group with
    | none => rw [currentItem, hgroup, Option.bind_none]
    | some g =>
      cases hcurrent : g.current with
      | none => exact (hok.currentItem_eq_none hgroup hcurrent).1
      | some h =>
        have hsynthetic := ((hok.group g hgroup).polling (hpolling g hgroup)).2 h hcurrent
        have hout := hok.outstanding
        rw [houtstanding, currentItem_of_group hgroup, hcurrent] at hout
        simp [hsynthetic] at hout
  have hturns := hok.turns
  rw [hitem] at hturns
  generalize hg : r.group.getD ⟨none, none, [], false⟩ = g
  have hgok : g.Ok runId ∧ g.state = r.state ∧ g.current = none ∧ g.evicted = false := by
    cases hgroup : r.group with
    | none =>
      rw [hgroup, Option.getD_none] at hg
      subst hg
      refine ⟨⟨fun _ => rfl, fun _ hitem => ?_, fun _ hh => ?_, fun _ hw => ?_, fun _ => ⟨rfl, fun _ hh => ?_⟩⟩,
        by rw [state, hgroup]; rfl, rfl, rfl⟩
      · cases hitem
      · cases hh
      · cases hw
      · cases hh
    | some g' =>
      rw [hgroup, Option.getD_some] at hg
      subst hg
      refine ⟨hok.group g' hgroup, (state_of_group hgroup).symm, ?_, hpolling g' hgroup⟩
      rw [currentItem_of_group hgroup, Option.map_eq_none_iff] at hitem
      exact hitem
  obtain ⟨hgok, hstate, hcurrent, hevicted⟩ := hgok
  rw [receive, hcurrent]
  refine ok_call (hstate ▸ hturns) ?_ hok.completed rfl hactivation (by simp)
    (fun _ => ⟨hgok.idle hcurrent, rfl⟩) hgok.waiting hgok.instanceOf
  simp [hok.polled]

lemma Ok.evict (hok : Ok runId r) (hstep : r.step runId .evict = some (r', effect)) : Ok runId r' := by
  obtain ⟨g, hgroup, -, rfl, -⟩ := step_evict hstep
  have hgok := hok.group g hgroup
  have hturns := hok.turns
  rw [state_of_group hgroup] at hturns
  rw [receive]
  split
  · rename_i hcurrent
    obtain ⟨hitem, houtstanding⟩ := hok.currentItem_eq_none hgroup hcurrent
    rw [hitem] at hturns
    refine ok_call hturns ?_ hok.completed houtstanding rfl (fun _ => rfl) (by simp) hgok.waiting hgok.instanceOf
    simp [hok.polled]
  · rename_i h hcurrent
    have hitem := currentItem_of_group hgroup
    refine ⟨?_, hok.polled, hok.completed, ?_, fun g' hg' => ?_⟩
    · rw [hitem] at hturns
      exact hturns
    · rw [hok.outstanding, hitem]
      rfl
    · cases hg'
      refine ⟨fun hnone => ?_, fun item hitem => ?_, hgok.handler, hgok.instanceOf, by simp⟩
      · rw [hcurrent] at hnone
        cases hnone
      · rcases List.mem_append.mp hitem with hold | hnew
        · exact hgok.waiting item hold
        · exact List.mem_singleton.mp hnew

/-- The turn of a handler that ends is completed. -/
lemma completed_of_done {created : ℕ} {outcome : Except JsError C} {state : Option WorkflowInstance}
    {close : Bool} {completion : Option (WorkflowCompletion C)} (hwf : h.Wf runId)
    (hadvance : h.advance created outcome = some (.done state close completion))
    (state' : Option WorkflowInstance) : (Turn.finished h.item state' completion).Completed runId := by
  refine ⟨hwf.forRun, ?_⟩
  rcases Handler.advance_done hadvance with ⟨-, -, -, -, rfl⟩ | ⟨workflow, result, hstage, -, -, rfl⟩ |
    ⟨state', err, -, -, -, rfl⟩
  · split
    · simp
    · exact ⟨.successful, by rw [hwf.forRun]⟩
  · have hsynthetic : h.item.synthetic = false := by
      by_contra hsynthetic
      have hending := hwf.ending (hwf.synthetic (by simpa using hsynthetic))
      rw [hstage] at hending
      cases hending
    rw [hsynthetic, if_neg (by decide)]
    exact ⟨.activated result, by rw [hwf.instanceOf workflow (by rw [hstage]; rfl)]⟩
  · rw [hwf.forRun]
    split
    · rintro c hc
      cases hc
      exact ⟨err, rfl⟩
    · exact ⟨.failed err, rfl⟩

/-- When a turn ends, the group is closed or the eviction that waits has its turn. -/
lemma Ok.finish (hok : Ok runId r) (hgroup : r.group = some g) (hcurrent : g.current = some h)
    {created : ℕ} {outcome : Except JsError C} {state : Option WorkflowInstance} {close : Bool}
    {completion : Option (WorkflowCompletion C)}
    (hadvance : h.advance created outcome = some (.done state close completion)) :
    Ok runId (r.finish g h.item state close completion) := by
  have hgok := hok.group g hgroup
  have hwf := hgok.handler h hcurrent
  have hitem : r.currentItem = some h.item := by rw [currentItem_of_group hgroup, hcurrent, Option.map_some]
  have hturns := hok.turns
  rw [hitem] at hturns
  have hcompleted := completed_of_done hwf hadvance
  have houtstanding : (r.outstanding && completion.isNone) = false := by
    have hkind := (hcompleted none).2
    rw [hok.outstanding, hitem]
    split at hkind
    · rename_i hsynthetic
      simp [hsynthetic]
    · obtain ⟨status, hsome⟩ := hkind
      simp [hsome]
  have hall (state' : Option WorkflowInstance) : ∀ turn ∈ r.turns ++ [Turn.finished h.item state' completion],
      turn.Completed runId := by
    intro turn hturn
    rcases List.mem_append.mp hturn with hold | hnew
    · exact hok.completed turn hold
    · rw [List.mem_singleton.mp hnew]
      exact hcompleted state'
  have hpolled (state' : Option WorkflowInstance) :
      (r.turns ++ [Turn.finished h.item state' completion]).filterMap Turn.startedPolled = r.polled := by
    rw [List.filterMap_append, hok.polled]
    exact List.append_nil _
  unfold WorkflowRun.finish
  cases close with
  | true =>
    refine ⟨hturns.finished none completion, hpolled none, hall none, houtstanding, fun g' hg' => ?_⟩
    cases hg'
  | false =>
    have hinstance : ∀ workflow, state = some workflow → workflow.runId = runId := by
      rcases Handler.advance_done hadvance with ⟨-, -, hclose, -⟩ | ⟨workflow, result, hstage, rfl, -⟩ |
        ⟨_, _, -, -, hclose, -⟩
      · cases hclose
      · intro workflow' hworkflow
        cases hworkflow
        exact hwf.instanceOf workflow (by rw [hstage]; rfl)
      · cases hclose
    simp only [Bool.false_eq_true, if_false, callNext]
    split
    · rename_i hwaiting
      refine ⟨hturns.finished state completion, hpolled state, hall state, houtstanding, fun g' hg' => ?_⟩
      cases hg'
      refine ⟨fun _ => hwaiting, hgok.waiting, fun h' hh' => ?_, hinstance, fun _ => ⟨hwaiting, fun h' hh' => ?_⟩⟩
      · cases hh'
      · cases hh'
    · rename_i item waiting hwaiting
      have hitems := hgok.waiting
      rw [hwaiting] at hitems
      obtain rfl := hitems item List.mem_cons_self
      refine ok_call (hturns.finished state completion) ?_ (hall state) houtstanding rfl (fun _ => rfl) ?_ ?_
        hinstance
      · exact (List.append_nil _).trans (hpolled state)
      · intro hevicted
        rw [(hgok.polling hevicted).1] at hwaiting
        cases hwaiting
      · exact fun item hitem => hitems item (List.mem_cons_of_mem _ hitem)

lemma Ok.await (hok : Ok runId r) (hgroup : r.group = some g) (hcurrent : g.current = some h)
    {created created' : ℕ} {outcome : Except JsError C} {stage : HandlerStage C} {calls calls' : List WorkflowCall}
    (hadvance : h.advance created outcome = some (.await stage calls)) :
    Ok runId { r with
      group := some { g with current := some { h with stage } }
      created := created'
      calls := calls' } := by
  have hgok := hok.group g hgroup
  have hitem : r.currentItem = some h.item := by rw [currentItem_of_group hgroup, hcurrent, Option.map_some]
  have hturns := hok.turns
  have houtstanding := hok.outstanding
  rw [hitem] at hturns houtstanding
  rw [state_of_group hgroup] at hturns
  refine ⟨hturns, hok.polled, hok.completed, houtstanding, fun g' hg' => ?_⟩
  cases hg'
  refine ⟨by simp, hgok.waiting, fun h' hh' => ?_, hgok.instanceOf, fun hevicted => ?_⟩
  · cases hh'
    exact (hgok.handler h hcurrent).await hadvance
  · refine ⟨(hgok.polling hevicted).1, fun h' hh' => ?_⟩
    cases hh'
    exact (hgok.polling hevicted).2 h hcurrent

lemma Ok.advance (hok : Ok runId r) {outcome : Except JsError C}
    (hstep : r.step runId (.advance outcome) = some (r', effect)) : Ok runId r' := by
  obtain ⟨g, h, hgroup, hcurrent, hresult⟩ := step_advance hstep
  rcases hresult with ⟨stage, calls, hadvance, rfl, -⟩ | ⟨state, close, completion, hadvance, rfl, -⟩
  · exact hok.await hgroup hcurrent hadvance
  · exact hok.finish hgroup hcurrent hadvance

/-! What a step adds to the completions of the log, and when an eviction reaches the group. -/

lemma completions_call (g : ActivationGroup C) (item : ActivationItem) :
    (r.call g item).turns.filterMap Turn.completion = r.turns.filterMap Turn.completion := by
  simp [call, Turn.completion]

lemma completions_receive (g : ActivationGroup C) (item : ActivationItem) :
    (r.receive g item).turns.filterMap Turn.completion = r.turns.filterMap Turn.completion := by
  unfold receive
  split
  · exact completions_call g item
  · rfl

lemma completions_callNext (g : ActivationGroup C) :
    (r.callNext g).turns.filterMap Turn.completion = r.turns.filterMap Turn.completion := by
  unfold callNext
  split
  · rfl
  · exact completions_call _ _

lemma completions_step {input : RunInput C} (hstep : r.step runId input = some (r', effect)) :
    r'.turns.filterMap Turn.completion =
      r.turns.filterMap Turn.completion ++ effect.completion.toList := by
  cases input with
  | poll activation =>
    obtain ⟨-, rfl, rfl⟩ := step_poll hstep
    rw [completions_receive]
    exact (List.append_nil _).symm
  | evict =>
    obtain ⟨g, -, -, rfl, rfl⟩ := step_evict hstep
    rw [completions_receive]
    exact (List.append_nil _).symm
  | advance outcome =>
    obtain ⟨g, h, -, -, hresult⟩ := step_advance hstep
    rcases hresult with ⟨stage, calls, -, rfl, rfl⟩ | ⟨state, close, completion, -, rfl, rfl⟩
    · exact (List.append_nil _).symm
    · have hnew (state' : Option WorkflowInstance) (item : ActivationItem) :
          (r.turns ++ [Turn.finished item state' completion]).filterMap Turn.completion =
            r.turns.filterMap Turn.completion ++ completion.toList := by
        cases completion <;> simp [Turn.completion]
      unfold finish
      cases close with
      | true => exact hnew _ _
      | false =>
        simp only [Bool.false_eq_true, if_false]
        rw [completions_callNext]
        exact hnew _ _

lemma evicted_callNext (hevicted : g.evicted = false) :
    ∀ g', (r.callNext g).group = some g' → g'.evicted = false := by
  intro g' hg'
  unfold callNext at hg'
  split at hg' <;> cases hg' <;> exact hevicted

lemma evicted_step {input : RunInput C} (hstep : r.step runId input = some (r', effect))
    (hinput : input ≠ .evict) (hevicted : ∀ g, r.group = some g → g.evicted = false) :
    ∀ g, r'.group = some g → g.evicted = false := by
  cases input with
  | poll activation =>
    obtain ⟨-, rfl, -⟩ := step_poll hstep
    have hg : (r.group.getD ⟨none, none, [], false⟩).evicted = false := by
      cases hgroup : r.group with
      | none => rfl
      | some g => exact hevicted g hgroup
    intro g hgroup
    unfold receive at hgroup
    split at hgroup <;> cases hgroup <;> exact hg
  | evict => exact absurd rfl hinput
  | advance outcome =>
    obtain ⟨g, h, hgroup, -, hresult⟩ := step_advance hstep
    rcases hresult with ⟨stage, calls, -, rfl, -⟩ | ⟨state, close, completion, -, rfl, -⟩
    · intro g' hg'
      cases hg'
      exact hevicted g hgroup
    · unfold finish
      cases close with
      | true =>
        intro g' hg'
        cases hg'
      | false => exact evicted_callNext (hevicted g hgroup)

end WorkflowRun

/-! ### Progress -/

namespace WorkflowRun

variable {r r' : WorkflowRun C} {g : ActivationGroup C} {runId : String} {effect : OperatorEffect C}

/-- How many activations of the run are being processed or wait. -/
def inFlight (r : WorkflowRun C) : ℕ :=
  match r.group with
  | none => 0
  | some g => g.current.toList.length + g.waiting.length

/-- A bound for the number of `await`s to come. -/
def rank (r : WorkflowRun C) : ℕ :=
  match r.group with
  | none => 0
  | some g => (g.current.elim 0 fun h => h.stage.rank) + 7 * g.waiting.length

lemma rank_le (r : WorkflowRun C) : r.rank ≤ 7 * r.inFlight := by
  unfold rank inFlight
  split
  · exact Nat.zero_le _
  · rename_i g _
    cases g.current with
    | none => simp
    | some h =>
      have hle := h.stage.rank_le
      simp only [Option.elim_some, Option.toList_some, List.length_singleton]
      omega

lemma rank_call (g : ActivationGroup C) (item : ActivationItem) :
    (r.call g item).rank ≤ 7 * (g.waiting.length + 1) := by
  have hle := (Handler.start (C := C) g.state item).1.stage.rank_le
  simp only [rank, call, Option.elim_some]
  omega

lemma rank_callNext (hcurrent : g.current = none) : (r.callNext g).rank ≤ 7 * g.waiting.length := by
  unfold callNext
  split
  · simp [rank, hcurrent]
  · rename_i item waiting hwaiting
    rw [hwaiting]
    exact rank_call { g with waiting } item

lemma rank_advance {outcome : Except JsError C} (hstep : r.step runId (.advance outcome) = some (r', effect)) :
    r'.rank < r.rank := by
  obtain ⟨g, h, hgroup, hcurrent, hresult⟩ := step_advance hstep
  have hrank : r.rank = h.stage.rank + 7 * g.waiting.length := by
    simp only [rank, hgroup, hcurrent, Option.elim_some]
  rcases hresult with ⟨stage, calls, hadvance, rfl, -⟩ | ⟨state, close, completion, hadvance, rfl, -⟩
  · have hlt := (Handler.advance_await hadvance).rank
    rw [hrank]
    exact Nat.add_lt_add_right hlt _
  · have hpos := Handler.rank_pos_of_done hadvance
    unfold finish
    cases close with
    | true =>
      rw [hrank]
      exact Nat.lt_add_right _ hpos
    | false =>
      simp only [Bool.false_eq_true, if_false]
      refine lt_of_le_of_lt (rank_callNext rfl) ?_
      rw [hrank]
      exact Nat.lt_add_of_pos_left hpos

/-- What the handler of the run has been rejected with. -/
def rejection (r : WorkflowRun C) : Option JsError :=
  r.group.bind fun g => g.current.bind fun h => h.stage.rejection

lemma rejection_call (g : ActivationGroup C) (item : ActivationItem) : (r.call g item).rejection = none :=
  Handler.start_rejection g.state item

lemma rejection_receive (g : ActivationGroup C) (item : ActivationItem) :
    (r.receive g item).rejection = g.current.bind fun h => h.stage.rejection := by
  unfold receive
  cases hcurrent : g.current with
  | none => exact rejection_call g item
  | some h => simp [rejection]

lemma rejection_callNext (hcurrent : g.current = none) : (r.callNext g).rejection = none := by
  unfold callNext
  split
  · simp [rejection, hcurrent]
  · exact rejection_call _ _

/-- A step ends the operator if and only if it leaves a rejected handler. -/
lemma rejection_step {input : RunInput C} (hstep : r.step runId input = some (r', effect))
    (hrejection : r.rejection = none) : effect.error = r'.rejection := by
  cases input with
  | poll activation =>
    obtain ⟨-, rfl, rfl⟩ := step_poll hstep
    rw [rejection_receive]
    cases hgroup : r.group with
    | none => rfl
    | some g => simpa [rejection, hgroup] using hrejection.symm
  | evict =>
    obtain ⟨g, hgroup, -, rfl, rfl⟩ := step_evict hstep
    rw [rejection_receive]
    simpa [rejection, hgroup] using hrejection.symm
  | advance outcome =>
    obtain ⟨g, h, hgroup, hcurrent, hresult⟩ := step_advance hstep
    rcases hresult with ⟨stage, calls, hadvance, rfl, rfl⟩ | ⟨state, close, completion, hadvance, rfl, rfl⟩
    · rfl
    · unfold finish
      cases close with
      | true => rfl
      | false =>
        simp only [Bool.false_eq_true, if_false]
        exact (rejection_callNext rfl).symm

lemma isSome_advance (hitem : r.currentItem.isSome = true) (hrejection : r.rejection = none)
    (outcome : Except JsError C) : (r.step runId (.advance outcome)).isSome = true := by
  obtain ⟨item, hitem⟩ := Option.isSome_iff_exists.mp hitem
  obtain ⟨g, hgroup, hcurrent⟩ := Option.bind_eq_some_iff.mp hitem
  obtain ⟨h, hcurrent, -⟩ := Option.map_eq_some_iff.mp hcurrent
  have hstage : h.stage.rejection = none := by simpa [rejection, hgroup, hcurrent] using hrejection
  have hsome : (h.advance r.created outcome).isSome = true := Handler.isSome_advance hstage
  obtain ⟨next, hadvance⟩ := Option.isSome_iff_exists.mp hsome
  simp only [step, hgroup, hcurrent, hadvance]
  cases next <;> rfl

end WorkflowRun

/-! ### The operator -/

namespace OperatorState

variable {w w' : OperatorState C}

/-- The invariant of the operator. -/
structure Inv (w : OperatorState C) : Prop where
  runs : ∀ runId, (w.runs runId).Ok runId
  polling : w.workflowPollerState = .polling →
    ∀ runId g, (w.runs runId).group = some g → g.evicted = false
  completions : ∀ runId, (w.completions.filter fun c => c.runId = runId) =
    (w.runs runId).turns.filterMap Turn.completion
  going : w.error = none → ∀ runId, (w.runs runId).rejection = none

lemma runId_of_completion {runId : String} {r : WorkflowRun C} (hok : r.Ok runId)
    {c : WorkflowCompletion C} (hc : c ∈ r.turns.filterMap Turn.completion) : c.runId = runId := by
  obtain ⟨turn, hturn, hcompletion⟩ := List.mem_filterMap.mp hc
  cases turn with
  | started item state => cases hcompletion
  | finished item state completion =>
    have hkind := (hok.completed _ hturn).2
    simp only [Turn.completion] at hcompletion
    split at hkind
    · obtain ⟨err, rfl⟩ := hkind c hcompletion
      rfl
    · obtain ⟨status, hstatus⟩ := hkind
      rw [hstatus] at hcompletion
      cases hcompletion
      rfl

lemma inv_initial : Inv (initial : OperatorState C) where
  runs _ := WorkflowRun.ok_initial
  polling _ _ _ hg := by cases hg
  completions _ := rfl
  going _ _ := rfl

/-- A step of one run keeps the invariant of all. -/
lemma Inv.stepRun (h : Inv w) (herror : w.error = none) {runId : String} {input : RunInput C} {r : WorkflowRun C}
    {effect : OperatorEffect C} (hstep : (w.runs runId).step runId input = some (r, effect))
    (hok : r.Ok runId) (hinput : w.workflowPollerState = .polling → input ≠ .evict) :
    Inv (w.update runId r effect) where
  runs runId' := by
    by_cases hrun : runId' = runId
    · subst hrun
      rw [update_runs_self]
      exact hok
    · rw [update_runs_of_ne w r effect hrun]
      exact h.runs runId'
  polling hpolling runId' g hgroup := by
    by_cases hrun : runId' = runId
    · subst hrun
      rw [update_runs_self] at hgroup
      exact WorkflowRun.evicted_step hstep (hinput hpolling) (h.polling hpolling runId') g hgroup
    · rw [update_runs_of_ne w r effect hrun] at hgroup
      exact h.polling hpolling runId' g hgroup
  completions runId' := by
    have hnew : ∀ c ∈ effect.completion.toList, c.runId = runId := by
      intro c hc
      refine runId_of_completion hok ?_
      rw [WorkflowRun.completions_step hstep]
      exact List.mem_append_right _ hc
    by_cases hrun : runId' = runId
    · subst hrun
      rw [update_runs_self, WorkflowRun.completions_step hstep, update, List.filter_append, h.completions,
        List.filter_eq_self.mpr (by simpa using hnew)]
    · rw [update_runs_of_ne w r effect hrun, update, List.filter_append, h.completions,
        List.filter_eq_nil_iff.mpr, List.append_nil]
      intro c hc
      simp only [hnew c hc, decide_eq_true_eq]
      exact Ne.symm hrun
  going hnone runId' := by
    by_cases hrun : runId' = runId
    · subst hrun
      rw [update_runs_self, ← WorkflowRun.rejection_step hstep (h.going herror runId')]
      simpa [update, herror] using hnone
    · rw [update_runs_of_ne w r effect hrun]
      exact h.going herror runId'

lemma Inv.step (h : Inv w) {input : OperatorInput C} (hstep : w.step input = some w') : Inv w' := by
  have herror := error_of_step hstep
  cases input with
  | poll activation =>
    obtain ⟨hpolling, hstep⟩ := step_poll hstep
    obtain ⟨r, effect, hrun, rfl⟩ := stepRun_eq_some.mp hstep
    exact h.stepRun herror hrun ((h.runs _).poll rfl (h.polling hpolling _) hrun) (by simp)
  | shutdown =>
    obtain ⟨-, rfl⟩ := step_shutdown hstep
    exact ⟨h.runs, by simp, h.completions, h.going⟩
  | evict runId =>
    obtain ⟨hpolling, hstep⟩ := step_evict hstep
    obtain ⟨r, effect, hrun, rfl⟩ := stepRun_eq_some.mp hstep
    exact h.stepRun herror hrun ((h.runs _).evict hrun) fun h => absurd h hpolling
  | advance runId outcome =>
    obtain ⟨r, effect, hrun, rfl⟩ := stepRun_eq_some.mp (step_advance hstep)
    exact h.stepRun herror hrun ((h.runs _).advance hrun) (by simp)

lemma length_advances {runId : String} {outcomes : List (Except JsError C)}
    (hrun : Transition.run OperatorState.step w (outcomes.map (.advance runId)) = some w') :
    outcomes.length ≤ (w.runs runId).rank := by
  induction outcomes generalizing w with
  | nil => exact Nat.zero_le _
  | cons outcome outcomes ih =>
    obtain ⟨u, hu, ht⟩ := Transition.run_cons_eq_some.mp hrun
    obtain ⟨r, effect, hr, rfl⟩ := stepRun_eq_some.mp (step_advance hu)
    have hlength := ih ht
    rw [update_runs_self] at hlength
    exact lt_of_le_of_lt hlength (WorkflowRun.rank_advance hr)

/-- The activations of a run take turns in polled order, each with the state that was left, and
each that was polled gets one completion, unless it is still being processed. What is being
processed can go on, unless a handler has thrown, and comes to an end. -/
structure TurnsOk (w : OperatorState C) (runId : String) : Prop where
  alternating : Turns (w.runs runId).turns (w.runs runId).currentItem (w.runs runId).state
  inOrder : (w.runs runId).turns.filterMap Turn.startedPolled = (w.runs runId).polled
  completed : ∀ turn ∈ (w.runs runId).turns, turn.Completed runId
  emitted : (w.completions.filter fun c => c.runId = runId) =
    (w.runs runId).turns.filterMap Turn.completion
  settled : (w.runs runId).currentItem = none →
    (w.runs runId).turns.filterMap Turn.finishedPolled = (w.runs runId).polled
  progress : w.error = none → (w.runs runId).currentItem.isSome = true → ∀ outcome,
    (w.step (.advance runId outcome)).isSome = true
  bounded : ∀ (outcomes : List (Except JsError C)) w',
    Transition.run step w (outcomes.map (.advance runId)) = some w' →
      outcomes.length ≤ 7 * (w.runs runId).inFlight

/-- Two runs, of which one fails to be created, and a shutdown while the other is processed. -/
def createdAndShutDown : List (OperatorInput Unit) :=
  let start : ActivationJob := .startWorkflow ⟨some "w", some "t", some 1, some "r", some 1, some ⟨0, 0⟩⟩
  [.poll ⟨"a", some ⟨0, 0⟩, [start]⟩, .poll ⟨"b", some ⟨0, 0⟩, [start]⟩, .advance "a" (.ok ()),
    .advance "b" (.error .undefined), .advance "b" (.ok ()), .shutdown, .advance "a" (.ok ()), .evict "a",
    .advance "a" (.ok ()), .advance "a" (.ok ()), .advance "a" (.ok ()), .advance "a" (.ok ()),
    .advance "a" (.ok ())]

end OperatorState

end TemporalSdk
