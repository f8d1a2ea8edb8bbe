import Mathlib.Data.Finset.Insert
import TemporalSdk.Common.Errors
import TemporalSdk.Library.Transition

/-!
# The workflow operator of a worker

Activations are grouped by run. In a group they are processed by an asynchronous handler, one at
a time, which threads the group's Workflow instance; the poller's shutdown adds an eviction to
each open group. The outcomes of what the handler awaits, and their order, are inputs.
-/

namespace TemporalSdk

/-- The attributes of `coresdk.workflow_activation.IStartWorkflow` that the operator checks. -/
structure StartWorkflow where
  workflowId : Option String
  workflowType : Option String
  randomnessSeed : Option ℕ
  firstExecutionRunId : Option String
  attempt : Option ℕ
  startTime : Option Timestamp
deriving DecidableEq

/-- `coresdk.workflow_activation.IWorkflowActivationJob`, as the operator sees it -/
inductive ActivationJob
  | startWorkflow (attributes : StartWorkflow)
  | notifyHasPatch (patchId : Option String)
  | removeFromCache (message : String)
  | other (variant : String)
deriving DecidableEq

structure WorkflowActivation where
  runId : String
  timestamp : Option Timestamp
  jobs : List ActivationJob
deriving DecidableEq

/-- An instance is told from the others of its run by its number. -/
structure WorkflowInstance where
  runId : String
  number : ℕ
deriving DecidableEq

/-- A polled activation, or a `synthetic` eviction -/
structure ActivationItem where
  activation : WorkflowActivation
  synthetic : Bool
deriving DecidableEq

inductive CompletionStatus (C : Type)
  | successful
  | activated (completion : C)
  | failed (error : JsError)
deriving DecidableEq

structure WorkflowCompletion (C : Type) where
  runId : String
  status : CompletionStatus C
deriving DecidableEq

inductive PollerState
  | polling
  | shutdown
deriving DecidableEq

namespace StartWorkflow

def isMalformed (s : StartWorkflow) : Bool :=
  !(s.workflowId.isSome && s.workflowType.isSome && s.randomnessSeed.isSome &&
    s.firstExecutionRunId.isSome && s.attempt.isSome && s.startTime.isSome)

end StartWorkflow

namespace ActivationJob

def isRemoveFromCache : ActivationJob → Bool
  | removeFromCache _ => true
  | _ => false

def startAttributes : ActivationJob → Option StartWorkflow
  | startWorkflow attributes => some attributes
  | _ => none

/-- A patch without a `patchId` -/
def isUnnamedPatch : ActivationJob → Bool
  | notifyHasPatch none => true
  | notifyHasPatch (some patchId) => patchId == ""
  | _ => false

end ActivationJob

/-- `Worker.SELF_INDUCED_SHUTDOWN_EVICTION`, for one run -/
def selfInducedShutdownEviction (runId : String) : WorkflowActivation :=
  ⟨runId, none, [.removeFromCache "Shutting down"]⟩

/-! ### The handler -/

/-- What the handler awaits: the instance's `dispose`, the decoding of the start attributes,
`createWorkflow`, `decodeActivation`, the instance's `activate`, `encodeCompletion`, the sink
calls in the `finally` block, or the encoding of the failure. The argument is its variable
`state`. A handler that is `rejected` has thrown and awaits nothing. -/
inductive HandlerStage (C : Type)
  | disposing (state : Option WorkflowInstance)
  | describing
  | creating
  | decoding (workflow : WorkflowInstance)
  | activating (workflow : WorkflowInstance)
  | encoding (workflow : WorkflowInstance)
  | sinkCalls (workflow : WorkflowInstance) (result : Except JsError C)
  | failing (state : Option WorkflowInstance) (error : JsError)
  | rejected (state : Option WorkflowInstance) (error : JsError)
deriving DecidableEq

/-- A call of the handler: `jobs` are those left after an eviction has been taken out. -/
structure Handler (C : Type) where
  item : ActivationItem
  close : Bool
  jobs : List ActivationJob
  stage : HandlerStage C
deriving DecidableEq

inductive WorkflowCall
  | createWorkflow (workflow : WorkflowInstance)
  | activate (workflow : WorkflowInstance)
  | dispose (workflow : WorkflowInstance)
deriving DecidableEq

/-- How the handler goes on: to the next `await`, or to its result. -/
inductive HandlerStep (C : Type)
  | await (stage : HandlerStage C) (calls : List WorkflowCall)
  | done (state : Option WorkflowInstance) (close : Bool) (completion : Option (WorkflowCompletion C))

namespace HandlerStage

variable {C : Type}

/-- The handler's variable `state`. -/
def state : HandlerStage C → Option WorkflowInstance
  | disposing state => state
  | describing => none
  | creating => none
  | decoding workflow => some workflow
  | activating workflow => some workflow
  | encoding workflow => some workflow
  | sinkCalls workflow _ => some workflow
  | failing state _ => state
  | rejected state _ => state

/-- What the handler has been rejected with. -/
def rejection : HandlerStage C → Option JsError
  | rejected _ error => some error
  | _ => none

/-- The outer `catch` block, up to its `await`: an UnexpectedError is rethrown. -/
def caught (state : Option WorkflowInstance) (error : JsError) : HandlerStage C :=
  if error.isUnexpectedError then .rejected state error else .failing state error

/-- The inner `catch` block, up to the `await`s of its `finally`, which an UnexpectedError leaves
out. -/
def activationFailed (workflow : WorkflowInstance) (error : JsError) : HandlerStage C :=
  if error.isUnexpectedError then .rejected (some workflow) error else .sinkCalls workflow (.error error)

end HandlerStage

namespace Handler

variable {C : Type}

/-- The checks before an instance is created; the job that the second message quotes is left out. -/
def startStage (timestamp : Option Timestamp) (jobs : List ActivationJob) : HandlerStage C :=
  match jobs.findSome? ActivationJob.startAttributes with
  | none => .failing none (.illegalStateError
      "Received workflow activation for an untracked workflow with no start workflow job")
  | some attributes =>
    if attributes.isMalformed then .failing none (.typeError "Malformed StartWorkflow activation: ")
    else
      match timestamp with
      | none => .failing none (.typeError
          "Got activation with no timestamp, cannot create a new Workflow instance")
      | some _ => .describing

/-- The handler up to its first `await` -/
def start (state : Option WorkflowInstance) (item : ActivationItem) : Handler C × List WorkflowCall :=
  let close := item.activation.jobs.any ActivationJob.isRemoveFromCache
  let jobs := item.activation.jobs.eraseP ActivationJob.isRemoveFromCache
  if jobs = [] then (⟨item, close, jobs, .disposing state⟩, state.toList.map .dispose)
  else
    match state with
    | some workflow => (⟨item, close, jobs, .decoding workflow⟩, [])
    | none => (⟨item, close, jobs, startStage item.activation.timestamp jobs⟩, [])

variable (h : Handler C)

/-- The handler is about to give its result and to have its group closed. -/
def closes (outcome : Except JsError C) : Bool :=
  match h.stage, outcome with
  | .disposing (some _), .error _ => false
  | .disposing _, _ => h.close
  | .sinkCalls _ (.ok _), .ok _ => h.close
  | .failing _ _, .ok _ => true
  | _, _ => false

/-- The handler is about to throw: what it awaits fails unexpectedly, or its failure cannot be
encoded. -/
def rejects (outcome : Except JsError C) : Bool :=
  match h.stage, outcome with
  | .disposing none, _ => false
  | .failing _ _, .error _ => true
  | .sinkCalls _ (.error err), .ok _ => err.isUnexpectedError
  | _, .error err => err.isUnexpectedError
  | _, .ok _ => false

def failed (error : JsError) : HandlerStep C :=
  .done none true (some ⟨h.item.activation.runId, .failed error⟩)

/-- The handler from one `await` to the next, unless it has been rejected; `created` counts the
instances of the run. A dispose without an instance cannot fail. -/
def advance (created : ℕ) (outcome : Except JsError C) : Option (HandlerStep C) :=
  match h.stage, outcome with
  | .disposing (some workflow), .error err => some (.await (.caught (some workflow) err) [])
  | .disposing state, _ => some <|
    if !h.close then
      .await (.failing state (.illegalStateError "Got a Workflow activation with no jobs")) []
    else if h.item.synthetic then .done none h.close none
    else .done none h.close (some ⟨h.item.activation.runId, .successful⟩)
  | .describing, .error err => some (.await (.caught none err) [])
  | .describing, .ok _ => some <|
    if h.jobs.any ActivationJob.isUnnamedPatch then
      .await (.failing none (.typeError "Got a patch without a patchId")) []
    else .await .creating []
  | .creating, .error err => some (.await (.caught none err) [])
  | .creating, .ok _ =>
    let workflow : WorkflowInstance := ⟨h.item.activation.runId, created⟩
    some (.await (.decoding workflow) [.createWorkflow workflow])
  | .decoding workflow, .error err => some (.await (.activationFailed workflow err) [])
  | .decoding workflow, .ok _ => some (.await (.activating workflow) [.activate workflow])
  | .activating workflow, .error err => some (.await (.activationFailed workflow err) [])
  | .activating workflow, .ok _ => some (.await (.encoding workflow) [])
  | .encoding workflow, .error err => some (.await (.activationFailed workflow err) [])
  | .encoding workflow, .ok completion => some (.await (.sinkCalls workflow (.ok completion)) [])
  | .sinkCalls workflow _, .error err => some (.await (.caught (some workflow) err) [])
  | .sinkCalls workflow (.error err), .ok _ => some (.await (.caught (some workflow) err) [])
  | .sinkCalls workflow (.ok completion), .ok _ =>
    some (.done (some workflow) h.close (some ⟨workflow.runId, .activated completion⟩))
  | .failing state _, .error err => some (.await (.rejected state err) [])
  | .failing _ err, .ok _ => some (h.failed err)
  | .rejected _ _, _ => none

end Handler

/-! ### Groups -/

/-- An open group: the state and the buffer of its `mergeScan`, the call of the handler that is
pending, and whether the poller's shutdown has reached it. -/
structure ActivationGroup (C : Type) where
  state : Option WorkflowInstance
  current : Option (Handler C)
  waiting : List ActivationItem
  evicted : Bool
deriving DecidableEq

/-- The log of a run: a handler is called with a state, or ends and leaves a state in the
operator. -/
inductive Turn (C : Type)
  | started (item : ActivationItem) (state : Option WorkflowInstance)
  | finished (item : ActivationItem) (state : Option WorkflowInstance)
    (completion : Option (WorkflowCompletion C))
deriving DecidableEq

/-- A run: its group, whether Core waits for a completion, how many instances have been created,
and the history. -/
structure WorkflowRun (C : Type) where
  group : Option (ActivationGroup C)
  outstanding : Bool
  created : ℕ
  polled : List WorkflowActivation
  turns : List (Turn C)
  calls : List WorkflowCall
deriving DecidableEq

/-- What a step of a run does to the worker: the changes of `numInFlightActivations` and
`numCachedWorkflows`, the completion that it emits, and the error that it ends the operator with. -/
structure OperatorEffect (C : Type) where
  inFlight : ℤ
  cached : ℤ
  completion : Option (WorkflowCompletion C)
  error : Option JsError

inductive RunInput (C : Type)
  | poll (activation : WorkflowActivation)
  | evict
  | advance (outcome : Except JsError C)

namespace WorkflowCall

def isCreateWorkflow : WorkflowCall → Bool
  | createWorkflow _ => true
  | _ => false

end WorkflowCall

namespace WorkflowRun

variable {C : Type} (r : WorkflowRun C)

def initial : WorkflowRun C := ⟨none, false, 0, [], [], []⟩

/-- The handler is called with the group's state. -/
def call (g : ActivationGroup C) (item : ActivationItem) : WorkflowRun C :=
  { r with
    group := some { g with current := some (Handler.start g.state item).1 }
    turns := r.turns ++ [.started item g.state]
    calls := r.calls ++ (Handler.start (C := C) g.state item).2 }

/-- An item arrives at the `mergeScan`. -/
def receive (g : ActivationGroup C) (item : ActivationItem) : WorkflowRun C :=
  match g.current with
  | none => r.call g item
  | some _ => { r with group := some { g with waiting := g.waiting ++ [item] } }

/-- The next item of the buffer is taken. -/
def callNext (g : ActivationGroup C) : WorkflowRun C :=
  match g.waiting with
  | [] => { r with group := some g }
  | item :: waiting => r.call { g with waiting } item

/-- The handler gives its result; `takeWhile` drops what is in the buffer of a closed group. -/
def finish (g : ActivationGroup C) (item : ActivationItem) (state : Option WorkflowInstance)
    (close : Bool) (completion : Option (WorkflowCompletion C)) : WorkflowRun C :=
  let r : WorkflowRun C := { r with
    outstanding := r.outstanding && completion.isNone
    turns := r.turns ++ [Turn.finished item (if close then none else state) completion] }
  if close then { r with group := none } else r.callNext { g with state, current := none }

/-- Core polls a run out again only after it has got the completion. -/
def step (runId : String) (r : WorkflowRun C) :
    RunInput C → Option (WorkflowRun C × OperatorEffect C)
  | .poll activation =>
    if r.outstanding then none
    else
      let g := r.group.getD ⟨none, none, [], false⟩
      let r := { r with outstanding := true, polled := r.polled ++ [activation] }
      some (r.receive g ⟨activation, false⟩, ⟨1, 0, none, none⟩)
  | .evict =>
    match r.group with
    | none => none
    | some g =>
      if g.evicted then none
      else
        let item := ⟨selfInducedShutdownEviction runId, true⟩
        some (r.receive { g with evicted := true } item, ⟨1, 0, none, none⟩)
  | .advance outcome =>
    match r.group with
    | none => none
    | some g =>
      match g.current with
      | none => none
      | some h =>
        match h.advance r.created outcome with
        | none => none
        | some (.await stage calls) =>
          let created := calls.countP WorkflowCall.isCreateWorkflow
          some ({ r with
            group := some { g with current := some { h with stage } }
            created := r.created + created
            calls := r.calls ++ calls }, ⟨0, created, none, stage.rejection⟩)
        | some (.done state close completion) =>
          some (r.finish g h.item state close completion,
            ⟨-1, if close then -1 else 0, completion, none⟩)

/-! What each step does. -/

variable {r} {r' : WorkflowRun C} {runId : String} {effect : OperatorEffect C}

lemma step_poll {activation : WorkflowActivation} (h : r.step runId (.poll activation) = some (r', effect)) :
    r.outstanding = false ∧
      { r with outstanding := true, polled := r.polled ++ [activation] }.receive
        (r.group.getD ⟨none, none, [], false⟩) ⟨activation, false⟩ = r' ∧
      ⟨1, 0, none, none⟩ = effect := by
  simp only [step] at h
  split at h
  · cases h
  · rename_i houtstanding
    cases h
    exact ⟨Bool.eq_false_iff.mpr houtstanding, rfl, rfl⟩

lemma step_evict (h : r.step runId .evict = some (r', effect)) :
    ∃ g, r.group = some g ∧ g.evicted = false ∧
      r.receive { g with evicted := true } ⟨selfInducedShutdownEviction runId, true⟩ = r' ∧
      ⟨1, 0, none, none⟩ = effect := by
  simp only [step] at h
  split at h
  · cases h
  · rename_i g hgroup
    split at h
    · cases h
    · rename_i hevicted
      cases h
      exact ⟨g, hgroup, Bool.eq_false_iff.mpr hevicted, rfl, rfl⟩

lemma step_advance {outcome : Except JsError C}
    (hstep : r.step runId (.advance outcome) = some (r', effect)) :
    ∃ g h, r.group = some g ∧ g.current = some h ∧
      ((∃ stage calls, h.advance r.created outcome = some (.await stage calls) ∧
          { r with group := some { g with current := some { h with stage } },
                   created := r.created + calls.countP WorkflowCall.isCreateWorkflow,
                   calls := r.calls ++ calls } = r' ∧
          ⟨0, calls.countP WorkflowCall.isCreateWorkflow, none, stage.rejection⟩ = effect) ∨
        ∃ state close completion, h.advance r.created outcome = some (.done state close completion) ∧
          r.finish g h.item state close completion = r' ∧
          ⟨-1, if close then -1 else 0, completion, none⟩ = effect) := by
  simp only [step] at hstep
  split at hstep
  · cases hstep
  · rename_i g hgroup
    split at hstep
    · cases hstep
    · rename_i h hcurrent
      refine ⟨g, h, hgroup, hcurrent, ?_⟩
      split at hstep
      · cases hstep
      · rename_i stage calls hadvance
        cases hstep
        exact Or.inl ⟨stage, calls, hadvance, rfl, rfl⟩
      · rename_i state close completion hadvance
        cases hstep
        exact Or.inr ⟨state, close, completion, hadvance, rfl, rfl⟩

end WorkflowRun

/-! ### The operator -/

/-- `runs` are the runs by their id, of which `runIds` have been polled. A handler that throws ends
the operator with its `error`. -/
structure OperatorState (C : Type) where
  workflowPollerState : PollerState
  numInFlightActivations : ℤ
  numCachedWorkflows : ℤ
  runIds : Finset String
  runs : String → WorkflowRun C
  completions : List (WorkflowCompletion C)
  error : Option JsError

/-- The poller's shutdown reaches the groups in any order. -/
inductive OperatorInput (C : Type)
  | poll (activation : WorkflowActivation)
  | shutdown
  | evict (runId : String)
  | advance (runId : String) (outcome : Except JsError C)

namespace OperatorState

variable {C : Type}

def initial : OperatorState C := ⟨.polling, 0, 0, ∅, fun _ => .initial, [], none⟩

/-- A run has made a step. -/
def update (w : OperatorState C) (runId : String) (r : WorkflowRun C) (effect : OperatorEffect C) :
    OperatorState C :=
  { w with
    numInFlightActivations := w.numInFlightActivations + effect.inFlight
    numCachedWorkflows := w.numCachedWorkflows + effect.cached
    runIds := insert runId w.runIds
    runs := Function.update w.runs runId r
    completions := w.completions ++ effect.completion.toList
    error := w.error <|> effect.error }

def stepRun (w : OperatorState C) (runId : String) (input : RunInput C) : Option (OperatorState C) :=
  ((w.runs runId).step runId input).map fun (r, effect) => w.update runId r effect

/-- The shutdown comes when the poll loop has ended. -/
def step (w : OperatorState C) (input : OperatorInput C) : Option (OperatorState C) :=
  if w.error.isSome then none
  else
    match input with
    | .poll activation =>
      if w.workflowPollerState = .polling then w.stepRun activation.runId (.poll activation) else none
    | .shutdown =>
      if w.workflowPollerState = .polling then some { w with workflowPollerState := .shutdown } else none
    | .evict runId => if w.workflowPollerState = .polling then none else w.stepRun runId .evict
    | .advance runId outcome => w.stepRun runId (.advance outcome)

lemma stepRun_eq_some {w w' : OperatorState C} {runId : String} {input : RunInput C} :
    w.stepRun runId input = some w' ↔
      ∃ r effect, (w.runs runId).step runId input = some (r, effect) ∧ w.update runId r effect = w' := by
  simp only [stepRun, Option.map_eq_some_iff, Prod.exists]

lemma error_of_step {w w' : OperatorState C} {input : OperatorInput C} (h : w.step input = some w') :
    w.error = none := by
  simpa using (Option.ite_none_left_eq_some.mp h).1

lemma step_poll {w w' : OperatorState C} {activation : WorkflowActivation}
    (h : w.step (.poll activation) = some w') :
    w.workflowPollerState = .polling ∧ w.stepRun activation.runId (.poll activation) = some w' :=
  Option.ite_none_right_eq_some.mp (Option.ite_none_left_eq_some.mp h).2

lemma step_shutdown {w w' : OperatorState C} (h : w.step .shutdown = some w') :
    w.workflowPollerState = .polling ∧ { w with workflowPollerState := .shutdown } = w' := by
  obtain ⟨hpolling, hw'⟩ := Option.ite_none_right_eq_some.mp (Option.ite_none_left_eq_some.mp h).2
  exact ⟨hpolling, Option.some.inj hw'⟩

lemma step_evict {w w' : OperatorState C} {runId : String} (h : w.step (.evict runId) = some w') :
    w.workflowPollerState ≠ .polling ∧ w.stepRun runId .evict = some w' :=
  Option.ite_none_left_eq_some.mp (Option.ite_none_left_eq_some.mp h).2

lemma step_advance {w w' : OperatorState C} {runId : String} {outcome : Except JsError C}
    (h : w.step (.advance runId outcome) = some w') : w.stepRun runId (.advance outcome) = some w' :=
  (Option.ite_none_left_eq_some.mp h).2

@[simp] lemma update_runs_self (w : OperatorState C) (runId : String) (r : WorkflowRun C)
    (effect : OperatorEffect C) : (w.update runId r effect).runs runId = r := by
  simp [update]

lemma update_runs_of_ne (w : OperatorState C) {runId runId' : String} (r : WorkflowRun C)
    (effect : OperatorEffect C) (h : runId' ≠ runId) :
    (w.update runId r effect).runs runId' = w.runs runId' := by
  simp [update, h]

end OperatorState

end TemporalSdk
