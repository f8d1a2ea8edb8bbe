import TemporalSdk.Workflow.Runtime

/-!
# The operations that workflow code calls

Timers, activities, local activities, child workflows, signals to other workflows and
cancellation scopes. Each operation is called in a scope, `CancellationScope.current()`.
The outbound interceptors pass straight through.
-/

namespace TemporalSdk

variable {V : Type}

/-- What the operations use of the worker's configuration: the converters, the `ms` package,
the activities that the worker has registered and two fields of `workflowInfo()`. -/
structure Env (V : Type) where
  toPayload : V → Except JsError Payload
  fromPayload : Payload → Except JsError Value
  searchAttributeToPayload : V → Except JsError Payload
  failureToError : ProtoFailure → Except JsError JsError
  parseMs : String → Option JsNumber
  registeredActivityNames : List String
  taskQueue : String
  «namespace» : String

/-- A worker without activities whose values are payloads already. -/
def Env.raw : Env Payload where
  toPayload := .ok
  fromPayload payload := .ok (.decoded payload)
  searchAttributeToPayload := .ok
  failureToError failure := .ok (.temporalFailure failure.message)
  parseMs _ := none
  registeredActivityNames := []
  taskQueue := "default"
  «namespace» := "default"

structure ActivityOptions where
  activityId : Option String
  taskQueue : Option String
  heartbeatTimeout : Option Duration
  retry : Option RetryPolicy
  startToCloseTimeout : Option Duration
  scheduleToStartTimeout : Option Duration
  scheduleToCloseTimeout : Option Duration
  cancellationType : Option ActivityCancellationType
  allowEagerDispatch : Option Bool

structure LocalActivityOptions where
  retry : Option RetryPolicy
  startToCloseTimeout : Option Duration
  scheduleToStartTimeout : Option Duration
  scheduleToCloseTimeout : Option Duration
  localRetryThreshold : Option Duration
  cancellationType : Option ActivityCancellationType

structure ChildWorkflowOptions (V : Type) where
  workflowId : Option String
  args : Option (List V)
  taskQueue : Option String
  cancellationType : Option ChildWorkflowCancellationType
  retry : Option RetryPolicy
  workflowExecutionTimeout : Option Duration
  workflowRunTimeout : Option Duration
  workflowTaskTimeout : Option Duration
  searchAttributes : Option (List (String × V))
  memo : Option (List (String × V))

def ChildWorkflowOptions.default : ChildWorkflowOptions V :=
  ⟨none, none, none, none, none, none, none, none, none, none⟩

/-- `toPayloads`, which gives `undefined` for no values -/
def toPayloads (toPayload : V → Except JsError Payload) (values : List V) :
    Except JsError (Option (List Payload)) :=
  if values.isEmpty then .ok none else some <$> values.mapM toPayload

def mapToPayloads (toPayload : V → Except JsError Payload) (map : List (String × V)) :
    Except JsError (List (String × Payload)) :=
  map.mapM fun (k, v) => return (k, ← toPayload v)

/-- `options.taskQueue || info.taskQueue` -/
def taskQueueOr (taskQueue : Option String) (default : String) : String :=
  match taskQueue with
  | none | some "" => default
  | some name => name

namespace Env

variable (env : Env V)

def scheduleActivityCommand (seq : Seq) (activityType : String) (args : List V)
    (options : ActivityOptions) : Except JsError Command := do
  return .scheduleActivity {
    seq
    activityId := options.activityId.getD (toString seq)
    activityType
    arguments := ← toPayloads env.toPayload args
    retryPolicy := ← options.retry.mapM (compileRetryPolicy env.parseMs)
    taskQueue := taskQueueOr options.taskQueue env.taskQueue
    heartbeatTimeout := ← msOptionalToTs env.parseMs options.heartbeatTimeout
    scheduleToCloseTimeout := ← msOptionalToTs env.parseMs options.scheduleToCloseTimeout
    startToCloseTimeout := ← msOptionalToTs env.parseMs options.startToCloseTimeout
    scheduleToStartTimeout := ← msOptionalToTs env.parseMs options.scheduleToStartTimeout
    cancellationType := options.cancellationType
    doNotEagerlyExecute := !options.allowEagerDispatch.getD true }

def scheduleLocalActivityCommand (seq : Seq) (activityType : String) (args : List V)
    (options : LocalActivityOptions) (attempt : ℕ) (originalScheduleTime : Option Timestamp) :
    Except JsError Command := do
  return .scheduleLocalActivity {
    seq
    attempt
    originalScheduleTime
    activityId := toString seq
    activityType
    arguments := ← toPayloads env.toPayload args
    retryPolicy := ← options.retry.mapM (compileRetryPolicy env.parseMs)
    scheduleToCloseTimeout := ← msOptionalToTs env.parseMs options.scheduleToCloseTimeout
    startToCloseTimeout := ← msOptionalToTs env.parseMs options.startToCloseTimeout
    scheduleToStartTimeout := ← msOptionalToTs env.parseMs options.scheduleToStartTimeout
    localRetryThreshold := ← msOptionalToTs env.parseMs options.localRetryThreshold
    cancellationType := options.cancellationType }

def startChildWorkflowExecutionCommand (seq : Seq) (workflowType workflowId : String)
    (options : ChildWorkflowOptions V) : Except JsError Command := do
  return .startChildWorkflowExecution {
    seq
    workflowId
    workflowType
    input := ← toPayloads env.toPayload (options.args.getD [])
    retryPolicy := ← options.retry.mapM (compileRetryPolicy env.parseMs)
    taskQueue := taskQueueOr options.taskQueue env.taskQueue
    workflowExecutionTimeout := ← msOptionalToTs env.parseMs options.workflowExecutionTimeout
    workflowRunTimeout := ← msOptionalToTs env.parseMs options.workflowRunTimeout
    workflowTaskTimeout := ← msOptionalToTs env.parseMs options.workflowTaskTimeout
    «namespace» := env.namespace
    cancellationType := options.cancellationType.getD .waitCancellationCompleted
    searchAttributes := ← options.searchAttributes.mapM (mapToPayloads env.searchAttributeToPayload)
    memo := ← options.memo.mapM (mapToPayloads env.toPayload) }

def signalExternalWorkflowExecutionCommand (seq : Seq) (target : SignalTarget)
    (signalName : String) (args : List V) : Except JsError Command := do
  return .signalExternalWorkflowExecution {
    seq
    args := ← toPayloads env.toPayload args
    signalName
    «namespace» := match target with
      | .external _ _ => some env.namespace
      | .child _ => none
    target }

/-! Each of these makes the command of its own kind, with the number of the operation. -/

lemma scheduleActivityCommand_ok {seq : Seq} {activityType : String} {args : List V}
    {options : ActivityOptions} {cmd : Command}
    (h : env.scheduleActivityCommand seq activityType args options = .ok cmd) :
    ∃ a, cmd = .scheduleActivity a ∧ a.seq = seq := by
  simp only [scheduleActivityCommand, bind, Except.bind, pure, Except.pure] at h
  repeat' split at h
  all_goals cases h
  exact ⟨_, rfl, rfl⟩

lemma scheduleLocalActivityCommand_ok {seq : Seq} {activityType : String} {args : List V}
    {options : LocalActivityOptions} {attempt : ℕ} {originalScheduleTime : Option Timestamp}
    {cmd : Command} (h : env.scheduleLocalActivityCommand seq activityType args options attempt
      originalScheduleTime = .ok cmd) :
    ∃ a, cmd = .scheduleLocalActivity a ∧ a.seq = seq := by
  simp only [scheduleLocalActivityCommand, bind, Except.bind, pure, Except.pure] at h
  repeat' split at h
  all_goals cases h
  exact ⟨_, rfl, rfl⟩

lemma startChildWorkflowExecutionCommand_ok {seq : Seq} {workflowType workflowId : String}
    {options : ChildWorkflowOptions V} {cmd : Command}
    (h : env.startChildWorkflowExecutionCommand seq workflowType workflowId options = .ok cmd) :
    ∃ a, cmd = .startChildWorkflowExecution a ∧ a.seq = seq := by
  simp only [startChildWorkflowExecutionCommand, bind, Except.bind, pure, Except.pure] at h
  repeat' split at h
  all_goals cases h
  exact ⟨_, rfl, rfl⟩

lemma signalExternalWorkflowExecutionCommand_ok {seq : Seq} {target : SignalTarget}
    {signalName : String} {args : List V} {cmd : Command}
    (h : env.signalExternalWorkflowExecutionCommand seq target signalName args = .ok cmd) :
    ∃ a, cmd = .signalExternalWorkflowExecution a ∧ a.seq = seq := by
  simp only [signalExternalWorkflowExecutionCommand, bind, Except.bind, pure, Except.pure] at h
  split at h
  all_goals cases h
  exact ⟨_, rfl, rfl⟩

end Env

namespace OpKind

/-- The map of completions by which a cancellation reaction decides whether the operation is
still pending. -/
def pendingIn : OpKind → CompletionType
  | activity => .activity
  | localActivity => .activity
  | childWorkflow => .childWorkflowComplete
  | signalWorkflow => .signalWorkflow

def cancelCommand : OpKind → Seq → Command
  | activity => .requestCancelActivity
  | localActivity => .requestCancelLocalActivity
  | childWorkflow => .cancelChildWorkflowExecution
  | signalWorkflow => .cancelSignalWorkflow

end OpKind

namespace Runtime

variable (env : Env V) (rt : Runtime)

/-- The executor of the promise `p` of an operation. In a cancelled scope nothing is
scheduled. Otherwise the reaction to cancellation is registered before the command is made,
which can throw. -/
def executor (scope : ScopeId) (p : PromiseRef) (onCancel : Reaction)
    (command : Except JsError Command) : Runtime :=
  if rt.consideredCancelled scope then
    rt.onCancelRequested scope (.reject scope p)
  else
    let rt := if (rt.scope scope).cancellable then rt.onCancelRequested scope onCancel else rt
    match command with
    | .error err => rt.settle p (.rejected err)
    | .ok cmd => (rt.pushCommand cmd false).setCompletion p.type p.seq .promise

/-! ### Timers -/

def timerNextHandler (scope : ScopeId) (seq : Seq) (durationMs : JsNumber) : Runtime :=
  rt.executor scope ⟨.timer, seq⟩ (.cancelTimer scope seq)
    ((msNumberToTs durationMs).map (.startTimer seq))

def sleep (scope : ScopeId) (ms : Duration) : Runtime :=
  let seq := rt.nextSeqs .timer
  let rt := rt.nextSeq .timer
  match msToNumber env.parseMs ms with
  | .error err => rt.emit (.thrown err)
  | .ok ms => rt.timerNextHandler scope seq ms.max1

/-- `global.setTimeout`. The completion is stored before `msToTs` throws. -/
def setTimeout (ms : JsNumber) : Runtime :=
  let seq := rt.nextSeqs .timer
  let rt := rt.nextSeq .timer
  match msNumberToTs ms.max1 with
  | .ok startToFireTimeout =>
    (rt.setCompletion .timer seq .callback).pushCommand (.startTimer seq startToFireTimeout) false
  | .error err => (rt.setCompletion .timer seq .dead).settle ⟨.timer, seq⟩ (.rejected err)

/-- `global.clearTimeout` -/
def clearTimeout (handle : Seq) : Runtime :=
  (((rt.nextSeq .timer).deleteCompletion .timer handle).pushCommand (.cancelTimer handle) false).emit
    (.cleared handle)

/-! ### Activities -/

/-- `validateActivityOptions`, on the two options that it reads -/
def validateActivityOptions (scheduleToCloseTimeout startToCloseTimeout : Option Duration) :
    Except JsError Unit :=
  if scheduleToCloseTimeout.isNone && startToCloseTimeout.isNone then
    .error (.typeError "Required either scheduleToCloseTimeout or startToCloseTimeout")
  else .ok ()

def scheduleActivityNextHandler (scope : ScopeId) (seq : Seq) (activityType : String)
    (args : List V) (options : ActivityOptions) : Runtime :=
  match validateActivityOptions options.scheduleToCloseTimeout options.startToCloseTimeout with
  | .error err => rt.emit (.thrown err)
  | .ok () =>
    rt.executor scope ⟨.activity, seq⟩ (.cancel .activity seq)
      (env.scheduleActivityCommand seq activityType args options)

def scheduleActivity (scope : ScopeId) (activityType : String) (args : List V)
    (options : Option ActivityOptions) : Runtime :=
  match options with
  | none => rt.emit (.thrown (.typeError "Got empty activity options"))
  | some options =>
    (rt.nextSeq .activity).scheduleActivityNextHandler env scope (rt.nextSeqs .activity) activityType args
      options

/-- An `async` function: where the others throw, its promise is rejected. -/
def scheduleLocalActivityNextHandler (scope : ScopeId) (seq : Seq) (activityType : String)
    (args : List V) (options : LocalActivityOptions) (attempt : ℕ)
    (originalScheduleTime : Option Timestamp) : Runtime :=
  if !rt.isReplaying && !env.registeredActivityNames.contains activityType then
    rt.settle ⟨.activity, seq⟩ (.rejected (.referenceError
      ("Local activity of type '" ++ activityType ++ "' not registered on worker")))
  else
    match validateActivityOptions options.scheduleToCloseTimeout options.startToCloseTimeout with
    | .error err => rt.settle ⟨.activity, seq⟩ (.rejected err)
    | .ok () =>
      rt.executor scope ⟨.activity, seq⟩ (.cancel .localActivity seq)
        (env.scheduleLocalActivityCommand seq activityType args options attempt
          originalScheduleTime)

/-- One turn of the loop of `scheduleLocalActivity`. A turn that ends in a backoff is
followed by a `sleep` and another turn. -/
def scheduleLocalActivity (scope : ScopeId) (activityType : String) (args : List V)
    (options : Option LocalActivityOptions) (attempt : ℕ)
    (originalScheduleTime : Option Timestamp) : Runtime :=
  match options with
  | none => rt.emit (.thrown (.typeError "Got empty activity options"))
  | some options =>
    (rt.nextSeq .activity).scheduleLocalActivityNextHandler env scope (rt.nextSeqs .activity) activityType
      args options attempt originalScheduleTime

/-! ### Child workflows and signals -/

/-- The completion of the child is stored whether or not the start has been scheduled. -/
def startChildWorkflowExecutionNextHandler (scope : ScopeId) (seq : Seq)
    (workflowType workflowId : String) (options : ChildWorkflowOptions V) : Runtime :=
  (rt.executor scope ⟨.childWorkflowStart, seq⟩ (.cancel .childWorkflow seq)
    (env.startChildWorkflowExecutionCommand seq workflowType workflowId options)).setCompletion
      .childWorkflowComplete seq .promise

/-- `startChild`, where `uuid` is what `uuid4()` gives -/
def startChild (scope : ScopeId) (workflowType : String) (options : ChildWorkflowOptions V)
    (uuid : String) : Runtime :=
  (rt.nextSeq .childWorkflow).startChildWorkflowExecutionNextHandler env scope
    (rt.nextSeqs .childWorkflow) workflowType (options.workflowId.getD uuid) options

def signalWorkflowNextHandler (scope : ScopeId) (seq : Seq) (target : SignalTarget)
    (signalName : String) (args : List V) : Runtime :=
  rt.executor scope ⟨.signalWorkflow, seq⟩ (.cancel .signalWorkflow seq)
    (env.signalExternalWorkflowExecutionCommand seq target signalName args)

/-- `signal` of the handle of an external workflow or of a child -/
def signal (scope : ScopeId) (target : SignalTarget) (signalName : String) (args : List V) :
    Runtime :=
  (rt.nextSeq .signalWorkflow).signalWorkflowNextHandler env scope (rt.nextSeqs .signalWorkflow) target
    signalName args

end Runtime

end TemporalSdk
