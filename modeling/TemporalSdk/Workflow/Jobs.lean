import TemporalSdk.Workflow.Operations

/-!
# The activation jobs that resolve operations, and the steps of a run

A run is any interleaving of calls by workflow code, of jobs, and of microtasks.
-/

namespace TemporalSdk

variable {V : Type}

/-- `coresdk.activity_result.IActivityResolution`; `unknown` has no status set -/
inductive ActivityResolution
  | completed (result : Option Payload)
  | failed (failure : Option ProtoFailure)
  | cancelled (failure : Option ProtoFailure)
  | backoff (backoff : DoBackoff)
  | unknown
deriving DecidableEq

/-- `coresdk.child_workflow.IChildWorkflowResult` -/
inductive ChildWorkflowResult
  | completed (result : Option Payload)
  | failed (failure : Option ProtoFailure)
  | cancelled (failure : Option ProtoFailure)
  | unknown
deriving DecidableEq

/-- The status of `IResolveChildWorkflowExecutionStart`; `alreadyExists` says whether the
cause of the failure is that the workflow already exists. -/
inductive ChildWorkflowStartStatus
  | succeeded (runId : String)
  | failed (alreadyExists : Bool) (workflowId workflowType : String)
  | cancelled (failure : Option ProtoFailure)
  | unknown
deriving DecidableEq

inductive Job
  | fireTimer (seq : Option Seq)
  | resolveActivity (seq : Option Seq) (result : Option ActivityResolution)
  | resolveChildWorkflowExecutionStart (seq : Option Seq) (status : ChildWorkflowStartStatus)
  | resolveChildWorkflowExecution (seq : Option Seq) (result : Option ChildWorkflowResult)
  | resolveSignalExternalWorkflow (seq : Option Seq) (failure : Option ProtoFailure)
  | cancelWorkflow
deriving DecidableEq

def ActivityResolution.resolution : ActivityResolution → Resolution
  | completed _ => .completed
  | failed _ => .failed
  | cancelled _ => .cancelled
  | backoff _ => .backoff
  | unknown => .unknown

def ChildWorkflowResult.resolution : ChildWorkflowResult → Resolution
  | completed _ => .completed
  | failed _ => .failed
  | cancelled _ => .cancelled
  | unknown => .unknown

def ChildWorkflowStartStatus.resolution : ChildWorkflowStartStatus → Resolution
  | succeeded _ => .completed
  | failed _ _ _ => .failed
  | cancelled _ => .cancelled
  | unknown => .unknown

/-! ### What a resolution does to the promise -/

namespace Env

variable (env : Env V)

def fromResult : Option Payload → Except JsError Value
  | some result => env.fromPayload result
  | none => .ok .undefined

/-- `failure ? this.failureToError(failure) : undefined` -/
def errorOrUndefined : Option ProtoFailure → Except JsError JsError
  | some failure => env.failureToError failure
  | none => .ok .undefined

def errorOrThrow (missing : String) : Option ProtoFailure → Except JsError JsError
  | some failure => env.failureToError failure
  | none => .error (.typeError missing)

/-- The call of `resolve` or `reject`, if there is one, or the error thrown before it. -/
def settleActivity : ActivityResolution → Except JsError (Option Settlement)
  | .completed result => return some (.fulfilled (← env.fromResult result))
  | .failed failure => return some (.rejected (← env.errorOrUndefined failure))
  | .cancelled failure => return some (.rejected (← env.errorOrUndefined failure))
  | .backoff backoff => return some (.rejected (.localActivityDoBackoff backoff))
  | .unknown => return none

def settleChildWorkflow : ChildWorkflowResult → Except JsError (Option Settlement)
  | .completed result => return some (.fulfilled (← env.fromResult result))
  | .failed failure =>
    return some (.rejected (← env.errorOrThrow "Got failed result with no failure attribute" failure))
  | .cancelled failure =>
    return some (.rejected (← env.errorOrThrow "Got cancelled result with no failure attribute" failure))
  | .unknown => return none

def settleChildWorkflowStart (seq : Seq) : ChildWorkflowStartStatus → Except JsError (Option Settlement)
  | .succeeded runId => return some (.fulfilled (.runId runId))
  | .failed alreadyExists workflowId workflowType => do
    if !alreadyExists then
      throw (.illegalStateError "Got unknown StartChildWorkflowExecutionFailedCause")
    if seq = 0 || workflowId = "" || workflowType = "" then
      throw (.typeError "Missing attributes in activation job")
    return some (.rejected
      (.workflowExecutionAlreadyStarted "Workflow execution already started" workflowId workflowType))
  | .cancelled failure =>
    return some (.rejected (← env.errorOrThrow "Got no failure in cancelled variant" failure))
  | .unknown => throw (.typeError "Got ResolveChildWorkflowExecutionStart with no status")

def settleSignalWorkflow : Option ProtoFailure → Except JsError (Option Settlement)
  | some failure => return some (.rejected (← env.failureToError failure))
  | none => return some (.fulfilled .undefined)

end Env

namespace Runtime

variable (env : Env V) (rt : Runtime)

def getSeq : Option Seq → Except JsError Seq
  | some seq => .ok seq
  | none => .error (.typeError "Got activation with no seq attribute")

/-- `Activator.maybeConsumeCompletion` -/
def maybeConsumeCompletion (type : CompletionType) (seq : Seq) : Option Completion × Runtime :=
  ((rt.completions type).lookup seq, rt.deleteCompletion type seq)

/-- `Activator.consumeCompletion`, followed by the call of `resolve` or `reject` -/
def consumeCompletion (type : CompletionType) (seq : Option Seq) (resolution : Resolution)
    (settlement : Seq → Except JsError (Option Settlement)) : Runtime :=
  match getSeq seq with
  | .error err => rt.emit (.thrown err)
  | .ok seq =>
    match rt.maybeConsumeCompletion type seq with
    | (none, _) => rt.emit (.thrown (.illegalStateError ("No completion for taskSeq " ++ toString seq)))
    | (some _, rt) =>
      let rt := rt.emit (.resolved type seq resolution)
      match settlement seq with
      | .error err => rt.emit (.thrown err)
      | .ok none => rt
      | .ok (some s) => rt.settle ⟨type, seq⟩ s

/-- The resolve function of a timer; that of `setTimeout` queues the callback. -/
def resolveTimer (seq : Seq) : Option Completion → Runtime
  | none => rt
  | some .promise => rt.settle ⟨.timer, seq⟩ (.fulfilled .undefined)
  | some .callback =>
    let rt := rt.settle ⟨.timer, seq⟩ (.fulfilled .undefined)
    { rt with loop := rt.loop.enqueue (.timeoutCallback seq) }
  | some .dead => rt

def fireTimer (seq : Option Seq) : Runtime :=
  match getSeq seq with
  | .error err => rt.emit (.thrown err)
  | .ok seq =>
    let (completion, rt) := rt.maybeConsumeCompletion .timer seq
    (rt.emit (.fired seq)).resolveTimer seq completion

def resolveActivity (seq : Option Seq) : Option ActivityResolution → Runtime
  | none => rt.emit (.thrown (.typeError "Got ResolveActivity activation with no result"))
  | some result =>
    rt.consumeCompletion .activity seq result.resolution fun _ => env.settleActivity result

def resolveChildWorkflowExecutionStart (seq : Option Seq) (status : ChildWorkflowStartStatus) :
    Runtime :=
  rt.consumeCompletion .childWorkflowStart seq status.resolution fun seq =>
    env.settleChildWorkflowStart seq status

def resolveChildWorkflowExecution (seq : Option Seq) : Option ChildWorkflowResult → Runtime
  | none => rt.emit (.thrown (.typeError "Got ResolveChildWorkflowExecution activation with no result"))
  | some result =>
    rt.consumeCompletion .childWorkflowComplete seq result.resolution fun _ =>
      env.settleChildWorkflow result

def resolveSignalExternalWorkflow (seq : Option Seq) (failure : Option ProtoFailure) : Runtime :=
  rt.consumeCompletion .signalWorkflow seq
    (if failure.isSome then .failed else .completed) fun _ => env.settleSignalWorkflow failure

def runJob : Job → Runtime
  | .fireTimer seq => rt.fireTimer seq
  | .resolveActivity seq result => rt.resolveActivity env seq result
  | .resolveChildWorkflowExecutionStart seq status =>
    rt.resolveChildWorkflowExecutionStart env seq status
  | .resolveChildWorkflowExecution seq result => rt.resolveChildWorkflowExecution env seq result
  | .resolveSignalExternalWorkflow seq failure => rt.resolveSignalExternalWorkflow env seq failure
  | .cancelWorkflow => rt.cancel rootScope

/-! ### Microtasks -/

/-- What the reaction to cancellation of an activity, a child workflow or a signal does. -/
def cancelOperation (kind : OpKind) (seq : Seq) : Runtime :=
  if seq ∈ rt.completions kind.pendingIn then rt.pushCommand (kind.cancelCommand seq) false else rt

/-- What the reaction to cancellation of a `sleep` does. -/
def cancelTimer (scope : ScopeId) (seq : Seq) : Runtime :=
  if seq ∈ rt.completions .timer then
    ((rt.deleteCompletion .timer seq).pushCommand (.cancelTimer seq) false).settle ⟨.timer, seq⟩
      (.rejected (rt.scope scope).reason)
  else rt

def react : Reaction → Runtime
  | .propagate parent child => rt.rejectScope child (rt.scope parent).reason
  | .reject scope p => rt.settle p (.rejected (rt.scope scope).reason)
  | .cancel kind seq => rt.cancelOperation kind seq
  | .cancelTimer scope seq => rt.cancelTimer scope seq
  | .rejectChild seq err => rt.settle ⟨.childWorkflowComplete, seq⟩ (.rejected err)
  | .timeoutCallback seq => rt.emit (.callback seq)

/-- The first microtask of the queue runs. -/
def microtask : Option Runtime :=
  match rt.loop.next with
  | none => none
  | some (r, loop) => some ({ rt with loop := loop }.react r)

end Runtime

/-! ### Runs -/

inductive Input (V : Type)
  | newScope (cancellable : Bool) (parent : ScopeId)
  | cancel (scope : ScopeId)
  | sleep (scope : ScopeId) (ms : Duration)
  | setTimeout (ms : JsNumber)
  | clearTimeout (handle : Seq)
  | scheduleActivity (scope : ScopeId) (activityType : String) (args : List V)
      (options : Option ActivityOptions)
  | scheduleLocalActivity (scope : ScopeId) (activityType : String) (args : List V)
      (options : Option LocalActivityOptions) (attempt : ℕ)
      (originalScheduleTime : Option Timestamp)
  | startChild (scope : ScopeId) (workflowType : String) (options : ChildWorkflowOptions V)
      (uuid : String)
  | signal (scope : ScopeId) (target : SignalTarget) (signalName : String) (args : List V)
  | push (cmd : Command) (complete : Bool)
  | activate (isReplaying : Bool)
  | job (job : Job)
  | microtask

namespace Command

/-- The commands that the operations of this model do not push: workflow code may push them
at any time. -/
def isForeign : Command → Bool
  | requestCancelExternalWorkflowExecution _ _ _ => true
  | setPatchMarker _ _ => true
  | upsertWorkflowSearchAttributes _ => true
  | respondToQuery _ _ => true
  | cmd => cmd.isTerminal

end Command

namespace Runtime

variable (rt : Runtime)

/-- A step in a scope is offered when the scope exists. -/
def inScope (scope : ScopeId) (rt' : Runtime) : Option Runtime :=
  if scope < rt.scopes.length then some rt' else none

def step (env : Env V) (rt : Runtime) : Input V → Option Runtime
  | .newScope cancellable parent => rt.inScope parent (rt.newScope cancellable parent)
  | .cancel scope => rt.inScope scope (rt.cancel scope)
  | .sleep scope ms => rt.inScope scope (rt.sleep env scope ms)
  | .setTimeout ms => some (rt.setTimeout ms)
  | .clearTimeout handle => some (rt.clearTimeout handle)
  | .scheduleActivity scope activityType args options =>
    rt.inScope scope (rt.scheduleActivity env scope activityType args options)
  | .scheduleLocalActivity scope activityType args options attempt originalScheduleTime =>
    rt.inScope scope
      (rt.scheduleLocalActivity env scope activityType args options attempt originalScheduleTime)
  | .startChild scope workflowType options uuid =>
    rt.inScope scope (rt.startChild env scope workflowType options uuid)
  | .signal scope target signalName args =>
    rt.inScope scope (rt.signal env scope target signalName args)
  | .push cmd complete => if cmd.isForeign then some (rt.pushCommand cmd complete) else none
  | .activate isReplaying => some { rt with isReplaying := isReplaying }
  | .job job => some (rt.runJob env job)
  | .microtask => rt.microtask

end Runtime

end TemporalSdk
