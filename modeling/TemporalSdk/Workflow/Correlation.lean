import Mathlib.Data.Finset.Insert
import TemporalSdk.Library.RequestTable
import TemporalSdk.Library.Transition
import TemporalSdk.Workflow.Settlements

/-!
# Which operation a job resolves

The maps of completions hold the resolve and reject functions of promises, and a job calls
those that it finds under its sequence number. Here the history of a run says which call
every function belongs to. Requests to cancel an external workflow are part of the run: their
promise is connected to the scope of the call if the workflow is patched.
-/

namespace TemporalSdk

variable {V : Type}

/-- The keys of `Activator.nextSeqs` that number the operations which jobs resolve. -/
inductive OperationKind
  | activity
  | childWorkflow
  | signalWorkflow
  | cancelWorkflow
deriving DecidableEq

/-- The keys of `Activator.completions`, other than `timer`. -/
inductive ResolveType
  | activity
  | childWorkflowStart
  | childWorkflowComplete
  | signalWorkflow
  | cancelWorkflow
deriving DecidableEq

def ResolveType.kind : ResolveType → OperationKind
  | activity => .activity
  | childWorkflowStart => .childWorkflow
  | childWorkflowComplete => .childWorkflow
  | signalWorkflow => .signalWorkflow
  | cancelWorkflow => .cancelWorkflow

/-- The map of the run; that of the requests to cancel external workflows is kept here. -/
def ResolveType.completionType : ResolveType → Option CompletionType
  | activity => some .activity
  | childWorkflowStart => some .childWorkflowStart
  | childWorkflowComplete => some .childWorkflowComplete
  | signalWorkflow => some .signalWorkflow
  | cancelWorkflow => none

def OperationKind.counter : OperationKind → Option Counter
  | activity => some .activity
  | childWorkflow => some .childWorkflow
  | signalWorkflow => some .signalWorkflow
  | cancelWorkflow => none

/-- A call that schedules an operation: the number that it has taken, and the maps in which
it has stored the functions of its promises. -/
structure OperationCall where
  kind : OperationKind
  scope : ScopeId
  seq : Option Seq
  stored : List ResolveType
deriving DecidableEq

/-- A job that has looked for a completion, and the call whose functions it has found. -/
structure JobRecord where
  type : ResolveType
  seq : Seq
  call : Option ℕ
deriving DecidableEq

/-! ### What a job looks for, and what it does with it -/

/-- The map and the number under which the job looks for a completion; without a number or
without a result it does not come to that. -/
def Job.resolves : Job → Option (ResolveType × Seq)
  | .resolveActivity (some seq) (some _) => some (.activity, seq)
  | .resolveChildWorkflowExecutionStart (some seq) _ => some (.childWorkflowStart, seq)
  | .resolveChildWorkflowExecution (some seq) (some _) => some (.childWorkflowComplete, seq)
  | .resolveSignalExternalWorkflow (some seq) _ => some (.signalWorkflow, seq)
  | _ => none

/-- The call of the resolve or the reject function that an outcome has, if there is one. -/
def settlementOf : Except JsError (Option Settlement) → Option Settlement
  | .ok settlement => settlement
  | .error _ => none

namespace Env

variable (env : Env V)

/-- What the job calls `resolve` or `reject` with, if it does, or the error thrown before. -/
def outcome : Job → Except JsError (Option Settlement)
  | .resolveActivity _ (some result) => env.settleActivity result
  | .resolveChildWorkflowExecutionStart (some seq) status => env.settleChildWorkflowStart seq status
  | .resolveChildWorkflowExecution _ (some result) => env.settleChildWorkflow result
  | .resolveSignalExternalWorkflow _ failure => env.settleSignalWorkflow failure
  | _ => .ok none

def settleCancelWorkflow : Option ProtoFailure → Except JsError (Option Settlement)
  | some failure => return some (.rejected (← env.failureToError failure))
  | none => return some (.fulfilled .undefined)

end Env

namespace Runtime

variable (env : Env V) (rt : Runtime)

/-- The executor of an operation schedules its command and stores its promise. -/
def schedules (scope : ScopeId) (command : Except JsError Command) : Bool :=
  !rt.consideredCancelled scope && command.isOk

/-- The call that the input makes, if it comes to take a number. -/
def operationCall : Input V → Option OperationCall
  | .scheduleActivity scope activityType args (some options) =>
    let seq := rt.nextSeqs .activity
    let command := do
      validateActivityOptions options.scheduleToCloseTimeout options.startToCloseTimeout
      env.scheduleActivityCommand seq activityType args options
    some ⟨.activity, scope, some seq, if rt.schedules scope command then [.activity] else []⟩
  | .scheduleLocalActivity scope activityType args (some options) attempt originalScheduleTime =>
    let seq := rt.nextSeqs .activity
    let command := do
      if !rt.isReplaying && !env.registeredActivityNames.contains activityType then
        throw (.referenceError ("Local activity of type '" ++ activityType ++ "' not registered on worker"))
      validateActivityOptions options.scheduleToCloseTimeout options.startToCloseTimeout
      env.scheduleLocalActivityCommand seq activityType args options attempt originalScheduleTime
    some ⟨.activity, scope, some seq, if rt.schedules scope command then [.activity] else []⟩
  | .startChild scope workflowType options uuid =>
    let seq := rt.nextSeqs .childWorkflow
    let command := env.startChildWorkflowExecutionCommand seq workflowType (options.workflowId.getD uuid)
      options
    some ⟨.childWorkflow, scope, some seq, if rt.schedules scope command then
      [.childWorkflowStart, .childWorkflowComplete] else [.childWorkflowComplete]⟩
  | .signal scope target signalName args =>
    let seq := rt.nextSeqs .signalWorkflow
    let command := env.signalExternalWorkflowExecutionCommand seq target signalName args
    some ⟨.signalWorkflow, scope, some seq, if rt.schedules scope command then [.signalWorkflow] else []⟩
  | _ => none

end Runtime

/-! ### The run with its history -/

/-- `resolvers` has, for every entry of a map of completions, the call whose functions it holds. The
promises of the requests to cancel external workflows are known by their calls: `cancelReactions`
are the reactions on `cancelRequested` of their scopes and `cancelPromise` says how they are settled. -/
structure Correlation where
  runtime : Runtime
  nextCancelSeq : Seq
  loaded : Bool
  knownPresentPatches : Finset String
  sentPatches : Finset String
  resolvers : ResolveType → OrderedMap Seq ℕ
  calls : List OperationCall
  cancelReactions : List (ScopeId × ℕ)
  cancelPromise : ℕ → Option Settlement
  jobs : List JobRecord

/-- `EXTERNAL_WF_CANCEL_PATCH` -/
def externalWfCancelPatch : String :=
  "__temporal_internal_connect_external_handle_cancel_to_scope"

inductive CorrelationInput (V : Type)
  | runtime (input : Input V)
  | cancelExternalWorkflow (scope : ScopeId) (workflowId : String) (runId : Option String)
  | cancelRequested (index : ℕ)
  | resolveRequestCancelExternalWorkflow (seq : Option Seq) (failure : Option ProtoFailure)
  | notifyHasPatch (patchId : String)
  | load

namespace Correlation

def init : Correlation where
  runtime := .init
  nextCancelSeq := 1
  loaded := false
  knownPresentPatches := ∅
  sentPatches := ∅
  resolvers := fun _ => ∅
  calls := []
  cancelReactions := []
  cancelPromise := fun _ => none
  jobs := []

variable (env : Env V) (s : Correlation)

/-- The call takes its place in the history, and stores its functions. -/
def recordCall (call : OperationCall) : Correlation :=
  { s with
    calls := s.calls ++ [call]
    resolvers := fun type => match call.seq with
      | some seq => if type ∈ call.stored then OrderedMap.set (s.resolvers type) seq s.calls.length
        else s.resolvers type
      | none => s.resolvers type }

/-- The functions that a job finds under its number, which are removed from the map. -/
def consume (type : ResolveType) (seq : Seq) : Correlation :=
  { s with
    resolvers := Function.update s.resolvers type ((s.resolvers type).erase seq)
    jobs := s.jobs ++ [⟨type, seq, (s.resolvers type).lookup seq⟩] }

/-- What an input of the run adds to the history. -/
def follow : Input V → Correlation
  | .job job => match job.resolves with
    | some (type, seq) => s.consume type seq
    | none => s
  | input => match s.runtime.operationCall env input with
    | some call => s.recordCall call
    | none => s

/-- `patched`, with its answer -/
def patched (patchId : String) : Except JsError Bool × Correlation :=
  if !s.loaded then (.error (.illegalStateError "Patches cannot be used before Workflow starts"), s)
  else
    let usePatch := !s.runtime.isReplaying || patchId ∈ s.knownPresentPatches
    (.ok usePatch, if usePatch && patchId ∉ s.sentPatches then
      { s with
        runtime := s.runtime.pushCommand (.setPatchMarker patchId false) false
        sentPatches := insert patchId s.sentPatches }
    else s)

/-- A call of the resolve or the reject function of the promise of call `n`. -/
def settleCancel (n : ℕ) (settlement : Settlement) : Correlation :=
  { s with
    cancelPromise := Function.update s.cancelPromise n ((s.cancelPromise n).or (some settlement)) }

/-- The end of the executor in `cancel`, from where it takes a number. -/
def requestCancel (scope : ScopeId) (workflowId : String) (runId : Option String) : Correlation :=
  let seq := s.nextCancelSeq
  { s with
    nextCancelSeq := seq + 1
    runtime := s.runtime.pushCommand (.requestCancelExternalWorkflowExecution seq workflowId runId) false
    }.recordCall ⟨.cancelWorkflow, scope, some seq, [.cancelWorkflow]⟩

/-- `cancel` of the handle of an external workflow -/
def cancelExternalWorkflow (scope : ScopeId) (workflowId : String) (runId : Option String) :
    Correlation :=
  let n := s.calls.length
  let s := if (s.runtime.scope scope).cancellable then
      { s with cancelReactions := s.cancelReactions ++ [(scope, n)] }
    else s
  if s.runtime.consideredCancelled scope then
    match s.patched externalWfCancelPatch with
    | (.error err, s) => (s.recordCall ⟨.cancelWorkflow, scope, none, []⟩).settleCancel n (.rejected err)
    | (.ok true, s) => s.recordCall ⟨.cancelWorkflow, scope, none, []⟩
    | (.ok false, s) => s.requestCancel scope workflowId runId
  else s.requestCancel scope workflowId runId

/-- The reaction to cancellation of the scope of the call `n`. -/
def runCancelReaction (scope : ScopeId) (n : ℕ) : Correlation :=
  match s.patched externalWfCancelPatch with
  | (.ok true, s) => s.settleCancel n (.rejected (s.runtime.scope scope).reason)
  | (_, s) => s

def thrown (err : JsError) : Correlation := { s with runtime := s.runtime.emit (.thrown err) }

def resolveRequestCancelExternalWorkflow (seq : Option Seq) (failure : Option ProtoFailure) :
    Correlation :=
  match Runtime.getSeq seq with
  | .error err => s.thrown err
  | .ok seq =>
    match (s.resolvers .cancelWorkflow).lookup seq with
    | none =>
      (s.consume .cancelWorkflow seq).thrown
        (.illegalStateError ("No completion for taskSeq " ++ toString seq))
    | some n =>
      match env.settleCancelWorkflow failure with
      | .error err => (s.consume .cancelWorkflow seq).thrown err
      | .ok none => s.consume .cancelWorkflow seq
      | .ok (some settlement) => (s.consume .cancelWorkflow seq).settleCancel n settlement

/-- `Activator.notifyHasPatch` -/
def notifyHasPatch (patchId : String) : Correlation :=
  if patchId = "" then s.thrown (.typeError "Notify has patch missing patch name")
  else { s with knownPresentPatches := insert patchId s.knownPresentPatches }

/-- The reactions to the rejection of a promise run at any time after it. Requests to cancel external
workflows are pushed by calls of `cancel` only. -/
def step : CorrelationInput V → Option Correlation
  | .runtime (.push (.requestCancelExternalWorkflowExecution _ _ _) _) => none
  | .runtime input =>
    (s.runtime.step env input).map fun rt => { s.follow env input with runtime := rt }
  | .cancelExternalWorkflow scope workflowId runId =>
    if scope < s.runtime.scopes.length then some (s.cancelExternalWorkflow scope workflowId runId)
    else none
  | .cancelRequested index =>
    match s.cancelReactions[index]? with
    | none => none
    | some (scope, n) =>
      if s.runtime.loop.rejected scope then
        some ({ s with cancelReactions := s.cancelReactions.eraseIdx index }.runCancelReaction scope n)
      else none
  | .resolveRequestCancelExternalWorkflow seq failure =>
    some (s.resolveRequestCancelExternalWorkflow env seq failure)
  | .notifyHasPatch patchId => some (s.notifyHasPatch patchId)
  | .load => some { s with loaded := true }

/-! ### What the history says -/

/-- The numbers that the calls of a kind have taken, in their order. -/
def seqsOf (kind : OperationKind) : List Seq :=
  s.calls.filterMap fun call => if call.kind = kind then call.seq else none

/-- Call `n` has taken the number `q` for an operation with promises of this type. -/
def ScheduledWith (type : ResolveType) (n : ℕ) (q : Seq) : Prop :=
  ∃ call, s.calls[n]? = some call ∧ call.kind = type.kind ∧ call.seq = some q

/-- Call `n` has stored the functions of its promise under `q`. -/
def StoredBy (type : ResolveType) (n : ℕ) (q : Seq) : Prop :=
  ∃ call, s.calls[n]? = some call ∧ call.kind = type.kind ∧ call.seq = some q ∧ type ∈ call.stored

/-- A job has taken the functions that were stored under `q`. -/
def ResolvedAlready (type : ResolveType) (q : Seq) : Prop :=
  ∃ job ∈ s.jobs, job.type = type ∧ job.seq = q ∧ job.call.isSome

/-- The calls whose functions the jobs of this type have called, in the order of the jobs. -/
def resolvedCalls (type : ResolveType) : List ℕ :=
  s.jobs.filterMap fun job => if job.type = type then job.call else none

/-- The number under which call `n` has a promise of this type, if it has one. -/
def promiseSeq (type : ResolveType) (n : ℕ) : Option Seq :=
  match s.calls[n]? with
  | some call => if call.kind = type.kind then call.seq else none
  | none => none

/-- How the promise of this type of call `n` has been settled. -/
def settlement (type : ResolveType) (n : ℕ) : Option Settlement :=
  match type.completionType with
  | none => s.cancelPromise n
  | some completionType =>
    (s.promiseSeq type n).bind fun q => s.runtime.settlement ⟨completionType, q⟩

/-- The promise for the completion of a child has been rejected because its start failed, that of a
request to cancel an external workflow because the scope of the call was cancelled. -/
def RejectedBefore : ResolveType → ℕ → Prop
  | .childWorkflowComplete, n =>
    ∃ err, s.settlement .childWorkflowStart n = some (.rejected err)
  | .cancelWorkflow, n => (∃ err, s.cancelPromise n = some (.rejected err)) ∧
    ∃ call, s.calls[n]? = some call ∧ s.runtime.loop.rejected call.scope = true
  | _, _ => False

end Correlation

/-- The jobs that resolve operations. -/
def Job.isResolve : Job → Bool
  | .fireTimer _ => false
  | .cancelWorkflow => false
  | _ => true

namespace CorrelationInput

def isResolve : CorrelationInput V → Bool
  | runtime (.job job) => job.isResolve
  | resolveRequestCancelExternalWorkflow _ _ => true
  | _ => false

def resolves : CorrelationInput V → Option (ResolveType × Seq)
  | runtime (.job job) => job.resolves
  | resolveRequestCancelExternalWorkflow (some seq) _ => some (.cancelWorkflow, seq)
  | _ => none

def outcome (env : Env V) : CorrelationInput V → Except JsError (Option Settlement)
  | runtime (.job job) => env.outcome job
  | resolveRequestCancelExternalWorkflow _ failure => env.settleCancelWorkflow failure
  | _ => .ok none

end CorrelationInput

namespace Correlation

/-- The job finds the functions of call `n`, which alone has taken its number, and settles the promise
of that call and no other, unless it throws before or the promise has been rejected already. -/
structure JobSettles (env : Env V) (input : CorrelationInput V) (type : ResolveType) (q : Seq) (n : ℕ)
    (s s' : Correlation) : Prop where
  unique : ∀ m, s.ScheduledWith type m q → m = n
  found : s'.jobs = s.jobs ++ [⟨type, q, some n⟩]
  settles : s'.settlement type n = (s.settlement type n).or (settlementOf (input.outcome env))
  pending : s.settlement type n = none ∨ s.RejectedBefore type n
  others : ∀ type' m, ¬(type' = type ∧ m = n) → s'.settlement type' m = s.settlement type' m
  throws : ∀ err, input.outcome env = .error err → s'.runtime.trace.getLast? = some (.thrown err)

/-- The history of a run, and what the next job does in it. -/
structure JobsCorrelate (env : Env V) (s : Correlation) : Prop where
  increasing : ∀ kind, (s.seqsOf kind).Pairwise (· < ·)
  once : ∀ type, (s.resolvedCalls type).Nodup
  settles : ∀ input s' type q n, s.step env input = some s' → input.resolves = some (type, q) →
    s.StoredBy type n q → ¬s.ResolvedAlready type q → JobSettles env input type q n s s'
  unknown : ∀ input s' type q, s.step env input = some s' → input.resolves = some (type, q) →
    ((¬∃ n, s.StoredBy type n q) ∨ s.ResolvedAlready type q) →
    s' = { s with
      runtime := s.runtime.emit
        (.thrown (.illegalStateError ("No completion for taskSeq " ++ toString q)))
      jobs := s.jobs ++ [⟨type, q, none⟩] }
  malformed : ∀ input s', s.step env input = some s' → input.isResolve = true → input.resolves = none →
    ∃ message, s' = s.thrown (.typeError message)
  fireTimer : ∀ s' q, s.step env (.runtime (.job (.fireTimer (some q)))) = some s' →
    q ∉ s.runtime.completions .timer → s' = { s with runtime := s.runtime.emit (.fired q) }

end Correlation

end TemporalSdk
