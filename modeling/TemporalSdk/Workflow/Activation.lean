import TemporalSdk.Library.OrderedMap
import TemporalSdk.Library.Transition
import TemporalSdk.Workflow.Commands

/-!
# Activations of a workflow instance

The jobs of an activation are applied in batches by a loop in the isolate, with microtasks and
conditions in between. Workflow code may run at any of these points and do anything; what it
does to the activator, other than to push commands, to settle its promises and to register
query handlers, is a change of `rest`.
-/

namespace TemporalSdk

/-- `coresdk.workflow_activation.IQueryWorkflow` -/
structure QueryWorkflow where
  queryId : Option String
  queryType : Option String
  arguments : List Payload
deriving DecidableEq

/-- `coresdk.workflow_activation.IWorkflowActivationJob`; `unset` has no variant, and `other` are
the variants that resolve operations or change the activator's state otherwise. -/
inductive WorkflowJob
  | notifyHasPatch (patchId : Option String)
  | signalWorkflow (signalName : Option String)
  | queryWorkflow (query : QueryWorkflow)
  | startWorkflow
  | cancelWorkflow
  | other (variant : String)
  | unset
deriving DecidableEq

namespace WorkflowJob

def isNotifyHasPatch : WorkflowJob → Bool
  | notifyHasPatch _ => true
  | _ => false

def isSignalWorkflow : WorkflowJob → Bool
  | signalWorkflow _ => true
  | _ => false

def isQueryWorkflow : WorkflowJob → Bool
  | queryWorkflow _ => true
  | _ => false

/-- `shouldUnblockConditions` -/
def shouldUnblockConditions (job : WorkflowJob) : Bool :=
  !job.isQueryWorkflow && !job.isNotifyHasPatch

end WorkflowJob

/-- `coresdk.workflow_activation.IWorkflowActivation` -/
structure Activation where
  jobs : Option (List WorkflowJob)
  timestamp : Option Timestamp
  isReplaying : Option Bool
  historyLength : Option ℕ
deriving DecidableEq

/-- What a query handler does: return a value, return an object with a method `then` that is no
`Promise`, return a `Promise`, or throw. -/
inductive QueryOutcome (V : Type)
  | returned (value : V)
  | thenable
  | promise
  | threw (error : JsError)

abbrev QueryHandler (σ V : Type) := List V → σ → QueryOutcome V × σ

/-- The part of the activator that activations use themselves. `answers` are the promises of
queries whose reactions have not run, `adopted` the queries whose promise follows a thenable that
has not settled; `returnedPromises` counts the promises that query handlers have returned, which
nobody waits for; `startPending` says that the workflow function is about to be called. -/
structure Activator (σ V : Type) where
  buffer : CommandBuffer
  cancelled : Bool
  workflowFunctionWasCalled : Bool
  startPending : Bool
  bufferedQueries : List QueryWorkflow
  queryHandlers : OrderedMap String (QueryHandler σ V)
  answers : List (String × Except JsError V)
  adopted : List String
  returnedPromises : ℕ
  unhandledRejection : Option JsError
  now : Option Timestamp
  isReplaying : Bool
  historyLength : Option ℕ
  rest : σ

/-- The converters of an activator. -/
structure Converters (V : Type) where
  toPayload : V → Except JsError Payload
  fromPayload : Payload → Except JsError V
  errorToFailure : JsError → Except JsError ProtoFailure
  ensureTemporalFailure : JsError → JsError

/-- What a query handler returned or threw can be encoded. -/
def Converters.converts {V : Type} (c : Converters V) : Except JsError V → Bool
  | .ok value => (c.toPayload value).isOk
  | .error err => (c.errorToFailure (c.ensureTemporalFailure err)).isOk

namespace Activator

variable {σ V : Type} (c : Converters V) (a : Activator σ V)

def create (rest : σ) : Activator σ V :=
  ⟨⟨[], false⟩, false, false, false, [], ∅, [], [], 0, none, none, false, none, rest⟩

def pushCommand (cmd : Command) (complete : Bool) : Activator σ V :=
  { a with buffer := a.buffer.pushCommand cmd complete }

/-- The unhandled rejection, if it counts as true -/
def truthyRejection : Option JsError := a.unhandledRejection.filter JsError.isTruthy

/-- The process handler of unhandled rejections. -/
def setUnhandledRejection (err : JsError) : Activator σ V :=
  { a with unhandledRejection := some err }

/-- A rejection of the promise of the workflow function or of a signal handler. -/
def handleWorkflowFailure (err : JsError) : Activator σ V :=
  if a.cancelled && err.isCancellation then a.pushCommand .cancelWorkflowExecution true
  else
    match err with
    | .continueAsNew workflowType => a.pushCommand (.continueAsNewWorkflowExecution workflowType) true
    | err =>
      if !err.isTemporalFailure then a.setUnhandledRejection err
      else
        match c.errorToFailure err with
        | .ok failure => a.pushCommand (.failWorkflowExecution failure) true
        | .error err => a.setUnhandledRejection err

/-- The promise of the workflow function is fulfilled. -/
def completeWorkflow (result : V) : Activator σ V :=
  match c.toPayload result with
  | .ok result => a.pushCommand (.completeWorkflowExecution result) true
  | .error err => a.setUnhandledRejection err

/-! ### Queries -/

/-- The promise is pending when `Promise.resolve` gets a thenable. -/
def queryWorkflowNextHandler (queryName : String) (args : List V) :
    Option (Except JsError V) × Activator σ V :=
  match a.queryHandlers.lookup queryName with
  | none =>
    let knownQueryTypes := " ".intercalate a.queryHandlers.keys
    (some (.error (.referenceError ("Workflow did not register a handler for " ++ queryName ++
      ". Registered queries: [" ++ knownQueryTypes ++ "]"))), a)
  | some fn =>
    let (outcome, rest) := fn args a.rest
    match outcome with
    | .returned value => (some (.ok value), { a with rest })
    | .thenable => (none, { a with rest })
    | .promise =>
      (some (.error (.determinismViolationError "Query handlers should not return a Promise")),
        { a with rest, returnedPromises := a.returnedPromises + 1 })
    | .threw err => (some (.error err), { a with rest })

def queryWorkflow (query : QueryWorkflow) : Except JsError (Activator σ V) :=
  if !a.workflowFunctionWasCalled then
    .ok { a with bufferedQueries := a.bufferedQueries ++ [query] }
  else
    match query.queryType, query.queryId with
    | none, _ | some "", _ | some _, none | some _, some "" =>
      .error (.typeError "Missing query activation attributes")
    | some queryType, some queryId =>
      match query.arguments.mapM c.fromPayload with
      | .error err => .error err
      | .ok args =>
        match a.queryWorkflowNextHandler queryType args with
        | (some answer, a) => .ok { a with answers := a.answers ++ [(queryId, answer)] }
        | (none, a) => .ok { a with adopted := a.adopted ++ [queryId] }

def completeQuery (queryId : String) (result : V) : Activator σ V :=
  match c.toPayload result with
  | .ok response => a.pushCommand (.respondToQuery queryId (.succeeded response)) false
  | .error err => a.setUnhandledRejection err

def failQuery (queryId : String) (err : JsError) : Activator σ V :=
  match c.errorToFailure (c.ensureTemporalFailure err) with
  | .ok failure => a.pushCommand (.respondToQuery queryId (.failed failure)) false
  | .error err => a.setUnhandledRejection err

/-- A thenable that a query handler has returned settles. -/
def settleQuery (queryId : String) (answer : Except JsError V) : Option (Activator σ V) :=
  if queryId ∈ a.adopted then
    some { a with
      adopted := a.adopted.erase queryId
      answers := a.answers ++ [(queryId, answer)] }
  else none

/-- A promise that a query handler has returned is rejected. -/
def rejectReturnedPromise (err : JsError) : Option (Activator σ V) :=
  if a.returnedPromises = 0 then none
  else some ({ a with returnedPromises := a.returnedPromises - 1 }.setUnhandledRejection err)

/-- The reaction of the first query promise runs. -/
def answer : Option (Activator σ V) :=
  match a.answers with
  | [] => none
  | (queryId, .ok result) :: answers => some ({ a with answers := answers }.completeQuery c queryId result)
  | (queryId, .error err) :: answers => some ({ a with answers := answers }.failQuery c queryId err)

/-- The first query, if its answer cannot be encoded -/
def lostAnswer : List String :=
  match a.answers with
  | [] => []
  | (queryId, answer) :: _ => if c.converts answer then [] else [queryId]

/-- The loop over the buffered queries. If one throws, the others are lost and the promise of
the workflow function is rejected. -/
def queryBuffered (a : Activator σ V) : List QueryWorkflow → Activator σ V
  | [] => a
  | query :: queries =>
    match a.queryWorkflow c query with
    | .ok a => a.queryBuffered queries
    | .error err => a.handleWorkflowFailure c err

/-- The `finally` block of `startWorkflowNextHandler`, after the call of the workflow function -/
def workflowCalled : Activator σ V :=
  { a with
    workflowFunctionWasCalled := true
    startPending := false
    bufferedQueries := [] }.queryBuffered c a.bufferedQueries

/-! ### Jobs -/

/-- `activator[job.variant](variant)`, up to what it does to `rest`. `thrown` is an error that the
converters or a handler of another variant throw. -/
def applyJob (job : WorkflowJob) (thrown : Option JsError) : Except JsError (Activator σ V) :=
  match job with
  | .unset => .error (.typeError "Expected job.variant to be defined")
  | .notifyHasPatch none | .notifyHasPatch (some "") =>
    .error (.typeError "Notify has patch missing patch name")
  | .notifyHasPatch (some _) => .ok a
  | .signalWorkflow none | .signalWorkflow (some "") =>
    .error (.typeError "Missing activation signalName")
  | .queryWorkflow query => a.queryWorkflow c query
  | .cancelWorkflow => .ok { a with cancelled := true }
  | .startWorkflow =>
    match thrown with
    | some err => .error err
    | none => .ok { a with startPending := true }
  | .signalWorkflow (some _) | .other _ =>
    match thrown with
    | some err => .error err
    | none => .ok a

/-- What `activate` does before the first batch; it can throw after it has set the time. -/
def header (activation : Activation) : Option JsError × Activator σ V :=
  let a := match activation.timestamp with
    | some timestamp => { a with now := some timestamp }
    | none => a
  match activation.historyLength with
  | none => (some (.typeError "Got activation with no historyLength"), a)
  | some historyLength =>
    (none, { a with
      isReplaying := activation.isReplaying.getD false
      historyLength := some historyLength })

end Activator

/-! ### Batches -/

/-- `partition` of the worker's utils -/
def partitionJobs (jobs : List WorkflowJob) (predicate : WorkflowJob → Bool) :
    List WorkflowJob × List WorkflowJob :=
  jobs.partition predicate

/-- The four batches, in the order in which they are applied; empty ones are passed over. -/
def jobBatches (jobs : List WorkflowJob) : List (List WorkflowJob) :=
  let (patches, nonPatches) := partitionJobs jobs WorkflowJob.isNotifyHasPatch
  let (signals, nonSignals) := partitionJobs nonPatches WorkflowJob.isSignalWorkflow
  let (queries, rest) := partitionJobs nonSignals WorkflowJob.isQueryWorkflow
  [patches, signals, rest, queries].filter fun jobs => !jobs.isEmpty

/-- Where an instance is in an activation: between two batches, in the loop of `activate` over
the jobs of a batch, in the microtasks after it, or in the loop that unblocks conditions. -/
inductive Phase
  | idle
  | between (later : List (List WorkflowJob)) (batchIndex : ℕ)
  | jobs (todo : List WorkflowJob) (unblock : Bool) (later : List (List WorkflowJob)) (batchIndex : ℕ)
  | drain (unblock : Bool) (later : List (List WorkflowJob)) (batchIndex : ℕ)
  | unblock (later : List (List WorkflowJob)) (batchIndex : ℕ)
deriving DecidableEq

inductive ActivationResult
  | successful (commands : List Command)
  | failed (error : JsError)
  | threw (error : JsError)
deriving DecidableEq

/-- What happened in one activation: its jobs, those that were applied, the queries that were
applied after the workflow had completed, and how it ended. -/
structure ActivationRecord where
  jobs : List WorkflowJob
  applied : List WorkflowJob
  lateQueries : List QueryWorkflow
  completed : Bool
  result : ActivationResult
deriving DecidableEq

/-- An instance. `activation`, `applied`, `lateQueries` and `lost`, the queries whose answer could
not be encoded, are about the current activation, `records` about those that have ended. -/
structure VMWorkflow (σ V : Type) where
  activator : Activator σ V
  phase : Phase
  activation : Activation
  applied : List WorkflowJob
  lateQueries : List QueryWorkflow
  lost : List String
  records : List ActivationRecord

/-- What workflow code does. -/
inductive WorkflowCode (σ V : Type)
  | modify (f : σ → σ)
  | push (cmd : Command)
  | setQueryHandler (name : String) (handler : Option (QueryHandler σ V))
  | workflowCalled
  | workflowReturns (result : V)
  | fails (error : JsError)
  | rejects (error : JsError)
  | settlesQuery (queryId : String) (answer : Except JsError V)
  | rejectsReturnedPromise (error : JsError)

inductive VMInput (σ V : Type)
  | activate (activation : Activation)
  | enterBatch
  | nextJob (thrown : Option JsError)
  | leaveBatch
  | code (code : WorkflowCode σ V)
  | answer
  | drained
  | unblocked
  | conclude

namespace Activator

variable {σ V : Type} (c : Converters V) (a : Activator σ V)

/-- Workflow code pushes neither terminal commands nor query responses itself. -/
def runCode : WorkflowCode σ V → Option (Activator σ V)
  | .modify f => some { a with rest := f a.rest }
  | .push cmd => if cmd.isTerminal || cmd.isRespondToQuery then none else some (a.pushCommand cmd false)
  | .setQueryHandler name (some fn) => some { a with queryHandlers := a.queryHandlers.set name fn }
  | .setQueryHandler name none => some { a with queryHandlers := a.queryHandlers.erase name }
  | .workflowCalled => if a.startPending then some (a.workflowCalled c) else none
  | .workflowReturns result =>
    if a.workflowFunctionWasCalled then some (a.completeWorkflow c result) else none
  | .fails err => some (a.handleWorkflowFailure c err)
  | .rejects err => some (a.setUnhandledRejection err)
  | .settlesQuery queryId answer => a.settleQuery queryId answer
  | .rejectsReturnedPromise err => a.rejectReturnedPromise err

end Activator

namespace VMWorkflow

variable {σ V : Type} (c : Converters V) (w : VMWorkflow σ V)

def create (rest : σ) : VMWorkflow σ V :=
  ⟨.create rest, .idle, ⟨none, none, none, none⟩, [], [], [], []⟩

def jobs : List WorkflowJob := w.activation.jobs.getD []

def record (result : ActivationResult) : ActivationRecord :=
  ⟨w.jobs, w.applied, w.lateQueries, w.activator.buffer.completed, result⟩

/-- An error leaves `activate`, and the activation ends. -/
def throw (err : JsError) : VMWorkflow σ V :=
  { w with phase := .idle, records := w.records ++ [w.record (.threw err)] }

def activate (activation : Activation) : VMWorkflow σ V :=
  let w := { w with activation := activation, applied := [], lateQueries := [], lost := [] }
  match activation.jobs with
  | none => w.throw (.other "Expected workflow activation jobs to be defined")
  | some jobs => { w with phase := .between (jobBatches jobs) 0 }

def enterBatch (batch : List WorkflowJob) (later : List (List WorkflowJob)) (batchIndex : ℕ) :
    VMWorkflow σ V :=
  let phase := .jobs batch (batch.head?.any WorkflowJob.shouldUnblockConditions) later (batchIndex + 1)
  if batchIndex = 0 then
    match w.activator.header w.activation with
    | (some err, activator) => { w with activator }.throw err
    | (none, activator) => { w with activator, phase }
  else { w with phase }

/-- One turn of the loop over the jobs of a batch. -/
def nextJob (job : WorkflowJob) (todo : List WorkflowJob) (unblock : Bool)
    (later : List (List WorkflowJob)) (batchIndex : ℕ) (thrown : Option JsError) : VMWorkflow σ V :=
  let completed := w.activator.buffer.completed
  if job ≠ .unset ∧ completed ∧ !job.isQueryWorkflow then
    { w with phase := .drain unblock later batchIndex }
  else
    match w.activator.applyJob c job thrown with
    | .error err => w.throw err
    | .ok activator =>
      { w with
        activator
        phase := .jobs todo unblock later batchIndex
        applied := w.applied ++ [job]
        lateQueries := match job with
          | .queryWorkflow query => if completed then w.lateQueries ++ [query] else w.lateQueries
          | _ => w.lateQueries }

/-- `concludeActivation`, and the check for an unhandled rejection, which tests it for truth -/
def conclude : VMWorkflow σ V :=
  let (commands, buffer) := w.activator.buffer.getAndResetCommands
  let result := match w.activator.truthyRejection with
    | some err => .failed err
    | none => .successful commands
  { w with
    activator := { w.activator with buffer }
    phase := .idle
    records := w.records ++ [w.record result] }

/-- Microtasks run outside the loop over the jobs. -/
def step (w : VMWorkflow σ V) : VMInput σ V → Option (VMWorkflow σ V)
  | .activate activation =>
    match w.phase, w.activator.answers with
    | .idle, [] => some (w.activate activation)
    | _, _ => none
  | .enterBatch =>
    match w.phase with
    | .between (batch :: later) batchIndex => some (w.enterBatch batch later batchIndex)
    | _ => none
  | .nextJob thrown =>
    match w.phase with
    | .jobs (job :: todo) unblock later batchIndex =>
      some (w.nextJob c job todo unblock later batchIndex thrown)
    | _ => none
  | .leaveBatch =>
    match w.phase with
    | .jobs [] unblock later batchIndex => some { w with phase := .drain unblock later batchIndex }
    | _ => none
  | .code code =>
    match w.phase with
    | .jobs _ _ _ _ | .drain _ _ _ | .unblock _ _ =>
      (w.activator.runCode c code).map fun activator => { w with activator }
    | _ => none
  | .answer =>
    match w.phase with
    | .idle | .drain _ _ _ | .unblock _ _ =>
      (w.activator.answer c).map fun activator =>
        { w with activator, lost := w.lost ++ w.activator.lostAnswer c }
    | _ => none
  | .drained =>
    match w.phase, w.activator.answers with
    | .drain true later batchIndex, [] => some { w with phase := .unblock later batchIndex }
    | .drain false later batchIndex, [] => some { w with phase := .between later batchIndex }
    | _, _ => none
  | .unblocked =>
    match w.phase, w.activator.answers with
    | .unblock later batchIndex, [] => some { w with phase := .between later batchIndex }
    | _, _ => none
  | .conclude =>
    match w.phase with
    | .between [] _ => some w.conclude
    | _ => none

end VMWorkflow

end TemporalSdk
