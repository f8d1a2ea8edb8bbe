import TemporalSdk.Common.RetryPolicy

namespace TemporalSdk

/-- Sequence numbers are JavaScript integers; `clearTimeout` takes any of them. -/
abbrev Seq := ℤ

inductive ActivityCancellationType
  | tryCancel
  | waitCancellationCompleted
  | abandon
deriving DecidableEq

inductive ChildWorkflowCancellationType
  | abandon
  | tryCancel
  | waitCancellationCompleted
  | waitCancellationRequested
deriving DecidableEq

structure ScheduleActivity where
  seq : Seq
  activityId : String
  activityType : String
  arguments : Option (List Payload)
  retryPolicy : Option ProtoRetryPolicy
  taskQueue : String
  heartbeatTimeout : Option Timestamp
  scheduleToCloseTimeout : Option Timestamp
  startToCloseTimeout : Option Timestamp
  scheduleToStartTimeout : Option Timestamp
  cancellationType : Option ActivityCancellationType
  doNotEagerlyExecute : Bool
deriving DecidableEq

structure ScheduleLocalActivity where
  seq : Seq
  attempt : ℕ
  originalScheduleTime : Option Timestamp
  activityId : String
  activityType : String
  arguments : Option (List Payload)
  retryPolicy : Option ProtoRetryPolicy
  scheduleToCloseTimeout : Option Timestamp
  startToCloseTimeout : Option Timestamp
  scheduleToStartTimeout : Option Timestamp
  localRetryThreshold : Option Timestamp
  cancellationType : Option ActivityCancellationType
deriving DecidableEq

structure StartChildWorkflowExecution where
  seq : Seq
  workflowId : String
  workflowType : String
  input : Option (List Payload)
  retryPolicy : Option ProtoRetryPolicy
  taskQueue : String
  workflowExecutionTimeout : Option Timestamp
  workflowRunTimeout : Option Timestamp
  workflowTaskTimeout : Option Timestamp
  «namespace» : String
  cancellationType : ChildWorkflowCancellationType
  searchAttributes : Option (List (String × Payload))
  memo : Option (List (String × Payload))
deriving DecidableEq

/-- The workflow that a signal goes to. -/
inductive SignalTarget
  | external (workflowId : String) (runId : Option String)
  | child (childWorkflowId : String)
deriving DecidableEq

structure SignalExternalWorkflowExecution where
  seq : Seq
  args : Option (List Payload)
  signalName : String
  «namespace» : Option String
  target : SignalTarget
deriving DecidableEq

inductive QueryResult
  | succeeded (response : Payload)
  | failed (failure : ProtoFailure)
deriving DecidableEq

/-- `coresdk.workflow_commands.IWorkflowCommand` -/
inductive Command
  | startTimer (seq : Seq) (startToFireTimeout : Timestamp)
  | cancelTimer (seq : Seq)
  | scheduleActivity (attributes : ScheduleActivity)
  | requestCancelActivity (seq : Seq)
  | scheduleLocalActivity (attributes : ScheduleLocalActivity)
  | requestCancelLocalActivity (seq : Seq)
  | startChildWorkflowExecution (attributes : StartChildWorkflowExecution)
  | cancelChildWorkflowExecution (childWorkflowSeq : Seq)
  | signalExternalWorkflowExecution (attributes : SignalExternalWorkflowExecution)
  | cancelSignalWorkflow (seq : Seq)
  | requestCancelExternalWorkflowExecution (seq : Seq) (workflowId : String) (runId : Option String)
  | setPatchMarker (patchId : String) (deprecated : Bool)
  | upsertWorkflowSearchAttributes (searchAttributes : List (String × Payload))
  | respondToQuery (queryId : String) (result : QueryResult)
  | completeWorkflowExecution (result : Payload)
  | failWorkflowExecution (failure : ProtoFailure)
  | cancelWorkflowExecution
  | continueAsNewWorkflowExecution (workflowType : String)
deriving DecidableEq

namespace Command

def isRespondToQuery : Command → Bool
  | respondToQuery _ _ => true
  | _ => false

/-- The commands after which the workflow is completed. -/
def isTerminal : Command → Bool
  | completeWorkflowExecution _ => true
  | failWorkflowExecution _ => true
  | cancelWorkflowExecution => true
  | continueAsNewWorkflowExecution _ => true
  | _ => false

end Command

/-- `Activator.commands` and `Activator.completed` -/
structure CommandBuffer where
  commands : List Command
  completed : Bool

namespace CommandBuffer

/-- Only query responses are taken after completion. -/
def accepts (b : CommandBuffer) (cmd : Command) : Bool :=
  !(b.completed && !cmd.isRespondToQuery)

/-- `Activator.pushCommand` -/
def pushCommand (b : CommandBuffer) (cmd : Command) (complete : Bool) : CommandBuffer :=
  if b.accepts cmd then
    { commands := b.commands ++ [cmd], completed := b.completed || complete }
  else b

/-- `Activator.getAndResetCommands` -/
def getAndResetCommands (b : CommandBuffer) : List Command × CommandBuffer :=
  (b.commands, { b with commands := [] })

end CommandBuffer

end TemporalSdk
