import TemporalSdk.Common.Errors

/-!
# Proto failures

`temporal.api.failure.v1.IFailure`, where a field that is absent, `null` or `undefined` is `none`.
The identifiers of history events are arbitrary integers.
-/

namespace TemporalSdk

/-- `temporal.api.common.v1.IPayloads` -/
structure Payloads where
  payloads : Option (List Payload)
deriving DecidableEq

inductive TimeoutType
  | unspecified
  | startToClose
  | scheduleToStart
  | scheduleToClose
  | heartbeat
deriving DecidableEq

inductive RetryState
  | unspecified
  | inProgress
  | nonRetryableFailure
  | timeout
  | maximumAttemptsReached
  | retryPolicyNotSet
  | internalServerError
  | cancelRequested
deriving DecidableEq

/-- `temporal.api.common.v1.IWorkflowExecution` -/
structure WorkflowExecution where
  workflowId : Option String
  runId : Option String
deriving DecidableEq

/-- `IActivityType` and `IWorkflowType` -/
structure TypeName where
  name : Option String
deriving DecidableEq

structure ApplicationFailureInfo where
  type : Option String
  nonRetryable : Option Bool
  details : Option Payloads
deriving DecidableEq

structure TimeoutFailureInfo where
  timeoutType : Option TimeoutType
  lastHeartbeatDetails : Option Payloads
deriving DecidableEq

structure CanceledFailureInfo where
  details : Option Payloads
deriving DecidableEq

structure ServerFailureInfo where
  nonRetryable : Option Bool
deriving DecidableEq

structure ResetWorkflowFailureInfo where
  lastHeartbeatDetails : Option Payloads
deriving DecidableEq

structure ActivityFailureInfo where
  scheduledEventId : Option ℤ
  startedEventId : Option ℤ
  identity : Option String
  activityType : Option TypeName
  activityId : Option String
  retryState : Option RetryState
deriving DecidableEq

structure ChildWorkflowExecutionFailureInfo where
  workflowNamespace : Option String
  workflowExecution : Option WorkflowExecution
  workflowType : Option TypeName
  initiatedEventId : Option ℤ
  startedEventId : Option ℤ
  retryState : Option RetryState
deriving DecidableEq

/-- The fields of a failure other than its cause. -/
structure FailureFields where
  message : Option String
  source : Option String
  stackTrace : Option String
  encodedAttributes : Option Payload
  applicationFailureInfo : Option ApplicationFailureInfo
  timeoutFailureInfo : Option TimeoutFailureInfo
  canceledFailureInfo : Option CanceledFailureInfo
  terminatedFailureInfo : Option Unit
  serverFailureInfo : Option ServerFailureInfo
  resetWorkflowFailureInfo : Option ResetWorkflowFailureInfo
  activityFailureInfo : Option ActivityFailureInfo
  childWorkflowExecutionFailureInfo : Option ChildWorkflowExecutionFailureInfo
deriving DecidableEq

/-- A failure without a cause, or with one. -/
inductive Failure
  | leaf (fields : FailureFields)
  | caused (fields : FailureFields) (cause : Failure)
deriving DecidableEq

def FailureFields.empty : FailureFields :=
  ⟨none, none, none, none, none, none, none, none, none, none, none, none⟩

namespace Failure

def fields : Failure → FailureFields
  | leaf fields => fields
  | caused fields _ => fields

def cause : Failure → Option Failure
  | leaf _ => none
  | caused _ cause => some cause

def mk (fields : FailureFields) : Option Failure → Failure
  | none => leaf fields
  | some cause => caused fields cause

@[simp] lemma fields_mk (fields : FailureFields) (cause : Option Failure) :
    (mk fields cause).fields = fields := by
  cases cause <;> rfl

end Failure

end TemporalSdk
