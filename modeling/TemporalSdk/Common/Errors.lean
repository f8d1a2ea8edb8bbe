import Mathlib.Data.Rat.Defs
import Mathlib.Tactic.Common

namespace TemporalSdk

/-- A proto payload. -/
structure Payload where
  metadata : List (String × List UInt8)
  data : List UInt8
deriving DecidableEq

/-- The part of a proto failure that the workflow runtime itself reads. -/
structure ProtoFailure where
  message : String
deriving DecidableEq

/-- `google.protobuf.ITimestamp`, with `Long` seconds -/
structure Timestamp where
  seconds : ℤ
  nanos : ℚ
deriving DecidableEq

/-- `coresdk.activity_result.IDoBackoff` -/
structure DoBackoff where
  attempt : Option ℕ
  backoffDuration : Option Timestamp
  originalScheduleTime : Option Timestamp
deriving DecidableEq

/-- A JavaScript number; the finite ones are taken without rounding. -/
inductive JsNumber
  | nan
  | posInfinity
  | negInfinity
  | finite (value : ℚ)
deriving DecidableEq

/-- Values that workflow code throws and promises are rejected with. -/
inductive JsError
  | undefined
  | null
  | boolean (value : Bool)
  | number (value : JsNumber)
  | string (value : String)
  | typeError (message : String)
  | referenceError (message : String)
  | valueError (message : String)
  | illegalStateError (message : String)
  | determinismViolationError (message : String)
  | unexpectedError (message : String)
  | localActivityDoBackoff (backoff : DoBackoff)
  | continueAsNew (workflowType : String)
  | cancelledFailure (message : String)
  | activityFailure (message : String) (cause : JsError)
  | childWorkflowFailure (cause : JsError)
  | workflowExecutionAlreadyStarted (message workflowId workflowType : String)
  | temporalFailure (message : String)
  | other (message : String)
deriving DecidableEq

namespace JsError

/-- Whether the value counts as true. -/
def isTruthy : JsError → Bool
  | undefined | null => false
  | boolean value => value
  | number value => value ≠ .nan && value ≠ .finite 0
  | string value => value != ""
  | _ => true

/-- `instanceof UnexpectedError` -/
def isUnexpectedError : JsError → Bool
  | unexpectedError _ => true
  | _ => false

/-- `CancelledFailure.is` -/
def isCancelledFailure : JsError → Bool
  | cancelledFailure _ => true
  | _ => false

/-- `isCancellation` of errors.ts -/
def isCancellation : JsError → Bool
  | cancelledFailure _ => true
  | activityFailure _ cause => cause.isCancelledFailure
  | childWorkflowFailure cause => cause.isCancelledFailure
  | _ => false

/-- `TemporalFailure.is` -/
def isTemporalFailure : JsError → Bool
  | cancelledFailure _ => true
  | activityFailure _ _ => true
  | childWorkflowFailure _ => true
  | workflowExecutionAlreadyStarted _ _ _ => true
  | temporalFailure _ => true
  | _ => false

end JsError

end TemporalSdk
