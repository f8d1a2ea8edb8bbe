import TemporalSdk.Common.Time

namespace TemporalSdk

/-- `RetryPolicy` of @temporalio/common -/
structure RetryPolicy where
  backoffCoefficient : Option JsNumber
  initialInterval : Option Duration
  maximumAttempts : Option JsNumber
  maximumInterval : Option Duration
  nonRetryableErrorTypes : Option (List String)
deriving DecidableEq

/-- `temporal.api.common.v1.IRetryPolicy` -/
structure ProtoRetryPolicy where
  backoffCoefficient : Option JsNumber
  initialInterval : Option Timestamp
  maximumAttempts : Option JsNumber
  maximumInterval : Option Timestamp
  nonRetryableErrorTypes : Option (List String)
deriving DecidableEq

namespace JsNumber

/-- `x < y`, which is false whenever one side is `NaN` -/
def lt : JsNumber → JsNumber → Bool
  | finite x, finite y => x < y
  | negInfinity, finite _ => true
  | negInfinity, posInfinity => true
  | finite _, posInfinity => true
  | _, _ => false

/-- `x <= 0` -/
def leZero (x : JsNumber) : Bool := x.lt (finite 0) || x == finite 0

/-- `Number.isInteger` -/
def isInteger : JsNumber → Bool
  | finite q => q.den == 1
  | _ => false

end JsNumber

variable (parseMs : String → Option JsNumber)

def compileRetryPolicy (retryPolicy : RetryPolicy) : Except JsError ProtoRetryPolicy := do
  if retryPolicy.backoffCoefficient.any JsNumber.leZero then
    throw (.valueError "RetryPolicy.backoffCoefficient must be greater than 0")
  let maximumAttempts ← match retryPolicy.maximumAttempts with
    | none => pure none
    | some .posInfinity => pure none -- Infinity is the default, the field is dropped
    | some n =>
      if n.leZero then throw (.valueError "RetryPolicy.maximumAttempts must be a positive integer")
      else if !n.isInteger then throw (.valueError "RetryPolicy.maximumAttempts must be an integer")
      else pure (some n)
  let maximumInterval ← retryPolicy.maximumInterval.mapM (msToNumber parseMs)
  let initialInterval ← msToNumber parseMs (retryPolicy.initialInterval.getD (.number (.finite 1000)))
  if maximumInterval = some (.finite 0) then
    throw (.valueError "RetryPolicy.maximumInterval cannot be 0")
  if initialInterval = .finite 0 then
    throw (.valueError "RetryPolicy.initialInterval cannot be 0")
  if maximumInterval.any (·.lt initialInterval) then
    throw (.valueError "RetryPolicy.maximumInterval cannot be less than its initialInterval")
  return {
    maximumAttempts
    initialInterval := some (← msToTs parseMs (.number initialInterval))
    maximumInterval := ← msOptionalToTs parseMs (maximumInterval.map .number)
    backoffCoefficient := retryPolicy.backoffCoefficient
    nonRetryableErrorTypes := retryPolicy.nonRetryableErrorTypes }

def decompileRetryPolicy (retryPolicy : Option ProtoRetryPolicy) : Option RetryPolicy :=
  retryPolicy.map fun retryPolicy =>
    { backoffCoefficient := retryPolicy.backoffCoefficient
      maximumAttempts := retryPolicy.maximumAttempts
      maximumInterval := (optionalTsToMs retryPolicy.maximumInterval).map .number
      initialInterval := (optionalTsToMs retryPolicy.initialInterval).map .number
      nonRetryableErrorTypes := retryPolicy.nonRetryableErrorTypes }

end TemporalSdk
