import TemporalSdk.Common.Codec
import TemporalSdk.Common.StackTrace
import TemporalSdk.Common.Time

/-!
# The failure converter

`DefaultFailureConverter` with the error classes of failure.ts. Thrown values are what the
converter can tell apart: temporal failures, other records with a message and a stack, and the
rest, with the text that the converter makes of them.
-/

namespace TemporalSdk

/-- Values that payload converters convert; `other` are those that are never looked into. -/
inductive JsValue
  | undefined
  | null
  | bool (b : Bool)
  | number (x : JsNumber)
  | bigint (n : ℤ)
  | string (s : String)
  | array (elements : List JsValue)
  | object (properties : List (String × JsValue))
  | other (tag : ℕ)

namespace JsValue

def truthy : JsValue → Bool
  | undefined => false
  | null => false
  | bool b => b
  | number .nan => false
  | number (.finite q) => q ≠ 0
  | number _ => true
  | bigint n => n ≠ 0
  | string s => s ≠ ""
  | array _ => true
  | object _ => true
  | other _ => true

def isUndefined : JsValue → Bool
  | undefined => true
  | _ => false

/-- The property of a record, if it is a string. -/
def stringProperty (name : String) : JsValue → Option String
  | object properties =>
    match properties.lookup name with
    | some (string s) => some s
    | _ => none
  | _ => none

def ofOptionalString : Option String → JsValue
  | none => undefined
  | some s => string s

end JsValue

/-- `PayloadConverter` -/
structure PayloadConverter where
  toPayload : JsValue → Except JsError Payload
  fromPayload : Payload → Except JsError JsValue

namespace PayloadConverter

variable (converter : PayloadConverter)

def toPayloads (values : List JsValue) : Except JsError (Option (List Payload)) :=
  if values.length = 0 then .ok none
  else do
    let payloads ← values.mapM converter.toPayload
    return some payloads

def fromPayloadsAtIndex (index : ℕ) (payloads : Option (List Payload)) : Except JsError JsValue :=
  match payloads.bind (·[index]?) with
  | none => .ok .undefined
  | some payload => converter.fromPayload payload

def arrayFromPayloads : Option (List Payload) → Except JsError (List JsValue)
  | none => .ok []
  | some payloads => payloads.mapM converter.fromPayload

end PayloadConverter

/-- The class of a temporal failure with the fields of its own. -/
inductive FailureClass
  | activityFailure (activityType : String) (activityId : Option String) (retryState : RetryState)
      (identity : Option String)
  | childWorkflowFailure (workflowNamespace : Option String) (execution : WorkflowExecution)
      (workflowType : String) (retryState : RetryState)
  | applicationFailure (type : Option String) (nonRetryable : Option Bool)
      (details : Option (List JsValue))
  | cancelledFailure (details : List JsValue)
  | timeoutFailure (lastHeartbeatDetails : JsValue) (timeoutType : TimeoutType)
  | serverFailure (nonRetryable : Bool)
  | terminatedFailure
  | temporalFailure

/-- Thrown values. `failure` is the failure that an error was made from, and `text` what the
converter writes for a value that is no record with a message and a stack. -/
inductive ErrorValue
  | temporal (cls : FailureClass) (message : String) (stack : Option String) (failure : Option Failure)
      (cause : ErrorValue)
  | record (message stack : String) (cause : ErrorValue)
  | plain (text : String) (truthy : Bool)

namespace ErrorValue

def undefined : ErrorValue := plain "undefined" false

def truthy : ErrorValue → Bool
  | temporal _ _ _ _ _ => true
  | record _ _ _ => true
  | plain _ truthy => truthy

end ErrorValue

/-- Is the failure info of the class made with `...err`? -/
def FailureClass.spreadsError : FailureClass → Bool
  | activityFailure _ _ _ _ => true
  | childWorkflowFailure _ _ _ _ => true
  | _ => false

/-- The own property `cause` of an error, where `...err` copies it into the failure info of its node, for the
nodes that are made anew. -/
def ErrorValue.infoCauses : ErrorValue → List (Option ErrorValue)
  | temporal _ _ _ (some _) _ => []
  | temporal cls _ _ none cause => (if cls.spreadsError then some cause else none) :: cause.infoCauses
  | record _ _ cause => none :: cause.infoCauses
  | plain _ _ => []

/-- A failure as an object: beside the fields of the message, what `...err` has put into its infos. -/
structure ReturnedFailure where
  failure : Failure
  infoCauses : List (Option ErrorValue)

def failureSource : String := "TypeScriptSDK"

def childWorkflowFailureMessage : String := "Child Workflow execution failed"

/-- The common attributes are replaced by their encoding. -/
def FailureFields.withEncoded (encodedAttributes : Payload) (fields : FailureFields) : FailureFields :=
  { fields with
    message := some "Encoded failure"
    stackTrace := some ""
    encodedAttributes := some encodedAttributes }

def Failure.modify (f : FailureFields → FailureFields) : Failure → Failure
  | leaf fields => leaf (f fields)
  | caused fields cause => caused (f fields) cause

/-- `DefaultFailureConverter`, with its options and the payload converter of the calls -/
structure FailureConverter where
  encodeCommonAttributes : Bool
  payloadConverter : PayloadConverter

namespace FailureConverter

variable (c : FailureConverter)

/-! ### From errors to failures -/

/-- The payload that the message and the stack trace of a failure are encoded into. -/
def commonAttributes (message stackTrace : Option String) : JsValue :=
  .object [("message", .ofOptionalString message), ("stack_trace", .ofOptionalString stackTrace)]

/-- What `errorToFailure` does after `errorToFailureInner`. -/
def encodeAttributes (failure : Failure) : Except JsError Failure :=
  if c.encodeCommonAttributes then do
    let encodedAttributes ← c.payloadConverter.toPayload
      (commonAttributes failure.fields.message failure.fields.stackTrace)
    return failure.modify (FailureFields.withEncoded encodedAttributes)
  else .ok failure

def detailsPayloads (details : Option (List JsValue)) : Except JsError (Option Payloads) :=
  match details with
  | none | some [] => .ok none
  | some details => do
    let payloads ← c.payloadConverter.toPayloads details
    return some ⟨payloads⟩

/-- The failure info of a temporal failure, added to the fields that all of them have; what `...err` copies beside
the fields of the message is in `ErrorValue.infoCauses`. -/
def addInfo (base : FailureFields) : FailureClass → Except JsError FailureFields
  | .activityFailure activityType activityId retryState identity =>
    .ok { base with
      activityFailureInfo :=
        some ⟨none, none, identity, some ⟨some activityType⟩, activityId, some retryState⟩ }
  | .childWorkflowFailure workflowNamespace execution workflowType retryState =>
    .ok { base with
      childWorkflowExecutionFailureInfo :=
        some ⟨workflowNamespace, some execution, some ⟨some workflowType⟩, none, none, some retryState⟩ }
  | .applicationFailure type nonRetryable details => do
    let details ← c.detailsPayloads details
    return { base with applicationFailureInfo := some ⟨type, nonRetryable, details⟩ }
  | .cancelledFailure details => do
    let details ← c.detailsPayloads (some details)
    return { base with canceledFailureInfo := some ⟨details⟩ }
  | .timeoutFailure lastHeartbeatDetails timeoutType => do
    let lastHeartbeatDetails ←
      if lastHeartbeatDetails.truthy then c.detailsPayloads (some [lastHeartbeatDetails]) else .ok none
    return { base with timeoutFailureInfo := some ⟨some timeoutType, lastHeartbeatDetails⟩ }
  | .serverFailure nonRetryable =>
    .ok { base with serverFailureInfo := some ⟨some nonRetryable⟩ }
  | .terminatedFailure => .ok { base with terminatedFailureInfo := some () }
  | .temporalFailure => .ok base

def baseFields (message stackTrace : String) : FailureFields :=
  { FailureFields.empty with
    message := some message
    stackTrace := some stackTrace
    source := some failureSource }

def recommendation : String :=
  " [A non-Error value was thrown from your code. We recommend throwing Error objects so that " ++
    "we can provide a stack trace]"

def errorToFailureInner : ErrorValue → Except JsError Failure
  | .temporal _ _ _ (some failure) _ => .ok failure
  | .temporal cls message stack none cause => do
    let cause ← if cause.truthy then do
        let failure ← errorToFailureInner cause
        some <$> c.encodeAttributes failure
      else .ok none
    let fields ← c.addInfo (baseFields message (cutoffStackTrace stack)) cls
    return .mk fields cause
  | .record message stack cause => do
    let cause ← if cause.truthy then do
        let failure ← errorToFailureInner cause
        some <$> c.encodeAttributes failure
      else .ok none
    return .mk (baseFields message (cutoffStackTrace (some stack))) cause
  | .plain text _ =>
    .ok (.leaf { FailureFields.empty with
      source := some failureSource
      message := some (text ++ recommendation) })

def errorToFailure (err : ErrorValue) : Except JsError Failure := do
  let failure ← c.errorToFailureInner err
  c.encodeAttributes failure

/-- The same, with what the object that is returned has beside the fields of the message. -/
def errorToReturnedFailure (err : ErrorValue) : Except JsError ReturnedFailure := do
  let failure ← c.errorToFailure err
  return ⟨failure, err.infoCauses⟩

def optionalErrorToOptionalFailure (err : ErrorValue) : Except JsError (Option Failure) :=
  if err.truthy then some <$> c.errorToFailure err else .ok none

/-! ### From failures to errors -/

/-- The error class for the first info that a failure has, with its message. The conversion of the
cause is the last argument of every constructor that takes one. -/
def failureToErrorInner (failure : FailureFields) (cause : Except JsError ErrorValue) :
    Except JsError (FailureClass × String × ErrorValue) := do
  let message := failure.message.getD ""
  if let some info := failure.applicationFailureInfo then
    let details ← c.payloadConverter.arrayFromPayloads (info.details.bind Payloads.payloads)
    let cause ← cause
    return (.applicationFailure info.type (some (info.nonRetryable.getD false)) (some details), message, cause)
  if let some info := failure.serverFailureInfo then
    let cause ← cause
    return (.serverFailure (info.nonRetryable.getD false), message, cause)
  if let some info := failure.timeoutFailureInfo then
    let lastHeartbeatDetails ←
      c.payloadConverter.fromPayloadsAtIndex 0 (info.lastHeartbeatDetails.bind Payloads.payloads)
    return (.timeoutFailure lastHeartbeatDetails (info.timeoutType.getD .unspecified), message, .undefined)
  if let some () := failure.terminatedFailureInfo then
    let cause ← cause
    return (.terminatedFailure, message, cause)
  if let some info := failure.canceledFailureInfo then
    let details ← c.payloadConverter.arrayFromPayloads (info.details.bind Payloads.payloads)
    let cause ← cause
    return (.cancelledFailure details, message, cause)
  if let some info := failure.resetWorkflowFailureInfo then
    let details ←
      c.payloadConverter.arrayFromPayloads (info.lastHeartbeatDetails.bind Payloads.payloads)
    let cause ← cause
    return (.applicationFailure (some "ResetWorkflow") (some false) (some details), message, cause)
  if let some info := failure.childWorkflowExecutionFailureInfo then
    let workflowType := (info.workflowType.bind TypeName.name).getD ""
    match info.workflowExecution with
    | none => .error (.typeError "Missing attributes on childWorkflowExecutionFailureInfo")
    | some execution =>
      if workflowType = "" then
        .error (.typeError "Missing attributes on childWorkflowExecutionFailureInfo")
      else
        let cause ← cause
        return (.childWorkflowFailure info.workflowNamespace execution workflowType
          (info.retryState.getD .unspecified), childWorkflowFailureMessage, cause)
  else if let some info := failure.activityFailureInfo then
    let activityType := (info.activityType.bind TypeName.name).getD ""
    if activityType = "" then
      .error (.typeError "Missing activityType?.name on activityFailureInfo")
    else
      let cause ← cause
      return (.activityFailure activityType info.activityId (info.retryState.getD .unspecified)
        info.identity, message, cause)
  else
    let cause ← cause
    return (.temporalFailure, message, cause)

/-- The message and the stack trace of the encoded attributes, if there are any, in place of the
failure's own. -/
def decodeAttributes (failure : FailureFields) : Except JsError FailureFields :=
  match failure.encodedAttributes with
  | none => .ok failure
  | some encodedAttributes => do
    let attrs ← c.payloadConverter.fromPayload encodedAttributes
    return { failure with
      message := (attrs.stringProperty "message").or failure.message
      stackTrace := (attrs.stringProperty "stack_trace").or failure.stackTrace }

def failureToError : Failure → Except JsError ErrorValue
  | .leaf fields => do
    let fields ← c.decodeAttributes fields
    let (cls, message, cause) ← c.failureToErrorInner fields (.ok .undefined)
    return .temporal cls message (some (fields.stackTrace.getD "")) (some (.leaf fields)) cause
  | .caused fields cause => do
    let fields ← c.decodeAttributes fields
    let (cls, message, err) ← c.failureToErrorInner fields (failureToError cause)
    return .temporal cls message (some (fields.stackTrace.getD "")) (some (.caused fields cause)) err

def optionalFailureToOptionalError : Option Failure → Except JsError ErrorValue
  | none => .ok .undefined
  | some failure => c.failureToError failure

end FailureConverter

/-- `LoadedDataConverter` -/
structure LoadedDataConverter where
  failureConverter : FailureConverter
  payloadCodecs : List PayloadCodec

namespace LoadedDataConverter

variable (converter : LoadedDataConverter)

def decodeArrayFromPayloads (payloads : Option (List Payload)) : Except JsError (List JsValue) := do
  let decoded ← decodeOptional converter.payloadCodecs payloads
  converter.failureConverter.payloadConverter.arrayFromPayloads decoded

def decodeOptionalFailureToOptionalError : Option Failure → Except JsError ErrorValue
  | none => .ok .undefined
  | some failure => do
    let decoded ← decodeFailure converter.payloadCodecs failure
    converter.failureConverter.failureToError decoded

end LoadedDataConverter

end TemporalSdk
