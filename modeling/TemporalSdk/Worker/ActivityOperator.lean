import TemporalSdk.Common.FailureConverter
import TemporalSdk.Worker.HeartbeatCompletion

/-!
# Activity tasks

`Worker.activityOperator`: the tasks of a task token go through a group, which handles one after the
other and holds the Activity that a start has created. The activity runs beside the group, and closes
it when it ends; tasks that arrive later open a new group.
-/

namespace TemporalSdk

/-- The reasons that Core gives for a cancel task -/
inductive ActivityCancelReason
  | notFound
  | cancelled
  | timedOut
  | workerShutdown
deriving DecidableEq

inductive CancelReason
  | core (reason : ActivityCancelReason)
  | workerShutdown
  | heartbeatDetailsConversionFailed
deriving DecidableEq

inductive ActivityTask
  | start (activityType : String)
  | cancel (reason : Option ActivityCancelReason)
deriving DecidableEq

/-- What activity functions and converters throw; `error` are the other instances of `Error`. -/
inductive ThrownValue
  | completeAsyncError
  | cancelledFailure (message : String)
  | error (name message : String)
  | string (text : String)
  | other
deriving DecidableEq

namespace ThrownValue

def isCancelledFailure : ThrownValue → Bool
  | cancelledFailure _ => true
  | _ => false

def isAbortError : ThrownValue → Bool
  | error name _ => name = "AbortError"
  | _ => false

/-- `errorMessage(err)`, as it is shown in a template string -/
def errorMessage : ThrownValue → String
  | completeAsyncError => ""
  | cancelledFailure message => message
  | error _ message => message
  | string text => text
  | other => "undefined"

/-- `err instanceof Error ? err.name : undefined` -/
def errorName : ThrownValue → Option String
  | completeAsyncError => some "CompleteAsyncError"
  | cancelledFailure _ => some "CancelledFailure"
  | error name _ => some name
  | string _ => none
  | other => none

end ThrownValue

/-- `coresdk.activity_result.IActivityExecutionResult` -/
inductive ActivityResult
  | completed (result : Payload)
  | failed (failure : Failure)
  | cancelled (failure : Failure)
  | willCompleteAsync
deriving DecidableEq

def ActivityResult.isFailed : ActivityResult → Bool
  | failed _ => true
  | _ => false

/-- The errors that `Activity.run` converts: `ApplicationFailure.retryable` with the cancel reason, what
was thrown, or `ensureApplicationFailure` of it -/
inductive ErrorToEncode
  | heartbeatDetailsConversionFailed
  | thrown (err : ThrownValue)
  | ensured (err : ThrownValue)
deriving DecidableEq

namespace JSON

def hexDigit (n : ℕ) : Char := Char.ofNat (if n < 10 then '0'.toNat + n else 'a'.toNat + (n - 10))

def quoteChar : Char → String
  | '"' => "\\\""
  | '\\' => "\\\\"
  | '\n' => "\\n"
  | '\r' => "\\r"
  | '\t' => "\\t"
  | char =>
    if char.toNat = 8 then "\\b"
    else if char.toNat = 12 then "\\f"
    else if char.toNat < 32 then
      "\\u00" ++ String.ofList [hexDigit (char.toNat / 16), hexDigit (char.toNat % 16)]
    else String.singleton char

def quote (text : String) : String := "\"" ++ String.join (text.toList.map quoteChar) ++ "\""

/-- `JSON.stringify` for an array of strings -/
def stringify (texts : List String) : String := "[" ++ ",".intercalate (texts.map quote) ++ "]"

end JSON

/-- The registered activities: the own keys of the object, and the properties of it that are functions -/
structure RegisteredActivities where
  keys : List String
  isFunction : String → Bool

namespace ActivityResult

def applicationFailure (message : String) (type : Option String) : ActivityResult :=
  .failed (.leaf { FailureFields.empty with
    message := some message
    applicationFailureInfo := some ⟨type, some false, none⟩ })

def notRegistered (activities : RegisteredActivities) (activityType : String) : ActivityResult :=
  applicationFailure ("Activity function " ++ activityType ++
    " is not registered on this Worker, available activities: " ++ JSON.stringify activities.keys)
    (some "NotFoundError")

def argsNotParsed (activityType : String) (err : ThrownValue) : ActivityResult :=
  applicationFailure ("Failed to parse activity args for activity " ++ activityType ++ ": " ++
    err.errorMessage) err.errorName

/-- The result of an activity that was aborted by its signal -/
def aborted : ActivityResult :=
  .cancelled (.leaf { FailureFields.empty with
    source := some failureSource
    canceledFailureInfo := some ⟨none⟩ })

end ActivityResult

def Failure.withoutStackTrace (failure : Failure) : Failure :=
  .mk { failure.fields with stackTrace := none } failure.cause

/-- What the start of a token has come to: `executing` and the two encodings are the stages of
`Activity.run`, `flushing` awaits the last heartbeat, and `resolving` the emission of the completion. -/
inductive Execution
  | notStarted
  | executing
  | encodingResult (result : JsValue)
  | encodingFailure (cancelled : Bool) (error : ErrorToEncode)
  | flushing (result : ActivityResult)
  | resolving (result : ActivityResult)
  | completed (result : ActivityResult)
  | rejected

namespace Execution

/-- `Activity.run` is not settled. -/
def running : Execution → Bool
  | executing => true
  | encodingResult _ => true
  | encodingFailure _ _ => true
  | _ => false

def ended : Execution → Bool
  | notStarted => false
  | execution => !execution.running

end Execution

/-- A group of tasks, of which the first is being handled. `activity` says that the state of the group is
an Activity. -/
structure TaskGroup where
  activity : Bool
  tasks : List ActivityTask
deriving DecidableEq

/-- What a converter has returned -/
inductive Encoded
  | payload (payload : Payload)
  | failure (failure : Failure)
deriving DecidableEq

/-- The groups and the activity of a task token: `group` is the one that the operator has an entry for,
`draining` are those that were closed with tasks in them. The last fields are the history: the function's
outcome, what the `catch` of `Activity.run` has caught, what the converters returned, the reasons of the
cancel tasks that were given to the Activity, and of those that arrived after the start task and before
the end of the activity. -/
structure ActivityToken (D : Type) where
  started : Bool
  group : Option TaskGroup
  draining : List TaskGroup
  execution : Execution
  cancelReason : Option CancelReason
  heartbeats : HeartbeatStream D Unit
  completions : List ActivityResult
  functionSettled : Option (Except ThrownValue JsValue)
  caught : Option ThrownValue
  encoded : Option Encoded
  delivered : List (Option ActivityCancelReason)
  addressed : List (Option ActivityCancelReason)

/-- What happens to a token: a task arrives; the first task of the open group, or of one of the closed
ones, is handled, where `argsError` is what the decoding of the arguments has thrown; the function of the
activity settles, the converters do; the activity heartbeats, and the encoders of its heartbeats end and
return; the flush is awaited, and the completion emitted. -/
inductive TokenInput (D : Type)
  | task (task : ActivityTask)
  | handled (closed : Option ℕ) (argsError : Option ThrownValue)
  | functionSettled (outcome : Except ThrownValue JsValue)
  | resultEncoded (payload : Except ThrownValue Payload)
  | failureEncoded (failure : Except ThrownValue Failure)
  | heartbeat (details : D)
  | heartbeatEncoded (encoder : ℕ) (payload : Except JsError Payload)
  | heartbeatReturned
  | flushed
  | emitted

namespace ActivityToken

variable {D : Type} (x : ActivityToken D)

def initial : ActivityToken D :=
  ⟨false, none, [], .notStarted, none, .initial, [], none, none, none, [], []⟩

/-- `Activity.cancel` -/
def cancel (reason : CancelReason) : ActivityToken D := { x with cancelReason := some reason }

/-- A cancel task reaches the Activity; without a reason, it comes from the worker itself. -/
def deliver (reason : Option ActivityCancelReason) : ActivityToken D :=
  let x := x.cancel <| match reason with
    | none => .workerShutdown
    | some reason => .core reason
  { x with delivered := x.delivered ++ [reason] }

/-- A task arrives; it opens a group if there is none. -/
def arrive (task : ActivityTask) : ActivityToken D :=
  let group := x.group.getD ⟨false, []⟩
  let x := { x with group := some { group with tasks := group.tasks ++ [task] } }
  match task with
  | .start _ => { x with started := true }
  | .cancel reason =>
    if x.started && !x.execution.ended then { x with addressed := x.addressed ++ [reason] } else x

/-- The group is closed, and its entry removed. -/
def closeGroup : ActivityToken D :=
  match x.group with
  | none => x
  | some group =>
    { x with group := none, draining := if group.tasks = [] then x.draining else x.draining ++ [group] }

/-- The heartbeats are told of the end of the activity; a failure waits for the flush of the last one. -/
def finishRun (result : ActivityResult) : ActivityToken D :=
  let x := x.closeGroup
  let x := { x with
    heartbeats := (x.heartbeats.step (.completion result.isFailed ())).getD x.heartbeats }
  if result.isFailed then { x with execution := .flushing result }
  else { x with execution := .resolving result }

/-- The `catch` of `Activity.run` -/
def catchError (err : ThrownValue) : ActivityToken D :=
  let x := { x with caught := some err }
  if err = .completeAsyncError then x.finishRun .willCompleteAsync
  else if x.cancelReason = some .heartbeatDetailsConversionFailed then
    { x with execution := .encodingFailure false .heartbeatDetailsConversionFailed }
  else if x.cancelReason.isSome && err.isCancelledFailure then
    { x with execution := .encodingFailure true (.thrown err) }
  else if x.cancelReason.isSome && err.isAbortError then x.finishRun .aborted
  else { x with execution := .encodingFailure false (.ensured err) }

/-- A task is handled by a group whose state is an Activity or not; so is the state afterwards. -/
def handle (activities : RegisteredActivities) (base64TaskToken : String) (activity : Bool)
    (argsError : Option ThrownValue) : ActivityTask → Except ThrownValue (ActivityToken D × Bool)
  | .start activityType =>
    if activity then
      .error (.error "IllegalStateError"
        ("Got start event for an already running activity: " ++ base64TaskToken))
    else if !activities.isFunction activityType then
      .ok ({ x with execution := .resolving (.notRegistered activities activityType) }, false)
    else
      match argsError with
      | some err => .ok ({ x with execution := .resolving (.argsNotParsed activityType err) }, false)
      | none => .ok
          ({ x with
            execution := .executing
            heartbeats := (x.heartbeats.step .create).getD x.heartbeats }, true)
  | .cancel reason =>
    if activity then .ok (x.deliver reason, true) else .ok (x, false)

/-- The open group, or one of the closed ones -/
def groupAt : Option ℕ → Option TaskGroup
  | none => x.group
  | some i => x.draining[i]?

/-- A closed group is gone once it has no tasks. -/
def setGroupAt (group : TaskGroup) : Option ℕ → ActivityToken D
  | none => { x with group := some group }
  | some i =>
    { x with draining := if group.tasks = [] then x.draining.eraseIdx i else x.draining.set i group }

def nextTask (closed : Option ℕ) : Option (TaskGroup × ActivityTask × List ActivityTask) :=
  match x.groupAt closed with
  | none => none
  | some group =>
    match group.tasks with
    | [] => none
    | task :: tasks => some (group, task, tasks)

/-- A token is started once; an error that is returned is one that the operator fails with. -/
def step (activities : RegisteredActivities) (base64TaskToken : String) :
    TokenInput D → Option (ActivityToken D × Option ThrownValue)
  | .task task =>
    match task, x.started with
    | .start _, true => none
    | task, _ => some (x.arrive task, none)
  | .handled closed argsError =>
    match x.nextTask closed with
    | none => none
    | some (group, task, tasks) =>
      match x.handle activities base64TaskToken group.activity argsError task with
      | .error err => some (x, some err)
      | .ok (x, activity) => some (x.setGroupAt ⟨activity, tasks⟩ closed, none)
  | .functionSettled outcome =>
    match x.execution with
    | .executing =>
      let x := { x with functionSettled := some outcome }
      match outcome with
      | .ok result => some ({ x with execution := .encodingResult result }, none)
      | .error err => some (x.catchError err, none)
    | _ => none
  | .resultEncoded payload =>
    match x.execution with
    | .encodingResult _ =>
      match payload with
      | .ok payload =>
        let x := { x with encoded := some (.payload payload) }
        some (x.finishRun (.completed payload), none)
      | .error err => some (x.catchError err, none)
    | _ => none
  | .failureEncoded failure =>
    match x.execution with
    | .encodingFailure cancelled _ =>
      match failure with
      | .ok failure =>
        let x := { x with encoded := some (.failure failure) }
        some (x.finishRun (if cancelled then .cancelled failure.withoutStackTrace else .failed failure), none)
      | .error err => some ({ x.closeGroup with execution := .rejected }, some err)
    | _ => none
  | .heartbeat details =>
    (x.heartbeats.step (.heartbeat details)).map fun heartbeats => ({ x with heartbeats }, none)
  | .heartbeatEncoded encoder payload =>
    match x.heartbeats.step (.encoded encoder payload), payload with
    | none, _ => none
    | some heartbeats, .ok _ => some ({ x with heartbeats }, none)
    | some heartbeats, .error _ =>
      some ({ x with heartbeats }.cancel .heartbeatDetailsConversionFailed, none)
  | .heartbeatReturned =>
    (x.heartbeats.step .returned).map fun heartbeats => ({ x with heartbeats }, none)
  | .flushed =>
    match x.execution with
    | .flushing result =>
      if x.heartbeats.called = [] then none else some ({ x with execution := .resolving result }, none)
    | _ => none
  | .emitted =>
    match x.execution with
    | .resolving result =>
      some ({ x with execution := .completed result, completions := x.completions ++ [result] }, none)
    | _ => none

end ActivityToken

/-- The tokens by their base64 encoding, and the error that the operator has failed with -/
structure ActivityOperator (D : Type) where
  tokens : String → ActivityToken D
  error : Option ThrownValue

namespace ActivityOperator

variable {D : Type}

def initial : ActivityOperator D := ⟨fun _ => .initial, none⟩

def step (activities : RegisteredActivities) (s : ActivityOperator D) (input : String × TokenInput D) :
    Option (ActivityOperator D) :=
  let (base64TaskToken, input) := input
  if s.error.isSome then none
  else
    match (s.tokens base64TaskToken).step activities base64TaskToken input with
    | none => none
    | some (token, error) => some ⟨Function.update s.tokens base64TaskToken token, error⟩

end ActivityOperator

end TemporalSdk
