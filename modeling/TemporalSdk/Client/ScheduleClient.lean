import TemporalSdk.Client.ScheduleHelpers

/-!
# Schedule handles

`describe` and `update` of a handle: the description of a schedule, made from the response of the
service, is given to the update function, and the options that it returns are encoded into the
schedule of the update request.
-/

namespace TemporalSdk

structure ScheduleActionResult where
  scheduleTime : Option Timestamp
  actualTime : Option Timestamp
  startWorkflowResult : Option WorkflowExecution
deriving DecidableEq

structure ScheduleInfo where
  actionCount : Option ℤ
  missedCatchupWindow : Option ℤ
  overlapSkipped : Option ℤ
  runningWorkflows : Option (List WorkflowExecution)
  recentActions : Option (List ScheduleActionResult)
  futureActionTimes : Option (List Timestamp)
  createTime : Option Timestamp
  updateTime : Option Timestamp
deriving DecidableEq

/-- `IDescribeScheduleResponse` -/
structure DescribeScheduleResponse where
  schedule : Option Schedule
  info : Option ScheduleInfo
  memo : Option PayloadFields
  searchAttributes : Option PayloadFields
deriving DecidableEq

/-- A workflow of an action, with the run id that `firstExecutionRunId` is -/
structure ScheduleExecutionStartWorkflowActionResult where
  workflowId : Option String
  firstExecutionRunId : Option String

structure ScheduleExecutionResult where
  scheduledAt : JsDate
  takenAt : JsDate
  action : ScheduleExecutionStartWorkflowActionResult

structure SchedulePoliciesDescription where
  overlap : Option ScheduleOverlapPolicy
  catchupWindow : JsNumber
  pauseOnFailure : Bool

structure ScheduleStateDescription where
  paused : Bool
  note : Option String
  remainingActions : Option JsNumber

structure ScheduleInfoDescription where
  recentActions : List ScheduleExecutionResult
  nextActionTimes : List JsDate
  createdAt : JsDate
  lastUpdatedAt : Option JsDate
  runningActions : List ScheduleExecutionStartWorkflowActionResult
  numActionsMissedCatchupWindow : ℤ
  numActionsSkippedOverlap : ℤ
  numActionsTaken : ℤ

structure ScheduleDescription where
  scheduleId : String
  spec : ScheduleSpecDescription
  action : ScheduleDescriptionAction
  memo : Option (PayloadRecord JsValue)
  searchAttributes : PayloadRecord JsValue
  policies : SchedulePoliciesDescription
  state : ScheduleStateDescription
  info : ScheduleInfoDescription
  raw : DescribeScheduleResponse

/-! ### A description as update options -/

def Range.toLooseRange {Unit : Type} (range : Range Unit) : LooseRange Unit :=
  .range range.start range.end_ (some range.step)

def Range.toField {Unit : Type} (ranges : List (Range Unit)) : Option (CalendarField Unit) :=
  some (.many (ranges.map Range.toLooseRange))

def CalendarSpecDescription.toSpec (spec : CalendarSpecDescription) : CalendarSpec where
  second := Range.toField spec.second
  minute := Range.toField spec.minute
  hour := Range.toField spec.hour
  dayOfMonth := Range.toField spec.dayOfMonth
  month := Range.toField spec.month
  year := Range.toField spec.year
  dayOfWeek := Range.toField spec.dayOfWeek
  comment := spec.comment

def IntervalSpecDescription.toSpec (spec : IntervalSpecDescription) : IntervalSpec where
  every := spec.every.map .number
  offset := spec.offset.map .number

def ScheduleSpecDescription.toSpec (spec : ScheduleSpecDescription) : ScheduleSpec where
  calendars := some (spec.calendars.map CalendarSpecDescription.toSpec)
  intervals := some (spec.intervals.map IntervalSpecDescription.toSpec)
  cronExpressions := none
  skip := some (spec.skip.map CalendarSpecDescription.toSpec)
  startAt := spec.startAt
  endAt := spec.endAt
  jitter := spec.jitter.map .number
  timezone := spec.timezone

def ScheduleDescriptionAction.toOptions (action : ScheduleDescriptionAction) : ScheduleOptionsAction where
  workflowId := action.workflowId
  workflowType := action.workflowType.map .name
  taskQueue := action.taskQueue
  args := some action.args
  memo := action.memo
  searchAttributes := some action.searchAttributes
  retry := action.retry
  workflowExecutionTimeout := action.workflowExecutionTimeout.map .number
  workflowRunTimeout := action.workflowRunTimeout.map .number
  workflowTaskTimeout := action.workflowTaskTimeout.map .number

def SchedulePoliciesDescription.toOptions (policies : SchedulePoliciesDescription) :
    SchedulePoliciesOptions where
  overlap := policies.overlap
  catchupWindow := some (.number policies.catchupWindow)
  pauseOnFailure := some policies.pauseOnFailure

def ScheduleStateDescription.toOptions (state : ScheduleStateDescription) : ScheduleStateOptions where
  paused := some state.paused
  note := state.note
  remainingActions := state.remainingActions

/-- A description can be used as the options of an update: what `x => x` returns. -/
def ScheduleDescription.toOptions (description : ScheduleDescription) : ScheduleUpdateOptions where
  spec := description.spec.toSpec
  action := description.action.toOptions
  policies := some description.policies.toOptions
  state := some description.state.toOptions

/-! ### Describing and updating -/

def requiredDate (ts : Option Timestamp) : Except JsError JsDate :=
  match ts with
  | some ts => .ok (tsToDate ts)
  | none => .error (.other "Expected timestamp, got null")

def decodeScheduleRunningActions (pb : Option (List WorkflowExecution)) :
    List ScheduleExecutionStartWorkflowActionResult :=
  (pb.getD []).map fun x => ⟨x.workflowId, x.runId⟩

def decodeScheduleRecentActions (pb : Option (List ScheduleActionResult)) :
    Except JsError (List ScheduleExecutionResult) :=
  (pb.getD []).mapM fun executionResult => do
    let some result := executionResult.startWorkflowResult
      | throw (.typeError "Unsupported schedule action")
    let scheduledAt ← requiredDate executionResult.scheduleTime
    let takenAt ← requiredDate executionResult.actualTime
    return ⟨scheduledAt, takenAt, ⟨result.workflowId, result.runId⟩⟩

def decodeScheduleInfo (raw : Option ScheduleInfo) : Except JsError ScheduleInfoDescription := do
  let recentActions ← decodeScheduleRecentActions (raw.bind ScheduleInfo.recentActions)
  let some info := raw | throw (nullProperty "createTime")
  let createdAt ← requiredDate info.createTime
  return {
    recentActions
    nextActionTimes := (info.futureActionTimes.getD []).map tsToDate
    createdAt
    lastUpdatedAt := optionalTsToDate info.updateTime
    runningActions := decodeScheduleRunningActions info.runningWorkflows
    numActionsMissedCatchupWindow := longToNumber (info.missedCatchupWindow.getD 0)
    numActionsSkippedOverlap := longToNumber (info.overlapSkipped.getD 0)
    numActionsTaken := longToNumber (info.actionCount.getD 0) }

def decodeSchedulePolicies (policies : Option SchedulePolicies) : SchedulePoliciesDescription where
  overlap := decodeOverlapPolicy (policies.bind SchedulePolicies.overlapPolicy)
  catchupWindow := (optionalTsToMs (policies.bind SchedulePolicies.catchupWindow)).getD (.finite 60000)
  pauseOnFailure := policies.bind SchedulePolicies.pauseOnFailure = some true

def decodeScheduleState (state : Option ScheduleState) : ScheduleStateDescription where
  paused := state.bind ScheduleState.paused = some true
  note := state.bind ScheduleState.notes
  remainingActions :=
    if state.bind ScheduleState.limitedActions = some true then
      some (.finite (longToNumber ((state.bind ScheduleState.remainingActions).getD 0)))
    else none

def WorkflowTypeOrFunc.missing : WorkflowTypeOrFunc → Bool
  | .name workflowType => workflowType = ""
  | .function _ => false

namespace ScheduleHelpers

variable (h : ScheduleHelpers)

/-- Empty arrays, which old servers return, are left out. -/
def decodeSearchAttributes (pb : Option PayloadFields) : Except JsError (PayloadRecord JsValue) :=
  match pb.bind PayloadFields.fields with
  | none => .ok []
  | some indexedFields => do
    let attributes ← h.searchAttributePayloadConverter.mapFromPayloads indexedFields
    return attributes.filter fun (_, v) =>
      match v with
      | .array values => !values.isEmpty
      | _ => false

def describe (scheduleId : String) (raw : DescribeScheduleResponse) : Except JsError ScheduleDescription := do
  let some schedule := raw.schedule
    | throw (.other "Received invalid Schedule description from server")
  let (some spec, some action) := (schedule.spec, schedule.action)
    | throw (.other "Received invalid Schedule description from server")
  let action ← h.decodeScheduleAction action
  let memo ← h.dataConverter.decodeMapFromPayloads (raw.memo.bind PayloadFields.fields)
  let searchAttributes ← h.decodeSearchAttributes raw.searchAttributes
  let info ← decodeScheduleInfo raw.info
  return {
    scheduleId
    spec := decodeScheduleSpec spec
    action
    memo
    searchAttributes
    policies := decodeSchedulePolicies schedule.policies
    state := decodeScheduleState schedule.state
    info
    raw }

/-- Is the string missing or empty? -/
def missing (s : Option String) : Bool := s.getD "" = ""

/-- `assertRequiredScheduleOptions` of an update -/
def assertRequiredScheduleOptions (opts : ScheduleUpdateOptions) : Except JsError Unit := do
  if missing opts.action.taskQueue then
    throw (.typeError "Missing ScheduleUpdateOptions.action.taskQueue for 'startWorkflow' action")
  if missing opts.action.workflowId then
    throw (.typeError "Missing ScheduleUpdateOptions.action.workflowId for 'startWorkflow' action")
  if opts.action.workflowType.all WorkflowTypeOrFunc.missing then
    throw (.typeError "Missing ScheduleUpdateOptions.action.workflowType for 'startWorkflow' action")

def compileUpdatedScheduleAction (action : ScheduleOptionsAction) :
    Except JsError CompiledScheduleAction := do
  let some workflowTypeOrFunc := action.workflowType
    | throw (.typeError "Invalid workflow type: expected either a string or a function, got 'undefined'")
  let workflowType ← extractWorkflowType workflowTypeOrFunc
  return { action with workflowType, args := action.args.getD [] }

/-- The schedule of the update request; the headers are those that the schedule has. -/
def encodeUpdatedSchedule (opts : ScheduleUpdateOptions) (headers : PayloadRecord Payload) :
    Except JsError Schedule := do
  let action ← compileUpdatedScheduleAction opts.action
  let spec ← h.encodeScheduleSpec opts.spec
  let action ← h.encodeScheduleAction action headers
  let policies ← h.encodeSchedulePolicies opts.policies
  return ⟨some spec, some action, some policies, some (encodeScheduleState opts.state)⟩

/-- `update`, up to the schedule that it sends to the service -/
def update (scheduleId : String) (raw : DescribeScheduleResponse)
    (updateFn : ScheduleDescription → ScheduleUpdateOptions) : Except JsError Schedule := do
  let current ← h.describe scheduleId raw
  let startWorkflow := (current.raw.schedule.bind Schedule.action).bind ProtoScheduleAction.startWorkflow
  let header := startWorkflow.bind NewWorkflowExecutionInfo.header
  let currentHeader := (header.bind PayloadFields.fields).getD []
  let updated := updateFn current
  assertRequiredScheduleOptions updated
  h.encodeUpdatedSchedule updated currentHeader

end ScheduleHelpers

end TemporalSdk
