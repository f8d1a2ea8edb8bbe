import TemporalSdk.Common.DataConverter
import TemporalSdk.Common.RetryPolicy

/-!
# Schedule helpers

The encoders and decoders between the schedules of the service and the schedule options and
descriptions of the client. A field that is absent, `null` or `undefined` is `none`; the numbers of
calendars are integers.
-/

namespace TemporalSdk

/-! ### Schedules of the service -/

/-- `temporal.api.schedule.v1.Range` -/
structure ProtoRange where
  start : ℤ
  end_ : ℤ
  step : ℤ
deriving DecidableEq

structure StructuredCalendarSpec where
  second : Option (List ProtoRange)
  minute : Option (List ProtoRange)
  hour : Option (List ProtoRange)
  dayOfMonth : Option (List ProtoRange)
  month : Option (List ProtoRange)
  year : Option (List ProtoRange)
  dayOfWeek : Option (List ProtoRange)
  comment : Option String
deriving DecidableEq

/-- `temporal.api.schedule.v1.IIntervalSpec` -/
structure ProtoIntervalSpec where
  interval : Option Timestamp
  phase : Option Timestamp
deriving DecidableEq

/-- `temporal.api.schedule.v1.IScheduleSpec` -/
structure ProtoScheduleSpec where
  structuredCalendar : Option (List StructuredCalendarSpec)
  interval : Option (List ProtoIntervalSpec)
  cronString : Option (List String)
  excludeStructuredCalendar : Option (List StructuredCalendarSpec)
  startTime : Option Timestamp
  endTime : Option Timestamp
  jitter : Option Timestamp
  timezoneName : Option String
deriving DecidableEq

inductive TaskQueueKind
  | unspecified
  | normal
  | sticky
deriving DecidableEq

structure TaskQueue where
  kind : TaskQueueKind
  name : Option String
deriving DecidableEq

/-- An object whose only field is a record of payloads: a memo, search attributes or a header -/
structure PayloadFields where
  fields : Option (PayloadRecord Payload)
deriving DecidableEq

/-- The `startWorkflow` of a schedule action -/
structure NewWorkflowExecutionInfo where
  workflowId : Option String
  workflowType : Option TypeName
  taskQueue : Option TaskQueue
  input : Option Payloads
  workflowExecutionTimeout : Option Timestamp
  workflowRunTimeout : Option Timestamp
  workflowTaskTimeout : Option Timestamp
  retryPolicy : Option ProtoRetryPolicy
  memo : Option PayloadFields
  searchAttributes : Option PayloadFields
  header : Option PayloadFields
deriving DecidableEq

/-- `temporal.api.schedule.v1.IScheduleAction` -/
structure ProtoScheduleAction where
  startWorkflow : Option NewWorkflowExecutionInfo
deriving DecidableEq

/-- `temporal.api.enums.v1.ScheduleOverlapPolicy`, whose number 0 is `unspecified` -/
inductive ProtoOverlapPolicy
  | unspecified
  | skip
  | bufferOne
  | bufferAll
  | cancelOther
  | terminateOther
  | allowAll
deriving DecidableEq

structure SchedulePolicies where
  overlapPolicy : Option ProtoOverlapPolicy
  catchupWindow : Option Timestamp
  pauseOnFailure : Option Bool
deriving DecidableEq

structure ScheduleState where
  notes : Option String
  paused : Option Bool
  limitedActions : Option Bool
  remainingActions : Option ℤ
deriving DecidableEq

/-- `temporal.api.schedule.v1.ISchedule` -/
structure Schedule where
  spec : Option ProtoScheduleSpec
  action : Option ProtoScheduleAction
  policies : Option SchedulePolicies
  state : Option ScheduleState
deriving DecidableEq

/-! ### Options and descriptions of the client -/

inductive Month
  | january
  | february
  | march
  | april
  | may
  | june
  | july
  | august
  | september
  | october
  | november
  | december
deriving DecidableEq

inductive DayOfWeek
  | sunday
  | monday
  | tuesday
  | wednesday
  | thursday
  | friday
  | saturday
deriving DecidableEq

open Month in
/-- `MONTHS`, with the names that the enumeration stands for -/
def MONTHS : List (Month × String) :=
  [(january, "JANUARY"), (february, "FEBRUARY"), (march, "MARCH"), (april, "APRIL"), (may, "MAY"),
    (june, "JUNE"), (july, "JULY"), (august, "AUGUST"), (september, "SEPTEMBER"), (october, "OCTOBER"),
    (november, "NOVEMBER"), (december, "DECEMBER")]

open DayOfWeek in
/-- `DAYS_OF_WEEK` -/
def DAYS_OF_WEEK : List (DayOfWeek × String) :=
  [(sunday, "SUNDAY"), (monday, "MONDAY"), (tuesday, "TUESDAY"), (wednesday, "WEDNESDAY"),
    (thursday, "THURSDAY"), (friday, "FRIDAY"), (saturday, "SATURDAY")]

/-- `Range<Unit>`; what a decoder does not know is `undefined` in it. -/
structure Range (Unit : Type) where
  start : Option Unit
  end_ : Option Unit
  step : ℤ

/-- `LooseRange<Unit>`: an object or a value -/
inductive LooseRange (Unit : Type)
  | range (start end_ : Option Unit) (step : Option ℤ)
  | value (x : Unit)

/-- The field of a calendar spec, when it is not `undefined` -/
inductive CalendarField (Unit : Type)
  | all
  | one (item : LooseRange Unit)
  | many (items : List (LooseRange Unit))

structure CalendarSpec where
  second : Option (CalendarField ℤ)
  minute : Option (CalendarField ℤ)
  hour : Option (CalendarField ℤ)
  dayOfMonth : Option (CalendarField ℤ)
  month : Option (CalendarField Month)
  year : Option (CalendarField ℤ)
  dayOfWeek : Option (CalendarField DayOfWeek)
  comment : Option String

structure CalendarSpecDescription where
  second : List (Range ℤ)
  minute : List (Range ℤ)
  hour : List (Range ℤ)
  dayOfMonth : List (Range ℤ)
  month : List (Range Month)
  year : List (Range ℤ)
  dayOfWeek : List (Range DayOfWeek)
  comment : Option String

structure IntervalSpec where
  every : Option Duration
  offset : Option Duration

structure IntervalSpecDescription where
  every : Option JsNumber
  offset : Option JsNumber

structure ScheduleSpec where
  calendars : Option (List CalendarSpec)
  intervals : Option (List IntervalSpec)
  cronExpressions : Option (List String)
  skip : Option (List CalendarSpec)
  startAt : Option JsDate
  endAt : Option JsDate
  jitter : Option Duration
  timezone : Option String

structure ScheduleSpecDescription where
  calendars : List CalendarSpecDescription
  intervals : List IntervalSpecDescription
  skip : List CalendarSpecDescription
  startAt : Option JsDate
  endAt : Option JsDate
  jitter : Option JsNumber
  timezone : Option String

inductive WorkflowTypeOrFunc
  | name (workflowType : String)
  | function (name : String)
deriving DecidableEq

/-- `ScheduleOptionsAction`; in updates the workflow id has no default. -/
structure ScheduleOptionsAction where
  workflowId : Option String
  workflowType : Option WorkflowTypeOrFunc
  taskQueue : Option String
  args : Option (List JsValue)
  memo : Option (PayloadRecord JsValue)
  searchAttributes : Option (PayloadRecord JsValue)
  retry : Option RetryPolicy
  workflowExecutionTimeout : Option Duration
  workflowRunTimeout : Option Duration
  workflowTaskTimeout : Option Duration

structure CompiledScheduleAction where
  workflowId : Option String
  workflowType : String
  taskQueue : Option String
  args : List JsValue
  memo : Option (PayloadRecord JsValue)
  searchAttributes : Option (PayloadRecord JsValue)
  retry : Option RetryPolicy
  workflowExecutionTimeout : Option Duration
  workflowRunTimeout : Option Duration
  workflowTaskTimeout : Option Duration

structure ScheduleDescriptionAction where
  workflowId : Option String
  workflowType : Option String
  taskQueue : Option String
  args : List JsValue
  memo : Option (PayloadRecord JsValue)
  retry : Option RetryPolicy
  searchAttributes : PayloadRecord JsValue
  workflowExecutionTimeout : Option JsNumber
  workflowRunTimeout : Option JsNumber
  workflowTaskTimeout : Option JsNumber

inductive ScheduleOverlapPolicy
  | UNSPECIFIED
  | SKIP
  | BUFFER_ONE
  | BUFFER_ALL
  | CANCEL_OTHER
  | TERMINATE_OTHER
  | ALLOW_ALL
deriving DecidableEq

structure SchedulePoliciesOptions where
  overlap : Option ScheduleOverlapPolicy
  catchupWindow : Option Duration
  pauseOnFailure : Option Bool

structure ScheduleStateOptions where
  paused : Option Bool
  note : Option String
  remainingActions : Option JsNumber

/-- `ScheduleUpdateOptions` -/
structure ScheduleUpdateOptions where
  spec : ScheduleSpec
  action : ScheduleOptionsAction
  policies : Option SchedulePoliciesOptions
  state : Option ScheduleStateOptions

/-! ### Fields of calendars -/

/-- The arguments of `makeCalendarSpecFieldCoders`, with the text and the type of a value -/
structure CalendarSpecField (Unit : Type) where
  fieldName : String
  encodeValueFn : Unit → Option ℤ
  decodeValueFn : ℤ → Option Unit
  defaultValue : List ProtoRange
  matchAllValue : List ProtoRange
  text : Unit → String
  type : String

namespace CalendarSpecField

variable {Unit : Type} (field : CalendarSpecField Unit)

def invalid (text type : String) : JsError :=
  .typeError (s!"Invalid CalendarSpec component for field {field.fieldName}: '{text}' of type '{type}'")

def encodeItem : LooseRange Unit → Except JsError ProtoRange
  | .range start end_ step =>
    match start.bind field.encodeValueFn with
    | some first =>
      .ok ⟨first, end_.elim 1 fun last => (field.encodeValueFn last).getD first,
        step.elim 1 fun step => if 0 < step then step else 1⟩
    | none => .error (field.invalid "[object Object]" "object")
  | .value x =>
    match field.encodeValueFn x with
    | some value => .ok ⟨value, value, 1⟩
    | none => .error (field.invalid (field.text x) field.type)

def encoder : Option (CalendarField Unit) → Except JsError (List ProtoRange)
  | none => .ok field.defaultValue
  | some .all => .ok field.matchAllValue
  | some (.one item) => [item].mapM field.encodeItem
  | some (.many items) => items.mapM field.encodeItem

def decodeRange (pb : ProtoRange) : Range Unit :=
  let start := field.decodeValueFn pb.start
  { start
    end_ := if pb.start < pb.end_ then (field.decodeValueFn pb.end_).or start else start
    step := if 0 < pb.step then pb.step else 1 }

def decoder (input : Option (List ProtoRange)) : List (Range Unit) :=
  (input.getD []).map field.decodeRange

/-- A field of numbers that are encoded when `valid` -/
def numeric (fieldName : String) (valid : ℤ → Bool) (defaultValue matchAllValue : List ProtoRange) :
    CalendarSpecField ℤ where
  fieldName
  encodeValueFn x := if valid x then some x else none
  decodeValueFn := some
  defaultValue
  matchAllValue
  text := toString
  type := "number"

/-- A field of names that are encoded as their place in a list, counted from `first` -/
def named {Name : Type} [DecidableEq Name] (fieldName : String) (names : List (Name × String)) (first : ℤ)
    (defaultValue : List ProtoRange) : CalendarSpecField Name where
  fieldName
  encodeValueFn name := ((names.map Prod.fst).idxOf? name).map fun index => index + first
  decodeValueFn n := if n < first then none else ((names.map Prod.fst)[(n - first).toNat]?)
  defaultValue
  matchAllValue := defaultValue
  text name := (names.lookup name).getD ""
  type := "string"

end CalendarSpecField

open CalendarSpecField

def secondField := numeric "second" (fun x => 0 ≤ x && x ≤ 59) [⟨0, 0, 0⟩] [⟨0, 59, 1⟩]

def minuteField := numeric "minute" (fun x => 0 ≤ x && x ≤ 59) [⟨0, 0, 0⟩] [⟨0, 59, 1⟩]

def hourField := numeric "hour" (fun x => 0 ≤ x && x ≤ 23) [⟨0, 0, 0⟩] [⟨0, 23, 1⟩]

def dayOfMonthField := numeric "dayOfMonth" (fun x => 0 ≤ x && x ≤ 31) [⟨1, 31, 1⟩] [⟨1, 31, 1⟩]

def monthField := named "month" MONTHS 1 [⟨1, 12, 1⟩]

/-- Matching all years is encoded as no range at all. -/
def yearField := numeric "year" (fun _ => true) [] []

def dayOfWeekField := named "dayOfWeek" DAYS_OF_WEEK 0 [⟨0, 6, 1⟩]

def encodeStructuredCalendarSpec (spec : CalendarSpec) : Except JsError StructuredCalendarSpec := do
  let second ← secondField.encoder spec.second
  let minute ← minuteField.encoder spec.minute
  let hour ← hourField.encoder spec.hour
  let dayOfMonth ← dayOfMonthField.encoder spec.dayOfMonth
  let month ← monthField.encoder spec.month
  let year ← yearField.encoder spec.year
  let dayOfWeek ← dayOfWeekField.encoder spec.dayOfWeek
  return ⟨second, minute, hour, dayOfMonth, month, year, dayOfWeek, spec.comment⟩

def encodeOptionalStructuredCalendarSpecs (input : Option (List CalendarSpec)) :
    Except JsError (Option (List StructuredCalendarSpec)) :=
  input.mapM fun specs => specs.mapM encodeStructuredCalendarSpec

def decodeStructuredCalendarSpec (pb : StructuredCalendarSpec) : CalendarSpecDescription where
  second := secondField.decoder pb.second
  minute := minuteField.decoder pb.minute
  hour := hourField.decoder pb.hour
  dayOfMonth := dayOfMonthField.decoder pb.dayOfMonth
  month := monthField.decoder pb.month
  year := yearField.decoder pb.year
  dayOfWeek := dayOfWeekField.decoder pb.dayOfWeek
  comment := pb.comment

def decodeOptionalStructuredCalendarSpecs (input : Option (List StructuredCalendarSpec)) :
    List CalendarSpecDescription :=
  (input.getD []).map decodeStructuredCalendarSpec

/-! ### Overlap policies -/

def ScheduleOverlapPolicy.all : List ScheduleOverlapPolicy :=
  [.UNSPECIFIED, .SKIP, .BUFFER_ONE, .BUFFER_ALL, .CANCEL_OTHER, .TERMINATE_OTHER, .ALLOW_ALL]

def ScheduleOverlapPolicy.name : ScheduleOverlapPolicy → String
  | UNSPECIFIED => "UNSPECIFIED"
  | SKIP => "SKIP"
  | BUFFER_ONE => "BUFFER_ONE"
  | BUFFER_ALL => "BUFFER_ALL"
  | CANCEL_OTHER => "CANCEL_OTHER"
  | TERMINATE_OTHER => "TERMINATE_OTHER"
  | ALLOW_ALL => "ALLOW_ALL"

def ProtoOverlapPolicy.all : List ProtoOverlapPolicy :=
  [unspecified, skip, bufferOne, bufferAll, cancelOther, terminateOther, allowAll]

def ProtoOverlapPolicy.name : ProtoOverlapPolicy → String
  | unspecified => "SCHEDULE_OVERLAP_POLICY_UNSPECIFIED"
  | skip => "SCHEDULE_OVERLAP_POLICY_SKIP"
  | bufferOne => "SCHEDULE_OVERLAP_POLICY_BUFFER_ONE"
  | bufferAll => "SCHEDULE_OVERLAP_POLICY_BUFFER_ALL"
  | cancelOther => "SCHEDULE_OVERLAP_POLICY_CANCEL_OTHER"
  | terminateOther => "SCHEDULE_OVERLAP_POLICY_TERMINATE_OTHER"
  | allowAll => "SCHEDULE_OVERLAP_POLICY_ALLOW_ALL"

def encodeOverlapPolicy (input : ScheduleOverlapPolicy) : Option ProtoOverlapPolicy :=
  ProtoOverlapPolicy.all.find? fun policy => policy.name = "SCHEDULE_OVERLAP_POLICY_" ++ input.name

/-- `overlap ? encodeOverlapPolicy(overlap) : undefined`, where `UNSPECIFIED` is the number 0 -/
def encodeTruthyOverlap (overlap : Option ScheduleOverlapPolicy) : Option ProtoOverlapPolicy :=
  overlap.bind fun overlap => if overlap = .UNSPECIFIED then none else encodeOverlapPolicy overlap

def decodeOverlapPolicy (input : Option ProtoOverlapPolicy) : Option ScheduleOverlapPolicy :=
  match input with
  | none => some .UNSPECIFIED
  | some .unspecified => some .UNSPECIFIED
  | some input =>
    let decodedPolicyName := input.name.toList.drop "SCHEDULE_OVERLAP_POLICY_".length
    ScheduleOverlapPolicy.all.find? fun policy => policy.name.toList = decodedPolicyName

/-! ### Schedules -/

def extractWorkflowType : WorkflowTypeOrFunc → Except JsError String
  | .name workflowType => .ok workflowType
  | .function name =>
    if name ≠ "" then .ok name
    else .error (.typeError "Invalid workflow type: the workflow function is anonymous")

/-- What the helpers use: the data converter, the converter of search attributes and the `ms` package,
which throws when it is given `undefined` -/
structure ScheduleHelpers where
  dataConverter : LoadedDataConverter
  searchAttributePayloadConverter : SearchAttributePayloadConverter
  parseMs : String → Option JsNumber
  msUndefined : JsError

namespace ScheduleHelpers

variable (h : ScheduleHelpers)

def encodeInterval (interval : IntervalSpec) : Except JsError ProtoIntervalSpec := do
  let every ← match interval.every with
    | some every => msToTs h.parseMs every
    | none => throw h.msUndefined
  let phase ← msOptionalToTs h.parseMs interval.offset
  return ⟨some every, phase⟩

def encodeScheduleSpec (spec : ScheduleSpec) : Except JsError ProtoScheduleSpec := do
  let structuredCalendar ← encodeOptionalStructuredCalendarSpecs spec.calendars
  let interval ← spec.intervals.mapM fun intervals => intervals.mapM h.encodeInterval
  let excludeStructuredCalendar ← encodeOptionalStructuredCalendarSpecs spec.skip
  let startTime ← optionalDateToTs spec.startAt
  let endTime ← optionalDateToTs spec.endAt
  let jitter ← msOptionalToTs h.parseMs spec.jitter
  return {
    structuredCalendar
    interval
    cronString := spec.cronExpressions
    excludeStructuredCalendar
    startTime
    endTime
    jitter
    timezoneName := spec.timezone }

def encodeScheduleAction (action : CompiledScheduleAction) (headers : PayloadRecord Payload) :
    Except JsError ProtoScheduleAction := do
  let payloads ← h.dataConverter.encodeToPayloads action.args
  let workflowExecutionTimeout ← msOptionalToTs h.parseMs action.workflowExecutionTimeout
  let workflowRunTimeout ← msOptionalToTs h.parseMs action.workflowRunTimeout
  let workflowTaskTimeout ← msOptionalToTs h.parseMs action.workflowTaskTimeout
  let retryPolicy ← action.retry.mapM (compileRetryPolicy h.parseMs)
  let memo ← action.memo.mapM h.dataConverter.encodeMapToPayloads
  let searchAttributes ← action.searchAttributes.mapM h.searchAttributePayloadConverter.mapToPayloads
  return ⟨some {
    workflowId := action.workflowId
    workflowType := some ⟨some action.workflowType⟩
    input := some ⟨payloads⟩
    taskQueue := some ⟨.unspecified, action.taskQueue⟩
    workflowExecutionTimeout
    workflowRunTimeout
    workflowTaskTimeout
    retryPolicy
    memo := memo.map fun fields => ⟨some fields⟩
    searchAttributes := searchAttributes.map fun indexedFields => ⟨some indexedFields⟩
    header := some ⟨some headers⟩ }⟩

def encodeSchedulePolicies (policies : Option SchedulePoliciesOptions) : Except JsError SchedulePolicies := do
  let catchupWindow ← msOptionalToTs h.parseMs (policies.bind SchedulePoliciesOptions.catchupWindow)
  return {
    catchupWindow
    overlapPolicy := encodeTruthyOverlap (policies.bind SchedulePoliciesOptions.overlap)
    pauseOnFailure := policies.bind SchedulePoliciesOptions.pauseOnFailure }

end ScheduleHelpers

def encodeScheduleState (state : Option ScheduleStateOptions) : ScheduleState :=
  let remainingActions := state.bind ScheduleStateOptions.remainingActions
  { paused := state.bind ScheduleStateOptions.paused
    notes := state.bind ScheduleStateOptions.note
    limitedActions := some remainingActions.isSome
    remainingActions := match remainingActions with
      | none => none
      | some remaining => if (Duration.number remaining).truthy then some remaining.toLong else none }

def decodeScheduleSpec (pb : ProtoScheduleSpec) : ScheduleSpecDescription where
  calendars := decodeOptionalStructuredCalendarSpecs pb.structuredCalendar
  intervals := (pb.interval.getD []).map fun x => ⟨optionalTsToMs x.interval, optionalTsToMs x.phase⟩
  skip := decodeOptionalStructuredCalendarSpecs pb.excludeStructuredCalendar
  startAt := optionalTsToDate pb.startTime
  endAt := optionalTsToDate pb.endTime
  jitter := optionalTsToMs pb.jitter
  timezone := pb.timezoneName

/-- Reading the property `name` of `null` -/
def nullProperty (name : String) : JsError :=
  .typeError (s!"Cannot read properties of null (reading '{name}')")

def ScheduleHelpers.decodeScheduleAction (h : ScheduleHelpers) (pb : ProtoScheduleAction) :
    Except JsError ScheduleDescriptionAction := do
  match pb.startWorkflow with
  | some startWorkflow =>
    let some workflowType := startWorkflow.workflowType | throw (nullProperty "name")
    let some taskQueue := startWorkflow.taskQueue | throw (nullProperty "name")
    let args ← h.dataConverter.decodeArrayFromPayloads (startWorkflow.input.bind Payloads.payloads)
    let memo ← h.dataConverter.decodeMapFromPayloads (startWorkflow.memo.bind PayloadFields.fields)
    let searchAttributes ← h.searchAttributePayloadConverter.mapFromPayloads
      ((startWorkflow.searchAttributes.bind PayloadFields.fields).getD [])
    return {
      workflowId := startWorkflow.workflowId
      workflowType := workflowType.name
      taskQueue := taskQueue.name
      args
      memo
      retry := decompileRetryPolicy startWorkflow.retryPolicy
      searchAttributes
      workflowExecutionTimeout := optionalTsToMs startWorkflow.workflowExecutionTimeout
      workflowRunTimeout := optionalTsToMs startWorkflow.workflowRunTimeout
      workflowTaskTimeout := optionalTsToMs startWorkflow.workflowTaskTimeout }
  | none => throw (.typeError "Unsupported schedule action")

end TemporalSdk
