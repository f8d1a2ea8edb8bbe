import Mathlib.Tactic.Linarith
import Mathlib.Tactic.IntervalCases
import TemporalSdk.Client.ScheduleClient
import TemporalSdk.Common.Timestamps

/-!
# Updating a schedule with its own description

What a schedule means, apart from how its fields are written: the times that its calendars match,
the lengths of its durations, the values of its payloads. An update with the description itself
sends a schedule that means the same.
-/

namespace TemporalSdk

/-! ### The meaning of a schedule -/

/-- The numbers in a range; it ends where it starts when its end is not behind that, and its steps
are 1 when none is given. -/
def ProtoRange.values (range : ProtoRange) : Set ℤ :=
  {n | ∃ k : ℕ, n = range.start + k * (if 0 < range.step then range.step else 1) ∧
    n ≤ max range.start range.end_}

/-- The numbers that a field of a calendar matches; `none` when it has no range. -/
def fieldValues (ranges : Option (List ProtoRange)) : Option (Set ℤ) :=
  match (ranges.getD []).map ProtoRange.values with
  | [] => none
  | sets => some {n | ∃ s ∈ sets, n ∈ s}

/-- The length of a duration, in nanoseconds; an absent one has the length 0. -/
def durationOf (ts : Option Timestamp) : ℚ := (ts.map Timestamp.nanoseconds).getD 0

structure CalendarMeaning where
  second : Option (Set ℤ)
  minute : Option (Set ℤ)
  hour : Option (Set ℤ)
  dayOfMonth : Option (Set ℤ)
  month : Option (Set ℤ)
  year : Option (Set ℤ)
  dayOfWeek : Option (Set ℤ)
  comment : String

def StructuredCalendarSpec.meaning (calendar : StructuredCalendarSpec) : CalendarMeaning where
  second := fieldValues calendar.second
  minute := fieldValues calendar.minute
  hour := fieldValues calendar.hour
  dayOfMonth := fieldValues calendar.dayOfMonth
  month := fieldValues calendar.month
  year := fieldValues calendar.year
  dayOfWeek := fieldValues calendar.dayOfWeek
  comment := calendar.comment.getD ""

structure IntervalMeaning where
  interval : ℚ
  phase : ℚ

def ProtoIntervalSpec.meaning (interval : ProtoIntervalSpec) : IntervalMeaning where
  interval := durationOf interval.interval
  phase := durationOf interval.phase

structure SpecMeaning where
  calendars : List CalendarMeaning
  intervals : List IntervalMeaning
  cronStrings : List String
  excludedCalendars : List CalendarMeaning
  startTime : Option ℚ
  endTime : Option ℚ
  jitter : ℚ
  timezone : String

def ProtoScheduleSpec.meaning (spec : ProtoScheduleSpec) : SpecMeaning where
  calendars := (spec.structuredCalendar.getD []).map StructuredCalendarSpec.meaning
  intervals := (spec.interval.getD []).map ProtoIntervalSpec.meaning
  cronStrings := spec.cronString.getD []
  excludedCalendars := (spec.excludeStructuredCalendar.getD []).map StructuredCalendarSpec.meaning
  startTime := spec.startTime.map Timestamp.nanoseconds
  endTime := spec.endTime.map Timestamp.nanoseconds
  jitter := durationOf spec.jitter
  timezone := spec.timezoneName.getD ""

structure PoliciesMeaning where
  overlapPolicy : ProtoOverlapPolicy
  catchupWindow : ℚ
  pauseOnFailure : Bool

def policiesMeaning (policies : Option SchedulePolicies) : PoliciesMeaning where
  overlapPolicy := (policies.bind SchedulePolicies.overlapPolicy).getD .unspecified
  catchupWindow := durationOf (policies.bind SchedulePolicies.catchupWindow)
  pauseOnFailure := (policies.bind SchedulePolicies.pauseOnFailure).getD false

/-- The actions that remain are counted only where actions are limited. -/
structure StateMeaning where
  paused : Bool
  notes : String
  remainingActions : Option ℤ

def stateMeaning (state : Option ScheduleState) : StateMeaning where
  paused := (state.bind ScheduleState.paused).getD false
  notes := (state.bind ScheduleState.notes).getD ""
  remainingActions :=
    if state.bind ScheduleState.limitedActions = some true then
      some ((state.bind ScheduleState.remainingActions).getD 0)
    else none

/-- The fields of an action that the client knows, the task queue by its name; the arguments, the memo
and the search attributes are the values that their payloads are decoded to. -/
structure ActionMeaning where
  workflowId : String
  workflowType : String
  taskQueue : String
  args : Except JsError (List JsValue)
  memo : Except JsError (PayloadRecord JsValue)
  searchAttributes : Except JsError (PayloadRecord JsValue)
  workflowExecutionTimeout : ℚ
  workflowRunTimeout : ℚ
  workflowTaskTimeout : ℚ
  header : PayloadRecord Payload

structure ScheduleMeaning where
  spec : Option SpecMeaning
  action : Option ActionMeaning
  policies : PoliciesMeaning
  state : StateMeaning

section Meaning

variable (h : ScheduleHelpers) (types : String → Option (List UInt8))

def NewWorkflowExecutionInfo.meaning (action : NewWorkflowExecutionInfo) : ActionMeaning where
  workflowId := action.workflowId.getD ""
  workflowType := (action.workflowType.bind TypeName.name).getD ""
  taskQueue := (action.taskQueue.bind TaskQueue.name).getD ""
  args := h.dataConverter.decodeArrayFromPayloads (action.input.bind Payloads.payloads)
  memo := (h.dataConverter.decodeMapFromPayloads (action.memo.bind PayloadFields.fields)).map (·.getD [])
  searchAttributes := h.searchAttributePayloadConverter.attributeValues types
    ((action.searchAttributes.bind PayloadFields.fields).getD [])
  workflowExecutionTimeout := durationOf action.workflowExecutionTimeout
  workflowRunTimeout := durationOf action.workflowRunTimeout
  workflowTaskTimeout := durationOf action.workflowTaskTimeout
  header := (action.header.bind PayloadFields.fields).getD []

/-- The types of search attributes are known to the service by their names. -/
def Schedule.meaning (schedule : Schedule) : ScheduleMeaning where
  spec := schedule.spec.map ProtoScheduleSpec.meaning
  action := (schedule.action.bind ProtoScheduleAction.startWorkflow).map
    (NewWorkflowExecutionInfo.meaning h types)
  policies := policiesMeaning schedule.policies
  state := stateMeaning schedule.state

end Meaning

/-! ### Timestamps -/

namespace Timestamp

variable {ts : Timestamp}

/-- A duration that is sent back has its length; one of length 0 is left out. -/
lemma exists_msOptionalToTs (parseMs : String → Option JsNumber) {o : Option Timestamp}
    (hts : ∀ ts ∈ o, ts.WholeMillis ∧ ts.Exact) :
    ∃ o', msOptionalToTs parseMs ((optionalTsToMs o).map .number) = .ok o' ∧
      durationOf o' = durationOf o := by
  cases o with
  | none => exact ⟨none, rfl, rfl⟩
  | some ts =>
    obtain ⟨hwhole, hexact⟩ := hts ts rfl
    simp only [optionalTsToMs, Option.map_some, msOptionalToTs]
    by_cases htruthy : (Duration.number (tsToMs ts)).truthy = true
    · refine ⟨some ts, ?_, rfl⟩
      rw [if_pos htruthy, msToTs_tsToMs parseMs hwhole hexact]
      rfl
    · refine ⟨none, by rw [if_neg htruthy], ?_⟩
      rw [hexact] at htruthy
      have hzero : ts.millis = 0 := by simpa [Duration.truthy] using htruthy
      have hns : ts.nanoseconds = 0 := by
        unfold millis at hzero
        linarith
      simp [durationOf, hns]

/-- The milliseconds of the timestamp are within the range of dates. -/
def IsDate (ts : Timestamp) : Prop := ts.millis ≤ 8640000000000000

instance : Decidable ts.IsDate := inferInstanceAs (Decidable (ts.millis ≤ 8640000000000000))

lemma getTime_tsToDate (hts : ts.WholeMillis) (hexact : ts.Exact) (hdate : ts.IsDate) :
    (tsToDate ts).getTime = .finite ts.millis := by
  obtain ⟨k, -, -, hmillis⟩ := hts.exists_millis
  have hseconds := hts.seconds_nonneg
  have hnonneg : 0 ≤ ts.millis := by
    rw [hmillis]
    exact_mod_cast (by omega : (0 : ℤ) ≤ ts.seconds * 1000 + k)
  have hfloor : ((ts.millis.floor : ℤ) : ℚ) = ts.millis := by
    rw [hmillis]
    change ((⌊((ts.seconds * 1000 + k : ℤ) : ℚ)⌋ : ℤ) : ℚ) = _
    rw [Int.floor_intCast]
  rw [tsToDate, hexact, JsDate.ofMs]
  simp only
  rw [if_pos (by rwa [abs_of_nonneg hnonneg]), if_pos hnonneg, hfloor]

/-- A time that is sent back is the same time. -/
lemma optionalDateToTs_optionalTsToDate {o : Option Timestamp}
    (hts : ∀ ts ∈ o, (ts.WholeMillis ∧ ts.Exact) ∧ ts.IsDate) :
    optionalDateToTs (optionalTsToDate o) = .ok o := by
  cases o with
  | none => rfl
  | some ts =>
    obtain ⟨⟨hwhole, hexact⟩, hdate⟩ := hts ts rfl
    rw [optionalTsToDate, Option.map_some, optionalDateToTs, getTime_tsToDate hwhole hexact hdate,
      msNumberToTs_millis hwhole]
    rfl

end Timestamp

/-! ### Fields of calendars -/

namespace CalendarSpecField

variable {Unit : Type} {field : CalendarSpecField Unit} {units : Set ℤ}

/-- The field decodes the numbers, and encodes them back. -/
def Covers (field : CalendarSpecField Unit) (units : Set ℤ) : Prop :=
  ∀ n ∈ units, ∃ x, field.decodeValueFn n = some x ∧ field.encodeValueFn x = some n

/-- The start is among the numbers of the field, and so is the end where it is behind the start. -/
def InRange (units : Set ℤ) (range : ProtoRange) : Prop :=
  range.start ∈ units ∧ (range.start < range.end_ → range.end_ ∈ units)

/-- The end of a decoded range stands for the end of the range, or for its start. -/
lemma exists_end_decodeRange (hfield : field.Covers units) {range : ProtoRange}
    (hrange : InRange units range) :
    ∃ last, (field.decodeRange range).end_ = some last ∧
      field.encodeValueFn last = some (max range.start range.end_) := by
  obtain ⟨hstart, hend⟩ := hrange
  obtain ⟨first, hfirst, hencodeFirst⟩ := hfield range.start hstart
  unfold decodeRange
  by_cases hbehind : range.start < range.end_
  · obtain ⟨last, hlast, hencodeLast⟩ := hfield range.end_ (hend hbehind)
    refine ⟨last, ?_, ?_⟩
    · simp [hbehind, hlast]
    · rw [hencodeLast, max_eq_right hbehind.le]
  · refine ⟨first, ?_, ?_⟩
    · simp [hbehind, hfirst]
    · rw [hencodeFirst, max_eq_left (not_lt.mp hbehind)]

/-- A range that is sent back has a step of at least 1, and an end that is not before its start. -/
lemma encodeItem_decodeRange_eq (hfield : field.Covers units) {range : ProtoRange}
    (hrange : InRange units range) :
    field.encodeItem (field.decodeRange range).toLooseRange =
      .ok ⟨range.start, max range.start range.end_, if 0 < range.step then range.step else 1⟩ := by
  obtain ⟨first, hfirst, hencodeFirst⟩ := hfield range.start hrange.1
  obtain ⟨last, hlast, hencodeLast⟩ := exists_end_decodeRange hfield hrange
  have hstart : (field.decodeRange range).start = some first := hfirst
  have hstep : (if 0 < (if 0 < range.step then range.step else 1) then
      (if 0 < range.step then range.step else 1) else 1) = if 0 < range.step then range.step else 1 := by
    split_ifs <;> omega
  rw [Range.toLooseRange, hstart, hlast, encodeItem, Option.bind_some, hencodeFirst]
  simp only [Option.elim_some, hencodeLast, Option.getD_some, decodeRange, hstep]

/-- A range that is sent back has the numbers of the range. -/
lemma encodeItem_decodeRange (hfield : field.Covers units) {range : ProtoRange}
    (hrange : InRange units range) :
    ∃ encoded, field.encodeItem (field.decodeRange range).toLooseRange = .ok encoded ∧
      encoded.values = range.values := by
  refine ⟨_, encodeItem_decodeRange_eq hfield hrange, ?_⟩
  have hstep : (if 0 < (if 0 < range.step then range.step else 1) then
      (if 0 < range.step then range.step else 1) else 1) = if 0 < range.step then range.step else 1 := by
    split_ifs <;> omega
  unfold ProtoRange.values
  simp only [hstep, le_max_left, max_eq_right]

/-- A field that is sent back matches what the field matches. -/
lemma encoder_decoder (hfield : field.Covers units) {ranges : Option (List ProtoRange)}
    (hranges : ∀ range ∈ ranges.getD [], InRange units range) :
    ∃ encoded, field.encoder (Range.toField (field.decoder ranges)) = .ok encoded ∧
      fieldValues (some encoded) = fieldValues ranges := by
  obtain ⟨encoded, hencoded, hvalues⟩ := Pipeline.mapM_keeps fun range hmem =>
    encodeItem_decodeRange hfield (hranges range hmem)
  refine ⟨encoded, ?_, ?_⟩
  · rw [Range.toField, decoder, encoder, List.map_map, List.mapM_map]
    exact hencoded
  · rw [fieldValues, fieldValues, ← hvalues, Option.getD_some]

lemma numeric_covers {fieldName : String} {valid : ℤ → Bool}
    {defaultValue matchAllValue : List ProtoRange} (hvalid : ∀ n ∈ units, valid n = true) :
    (numeric fieldName valid defaultValue matchAllValue).Covers units := by
  intro n hn
  exact ⟨n, rfl, if_pos (hvalid n hn)⟩

end CalendarSpecField

open CalendarSpecField

/-- The numbers that the calendars of the service have for seconds and for minutes -/
def minuteUnits : Set ℤ := {n | 0 ≤ n ∧ n ≤ 59}

def hourUnits : Set ℤ := {n | 0 ≤ n ∧ n ≤ 23}

def dayOfMonthUnits : Set ℤ := {n | 1 ≤ n ∧ n ≤ 31}

def monthUnits : Set ℤ := {n | 1 ≤ n ∧ n ≤ 12}

def dayOfWeekUnits : Set ℤ := {n | 0 ≤ n ∧ n ≤ 6}

lemma secondField_covers : secondField.Covers minuteUnits :=
  numeric_covers fun n hn => by simpa [minuteUnits] using hn

lemma minuteField_covers : minuteField.Covers minuteUnits :=
  numeric_covers fun n hn => by simpa [minuteUnits] using hn

lemma hourField_covers : hourField.Covers hourUnits :=
  numeric_covers fun n hn => by simpa [hourUnits] using hn

lemma dayOfMonthField_covers : dayOfMonthField.Covers dayOfMonthUnits := by
  apply numeric_covers
  intro n hn
  obtain ⟨hlo, hhi⟩ : 1 ≤ n ∧ n ≤ 31 := hn
  simp only [Bool.and_eq_true, decide_eq_true_eq]
  omega

lemma monthField_covers : monthField.Covers monthUnits := by
  intro n hn
  obtain ⟨hlo, hhi⟩ : 1 ≤ n ∧ n ≤ 12 := hn
  interval_cases n <;> exact ⟨_, rfl, rfl⟩

lemma yearField_covers : yearField.Covers Set.univ := numeric_covers fun _ _ => rfl

lemma dayOfWeekField_covers : dayOfWeekField.Covers dayOfWeekUnits := by
  intro n hn
  obtain ⟨hlo, hhi⟩ : 0 ≤ n ∧ n ≤ 6 := hn
  interval_cases n <;> exact ⟨_, rfl, rfl⟩

/-- Every range of the calendar is within its field. -/
structure StructuredCalendarSpec.InRange (calendar : StructuredCalendarSpec) : Prop where
  second : ∀ range ∈ calendar.second.getD [], CalendarSpecField.InRange minuteUnits range
  minute : ∀ range ∈ calendar.minute.getD [], CalendarSpecField.InRange minuteUnits range
  hour : ∀ range ∈ calendar.hour.getD [], CalendarSpecField.InRange hourUnits range
  dayOfMonth : ∀ range ∈ calendar.dayOfMonth.getD [], CalendarSpecField.InRange dayOfMonthUnits range
  month : ∀ range ∈ calendar.month.getD [], CalendarSpecField.InRange monthUnits range
  dayOfWeek : ∀ range ∈ calendar.dayOfWeek.getD [], CalendarSpecField.InRange dayOfWeekUnits range

/-- A calendar that is sent back matches what the calendar matches. -/
lemma encodeStructuredCalendarSpec_decode {calendar : StructuredCalendarSpec} (h : calendar.InRange) :
    ∃ encoded, encodeStructuredCalendarSpec (decodeStructuredCalendarSpec calendar).toSpec = .ok encoded ∧
      encoded.meaning = calendar.meaning := by
  obtain ⟨second, hsecond, msecond⟩ := encoder_decoder secondField_covers h.second
  obtain ⟨minute, hminute, mminute⟩ := encoder_decoder minuteField_covers h.minute
  obtain ⟨hour, hhour, mhour⟩ := encoder_decoder hourField_covers h.hour
  obtain ⟨dayOfMonth, hdayOfMonth, mdayOfMonth⟩ := encoder_decoder dayOfMonthField_covers h.dayOfMonth
  obtain ⟨month, hmonth, mmonth⟩ := encoder_decoder monthField_covers h.month
  have hyears : ∀ range ∈ calendar.year.getD [], CalendarSpecField.InRange Set.univ range :=
    fun _ _ => ⟨Set.mem_univ _, fun _ => Set.mem_univ _⟩
  obtain ⟨year, hyear, myear⟩ := encoder_decoder yearField_covers hyears
  obtain ⟨dayOfWeek, hdayOfWeek, mdayOfWeek⟩ := encoder_decoder dayOfWeekField_covers h.dayOfWeek
  refine ⟨⟨second, minute, hour, dayOfMonth, month, year, dayOfWeek, calendar.comment⟩, ?_, ?_⟩
  · simp only [encodeStructuredCalendarSpec, CalendarSpecDescription.toSpec, decodeStructuredCalendarSpec,
      hsecond, hminute, hhour, hdayOfMonth, hmonth, hyear, hdayOfWeek]
    rfl
  · simp only [StructuredCalendarSpec.meaning, msecond, mminute, mhour, mdayOfMonth, mmonth, myear,
      mdayOfWeek]

lemma encodeOptionalStructuredCalendarSpecs_decode {calendars : Option (List StructuredCalendarSpec)}
    (h : ∀ calendar ∈ calendars.getD [], calendar.InRange) :
    ∃ encoded, encodeOptionalStructuredCalendarSpecs
        (some ((decodeOptionalStructuredCalendarSpecs calendars).map CalendarSpecDescription.toSpec)) =
        .ok (some encoded) ∧
      encoded.map StructuredCalendarSpec.meaning =
        (calendars.getD []).map StructuredCalendarSpec.meaning := by
  obtain ⟨encoded, hencoded, hmeaning⟩ := Pipeline.mapM_keeps fun calendar hmem =>
    encodeStructuredCalendarSpec_decode (h calendar hmem)
  refine ⟨encoded, ?_, hmeaning⟩
  rw [encodeOptionalStructuredCalendarSpecs, decodeOptionalStructuredCalendarSpecs, List.map_map,
    Option.mapM_some, List.mapM_map]
  exact congrArg (fun r => r >>= fun calendars => pure (some calendars)) hencoded

/-! ### Schedules as the service stores them -/

/-- The timestamps of a spec other than its times -/
def ProtoScheduleSpec.durations (spec : ProtoScheduleSpec) : List Timestamp :=
  ((spec.interval.getD []).flatMap fun interval => interval.interval.toList ++ interval.phase.toList) ++
    spec.jitter.toList

def ProtoScheduleSpec.times (spec : ProtoScheduleSpec) : List Timestamp :=
  spec.startTime.toList ++ spec.endTime.toList

/-- The calendars are within the ranges of their fields, and cron strings have been compiled into
calendars. -/
structure ProtoScheduleSpec.AsStored (spec : ProtoScheduleSpec) : Prop where
  calendars : ∀ calendar ∈ spec.structuredCalendar.getD [], calendar.InRange
  excludedCalendars : ∀ calendar ∈ spec.excludeStructuredCalendar.getD [], calendar.InRange
  cronString : spec.cronString.getD [] = []
  durations : ∀ ts ∈ spec.durations, ts.WholeMillis
  times : ∀ ts ∈ spec.times, ts.WholeMillis

/-- Every interval has its period, numbers have the milliseconds of the durations exactly, and the
times are within the range of dates. -/
structure ProtoScheduleSpec.Expressible (spec : ProtoScheduleSpec) : Prop where
  intervals : ∀ interval ∈ spec.interval.getD [], interval.interval.isSome
  durations : ∀ ts ∈ spec.durations, ts.Exact
  times : ∀ ts ∈ spec.times, ts.Exact ∧ ts.IsDate

def NewWorkflowExecutionInfo.durations (action : NewWorkflowExecutionInfo) : List Timestamp :=
  action.workflowExecutionTimeout.toList ++ action.workflowRunTimeout.toList ++
    action.workflowTaskTimeout.toList

/-- The payloads of the action are decoded to values that round-trip; the payloads of search
attributes have the types of their attributes in them. -/
structure NewWorkflowExecutionInfo.RoundTripsAs (h : ScheduleHelpers)
    (types : String → Option (List UInt8)) (action : NewWorkflowExecutionInfo) (args : List JsValue)
    (memo : Option (PayloadRecord JsValue)) (attributes : PayloadRecord JsValue) : Prop where
  decodesArgs : h.dataConverter.decodeArrayFromPayloads (action.input.bind Payloads.payloads) = .ok args
  argsRoundTrip : ∀ value ∈ args, h.dataConverter.payloadConverter.RoundTrips value
  decodesMemo : h.dataConverter.decodeMapFromPayloads (action.memo.bind PayloadFields.fields) = .ok memo
  memoRoundTrips : ∀ entry ∈ memo.getD [], h.dataConverter.payloadConverter.RoundTrips entry.2
  decodesAttributes : h.searchAttributePayloadConverter.mapFromPayloads
    ((action.searchAttributes.bind PayloadFields.fields).getD []) = .ok attributes
  attributesRoundTrip : ∀ entry ∈ attributes,
    h.searchAttributePayloadConverter.RoundTrips (types entry.1) entry.2
  attributeTypes : ∀ entry ∈ (action.searchAttributes.bind PayloadFields.fields).getD [],
    entry.2.metadata.lookup "type" = types entry.1

/-- The action has no retry policy, and the values of its payloads round-trip. -/
structure NewWorkflowExecutionInfo.AsStored (h : ScheduleHelpers) (types : String → Option (List UInt8))
    (action : NewWorkflowExecutionInfo) : Prop where
  retryPolicy : action.retryPolicy = none
  durations : ∀ ts ∈ action.durations, ts.WholeMillis
  values : ∃ args memo attributes, action.RoundTripsAs h types args memo attributes

/-- The names that an update requires are there, and numbers have the milliseconds of the timeouts. -/
structure NewWorkflowExecutionInfo.Expressible (action : NewWorkflowExecutionInfo) : Prop where
  workflowId : action.workflowId.getD "" ≠ ""
  workflowType : (action.workflowType.bind TypeName.name).getD "" ≠ ""
  taskQueue : (action.taskQueue.bind TaskQueue.name).getD "" ≠ ""
  durations : ∀ ts ∈ action.durations, ts.Exact

/-- A schedule with a spec, a `startWorkflow` action and a catchup window -/
structure Schedule.AsStored (h : ScheduleHelpers) (types : String → Option (List UInt8))
    (schedule : Schedule) : Prop where
  spec : ∃ spec, schedule.spec = some spec ∧ spec.AsStored
  action : ∃ action, schedule.action = some ⟨some action⟩ ∧ action.AsStored h types
  catchupWindow : ∃ ts, schedule.policies.bind SchedulePolicies.catchupWindow = some ts ∧ ts.WholeMillis

/-- The number of actions that remain, where actions are limited, is the same after it was converted
to a number and back. -/
def ScheduleState.Expressible (state : ScheduleState) : Prop :=
  state.limitedActions = some true →
    longFromNumber (longToNumber (state.remainingActions.getD 0)) = state.remainingActions.getD 0

/-- The numbers and dates of the client can express the schedule, and an update accepts its names. -/
structure Schedule.Expressible (schedule : Schedule) : Prop where
  spec : ∀ spec ∈ schedule.spec, spec.Expressible
  action : ∀ action ∈ schedule.action.bind ProtoScheduleAction.startWorkflow, action.Expressible
  catchupWindow : ∀ ts ∈ schedule.policies.bind SchedulePolicies.catchupWindow, ts.Exact
  state : ∀ state ∈ schedule.state, state.Expressible

/-- Whatever else the response has can be decoded. -/
structure ScheduleHelpers.Describes (h : ScheduleHelpers) (raw : DescribeScheduleResponse) : Prop where
  memo : ∃ memo, h.dataConverter.decodeMapFromPayloads (raw.memo.bind PayloadFields.fields) = .ok memo
  searchAttributes : ∃ attributes, h.decodeSearchAttributes raw.searchAttributes = .ok attributes
  info : ∃ info, decodeScheduleInfo raw.info = .ok info

/-! ### What is sent back -/

lemma ProtoScheduleSpec.mem_durations {spec : ProtoScheduleSpec} {ts : Timestamp} :
    ts ∈ spec.durations ↔
      (∃ interval ∈ spec.interval.getD [], ts ∈ interval.interval ∨ ts ∈ interval.phase) ∨
        ts ∈ spec.jitter := by
  simp only [durations, List.mem_append, List.mem_flatMap, Option.mem_toList, Option.mem_def]

lemma ProtoScheduleSpec.mem_times {spec : ProtoScheduleSpec} {ts : Timestamp} :
    ts ∈ spec.times ↔ ts ∈ spec.startTime ∨ ts ∈ spec.endTime := by
  simp only [times, List.mem_append, Option.mem_toList, Option.mem_def]

lemma NewWorkflowExecutionInfo.mem_durations {action : NewWorkflowExecutionInfo} {ts : Timestamp} :
    ts ∈ action.durations ↔ (ts ∈ action.workflowExecutionTimeout ∨ ts ∈ action.workflowRunTimeout) ∨
      ts ∈ action.workflowTaskTimeout := by
  simp only [durations, List.mem_append, Option.mem_toList, Option.mem_def]

section Encode

variable {h : ScheduleHelpers} {types : String → Option (List UInt8)}

lemma encodeInterval_decode {interval : ProtoIntervalSpec} (hperiod : interval.interval.isSome)
    (hinterval : ∀ ts ∈ interval.interval, ts.WholeMillis ∧ ts.Exact)
    (hphase : ∀ ts ∈ interval.phase, ts.WholeMillis ∧ ts.Exact) :
    ∃ encoded, h.encodeInterval (IntervalSpecDescription.toSpec
        ⟨optionalTsToMs interval.interval, optionalTsToMs interval.phase⟩) = .ok encoded ∧
      encoded.meaning = interval.meaning := by
  obtain ⟨ts, hts⟩ := Option.isSome_iff_exists.mp hperiod
  obtain ⟨hwhole, hexact⟩ := hinterval ts hts
  obtain ⟨phase, hencoded, hlength⟩ := Timestamp.exists_msOptionalToTs h.parseMs hphase
  refine ⟨⟨some ts, phase⟩, ?_, ?_⟩
  · rw [ScheduleHelpers.encodeInterval, IntervalSpecDescription.toSpec, hts]
    simp only [optionalTsToMs, Option.map_some, Timestamp.msToTs_tsToMs h.parseMs hwhole hexact]
    simp only [optionalTsToMs] at hencoded
    simp only [bind, Except.bind, hencoded]
    rfl
  · rw [ProtoIntervalSpec.meaning, ProtoIntervalSpec.meaning, hlength, hts]

lemma encodeScheduleSpec_decode {spec : ProtoScheduleSpec} (hstored : spec.AsStored)
    (hexpressible : spec.Expressible) :
    ∃ encoded, h.encodeScheduleSpec (decodeScheduleSpec spec).toSpec = .ok encoded ∧
      encoded.meaning = spec.meaning := by
  have hdurations : ∀ ts ∈ spec.durations, ts.WholeMillis ∧ ts.Exact :=
    fun ts hts => ⟨hstored.durations ts hts, hexpressible.durations ts hts⟩
  have htimes : ∀ ts ∈ spec.times, (ts.WholeMillis ∧ ts.Exact) ∧ ts.IsDate := by
    intro ts hts
    obtain ⟨hexact, hdate⟩ := hexpressible.times ts hts
    exact ⟨⟨hstored.times ts hts, hexact⟩, hdate⟩
  obtain ⟨calendars, hcalendars, mcalendars⟩ :=
    encodeOptionalStructuredCalendarSpecs_decode hstored.calendars
  obtain ⟨excluded, hexcluded, mexcluded⟩ :=
    encodeOptionalStructuredCalendarSpecs_decode hstored.excludedCalendars
  obtain ⟨intervals, hintervals, mintervals⟩ := Pipeline.mapM_keeps fun interval hmem =>
    encodeInterval_decode (h := h) (hexpressible.intervals interval hmem)
      (fun ts hts => hdurations ts (ProtoScheduleSpec.mem_durations.mpr (Or.inl ⟨interval, hmem, Or.inl hts⟩)))
      (fun ts hts => hdurations ts (ProtoScheduleSpec.mem_durations.mpr (Or.inl ⟨interval, hmem, Or.inr hts⟩)))
  have hstart := Timestamp.optionalDateToTs_optionalTsToDate (o := spec.startTime) fun ts hts =>
    htimes ts (ProtoScheduleSpec.mem_times.mpr (Or.inl hts))
  have hend := Timestamp.optionalDateToTs_optionalTsToDate (o := spec.endTime) fun ts hts =>
    htimes ts (ProtoScheduleSpec.mem_times.mpr (Or.inr hts))
  obtain ⟨jitter, hjitter, mjitter⟩ := Timestamp.exists_msOptionalToTs h.parseMs (o := spec.jitter)
    fun ts hts => hdurations ts (ProtoScheduleSpec.mem_durations.mpr (Or.inr hts))
  have hmap : (some ((decodeScheduleSpec spec).intervals.map IntervalSpecDescription.toSpec)).mapM
      (fun intervals => intervals.mapM h.encodeInterval) = .ok (some intervals) := by
    rw [decodeScheduleSpec, List.map_map, Option.mapM_some, List.mapM_map]
    exact congrArg (fun r => r >>= fun intervals => pure (some intervals)) hintervals
  refine ⟨⟨some calendars, some intervals, none, some excluded, spec.startTime, spec.endTime, jitter,
    spec.timezoneName⟩, ?_, ?_⟩
  · simp only [ScheduleHelpers.encodeScheduleSpec, ScheduleSpecDescription.toSpec, hmap]
    simp only [decodeScheduleSpec, hcalendars, hexcluded, hstart, hend, hjitter]
    rfl
  · simp only [ProtoScheduleSpec.meaning, Option.getD_some, mcalendars, mexcluded, mintervals, mjitter,
      hstored.cronString, Option.getD_none]

lemma encodeTruthyOverlap_decode (input : Option ProtoOverlapPolicy) :
    (encodeTruthyOverlap (decodeOverlapPolicy input)).getD .unspecified = input.getD .unspecified := by
  cases input with
  | none => rfl
  | some policy => cases policy <;> decide

/-- A flag that is compared with `true` reads as the flag. -/
lemma decide_eq_getD (flag : Option Bool) : decide (flag = some true) = flag.getD false := by
  match flag with
  | none => rfl
  | some false => rfl
  | some true => rfl

lemma encodeSchedulePolicies_decode {policies : Option SchedulePolicies} {ts : Timestamp}
    (hwindow : policies.bind SchedulePolicies.catchupWindow = some ts) (hwhole : ts.WholeMillis)
    (hexact : ts.Exact) :
    ∃ encoded, h.encodeSchedulePolicies (some (decodeSchedulePolicies policies).toOptions) = .ok encoded ∧
      policiesMeaning (some encoded) = policiesMeaning policies := by
  obtain ⟨window, hencoded, hlength⟩ := Timestamp.exists_msOptionalToTs h.parseMs (o := some ts) (by
    rintro _ ⟨⟩
    exact ⟨hwhole, hexact⟩)
  have hdecoded : (decodeSchedulePolicies policies).catchupWindow = tsToMs ts := by
    simp [decodeSchedulePolicies, hwindow, optionalTsToMs]
  simp only [optionalTsToMs, Option.map_some] at hencoded
  refine ⟨⟨encodeTruthyOverlap (decodeSchedulePolicies policies).overlap, window,
    some (decodeSchedulePolicies policies).pauseOnFailure⟩, ?_, ?_⟩
  · simp only [ScheduleHelpers.encodeSchedulePolicies, SchedulePoliciesDescription.toOptions,
      Option.bind_some, hdecoded, hencoded]
    rfl
  · simp only [policiesMeaning, Option.bind_some, hlength, hwindow, decodeSchedulePolicies,
      encodeTruthyOverlap_decode, Option.getD_some, decide_eq_getD]

lemma toLong_longToNumber {n : ℤ} (hn : longFromNumber (longToNumber n) = n) :
    (JsNumber.finite (longToNumber n)).toLong = n := by
  have hfloor : ∀ m : ℤ, (if 0 ≤ (m : ℚ) then (m : ℚ).floor else -(-(m : ℚ)).floor) = m := by
    intro m
    have hneg : (-(m : ℚ)).floor = -m := by
      rw [← Int.cast_neg]
      exact Rat.floor_intCast _
    rw [hneg, neg_neg, Rat.floor_intCast, ite_self]
  rw [JsNumber.toLong, hfloor, hn]

/-- The number of actions that remain, as it is encoded after it was decoded -/
lemma encodeRemaining {n : ℤ} (hn : longFromNumber (longToNumber n) = n) :
    (if (Duration.number (.finite (longToNumber n))).truthy then
      some (JsNumber.finite (longToNumber n)).toLong else none).getD 0 = n := by
  by_cases hzero : longToNumber n = 0
  · rw [hzero] at hn ⊢
    rw [← hn]
    decide
  · have htruthy : (Duration.number (.finite (longToNumber n))).truthy = true := by
      simpa [Duration.truthy] using hzero
    rw [if_pos htruthy, toLong_longToNumber hn, Option.getD_some]

lemma encodeScheduleState_decode {state : Option ScheduleState} (hstate : ∀ s ∈ state, s.Expressible) :
    stateMeaning (some (encodeScheduleState (some (decodeScheduleState state).toOptions))) =
      stateMeaning state := by
  by_cases hlimited : state.bind ScheduleState.limitedActions = some true
  · obtain ⟨s, hs, hactions⟩ := Option.bind_eq_some_iff.mp hlimited
    have hremaining := encodeRemaining (hstate s hs hactions)
    subst hs
    simp only [stateMeaning, encodeScheduleState, decodeScheduleState, ScheduleStateDescription.toOptions,
      Option.bind_some, hactions, if_true, decide_eq_getD, Option.getD_some, Option.isSome_some, hremaining]
  · simp only [stateMeaning, encodeScheduleState, decodeScheduleState, ScheduleStateDescription.toOptions,
      Option.bind_some, if_neg hlimited, decide_eq_getD, Option.getD_some, Option.isSome_none,
      Option.some.injEq, Bool.false_eq_true, if_false]

/-- What the description has of an action without a retry policy, given the values of its payloads -/
def NewWorkflowExecutionInfo.describedWith (action : NewWorkflowExecutionInfo) (args : List JsValue)
    (memo : Option (PayloadRecord JsValue)) (searchAttributes : PayloadRecord JsValue) :
    ScheduleDescriptionAction where
  workflowId := action.workflowId
  workflowType := action.workflowType.bind TypeName.name
  taskQueue := action.taskQueue.bind TaskQueue.name
  args
  memo
  retry := none
  searchAttributes
  workflowExecutionTimeout := optionalTsToMs action.workflowExecutionTimeout
  workflowRunTimeout := optionalTsToMs action.workflowRunTimeout
  workflowTaskTimeout := optionalTsToMs action.workflowTaskTimeout

lemma exists_of_getD_ne {o : Option String} (ho : o.getD "" ≠ "") : ∃ s, o = some s ∧ s ≠ "" := by
  cases o with
  | none => exact absurd rfl ho
  | some s => exact ⟨s, rfl, ho⟩

section Action

variable {action : NewWorkflowExecutionInfo} {args : List JsValue}
  {memo : Option (PayloadRecord JsValue)} {attributes : PayloadRecord JsValue}

lemma decodeScheduleAction_eq (hretry : action.retryPolicy = none) (hexpressible : action.Expressible)
    (hvalues : action.RoundTripsAs h types args memo attributes) :
    h.decodeScheduleAction ⟨some action⟩ = .ok (action.describedWith args memo attributes) := by
  obtain ⟨_, htype, -⟩ := exists_of_getD_ne hexpressible.workflowType
  obtain ⟨workflowType, hworkflowType, -⟩ := Option.bind_eq_some_iff.mp htype
  obtain ⟨_, hqueue, -⟩ := exists_of_getD_ne hexpressible.taskQueue
  obtain ⟨taskQueue, htaskQueue, -⟩ := Option.bind_eq_some_iff.mp hqueue
  simp only [ScheduleHelpers.decodeScheduleAction, hworkflowType, htaskQueue, hvalues.decodesArgs,
    hvalues.decodesMemo, hvalues.decodesAttributes, hretry, NewWorkflowExecutionInfo.describedWith]
  rfl

/-- The memo that is sent back has the values of the memo. -/
lemma exists_encodeMemo (hcodecs : h.dataConverter.CodecsRoundTrip)
    (hvalues : action.RoundTripsAs h types args memo attributes) :
    ∃ encoded, memo.mapM h.dataConverter.encodeMapToPayloads = .ok encoded ∧
      h.dataConverter.decodeMapFromPayloads encoded = .ok memo := by
  cases hmemo : memo with
  | none => exact ⟨none, rfl, rfl⟩
  | some values =>
    have hround := hvalues.memoRoundTrips
    rw [hmemo, Option.getD_some] at hround
    obtain ⟨payloads, hencoded, hdecoded⟩ :=
      LoadedDataConverter.encodeMapToPayloads_roundTrip hcodecs hround
    refine ⟨some payloads, ?_, hdecoded⟩
    rw [Option.mapM_some, hencoded]
    rfl

/-- The update sends the names, payloads of the same values, and the durations of the action. -/
lemma encodeScheduleAction_describedWith (hcodecs : h.dataConverter.CodecsRoundTrip)
    (hdurations : ∀ ts ∈ action.durations, ts.WholeMillis ∧ ts.Exact)
    (hexpressible : action.Expressible) (hvalues : action.RoundTripsAs h types args memo attributes) :
    ∃ compiled encoded,
      ScheduleHelpers.compileUpdatedScheduleAction
        (action.describedWith args memo attributes).toOptions = .ok compiled ∧
      h.encodeScheduleAction compiled ((action.header.bind PayloadFields.fields).getD []) =
        .ok ⟨some encoded⟩ ∧
      encoded.meaning h types = action.meaning h types := by
  obtain ⟨workflowType, htype, -⟩ := exists_of_getD_ne hexpressible.workflowType
  obtain ⟨execution, hexecution, mexecution⟩ := Timestamp.exists_msOptionalToTs h.parseMs
    (o := action.workflowExecutionTimeout) fun ts hts =>
      hdurations ts (NewWorkflowExecutionInfo.mem_durations.mpr (Or.inl (Or.inl hts)))
  obtain ⟨run, hrun, mrun⟩ := Timestamp.exists_msOptionalToTs h.parseMs
    (o := action.workflowRunTimeout) fun ts hts =>
      hdurations ts (NewWorkflowExecutionInfo.mem_durations.mpr (Or.inl (Or.inr hts)))
  obtain ⟨task, htask, mtask⟩ := Timestamp.exists_msOptionalToTs h.parseMs
    (o := action.workflowTaskTimeout) fun ts hts =>
      hdurations ts (NewWorkflowExecutionInfo.mem_durations.mpr (Or.inr hts))
  obtain ⟨input, hinput, minput⟩ :=
    LoadedDataConverter.encodeToPayloads_roundTrip hcodecs hvalues.argsRoundTrip
  obtain ⟨fields, hfields, mfields⟩ := exists_encodeMemo hcodecs hvalues
  obtain ⟨indexed, hindexed, mindexed⟩ :=
    SearchAttributePayloadConverter.mapToPayloads_roundTrip hvalues.attributesRoundTrip
  have hstoredAttributes := hvalues.decodesAttributes
  rw [SearchAttributePayloadConverter.mapFromPayloads_eq hvalues.attributeTypes] at hstoredAttributes
  have hattributes : (some attributes).mapM h.searchAttributePayloadConverter.mapToPayloads =
      .ok (some indexed) := by
    rw [Option.mapM_some, hindexed]
    rfl
  have hcompiled : ScheduleHelpers.compileUpdatedScheduleAction
      (action.describedWith args memo attributes).toOptions = .ok {
        workflowId := action.workflowId
        workflowType
        taskQueue := action.taskQueue.bind TaskQueue.name
        args
        memo
        searchAttributes := some attributes
        retry := none
        workflowExecutionTimeout := (optionalTsToMs action.workflowExecutionTimeout).map .number
        workflowRunTimeout := (optionalTsToMs action.workflowRunTimeout).map .number
        workflowTaskTimeout := (optionalTsToMs action.workflowTaskTimeout).map .number } := by
    simp only [ScheduleHelpers.compileUpdatedScheduleAction, ScheduleDescriptionAction.toOptions,
      NewWorkflowExecutionInfo.describedWith, htype]
    rfl
  refine ⟨_, {
    workflowId := action.workflowId
    workflowType := some ⟨some workflowType⟩
    taskQueue := some ⟨.unspecified, action.taskQueue.bind TaskQueue.name⟩
    input := some ⟨input⟩
    workflowExecutionTimeout := execution
    workflowRunTimeout := run
    workflowTaskTimeout := task
    retryPolicy := none
    memo := fields.map fun fields => ⟨some fields⟩
    searchAttributes := some ⟨some indexed⟩
    header := some ⟨some ((action.header.bind PayloadFields.fields).getD [])⟩ }, hcompiled, ?_, ?_⟩
  · simp only [ScheduleHelpers.encodeScheduleAction, hinput, hexecution, hrun, htask, hfields, hattributes]
    rfl
  · have hmemo : (fields.map fun fields => (⟨some fields⟩ : PayloadFields)).bind PayloadFields.fields =
        fields := by
      cases fields <;> rfl
    simp only [NewWorkflowExecutionInfo.meaning, Option.bind_some, Option.getD_some, minput, hmemo, mfields,
      mindexed, mexecution, mrun, mtask, hvalues.decodesArgs, hvalues.decodesMemo, hstoredAttributes, htype]

end Action

end Encode

/-! ### The identity update -/

section Update

variable {h : ScheduleHelpers} {types : String → Option (List UInt8)} {schedule : Schedule}
  {spec : ProtoScheduleSpec} {action : NewWorkflowExecutionInfo} {description : ScheduleDescriptionAction}

lemma describe_eq {raw : DescribeScheduleResponse} (scheduleId : String) (hraw : raw.schedule = some schedule)
    (hdescribes : h.Describes raw) (hspec : schedule.spec = some spec)
    (haction : schedule.action = some ⟨some action⟩)
    (hdecoded : h.decodeScheduleAction ⟨some action⟩ = .ok description) :
    ∃ memo searchAttributes info, h.describe scheduleId raw = .ok {
      scheduleId
      spec := decodeScheduleSpec spec
      action := description
      memo
      searchAttributes
      policies := decodeSchedulePolicies schedule.policies
      state := decodeScheduleState schedule.state
      info
      raw } := by
  obtain ⟨memo, hmemo⟩ := hdescribes.memo
  obtain ⟨searchAttributes, hsearchAttributes⟩ := hdescribes.searchAttributes
  obtain ⟨info, hinfo⟩ := hdescribes.info
  refine ⟨memo, searchAttributes, info, ?_⟩
  simp only [ScheduleHelpers.describe, hraw, hspec, haction, hdecoded, hmemo, hsearchAttributes, hinfo]
  rfl

/-- The names of an expressible action pass the checks of an update. -/
lemma assertRequiredScheduleOptions_eq {opts : ScheduleUpdateOptions} {args : List JsValue}
    {memo : Option (PayloadRecord JsValue)} {attributes : PayloadRecord JsValue}
    (hexpressible : action.Expressible)
    (hopts : opts.action = (action.describedWith args memo attributes).toOptions) :
    ScheduleHelpers.assertRequiredScheduleOptions opts = .ok () := by
  obtain ⟨workflowType, htype, hname⟩ := exists_of_getD_ne hexpressible.workflowType
  have hqueue : ScheduleHelpers.missing (action.taskQueue.bind TaskQueue.name) = false := by
    simpa [ScheduleHelpers.missing] using hexpressible.taskQueue
  have hid : ScheduleHelpers.missing action.workflowId = false := by
    simpa [ScheduleHelpers.missing] using hexpressible.workflowId
  simp only [ScheduleHelpers.assertRequiredScheduleOptions, hopts, ScheduleDescriptionAction.toOptions,
    NewWorkflowExecutionInfo.describedWith, htype, Option.map_some, Option.all_some,
    WorkflowTypeOrFunc.missing, hname, hqueue, hid]
  rfl

/-- The update with the description itself sends a schedule that means the same. -/
def ScheduleHelpers.IdentityUpdateKeeps (h : ScheduleHelpers) (types : String → Option (List UInt8))
    (scheduleId : String) (raw : DescribeScheduleResponse) (schedule : Schedule) : Prop :=
  ∃ sent, h.update scheduleId raw ScheduleDescription.toOptions = .ok sent ∧
    sent.meaning h types = schedule.meaning h types

/-- Every stored schedule that the numbers and dates of the client can express is kept. -/
theorem ScheduleHelpers.identityUpdateKeeps (h : ScheduleHelpers) (types : String → Option (List UInt8))
    (scheduleId : String) (raw : DescribeScheduleResponse) (schedule : Schedule)
    (hraw : raw.schedule = some schedule) (hcodecs : h.dataConverter.CodecsRoundTrip)
    (hdescribes : h.Describes raw) (hstored : schedule.AsStored h types)
    (hexpressible : schedule.Expressible) : h.IdentityUpdateKeeps types scheduleId raw schedule := by
  obtain ⟨spec, hspec, hspecStored⟩ := hstored.spec
  obtain ⟨action, haction, hactionStored⟩ := hstored.action
  obtain ⟨ts, hwindow, hwhole⟩ := hstored.catchupWindow
  obtain ⟨args, memo, attributes, hvalues⟩ := hactionStored.values
  have hstart : schedule.action.bind ProtoScheduleAction.startWorkflow = some action := by
    rw [haction, Option.bind_some]
  have hactionExpressible : action.Expressible := hexpressible.action action hstart
  have hdurations : ∀ ts ∈ action.durations, ts.WholeMillis ∧ ts.Exact :=
    fun ts hts => ⟨hactionStored.durations ts hts, hactionExpressible.durations ts hts⟩
  obtain ⟨encodedSpec, hencodedSpec, mspec⟩ :=
    encodeScheduleSpec_decode (h := h) hspecStored (hexpressible.spec spec hspec)
  obtain ⟨compiled, encodedAction, hcompiled, hencodedAction, maction⟩ :=
    encodeScheduleAction_describedWith hcodecs hdurations hactionExpressible hvalues
  obtain ⟨encodedPolicies, hencodedPolicies, mpolicies⟩ :=
    encodeSchedulePolicies_decode (h := h) hwindow hwhole (hexpressible.catchupWindow ts hwindow)
  have mstate := encodeScheduleState_decode hexpressible.state
  have hdecoded := decodeScheduleAction_eq hactionStored.retryPolicy hactionExpressible hvalues
  obtain ⟨_, _, _, hdescribe⟩ := describe_eq scheduleId hraw hdescribes hspec haction hdecoded
  refine ⟨⟨some encodedSpec, some ⟨some encodedAction⟩, some encodedPolicies,
    some (encodeScheduleState (some (decodeScheduleState schedule.state).toOptions))⟩, ?_, ?_⟩
  · simp only [update, hdescribe, bind, Except.bind, hraw, Option.bind_some, hstart]
    rw [assertRequiredScheduleOptions_eq hactionExpressible rfl]
    simp only [encodeUpdatedSchedule, ScheduleDescription.toOptions, hcompiled, hencodedSpec, hencodedAction,
      hencodedPolicies, bind, Except.bind]
    rfl
  · simp only [Schedule.meaning, Option.map_some, Option.bind_some, hspec, hstart, mspec, maction, mpolicies,
      mstate]

end Update

/-! ### Schedules of one workflow -/

/-- JSON for arrays of one ASCII string without escapes -/
def tagJson : Json where
  stringify
    | .array [.string s] => some (FailureConverter.asciiBytes ("[\"" ++ s ++ "\"]"))
    | _ => none
  parse data :=
    match data.map fun byte => Char.ofNat byte.toNat with
    | '[' :: '"' :: text => .ok (.array [.string (String.ofList (text.dropLast.dropLast))])
    | _ => .error (.other "Unexpected token")

/-- Helpers with a codec, and with JSON for strings -/
def greetHelpers : ScheduleHelpers where
  dataConverter := ⟨⟨false, FailureConverter.jsonConverter⟩, [reverseData]⟩
  searchAttributePayloadConverter := ⟨tagJson, fun _ => false, id, fun _ => "value"⟩
  parseMs _ := none
  msUndefined := .other "Value provided to ms() must be a string or number."

/-- A payload of JSON text, with its bytes reversed by the codec -/
def reversedJson (text : String) : Payload :=
  ⟨[("encoding", FailureConverter.asciiBytes "json/plain")], (FailureConverter.asciiBytes text).reverse⟩

/-- The `Keyword` attribute of the schedule, with its type in the payload -/
def greetTag : Payload :=
  ⟨[("type", FailureConverter.asciiBytes "Keyword")], FailureConverter.asciiBytes "[\"gold\"]"⟩

def keywordTypes (_ : String) : Option (List UInt8) := some (FailureConverter.asciiBytes "Keyword")

/-- Every second day of summer weeks, at 10 and 10:30 o'clock -/
def summerCalendar : StructuredCalendarSpec where
  second := some [⟨0, 0, 0⟩]
  minute := some [⟨0, 59, 30⟩]
  hour := some [⟨10, 0, 0⟩]
  dayOfMonth := some [⟨1, 31, 1⟩]
  month := some [⟨6, 8, 1⟩]
  year := none
  dayOfWeek := some [⟨1, 5, 2⟩]
  comment := some "summer"

def greetSpec (period startTime jitter : Option Timestamp) : ProtoScheduleSpec where
  structuredCalendar := some [summerCalendar]
  interval := some [⟨period, none⟩]
  cronString := none
  excludeStructuredCalendar := none
  startTime
  endTime := none
  jitter
  timezoneName := some "UTC"

def greetAction (workflowId : String) : NewWorkflowExecutionInfo where
  workflowId := some workflowId
  workflowType := some ⟨some "greeter"⟩
  taskQueue := some ⟨.normal, some "queue"⟩
  input := some ⟨some [reversedJson "\"hello\""]⟩
  workflowExecutionTimeout := none
  workflowRunTimeout := some ⟨60, 0⟩
  workflowTaskTimeout := none
  retryPolicy := none
  memo := some ⟨some [("note", reversedJson "\"daily\"")]⟩
  searchAttributes := some ⟨some [("Tag", greetTag)]⟩
  header := none

/-- A workflow that is started by a calendar and in an interval, a limited number of times -/
def greetSchedule (period startTime jitter : Option Timestamp) (workflowId : String) (remaining : ℤ) :
    Schedule where
  spec := some (greetSpec period startTime jitter)
  action := some ⟨some (greetAction workflowId)⟩
  policies := some ⟨some .bufferOne, some ⟨3600, 0⟩, none⟩
  state := some ⟨some "limited", none, some true, some remaining⟩

/-- The response that describes the schedule, when no action has been taken -/
def describesSchedule (schedule : Schedule) : DescribeScheduleResponse where
  schedule := some schedule
  info := some ⟨none, none, none, none, none, none, some ⟨1690000000, 0⟩, none⟩
  memo := none
  searchAttributes := none

lemma wholeMillis_seconds {seconds : ℤ} (h0 : 0 ≤ seconds) (hlt : seconds < 2 ^ 63) :
    Timestamp.WholeMillis ⟨seconds, 0⟩ := by
  refine ⟨h0, hlt, 0, by norm_num, ?_⟩
  norm_num

lemma greetHelpers_codecsRoundTrip : greetHelpers.dataConverter.CodecsRoundTrip := by
  intro codec hmem
  rw [List.mem_singleton.mp hmem]
  exact ⟨reverseData_roundTrips, reverseData_encodesSingles⟩

lemma greetHelpers_describes (schedule : Schedule) : greetHelpers.Describes (describesSchedule schedule) :=
  ⟨⟨none, rfl⟩, ⟨[], rfl⟩, ⟨_, rfl⟩⟩

lemma summerCalendar_inRange : summerCalendar.InRange := by
  constructor <;>
    simp [summerCalendar, CalendarSpecField.InRange, minuteUnits, hourUnits, dayOfMonthUnits, monthUnits,
      dayOfWeekUnits]

lemma greetAction_roundTripsAs (workflowId : String) :
    (greetAction workflowId).RoundTripsAs greetHelpers keywordTypes [.string "hello"]
      (some [("note", .string "daily")]) [("Tag", .array [.string "gold"])] where
  decodesArgs := rfl
  argsRoundTrip := by
    intro value hmem
    rw [List.mem_singleton.mp hmem]
    exact ⟨_, rfl, rfl⟩
  decodesMemo := rfl
  memoRoundTrips := by
    intro entry hmem
    rw [Option.getD_some, List.mem_singleton] at hmem
    rw [hmem]
    exact ⟨_, rfl, rfl⟩
  decodesAttributes := rfl
  attributesRoundTrip := by
    intro entry hmem
    rw [List.mem_singleton.mp hmem]
    exact ⟨_, rfl, rfl⟩
  attributeTypes := by
    intro entry hmem
    rw [show entry = ("Tag", greetTag) from List.mem_singleton.mp hmem]
    rfl

lemma greetSchedule_asStored {period startTime jitter : Option Timestamp} (workflowId : String)
    (remaining : ℤ) (hperiod : ∀ ts ∈ period, ts.WholeMillis)
    (hstart : ∀ ts ∈ startTime, ts.WholeMillis) (hjitter : ∀ ts ∈ jitter, ts.WholeMillis) :
    (greetSchedule period startTime jitter workflowId remaining).AsStored greetHelpers keywordTypes where
  spec := by
    refine ⟨_, rfl, ?_, ?_, rfl, ?_, ?_⟩
    · intro calendar hmem
      rw [List.mem_singleton.mp hmem]
      exact summerCalendar_inRange
    · intro calendar hmem
      cases hmem
    · intro ts hts
      rcases ProtoScheduleSpec.mem_durations.mp hts with ⟨interval, hmem, hts⟩ | hts
      · rw [List.mem_singleton.mp hmem] at hts
        exact hts.elim (hperiod ts) (by simp)
      · exact hjitter ts hts
    · intro ts hts
      exact (ProtoScheduleSpec.mem_times.mp hts).elim (hstart ts) (by simp [greetSpec])
  action := by
    refine ⟨_, rfl, rfl, ?_, _, _, _, greetAction_roundTripsAs workflowId⟩
    intro ts hts
    rw [show ts = ⟨60, 0⟩ from List.mem_singleton.mp hts]
    exact wholeMillis_seconds (by norm_num) (by norm_num)
  catchupWindow := ⟨_, rfl, wholeMillis_seconds (by norm_num) (by norm_num)⟩

/-- A workflow every 90.5 seconds and by a calendar, with three actions left -/
def limitedSchedule : Schedule :=
  greetSchedule (some ⟨90, 500000000⟩) (some ⟨1700000000, 0⟩) (some ⟨1, 0⟩) "greet" 3

lemma limitedSchedule_asStored : limitedSchedule.AsStored greetHelpers keywordTypes := by
  apply greetSchedule_asStored
  · rintro _ ⟨⟩
    exact ⟨by norm_num, by norm_num, 500, by norm_num, by norm_num⟩
  · rintro _ ⟨⟩
    exact wholeMillis_seconds (by norm_num) (by norm_num)
  · rintro _ ⟨⟩
    exact wholeMillis_seconds (by norm_num) (by norm_num)

lemma limitedSchedule_expressible : limitedSchedule.Expressible where
  spec := by
    rintro _ ⟨⟩
    refine ⟨?_, ?_, ?_⟩
    · intro interval hmem
      rw [show interval = ⟨some ⟨90, 500000000⟩, none⟩ from List.mem_singleton.mp hmem]
      rfl
    · intro ts hts
      simp [ProtoScheduleSpec.durations, greetSpec] at hts
      rcases hts with rfl | rfl <;> decide +kernel
    · intro ts hts
      simp [ProtoScheduleSpec.times, greetSpec] at hts
      subst hts
      exact ⟨by decide +kernel, by decide +kernel⟩
  action := by
    rintro _ ⟨⟩
    refine ⟨by decide, by decide, by decide, ?_⟩
    intro ts hts
    rw [show ts = ⟨60, 0⟩ from List.mem_singleton.mp hts]
    exact (wholeMillis_seconds (by norm_num) (by norm_num)).exact (by decide +kernel)
  catchupWindow := by
    rintro _ ⟨⟩
    exact (wholeMillis_seconds (by norm_num) (by norm_num)).exact (by decide +kernel)
  state := by
    rintro _ ⟨⟩ -
    decide

theorem identityUpdateKeeps_limitedSchedule :
    greetHelpers.IdentityUpdateKeeps keywordTypes "daily" (describesSchedule limitedSchedule)
      limitedSchedule :=
  ScheduleHelpers.identityUpdateKeeps greetHelpers keywordTypes "daily"
    (describesSchedule limitedSchedule) limitedSchedule rfl greetHelpers_codecsRoundTrip
    (greetHelpers_describes limitedSchedule) limitedSchedule_asStored limitedSchedule_expressible

section NotKept

variable {h : ScheduleHelpers} {types : String → Option (List UInt8)} {scheduleId : String}
  {raw : DescribeScheduleResponse} {schedule : Schedule}

lemma not_identityUpdateKeeps_of_error
    (hupdate : (h.update scheduleId raw ScheduleDescription.toOptions).isOk = false) :
    ¬ h.IdentityUpdateKeeps types scheduleId raw schedule := by
  rintro ⟨sent, hsent, -⟩
  rw [hsent] at hupdate
  cases hupdate

/-- Part of what the sent schedule means is something else. -/
lemma not_identityUpdateKeeps_of_ne {α : Type} (part : ScheduleMeaning → α) (sentPart : α)
    (hupdate : (h.update scheduleId raw ScheduleDescription.toOptions).toOption.map
      (fun sent => part (sent.meaning h types)) = some sentPart)
    (hne : sentPart ≠ part (schedule.meaning h types)) :
    ¬ h.IdentityUpdateKeeps types scheduleId raw schedule := by
  rintro ⟨sent, hsent, hmeaning⟩
  rw [hsent] at hupdate
  have hpart : part (sent.meaning h types) = sentPart := Option.some.inj hupdate
  rw [hmeaning] at hpart
  exact hne hpart.symm

end NotKept

/-- The schedule is as the service stores it, and the update does not keep it. -/
def Schedule.Lost (schedule : Schedule) : Prop :=
  schedule.AsStored greetHelpers keywordTypes ∧
    ¬ greetHelpers.IdentityUpdateKeeps keywordTypes "daily" (describesSchedule schedule) schedule

/-- With `2 ^ 53 + 1` actions left, with an interval without a period, with a jitter of
`2 ^ 53 + 1` milliseconds, with a start beyond the range of dates, or without a workflow id, the
update does not keep the schedule. -/
theorem identityUpdateKeeps_counterexample :
    (greetSchedule (some ⟨90, 0⟩) none none "greet" (2 ^ 53 + 1)).Lost ∧
      (greetSchedule none none none "greet" 3).Lost ∧
      (greetSchedule (some ⟨90, 0⟩) none (some ⟨9007199254740, 993000000⟩) "greet" 3).Lost ∧
      (greetSchedule (some ⟨90, 0⟩) (some ⟨8640000000001, 0⟩) none "greet" 3).Lost ∧
      (greetSchedule (some ⟨90, 0⟩) none none "" 3).Lost := by
  have hperiod : ∀ ts ∈ (some ⟨90, 0⟩ : Option Timestamp), ts.WholeMillis := by
    rintro _ ⟨⟩
    exact wholeMillis_seconds (by norm_num) (by norm_num)
  have hnone : ∀ ts ∈ (none : Option Timestamp), ts.WholeMillis := by
    rintro _ ⟨⟩
  refine ⟨⟨greetSchedule_asStored _ _ hperiod hnone hnone, ?_⟩,
    ⟨greetSchedule_asStored _ _ hnone hnone hnone, ?_⟩,
    ⟨greetSchedule_asStored _ _ hperiod hnone ?_, ?_⟩,
    ⟨greetSchedule_asStored _ _ hperiod ?_ hnone, ?_⟩,
    ⟨greetSchedule_asStored _ _ hperiod hnone hnone, ?_⟩⟩
  · exact not_identityUpdateKeeps_of_ne (fun meaning => meaning.state.remainingActions) (some (2 ^ 53))
      (by decide +kernel) (by decide +kernel)
  · exact not_identityUpdateKeeps_of_error (by decide +kernel)
  · rintro _ ⟨⟩
    exact ⟨by norm_num, by norm_num, 993, by norm_num, by norm_num⟩
  · exact not_identityUpdateKeeps_of_ne (fun meaning => meaning.spec.map SpecMeaning.jitter)
      (some 9007199254740992000000) (by decide +kernel) (by decide +kernel)
  · rintro _ ⟨⟩
    exact wholeMillis_seconds (by norm_num) (by norm_num)
  · exact not_identityUpdateKeeps_of_error (by decide +kernel)
  · exact not_identityUpdateKeeps_of_error (by decide +kernel)

end TemporalSdk
