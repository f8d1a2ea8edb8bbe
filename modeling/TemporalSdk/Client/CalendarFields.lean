import TemporalSdk.Client.ScheduleUpdate

/-!
# The fields of calendars for any input

The coders of calendar fields on the values of JavaScript: a number may be fractional or not finite, a
name may be unknown. What they make of numbers is written to `int32` fields. On the inputs that their
types allow they are the coders of the schedule helpers.
-/

namespace TemporalSdk

/-! ### Inputs and outputs -/

/-- A value in a calendar spec; of a value that is neither number nor string only its type and its text
matter. -/
inductive CalendarValue
  | number (x : JsNumber)
  | string (s : String)
  | other (type text : String)
deriving DecidableEq

/-- A component of a field: a value, or an object with a start, an end and a step -/
inductive CalendarComponent
  | value (x : CalendarValue)
  | range (start end_ step : Option CalendarValue)
deriving DecidableEq

inductive CalendarComponents
  | one (item : CalendarComponent)
  | many (items : List CalendarComponent)
deriving DecidableEq

def CalendarComponents.items : CalendarComponents → List CalendarComponent
  | one item => [item]
  | many items => items

inductive CalendarFieldInput
  | undefined
  | all
  | components (input : CalendarComponents)
deriving DecidableEq

/-- `IRange`, as an object of JavaScript -/
structure CalendarRange where
  start : JsNumber
  end_ : JsNumber
  step : JsNumber
deriving DecidableEq

def ProtoRange.toCalendarRange (pb : ProtoRange) : CalendarRange :=
  ⟨.finite pb.start, .finite pb.end_, .finite pb.step⟩

/-! ### The coders -/

/-- The arguments of `makeCalendarSpecFieldCoders` -/
structure CalendarSpecFieldCoders where
  fieldName : String
  encodeValueFn : CalendarValue → Option JsNumber
  decodeValueFn : ℤ → Option CalendarValue
  defaultValue : List ProtoRange
  matchAllValue : List ProtoRange

/-- The two `typeof` tests of a step -/
def CalendarValue.stepOr1 : Option CalendarValue → JsNumber
  | some (.number x) => if (JsNumber.finite 0).lt x then x else .finite 1
  | _ => .finite 1

namespace CalendarSpecFieldCoders

variable (coders : CalendarSpecFieldCoders) (numberText : JsNumber → String)

/-- The error for a component; `numberText` is how JavaScript writes a number. -/
def invalid : CalendarComponent → JsError
  | .value (.number x) => error (numberText x) "number"
  | .value (.string s) => error s "string"
  | .value (.other type text) => error text type
  | .range _ _ _ => error "[object Object]" "object"
where
  error (text type : String) : JsError :=
    .typeError
      (s!"Invalid CalendarSpec component for field {coders.fieldName}: '{text}' of type '{type}'")

def encodeItem (item : CalendarComponent) : Except JsError CalendarRange :=
  match item with
  | .range start end_ step =>
    match start.bind coders.encodeValueFn with
    | some first =>
      .ok ⟨first, end_.elim (.finite 1) fun last => (coders.encodeValueFn last).getD first,
        CalendarValue.stepOr1 step⟩
    | none => .error (coders.invalid numberText item)
  | .value x =>
    match coders.encodeValueFn x with
    | some value => .ok ⟨value, value, .finite 1⟩
    | none => .error (coders.invalid numberText item)

def encoder : CalendarFieldInput → Except JsError (List CalendarRange)
  | .undefined => .ok (coders.defaultValue.map ProtoRange.toCalendarRange)
  | .all => .ok (coders.matchAllValue.map ProtoRange.toCalendarRange)
  | .components input => input.items.mapM (coders.encodeItem numberText)

def decodeRange (pb : ProtoRange) : CalendarComponent :=
  let start := coders.decodeValueFn pb.start
  .range start (if pb.start < pb.end_ then (coders.decodeValueFn pb.end_).or start else start)
    (some (.number (.finite (if 0 < pb.step then pb.step else 1 : ℤ))))

def decoder (input : Option (List ProtoRange)) : List CalendarComponent :=
  (input.getD []).map coders.decodeRange

/-- `x => typeof x === 'number' && x >= lo && x <= hi ? x : undefined` -/
def between (lo hi : ℤ) : CalendarValue → Option JsNumber
  | .number (.finite q) => if lo ≤ q ∧ q ≤ hi then some (.finite q) else none
  | _ => none

/-- The place of a name among `names`, counted from `first` -/
def nameToNumber (names : List String) (first : ℤ) : CalendarValue → Option JsNumber
  | .string s => (names.idxOf? s).map fun index : ℕ => .finite (index + first : ℤ)
  | _ => none

/-- The name of a number; an index out of the bounds of `names` gives `undefined`. -/
def numberToName (names : List String) (first n : ℤ) : Option CalendarValue :=
  if n < first then none else (names[(n - first).toNat]?).map .string

end CalendarSpecFieldCoders

open CalendarSpecFieldCoders

inductive CalendarFieldName
  | second
  | minute
  | hour
  | dayOfMonth
  | month
  | year
  | dayOfWeek
deriving DecidableEq

namespace CalendarFieldName

def coders : CalendarFieldName → CalendarSpecFieldCoders
  | second => ⟨"second", between 0 59, fun n => some (.number (.finite n)), [⟨0, 0, 0⟩], [⟨0, 59, 1⟩]⟩
  | minute => ⟨"minute", between 0 59, fun n => some (.number (.finite n)), [⟨0, 0, 0⟩], [⟨0, 59, 1⟩]⟩
  | hour => ⟨"hour", between 0 23, fun n => some (.number (.finite n)), [⟨0, 0, 0⟩], [⟨0, 23, 1⟩]⟩
  | dayOfMonth =>
    ⟨"dayOfMonth", between 0 31, fun n => some (.number (.finite n)), [⟨1, 31, 1⟩], [⟨1, 31, 1⟩]⟩
  | month =>
    ⟨"month", nameToNumber (MONTHS.map Prod.snd) 1, numberToName (MONTHS.map Prod.snd) 1,
      [⟨1, 12, 1⟩], [⟨1, 12, 1⟩]⟩
  | year =>
    ⟨"year", fun | .number x => some x | _ => none, fun n => some (.number (.finite n)), [], []⟩
  | dayOfWeek =>
    ⟨"dayOfWeek", nameToNumber (DAYS_OF_WEEK.map Prod.snd) 0,
      numberToName (DAYS_OF_WEEK.map Prod.snd) 0, [⟨0, 6, 1⟩], [⟨0, 6, 1⟩]⟩

end CalendarFieldName

/-! ### What components and ranges denote -/

/-- What is written to an `int32` field for a number: its whole part modulo `2 ^ 32`, and 0 for the
numbers that are not finite. -/
def JsNumber.toInt32 : JsNumber → ℤ
  | .finite q => (q.num.tdiv q.den).bmod (2 ^ 32)
  | _ => 0

def IsInt32 (n : ℤ) : Prop := -2 ^ 31 ≤ n ∧ n < 2 ^ 31

instance (n : ℤ) : Decidable (IsInt32 n) := inferInstanceAs (Decidable (_ ∧ _))

namespace CalendarRange

/-- The range on the wire -/
def toProtoRange (range : CalendarRange) : ProtoRange :=
  ⟨range.start.toInt32, range.end_.toInt32, range.step.toInt32⟩

/-- The numbers in a range as the service reads it -/
def values (range : CalendarRange) : Set ℤ := range.toProtoRange.values

end CalendarRange

/-- A whole number of steps lies behind the start; a step below 1 counts as 1. -/
def JsNumber.Steps (step : JsNumber) (d : ℚ) : Prop :=
  match step with
  | .finite q => ∃ k : ℕ, d = k * (if 1 ≤ q then q else 1)
  | .posInfinity => d = 0
  | _ => ∃ k : ℕ, d = k

/-- A whole number among the units of a field -/
def wholeNumber (inUnits : ℤ → Bool) : CalendarValue → Option ℤ
  | .number (.finite q) => if q.den = 1 ∧ inUnits q.num then some q.num else none
  | _ => none

namespace CalendarFieldName

/-- The valid values of a field as documented, with the numbers that they stand for; a year is one
that a range can have. -/
def unit : CalendarFieldName → CalendarValue → Option ℤ
  | second | minute => wholeNumber fun n => 0 ≤ n && n ≤ 59
  | hour => wholeNumber fun n => 0 ≤ n && n ≤ 23
  | dayOfMonth => wholeNumber fun n => 1 ≤ n && n ≤ 31
  | year => wholeNumber fun n => IsInt32 n
  | month => fun
    | .string s => ((MONTHS.map Prod.snd).idxOf? s).map fun index : ℕ => (index : ℤ) + 1
    | _ => none
  | dayOfWeek => fun
    | .string s => ((DAYS_OF_WEEK.map Prod.snd).idxOf? s).map fun index : ℕ => (index : ℤ)
    | _ => none

end CalendarFieldName

namespace CalendarComponent

section Denotation

variable (unit : CalendarValue → Option ℤ)

/-- The start and the end are valid values of the field. -/
def Valid : CalendarComponent → Prop
  | value x => (unit x).isSome
  | range start end_ _ => (start.bind unit).isSome ∧ ∀ last ∈ end_, (unit last).isSome

/-- The step of a range, by default 1 -/
def stepOf : Option CalendarValue → JsNumber
  | some (.number x) => x
  | _ => .finite 1

/-- The numbers that a component stands for: the end of a range is by default its start. -/
def values : CalendarComponent → Set ℤ
  | value x => {n | unit x = some n}
  | range start end_ step =>
    {n | ∃ first last : ℤ, start.bind unit = some first ∧ end_.elim (some first) unit = some last ∧
      (stepOf step).Steps (n - first) ∧ n ≤ max first last}

/-- The step that the service reads: the whole part of a step of at least 1, if that is an `int32` -/
def sentStep (step : Option CalendarValue) : ℤ :=
  let n := (CalendarValue.stepOr1 step).toInt32
  if 0 < n then n else 1

/-- The numbers of a range that has the start of the component, its end or else 1, and the whole part
of its step -/
def sent : CalendarComponent → Set ℤ
  | value x => {n | unit x = some n}
  | range start end_ step =>
    {n | ∃ first last : ℤ, start.bind unit = some first ∧ end_.elim (some 1) unit = some last ∧
      (∃ k : ℕ, n = first + k * sentStep step) ∧ n ≤ max first last}

/-- Behind the start of a range without an end, up to 1, or between steps that are cut -/
def excess (item : CalendarComponent) : Set ℤ := item.sent unit \ item.values unit

/-- The numbers that a cut step passes over -/
def omitted (item : CalendarComponent) : Set ℤ := item.values unit \ item.sent unit

/-- The step has no fraction and is an `int32`, or counts as 1. -/
def CarriedStep (step : Option CalendarValue) : Prop :=
  match stepOf step with
  | .finite q => q < 1 ∨ q.den = 1 ∧ q < 2 ^ 31
  | .posInfinity => False
  | _ => True

/-- A valid value, or a range with a valid start and a step that is carried, which has a valid end or
makes its first step beyond 1 -/
def Plain : CalendarComponent → Prop
  | value x => (unit x).isSome
  | range start end_ step => (start.bind unit).isSome ∧ (∀ last ∈ end_, (unit last).isSome) ∧
      CarriedStep step ∧
      (end_ = none → ∀ first, start.bind unit = some first → 1 < first + sentStep step)

end Denotation

/-- The value, or the start of the range, is not one that the coders encode. -/
def Refused (coders : CalendarSpecFieldCoders) : CalendarComponent → Prop
  | value x => coders.encodeValueFn x = none
  | range start _ _ => start.bind coders.encodeValueFn = none

end CalendarComponent

/-! ### Encoding a component -/

namespace CalendarComponent

variable {unit : CalendarValue → Option ℤ} {start end_ step : Option CalendarValue} {first last n : ℤ}

lemma mem_values_range (hfirst : start.bind unit = some first)
    (hlast : end_.elim (some first) unit = some last) :
    n ∈ (range start end_ step).values unit ↔
      (stepOf step).Steps (n - first) ∧ n ≤ max first last := by
  constructor
  · rintro ⟨first', last', hfirst', hlast', hsteps, hle⟩
    obtain rfl := Option.some.inj (hfirst.symm.trans hfirst')
    obtain rfl := Option.some.inj (hlast.symm.trans hlast')
    exact ⟨hsteps, hle⟩
  · rintro ⟨hsteps, hle⟩
    exact ⟨first, last, hfirst, hlast, hsteps, hle⟩

lemma mem_sent_range (hfirst : start.bind unit = some first)
    (hlast : end_.elim (some 1) unit = some last) :
    n ∈ (range start end_ step).sent unit ↔
      (∃ k : ℕ, n = first + k * sentStep step) ∧ n ≤ max first last := by
  constructor
  · rintro ⟨first', last', hfirst', hlast', hsteps, hle⟩
    obtain rfl := Option.some.inj (hfirst.symm.trans hfirst')
    obtain rfl := Option.some.inj (hlast.symm.trans hlast')
    exact ⟨hsteps, hle⟩
  · rintro ⟨hsteps, hle⟩
    exact ⟨first, last, hfirst, hlast, hsteps, hle⟩

end CalendarComponent

namespace JsNumber

lemma toInt32_intCast {n : ℤ} (h : IsInt32 n) : (finite n).toInt32 = n := by
  obtain ⟨hlo, hhi⟩ := h
  have hwhole : ((n : ℚ).num.tdiv (n : ℚ).den) = n := by simp
  rw [toInt32, hwhole]
  exact Int.bmod_eq_of_le_mul_two (by push_cast; omega) (by push_cast; omega)

end JsNumber

lemma isInt32_max {m n : ℤ} (hm : IsInt32 m) (hn : IsInt32 n) : IsInt32 (max m n) :=
  ⟨hm.1.trans (le_max_left _ _), max_lt hm.2 hn.2⟩

/-- A range that has come over the wire -/
structure ProtoRange.IsInt32 (range : ProtoRange) : Prop where
  start : TemporalSdk.IsInt32 range.start
  end_ : TemporalSdk.IsInt32 range.end_
  step : TemporalSdk.IsInt32 range.step

lemma ProtoRange.values_toCalendarRange {pb : ProtoRange} (hstart : TemporalSdk.IsInt32 pb.start)
    (hend : TemporalSdk.IsInt32 pb.end_) (hstep : TemporalSdk.IsInt32 pb.step) :
    pb.toCalendarRange.values = pb.values := by
  unfold CalendarRange.values CalendarRange.toProtoRange toCalendarRange
  rw [JsNumber.toInt32_intCast hstart, JsNumber.toInt32_intCast hend, JsNumber.toInt32_intCast hstep]

namespace CalendarComponent

lemma sentStep_pos (step : Option CalendarValue) : 0 < sentStep step := by
  unfold sentStep
  dsimp only
  split_ifs with hpos
  · exact hpos
  · exact one_pos

/-- A step that counts as 1 is sent as 1 or as what is read as 1. -/
lemma sentStep_of_lt_one {q : ℚ} (hq : q < 1) : sentStep (some (.number (.finite q))) = 1 := by
  unfold sentStep
  simp only [CalendarValue.stepOr1, JsNumber.lt, decide_eq_true_eq]
  by_cases hpos : 0 < q
  · rw [if_pos hpos]
    have hnum : 0 ≤ q.num := Rat.num_nonneg.mpr hpos.le
    have hlt : q.num < q.den := by
      rw [← Rat.num_div_den q, div_lt_one (by exact_mod_cast q.den_pos)] at hq
      exact_mod_cast hq
    have hzero : q.num.tdiv q.den = 0 := Int.tdiv_eq_zero_of_lt hnum hlt
    simp [JsNumber.toInt32, hzero]
  · rw [if_neg hpos]
    rfl

/-- Steps of an integer length -/
lemma steps_intCast {m d : ℤ} (hm : 1 ≤ m) :
    (JsNumber.finite m).Steps d ↔ ∃ k : ℕ, d = k * m := by
  have hle : (1 : ℚ) ≤ m := by exact_mod_cast hm
  simp only [JsNumber.Steps, if_pos hle]
  exact_mod_cast Iff.rfl

/-- The steps of a step that is carried are those that the service makes. -/
lemma steps_iff_of_carried {step : Option CalendarValue} (h : CarriedStep step) (d : ℤ) :
    (stepOf step).Steps d ↔ ∃ k : ℕ, d = k * sentStep step := by
  have hone : (JsNumber.finite 1).Steps d ↔ ∃ k : ℕ, d = k * (1 : ℤ) := by
    simpa only [Int.cast_one] using steps_intCast (d := d) le_rfl
  have hcounts : (∃ k : ℕ, (d : ℚ) = k) ↔ ∃ k : ℕ, d = k * (1 : ℤ) := by
    simp only [mul_one]
    exact_mod_cast Iff.rfl
  rcases step with _ | (_ | _ | _ | q) | _ | _
  · exact hone
  · exact hcounts
  · exact h.elim
  · exact hcounts
  · rcases lt_or_ge q 1 with hlt | hge
    · rw [sentStep_of_lt_one hlt]
      simp only [stepOf, JsNumber.Steps, if_neg (not_le.mpr hlt), mul_one]
      simpa only [mul_one] using hcounts
    · obtain ⟨hwhole, hbound⟩ : q.den = 1 ∧ q < 2 ^ 31 := h.resolve_left (not_lt.mpr hge)
      obtain ⟨m, rfl⟩ : ∃ m : ℤ, q = m := ⟨q.num, ((Rat.den_eq_one_iff q).mp hwhole).symm⟩
      have hm : 1 ≤ m := by exact_mod_cast hge
      have hint : IsInt32 m := ⟨by omega, by exact_mod_cast hbound⟩
      have hpos : (0 : ℚ) < m := by exact_mod_cast (by omega : 0 < m)
      have hsent : sentStep (some (.number (.finite m))) = m := by
        simp only [sentStep, CalendarValue.stepOr1, JsNumber.lt, hpos, decide_true, if_true,
          JsNumber.toInt32_intCast hint]
        exact if_pos (by omega)
      rw [hsent]
      exact steps_intCast hm
  · exact hone
  · exact hone

/-- What a plain component stands for is what is sent. -/
lemma sent_eq_values {unit : CalendarValue → Option ℤ} {item : CalendarComponent} (h : item.Plain unit) :
    item.sent unit = item.values unit := by
  cases item with
  | value x => rfl
  | range start end_ step =>
    obtain ⟨hstart, hend, hcarried, hbeyond⟩ := h
    obtain ⟨first, hfirst⟩ := Option.isSome_iff_exists.mp hstart
    have hsteps (n : ℤ) : (stepOf step).Steps (n - first) ↔ ∃ k : ℕ, n = first + k * sentStep step := by
      have hcast : ((n : ℚ) - first) = ((n - first : ℤ) : ℚ) := by push_cast; rfl
      rw [hcast, steps_iff_of_carried hcarried]
      exact exists_congr fun k => sub_eq_iff_eq_add'
    ext n
    cases end_ with
    | none =>
      rw [mem_sent_range hfirst rfl, mem_values_range hfirst rfl, hsteps, max_self]
      refine and_congr_right fun ⟨k, hk⟩ => ?_
      have hfar := hbeyond rfl first hfirst
      have hpos := sentStep_pos step
      -- The second step is beyond the end 1, and beyond the start.
      rcases Nat.eq_zero_or_pos k with rfl | hkpos
      · have hstay : n = first := by simpa using hk
        subst hstay
        exact iff_of_true (le_max_left _ _) le_rfl
      · have hstep : sentStep step ≤ k * sentStep step :=
          le_mul_of_one_le_left hpos.le (by exact_mod_cast hkpos)
        refine iff_of_false (fun hle => ?_) (by omega)
        rcases le_max_iff.mp hle with hle | hle <;> omega
    | some last =>
      obtain ⟨last', hlast⟩ := Option.isSome_iff_exists.mp (hend last rfl)
      have hsent : (some last).elim (some 1) unit = some last' := hlast
      have hvalues : (some last).elim (some first) unit = some last' := hlast
      rw [mem_sent_range hfirst hsent, mem_values_range hfirst hvalues, hsteps]

lemma valid_of_plain {unit : CalendarValue → Option ℤ} {item : CalendarComponent} (h : item.Plain unit) :
    item.Valid unit := by
  cases item with
  | value x => exact h
  | range start end_ step => exact ⟨h.1, h.2.1⟩

end CalendarComponent

namespace CalendarSpecFieldCoders

variable {coders : CalendarSpecFieldCoders} {numberText : JsNumber → String}
  {unit : CalendarValue → Option ℤ} {item : CalendarComponent}

/-- The coders encode each valid value of the field as its number, which is an `int32`. -/
def Encodes (coders : CalendarSpecFieldCoders) (unit : CalendarValue → Option ℤ) : Prop :=
  ∀ x n, unit x = some n → coders.encodeValueFn x = some (.finite n) ∧ IsInt32 n

lemma encodeItem_eq_error_iff {e : JsError} :
    coders.encodeItem numberText item = .error e ↔
      item.Refused coders ∧ e = coders.invalid numberText item := by
  cases item with
  | value x =>
    simp only [encodeItem, CalendarComponent.Refused]
    cases coders.encodeValueFn x <;> simp [eq_comm]
  | range start end_ step =>
    simp only [encodeItem, CalendarComponent.Refused]
    cases start.bind coders.encodeValueFn <;> simp [eq_comm]

lemma invalid_eq_typeError : ∃ message, coders.invalid numberText item = .typeError message := by
  rcases item with (x | s | ⟨type, text⟩) | _ <;> exact ⟨_, rfl⟩

/-- The numbers of an encoded range, when its start and its end are `int32` -/
lemma mem_values_encoded {first last n : ℤ} (hfirst : IsInt32 first) (hlast : IsInt32 last)
    (step : Option CalendarValue) :
    n ∈ (⟨.finite first, .finite last, CalendarValue.stepOr1 step⟩ : CalendarRange).values ↔
      (∃ k : ℕ, n = first + k * CalendarComponent.sentStep step) ∧ n ≤ max first last := by
  unfold CalendarRange.values CalendarRange.toProtoRange ProtoRange.values
  rw [JsNumber.toInt32_intCast hfirst, JsNumber.toInt32_intCast hlast]
  exact exists_and_right

variable (numberText) in
/-- A valid component is encoded as a range that has the numbers which it sends. -/
lemma exists_encodeItem (hunit : coders.Encodes unit) (hvalid : item.Valid unit) :
    ∃ range, coders.encodeItem numberText item = .ok range ∧ range.values = item.sent unit := by
  cases item with
  | value x =>
    obtain ⟨first, hfirst⟩ := Option.isSome_iff_exists.mp hvalid
    obtain ⟨hencode, hint⟩ := hunit x first hfirst
    refine ⟨⟨.finite first, .finite first, CalendarValue.stepOr1 none⟩, ?_, ?_⟩
    · simp only [encodeItem, hencode]
      rfl
    · ext n
      have hpos := CalendarComponent.sentStep_pos none
      simp only [mem_values_encoded hint hint, CalendarComponent.sent, Set.mem_ofPred_eq, max_self,
        hfirst, Option.some.injEq]
      constructor
      · rintro ⟨⟨k, rfl⟩, hle⟩
        have hnonneg : 0 ≤ (k : ℤ) * CalendarComponent.sentStep none := by positivity
        omega
      · rintro rfl
        exact ⟨⟨0, by simp⟩, le_rfl⟩
  | range start end_ step =>
    obtain ⟨hstart, hend⟩ := hvalid
    obtain ⟨first, hfirst⟩ := Option.isSome_iff_exists.mp hstart
    obtain ⟨x, rfl, hx⟩ := Option.bind_eq_some_iff.mp hfirst
    obtain ⟨hencode, hint⟩ := hunit x first hx
    have hbind : (some x).bind coders.encodeValueFn = some (.finite first) := hencode
    cases end_ with
    | none =>
      refine ⟨⟨.finite first, .finite (1 : ℤ), CalendarValue.stepOr1 step⟩, ?_, ?_⟩
      · simp only [encodeItem, hbind, Option.elim_none, Int.cast_one]
      · ext n
        rw [mem_values_encoded hint (by decide), CalendarComponent.mem_sent_range hfirst rfl]
    | some y =>
      obtain ⟨last, hlast⟩ := Option.isSome_iff_exists.mp (hend y rfl)
      obtain ⟨hencodeLast, hintLast⟩ := hunit y last hlast
      refine ⟨⟨.finite first, .finite last, CalendarValue.stepOr1 step⟩, ?_, ?_⟩
      · simp only [encodeItem, hbind, Option.elim_some, hencodeLast, Option.getD_some]
      · ext n
        have hend : (some y).elim (some 1) unit = some last := hlast
        rw [mem_values_encoded hint hintLast, CalendarComponent.mem_sent_range hfirst hend]

end CalendarSpecFieldCoders

/-! ### Encoding a field -/

/-- The numbers that a list of ranges denotes together -/
def rangesValues (ranges : List CalendarRange) : Set ℤ := {n | ∃ range ∈ ranges, n ∈ range.values}

def CalendarComponents.values (unit : CalendarValue → Option ℤ) (input : CalendarComponents) : Set ℤ :=
  {n | ∃ item ∈ input.items, n ∈ item.values unit}

def CalendarComponents.sent (unit : CalendarValue → Option ℤ) (input : CalendarComponents) : Set ℤ :=
  {n | ∃ item ∈ input.items, n ∈ item.sent unit}

namespace CalendarFieldName

variable (numberText : JsNumber → String) (field : CalendarFieldName) (input : CalendarComponents)

/-- The encoder throws a `TypeError`, as it does when a start or an end is not valid, or it returns
ranges that denote what the input denotes. -/
def EncodesExactly : Prop :=
  match field.coders.encoder numberText (.components input) with
  | .error e => ∃ message, e = .typeError message
  | .ok ranges =>
    (∀ item ∈ input.items, item.Valid field.unit) ∧ rangesValues ranges = input.values field.unit

/-- A component has a value or a start that is refused; or all have valid values, starts and ends, what
the ranges have in excess is in the input anyway, and what they omit is sent for another component. -/
def Careful : Prop :=
  (∃ item ∈ input.items, item.Refused field.coders) ∨
    (∀ item ∈ input.items, item.Valid field.unit) ∧
      (∀ item ∈ input.items, item.excess field.unit ⊆ input.values field.unit) ∧
        ∀ item ∈ input.items, item.omitted field.unit ⊆ input.sent field.unit

variable {numberText field input}

lemma between_of_wholeNumber {lo hi : ℤ} {inUnits : ℤ → Bool} {x : CalendarValue} {n : ℤ}
    (hunits : ∀ m, inUnits m = true → lo ≤ m ∧ m ≤ hi) (hlo : -2 ^ 31 ≤ lo) (hhi : hi < 2 ^ 31)
    (h : wholeNumber inUnits x = some n) : between lo hi x = some (.finite n) ∧ IsInt32 n := by
  rcases x with (_ | _ | _ | q) | _ | _
  all_goals try cases h
  simp only [wholeNumber] at h
  split_ifs at h with hq
  obtain rfl := Option.some.inj h
  obtain ⟨hge, hle⟩ := hunits _ hq.2
  have hnum : (q.num : ℚ) = q := (Rat.den_eq_one_iff q).mp hq.1
  have hrange : (lo : ℚ) ≤ q ∧ q ≤ hi := by
    rw [← hnum]
    exact ⟨by exact_mod_cast hge, by exact_mod_cast hle⟩
  exact ⟨by rw [between, if_pos hrange, hnum], hlo.trans hge, hle.trans_lt hhi⟩

lemma nameToNumber_of_unit {names : List String} {first n : ℤ} {s : String} (hfirst : 0 ≤ first)
    (hlength : first + names.length < 2 ^ 31)
    (h : (names.idxOf? s).map (fun index : ℕ => (index : ℤ) + first) = some n) :
    nameToNumber names first (.string s) = some (.finite n) ∧ IsInt32 n := by
  obtain ⟨index, hindex, rfl⟩ := Option.map_eq_some_iff.mp h
  refine ⟨by rw [nameToNumber, hindex, Option.map_some], ?_⟩
  have hlt : index < names.length := (List.findIdx?_eq_some_iff_findIdx_eq.mp hindex).1
  unfold IsInt32
  omega

/-- The valid values of each field are encoded as their numbers. -/
lemma encodes_unit : field.coders.Encodes field.unit := by
  intro x n h
  cases field with
  | second | minute | hour | dayOfMonth =>
    simp only [unit] at h
    refine between_of_wholeNumber (fun m hm => ?_) (by norm_num) (by norm_num) h
    simp only [Bool.and_eq_true, decide_eq_true_eq] at hm
    omega
  | month =>
    cases x with
    | string s => exact nameToNumber_of_unit (by norm_num) (by decide) h
    | _ => cases h
  | year =>
    rcases x with (_ | _ | _ | q) | _ | _
    all_goals try cases h
    simp only [unit, wholeNumber] at h
    split_ifs at h with hq
    obtain rfl := Option.some.inj h
    have hnum : (q.num : ℚ) = q := (Rat.den_eq_one_iff q).mp hq.1
    exact ⟨by simp only [coders, hnum], of_decide_eq_true hq.2⟩
  | dayOfWeek =>
    cases x with
    | string s =>
      have h' : ((DAYS_OF_WEEK.map Prod.snd).idxOf? s).map (fun index : ℕ => (index : ℤ) + 0) =
          some n := by
        simpa only [unit, add_zero] using h
      exact nameToNumber_of_unit le_rfl (by decide) h'
    | _ => cases h

variable (numberText) in
/-- The ranges of valid components denote what is sent for these. -/
lemma rangesValues_of_valid (hvalid : ∀ item ∈ input.items, item.Valid field.unit) :
    ∃ ranges, field.coders.encoder numberText (.components input) = .ok ranges ∧
      rangesValues ranges = input.sent field.unit := by
  obtain ⟨ranges, hranges, hmeans⟩ := Pipeline.mapM_keeps (m := fun item : CalendarComponent =>
      item.sent field.unit) fun item hitem =>
    exists_encodeItem numberText encodes_unit (hvalid item hitem)
  refine ⟨ranges, hranges, ?_⟩
  ext n
  have hmem : (∃ s ∈ ranges.map CalendarRange.values, n ∈ s) ↔
      ∃ s ∈ input.items.map fun item => item.sent field.unit, n ∈ s := by
    rw [hmeans]
  simp only [List.mem_map, exists_exists_and_eq_and] at hmem
  simp only [rangesValues, CalendarComponents.sent, Set.mem_ofPred_eq, hmem]

variable (numberText) in
/-- An input is refused as soon as one of its components is. -/
lemma encoder_eq_error_iff :
    (∃ e, field.coders.encoder numberText (.components input) = .error e) ↔
      ∃ item ∈ input.items, item.Refused field.coders := by
  constructor
  · rintro ⟨e, he⟩
    obtain ⟨item, hitem, hrefused⟩ := Pipeline.exists_of_mapM_error he
    exact ⟨item, hitem, (encodeItem_eq_error_iff.mp hrefused).1⟩
  · rintro ⟨item, hitem, hrefused⟩
    cases hranges : field.coders.encoder numberText (.components input) with
    | error e => exact ⟨e, rfl⟩
    | ok ranges =>
      obtain ⟨range, -, hrange⟩ := Pipeline.exists_of_mapM_ok hranges hitem
      rw [encodeItem_eq_error_iff.mpr ⟨hrefused, rfl⟩] at hrange
      cases hrange

/-- The encoder is exact for the careful inputs. -/
lemma encodesExactly_iff_careful : field.EncodesExactly numberText input ↔ field.Careful input := by
  unfold EncodesExactly Careful
  cases hranges : field.coders.encoder numberText (.components input) with
  | error e =>
    obtain ⟨item, hitem, hrefused⟩ := Pipeline.exists_of_mapM_error hranges
    obtain ⟨hcomponent, rfl⟩ := encodeItem_eq_error_iff.mp hrefused
    exact iff_of_true invalid_eq_typeError (.inl ⟨item, hitem, hcomponent⟩)
  | ok ranges =>
    have hnone : ¬∃ item ∈ input.items, item.Refused field.coders := by
      rw [← encoder_eq_error_iff numberText, hranges]
      rintro ⟨e, he⟩
      cases he
    rw [or_iff_right hnone]
    refine and_congr_right fun hvalid => ?_
    obtain ⟨ranges', hranges', hvalues⟩ := rangesValues_of_valid numberText hvalid
    obtain rfl := Except.ok.inj (hranges.symm.trans hranges')
    rw [hvalues, Set.Subset.antisymm_iff]
    refine and_congr ⟨fun hsubset item hitem n hn => ?_, fun hcover n => ?_⟩
      ⟨fun hsubset item hitem n hn => ?_, fun hcover n => ?_⟩
    · exact hsubset ⟨item, hitem, hn.1⟩
    · rintro ⟨item, hitem, hn⟩
      by_cases hmem : n ∈ item.values field.unit
      · exact ⟨item, hitem, hmem⟩
      · exact hcover item hitem ⟨hn, hmem⟩
    · exact hsubset ⟨item, hitem, hn.1⟩
    · rintro ⟨item, hitem, hn⟩
      by_cases hmem : n ∈ item.sent field.unit
      · exact ⟨item, hitem, hmem⟩
      · exact hcover item hitem ⟨hn, hmem⟩

/-- Plain components are careful. -/
lemma careful_of_plain (h : ∀ item ∈ input.items, item.Plain field.unit) : field.Careful input := by
  refine Or.inr ⟨fun item hitem => CalendarComponent.valid_of_plain (h item hitem),
    fun item hitem n hn => ?_, fun item hitem n hn => ?_⟩
  · rw [CalendarComponent.excess, CalendarComponent.sent_eq_values (h item hitem)] at hn
    exact absurd hn.1 hn.2
  · rw [CalendarComponent.omitted, CalendarComponent.sent_eq_values (h item hitem)] at hn
    exact absurd hn.1 hn.2

end CalendarFieldName

/-! ### The typed coders -/

/-- A typed component, its values written as values of JavaScript -/
def LooseRange.untyped {Unit : Type} (embed : Unit → CalendarValue) : LooseRange Unit → CalendarComponent
  | range start end_ step =>
    .range (start.map embed) (end_.map embed) (step.map fun n : ℤ => .number (.finite n))
  | value x => .value (embed x)

/-- The coders do with the typed values what the typed field does. -/
structure CalendarSpecFieldCoders.Typed {Unit : Type} (coders : CalendarSpecFieldCoders)
    (field : CalendarSpecField Unit) (embed : Unit → CalendarValue) : Prop where
  encodeValueFn : ∀ x, coders.encodeValueFn (embed x) =
    (field.encodeValueFn x).map fun n : ℤ => .finite n
  decodeValueFn : ∀ n, coders.decodeValueFn n = (field.decodeValueFn n).map embed

namespace CalendarSpecFieldCoders.Typed

variable {Unit : Type} {coders : CalendarSpecFieldCoders} {field : CalendarSpecField Unit}
  {embed : Unit → CalendarValue} {numberText : JsNumber → String}

lemma stepOr1 (step : Option ℤ) :
    CalendarValue.stepOr1 (step.map fun n : ℤ => .number (.finite n)) =
      .finite (step.elim 1 fun n => if 0 < n then n else 1 : ℤ) := by
  cases step with
  | none => rfl
  | some n =>
    simp only [CalendarValue.stepOr1, Option.map_some, JsNumber.lt, decide_eq_true_eq, Option.elim_some]
    by_cases hn : 0 < n
    · rw [if_pos hn, if_pos (by exact_mod_cast hn)]
    · rw [if_neg hn, if_neg (by exact_mod_cast hn)]
      rfl

/-- On typed components the encoders agree. -/
lemma encodeItem (h : coders.Typed field embed) (item : LooseRange Unit) :
    coders.encodeItem numberText (item.untyped embed) =
      match field.encodeItem item with
      | .ok range => .ok range.toCalendarRange
      | .error _ => .error (coders.invalid numberText (item.untyped embed)) := by
  cases item with
  | value x =>
    simp only [LooseRange.untyped, CalendarSpecFieldCoders.encodeItem, CalendarSpecField.encodeItem,
      h.encodeValueFn]
    cases field.encodeValueFn x <;> rfl
  | range start end_ step =>
    have hstart : (start.map embed).bind coders.encodeValueFn =
        (start.bind field.encodeValueFn).map fun n : ℤ => .finite n := by
      cases start with
      | none => rfl
      | some x => exact h.encodeValueFn x
    simp only [LooseRange.untyped, CalendarSpecFieldCoders.encodeItem, CalendarSpecField.encodeItem,
      hstart, stepOr1]
    cases start.bind field.encodeValueFn with
    | none => rfl
    | some first =>
      cases end_ with
      | none => rfl
      | some last =>
        simp only [Option.map_some, Option.elim_some, h.encodeValueFn]
        cases field.encodeValueFn last <;> rfl

/-- The decoders agree. -/
lemma decodeRange (h : coders.Typed field embed) (pb : ProtoRange) :
    coders.decodeRange pb = (field.decodeRange pb).toLooseRange.untyped embed := by
  simp only [CalendarSpecFieldCoders.decodeRange, CalendarSpecField.decodeRange, Range.toLooseRange,
    LooseRange.untyped, h.decodeValueFn, Option.map_some]
  by_cases hend : pb.start < pb.end_
  · simp only [if_pos hend, Option.map_or]
  · simp only [if_neg hend]

end CalendarSpecFieldCoders.Typed

namespace CalendarFieldName

/-- A number as a value -/
def numberValue (n : ℤ) : CalendarValue := .number (.finite n)

/-- A name as a value -/
def nameValue {Name : Type} [BEq Name] (names : List (Name × String)) (name : Name) : CalendarValue :=
  .string ((names.lookup name).getD "")

lemma typed_between {fieldName : String} {lo hi : ℤ} {valid : ℤ → Bool}
    {defaultValue matchAllValue : List ProtoRange} (hvalid : ∀ n, valid n = true ↔ lo ≤ n ∧ n ≤ hi) :
    Typed ⟨fieldName, between lo hi, fun n => some (.number (.finite n)), defaultValue, matchAllValue⟩
      (CalendarSpecField.numeric fieldName valid defaultValue matchAllValue) numberValue := by
  refine ⟨fun n => ?_, fun n => rfl⟩
  have hcast : ((lo : ℚ) ≤ n ∧ (n : ℚ) ≤ hi) ↔ valid n = true := by
    rw [hvalid]
    exact_mod_cast Iff.rfl
  simp only [numberValue, between, CalendarSpecField.numeric, hcast]
  split_ifs <;> rfl

lemma typed_named {Name : Type} [DecidableEq Name] {fieldName : String} {names : List (Name × String)}
    {first : ℤ} {defaultValue : List ProtoRange}
    (hindex : ∀ name, (names.map Prod.snd).idxOf? ((names.lookup name).getD "") =
      (names.map Prod.fst).idxOf? name)
    (hnames : (names.map Prod.snd).map CalendarValue.string =
      (names.map Prod.fst).map (nameValue names)) :
    Typed ⟨fieldName, nameToNumber (names.map Prod.snd) first, numberToName (names.map Prod.snd) first,
        defaultValue, defaultValue⟩
      (CalendarSpecField.named fieldName names first defaultValue) (nameValue names) := by
  refine ⟨fun name => ?_, fun n => ?_⟩
  · simp only [nameValue, nameToNumber, CalendarSpecField.named, hindex]
    cases (names.map Prod.fst).idxOf? name <;> rfl
  · simp only [numberToName, CalendarSpecField.named]
    by_cases hn : n < first
    · simp only [if_pos hn, Option.map_none]
    · simp only [if_neg hn]
      rw [← List.getElem?_map, hnames, List.getElem?_map]

/-- The values that the ranges of the service have for a field -/
def units : CalendarFieldName → Set ℤ
  | second | minute => minuteUnits
  | hour => hourUnits
  | dayOfMonth => dayOfMonthUnits
  | month => monthUnits
  | year => Set.univ
  | dayOfWeek => dayOfWeekUnits

/-- What is decoded is encoded to ranges that denote the same. -/
def RedecodesExactly (numberText : JsNumber → String) (field : CalendarFieldName)
    (ranges : List ProtoRange) : Prop :=
  ∃ encoded, field.coders.encoder numberText
      (.components (.many (field.coders.decoder (some ranges)))) = .ok encoded ∧
    rangesValues encoded = {n | ∃ range ∈ ranges, n ∈ range.values}

variable {numberText : JsNumber → String} {field : CalendarFieldName} {input : CalendarComponents}

lemma redecodesExactly_of_typed {Unit : Type} {typed : CalendarSpecField Unit}
    {embed : Unit → CalendarValue} (htyped : field.coders.Typed typed embed)
    (hcovers : typed.Covers field.units) {ranges : List ProtoRange}
    (hint : ∀ range ∈ ranges, range.IsInt32)
    (hranges : ∀ range ∈ ranges, CalendarSpecField.InRange field.units range) :
    RedecodesExactly numberText field ranges := by
  have hitem : ∀ range ∈ ranges, ∃ encoded,
      field.coders.encodeItem numberText (field.coders.decodeRange range) = .ok encoded ∧
        encoded.values = range.values := by
    intro range hmem
    have hencoded := CalendarSpecField.encodeItem_decodeRange_eq hcovers (hranges range hmem)
    obtain ⟨encoded, hencoded', hvalues⟩ :=
      CalendarSpecField.encodeItem_decodeRange hcovers (hranges range hmem)
    obtain rfl := Except.ok.inj (hencoded.symm.trans hencoded')
    refine ⟨_, by rw [htyped.decodeRange, htyped.encodeItem, hencoded], ?_⟩
    obtain ⟨hstart, hend, hstep⟩ := hint range hmem
    rw [ProtoRange.values_toCalendarRange, hvalues]
    · exact hstart
    · exact isInt32_max hstart hend
    · dsimp only
      split_ifs
      · exact hstep
      · decide
  obtain ⟨encoded, hencoded, hvalues⟩ := Pipeline.mapM_keeps hitem
  refine ⟨encoded, ?_, ?_⟩
  · rw [encoder, CalendarComponents.items, decoder, Option.getD_some, List.mapM_map]
    exact hencoded
  · have hmem : ∀ n, (∃ s ∈ encoded.map CalendarRange.values, n ∈ s) ↔
        ∃ s ∈ ranges.map ProtoRange.values, n ∈ s := fun n => by rw [hvalues]
    ext n
    have h := hmem n
    simp only [List.mem_map, exists_exists_and_eq_and] at h
    simpa only [rangesValues, Set.mem_ofPred_eq] using h

/-- Whatever ranges within the field are decoded, they are encoded again. -/
def Redecodes (numberText : JsNumber → String) (field : CalendarFieldName) : Prop :=
  ∀ ranges : List ProtoRange, (∀ range ∈ ranges, range.IsInt32) →
    (∀ range ∈ ranges, CalendarSpecField.InRange field.units range) →
      RedecodesExactly numberText field ranges

lemma redecodes : field.Redecodes numberText := by
  intro ranges hint hranges
  cases field with
  | second =>
    exact redecodesExactly_of_typed (typed_between (by simp)) secondField_covers hint hranges
  | minute =>
    exact redecodesExactly_of_typed (typed_between (by simp)) minuteField_covers hint hranges
  | hour => exact redecodesExactly_of_typed (typed_between (by simp)) hourField_covers hint hranges
  | dayOfMonth =>
    exact redecodesExactly_of_typed (typed_between (by simp)) dayOfMonthField_covers hint hranges
  | month =>
    exact redecodesExactly_of_typed (typed_named (fun name => by cases name <;> rfl) rfl)
      monthField_covers hint hranges
  | year =>
    have htyped : year.coders.Typed yearField numberValue := ⟨fun _ => rfl, fun _ => rfl⟩
    exact redecodesExactly_of_typed htyped yearField_covers hint hranges
  | dayOfWeek =>
    exact redecodesExactly_of_typed (typed_named (fun name => by cases name <;> rfl) rfl)
      dayOfWeekField_covers hint hranges

end CalendarFieldName

end TemporalSdk
