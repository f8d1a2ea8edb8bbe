import TemporalSdk.Common.Codec

/-!
# Decoding of activations

`WorkflowCodecRunner.decodeActivation` over the messages of Core. A message has the fields the
runner touches, and `rest` for all the others, which a spread copies. `V` is the type of what
stands under the keys of a memo.
-/

namespace TemporalSdk.Coresdk

structure Memo (V : Type) where
  fields : Option (PayloadRecord V)
deriving DecidableEq

structure SearchAttributes where
  indexedFields : Option (PayloadRecord Payload)
deriving DecidableEq

structure StartWorkflow (R V : Type) where
  arguments : Option (List Payload)
  headers : Option (PayloadRecord Payload)
  continuedFailure : Option Failure
  memo : Option (Memo V)
  lastCompletionResult : Option Payloads
  searchAttributes : Option SearchAttributes
  rest : R
deriving DecidableEq

structure QueryWorkflow (R : Type) where
  arguments : Option (List Payload)
  headers : Option (PayloadRecord Payload)
  rest : R
deriving DecidableEq

structure CancelWorkflow (R : Type) where
  details : Option (List Payload)
  rest : R
deriving DecidableEq

structure SignalWorkflow (R : Type) where
  input : Option (List Payload)
  headers : Option (PayloadRecord Payload)
  rest : R
deriving DecidableEq

structure Success where
  result : Option Payload
deriving DecidableEq

/-- The messages `Failure` and `Cancellation` of a resolution -/
structure FailedWith where
  failure : Option Failure
deriving DecidableEq

/-- `IActivityResolution` and `IChildWorkflowResult` -/
structure ResolutionResult (R : Type) where
  completed : Option Success
  failed : Option FailedWith
  cancelled : Option FailedWith
  rest : R
deriving DecidableEq

/-- `IResolveActivity` and `IResolveChildWorkflowExecution` -/
structure ResolveOperation (R : Type) where
  result : Option (ResolutionResult R)
  rest : R
deriving DecidableEq

structure ResolveChildWorkflowExecutionStart (R : Type) where
  cancelled : Option FailedWith
  rest : R
deriving DecidableEq

/-- `IResolveSignalExternalWorkflow` and `IResolveRequestCancelExternalWorkflow` -/
structure ResolveExternal (R : Type) where
  failure : Option Failure
  rest : R
deriving DecidableEq

structure WorkflowActivationJob (R V : Type) where
  startWorkflow : Option (StartWorkflow R V)
  queryWorkflow : Option (QueryWorkflow R)
  cancelWorkflow : Option (CancelWorkflow R)
  signalWorkflow : Option (SignalWorkflow R)
  resolveActivity : Option (ResolveOperation R)
  resolveChildWorkflowExecution : Option (ResolveOperation R)
  resolveChildWorkflowExecutionStart : Option (ResolveChildWorkflowExecutionStart R)
  resolveSignalExternalWorkflow : Option (ResolveExternal R)
  resolveRequestCancelExternalWorkflow : Option (ResolveExternal R)
  rest : R
deriving DecidableEq

structure WorkflowActivation (R V : Type) where
  jobs : Option (List (WorkflowActivationJob R V))
  rest : R
deriving DecidableEq

/-! ### The code -/

section Decode

variable {R : Type} (codecs : List PayloadCodec)

/-- A memo and a last completion result are built also where the job has none. -/
def decodeStartWorkflow (start : StartWorkflow R Payload) :
    Except JsError (StartWorkflow R RecordValue) := do
  let arguments ← decodeOptional codecs start.arguments
  let continuedFailure ← decodeOptionalFailure codecs start.continuedFailure
  let fields ← decodeOptionalMap codecs (start.memo.bind Memo.fields)
  let payloads ← decodeOptional codecs (start.lastCompletionResult.bind Payloads.payloads)
  return {
    arguments
    headers := start.headers
    continuedFailure
    memo := some ⟨fields⟩
    lastCompletionResult := some ⟨payloads⟩
    searchAttributes := start.searchAttributes
    rest := start.rest }

def decodeQueryWorkflow (query : QueryWorkflow R) : Except JsError (QueryWorkflow R) := do
  let arguments ← decodeOptional codecs query.arguments
  return { query with arguments }

def decodeCancelWorkflow (cancel : CancelWorkflow R) : Except JsError (CancelWorkflow R) := do
  let details ← decodeOptional codecs cancel.details
  return { cancel with details }

def decodeSignalWorkflow (signal : SignalWorkflow R) : Except JsError (SignalWorkflow R) := do
  let input ← decodeOptional codecs signal.input
  return { signal with input }

def decodeSuccess (success : Success) : Except JsError Success := do
  let result ← decodeOptionalSingle codecs success.result
  return ⟨result⟩

def decodeFailedWith (failed : FailedWith) : Except JsError FailedWith := do
  let failure ← decodeOptionalFailure codecs failed.failure
  return ⟨failure⟩

def decodeResolutionResult (result : ResolutionResult R) : Except JsError (ResolutionResult R) := do
  let completed ← result.completed.mapM (decodeSuccess codecs)
  let failed ← result.failed.mapM (decodeFailedWith codecs)
  let cancelled ← result.cancelled.mapM (decodeFailedWith codecs)
  return { result with completed, failed, cancelled }

def decodeResolveOperation (resolve : ResolveOperation R) : Except JsError (ResolveOperation R) := do
  let result ← resolve.result.mapM (decodeResolutionResult codecs)
  return { resolve with result }

def decodeResolveChildWorkflowExecutionStart (resolve : ResolveChildWorkflowExecutionStart R) :
    Except JsError (ResolveChildWorkflowExecutionStart R) := do
  let cancelled ← resolve.cancelled.mapM (decodeFailedWith codecs)
  return { resolve with cancelled }

def decodeResolveExternal (resolve : ResolveExternal R) : Except JsError (ResolveExternal R) := do
  let failure ← decodeOptionalFailure codecs resolve.failure
  return { resolve with failure }

def decodeJob (job : WorkflowActivationJob R Payload) :
    Except JsError (WorkflowActivationJob R RecordValue) := do
  let startWorkflow ← job.startWorkflow.mapM (decodeStartWorkflow codecs)
  let queryWorkflow ← job.queryWorkflow.mapM (decodeQueryWorkflow codecs)
  let cancelWorkflow ← job.cancelWorkflow.mapM (decodeCancelWorkflow codecs)
  let signalWorkflow ← job.signalWorkflow.mapM (decodeSignalWorkflow codecs)
  let resolveActivity ← job.resolveActivity.mapM (decodeResolveOperation codecs)
  let resolveChildWorkflowExecution ←
    job.resolveChildWorkflowExecution.mapM (decodeResolveOperation codecs)
  let resolveChildWorkflowExecutionStart ← job.resolveChildWorkflowExecutionStart.mapM
    (decodeResolveChildWorkflowExecutionStart codecs)
  let resolveSignalExternalWorkflow ←
    job.resolveSignalExternalWorkflow.mapM (decodeResolveExternal codecs)
  let resolveRequestCancelExternalWorkflow ←
    job.resolveRequestCancelExternalWorkflow.mapM (decodeResolveExternal codecs)
  return {
    startWorkflow, queryWorkflow, cancelWorkflow, signalWorkflow, resolveActivity,
    resolveChildWorkflowExecution, resolveChildWorkflowExecutionStart,
    resolveSignalExternalWorkflow, resolveRequestCancelExternalWorkflow
    rest := job.rest }

/-- `WorkflowCodecRunner.decodeActivation` -/
def decodeActivation (activation : WorkflowActivation R Payload) :
    Except JsError (WorkflowActivation R RecordValue) := do
  let jobs ← activation.jobs.mapM fun jobs => jobs.mapM (decodeJob codecs)
  return { jobs, rest := activation.rest }

end Decode

/-! ### What decoding is for -/

section Mapped

variable {R V W : Type} (m : PayloadMap) (value : V → W)

def StartWorkflow.mapPayloads (start : StartWorkflow R V) : StartWorkflow R W where
  arguments := start.arguments.map m.list
  headers := start.headers
  continuedFailure := start.continuedFailure.map (Failure.mapPayloads m)
  memo := start.memo.map fun memo => ⟨memo.fields.map (List.map fun (k, v) => (k, value v))⟩
  lastCompletionResult := start.lastCompletionResult.map fun result => ⟨result.payloads.map m.list⟩
  searchAttributes := start.searchAttributes
  rest := start.rest

def FailedWith.mapPayloads (failed : FailedWith) : FailedWith :=
  ⟨failed.failure.map (Failure.mapPayloads m)⟩

def ResolveOperation.mapPayloads (resolve : ResolveOperation R) : ResolveOperation R :=
  { resolve with
    result := resolve.result.map fun result =>
      { result with
        completed := result.completed.map fun success => ⟨success.result.map m.single⟩
        failed := result.failed.map (FailedWith.mapPayloads m)
        cancelled := result.cancelled.map (FailedWith.mapPayloads m) } }

def ResolveExternal.mapPayloads (resolve : ResolveExternal R) : ResolveExternal R :=
  { resolve with failure := resolve.failure.map (Failure.mapPayloads m) }

def WorkflowActivationJob.mapPayloads (job : WorkflowActivationJob R V) :
    WorkflowActivationJob R W where
  startWorkflow := job.startWorkflow.map (StartWorkflow.mapPayloads m value)
  queryWorkflow := job.queryWorkflow.map fun query =>
    { query with arguments := query.arguments.map m.list }
  cancelWorkflow := job.cancelWorkflow.map fun cancel =>
    { cancel with details := cancel.details.map m.list }
  signalWorkflow := job.signalWorkflow.map fun signal =>
    { signal with input := signal.input.map m.list }
  resolveActivity := job.resolveActivity.map (ResolveOperation.mapPayloads m)
  resolveChildWorkflowExecution :=
    job.resolveChildWorkflowExecution.map (ResolveOperation.mapPayloads m)
  resolveChildWorkflowExecutionStart := job.resolveChildWorkflowExecutionStart.map fun resolve =>
    { resolve with cancelled := resolve.cancelled.map (FailedWith.mapPayloads m) }
  resolveSignalExternalWorkflow :=
    job.resolveSignalExternalWorkflow.map (ResolveExternal.mapPayloads m)
  resolveRequestCancelExternalWorkflow :=
    job.resolveRequestCancelExternalWorkflow.map (ResolveExternal.mapPayloads m)
  rest := job.rest

/-- Every payload of an activation outside headers and search attributes is mapped: payload lists
as lists, single payloads one by one, and those of memos by `value`. -/
def WorkflowActivation.mapPayloads (activation : WorkflowActivation R V) : WorkflowActivation R W where
  jobs := activation.jobs.map (List.map (WorkflowActivationJob.mapPayloads m value))
  rest := activation.rest

/-- An absent memo is replaced by one without fields, an absent last completion result by one
without payloads. -/
def StartWorkflow.normalize (start : StartWorkflow R V) : StartWorkflow R V :=
  { start with
    memo := some ⟨start.memo.bind Memo.fields⟩
    lastCompletionResult := some ⟨start.lastCompletionResult.bind Payloads.payloads⟩ }

def WorkflowActivationJob.normalize (job : WorkflowActivationJob R V) : WorkflowActivationJob R V :=
  { job with startWorkflow := job.startWorkflow.map StartWorkflow.normalize }

def WorkflowActivation.normalize (activation : WorkflowActivation R V) : WorkflowActivation R V :=
  { activation with jobs := activation.jobs.map (List.map WorkflowActivationJob.normalize) }

/-- The same activation up to absent fields, along every path of field names. -/
def WorkflowActivation.Same (a b : WorkflowActivation R V) : Prop := a.normalize = b.normalize

end Mapped

section Decoded

variable {R : Type} {codecs : List PayloadCodec} {m : PayloadMap}

/-- What the decoded memo has for a payload: an array of one payload. -/
def decodedRecordValue (m : PayloadMap) (payload : Payload) : RecordValue := .array [m.single payload]

lemma decodeStartWorkflow_eq (h : Codes (decode codecs) m) (start : StartWorkflow R Payload) :
    decodeStartWorkflow codecs start =
      .ok (start.mapPayloads m (decodedRecordValue m)).normalize := by
  have harguments : decodeOptional codecs start.arguments = .ok _ := h.optional _
  have hfailure : decodeOptionalFailure codecs start.continuedFailure = .ok _ := h.optionalFailure _
  have hfields := decodeOptionalMap_eq h (start.memo.bind Memo.fields)
  have hpayloads : decodeOptional codecs (start.lastCompletionResult.bind Payloads.payloads) = .ok _ :=
    h.optional _
  unfold decodeStartWorkflow
  rw [harguments, hfailure, hfields, hpayloads]
  unfold StartWorkflow.normalize StartWorkflow.mapPayloads
  cases hmemo : start.memo <;> cases hresult : start.lastCompletionResult <;> rfl

lemma decodeFailedWith_eq (h : Codes (decode codecs) m) (failed : FailedWith) :
    decodeFailedWith codecs failed = .ok (failed.mapPayloads m) := by
  have hfailure : decodeOptionalFailure codecs failed.failure = .ok _ := h.optionalFailure _
  unfold decodeFailedWith
  rw [hfailure]
  rfl

lemma decodeResolveOperation_eq (h : Codes (decode codecs) m) (resolve : ResolveOperation R) :
    decodeResolveOperation codecs resolve = .ok (resolve.mapPayloads m) := by
  have hsuccess : ∀ success : Success,
      decodeSuccess codecs success = .ok ⟨success.result.map m.single⟩ := by
    intro success
    have hresult : decodeOptionalSingle codecs success.result = .ok _ := h.optionalSingle _
    unfold decodeSuccess
    rw [hresult]
    rfl
  unfold decodeResolveOperation
  rw [option_mapM_ok (g := fun result => { result with
    completed := result.completed.map fun success => ⟨success.result.map m.single⟩
    failed := result.failed.map (FailedWith.mapPayloads m)
    cancelled := result.cancelled.map (FailedWith.mapPayloads m) }) (by
      intro result
      unfold decodeResolutionResult
      rw [option_mapM_ok hsuccess, option_mapM_ok (decodeFailedWith_eq h),
        option_mapM_ok (decodeFailedWith_eq h)]
      rfl)]
  rfl

lemma decodeResolveExternal_eq (h : Codes (decode codecs) m) (resolve : ResolveExternal R) :
    decodeResolveExternal codecs resolve = .ok (resolve.mapPayloads m) := by
  have hfailure : decodeOptionalFailure codecs resolve.failure = .ok _ := h.optionalFailure _
  unfold decodeResolveExternal
  rw [hfailure]
  rfl

lemma decodeQueryWorkflow_eq (h : Codes (decode codecs) m) (query : QueryWorkflow R) :
    decodeQueryWorkflow codecs query = .ok { query with arguments := query.arguments.map m.list } := by
  have harguments : decodeOptional codecs query.arguments = .ok _ := h.optional _
  unfold decodeQueryWorkflow
  rw [harguments]
  rfl

lemma decodeCancelWorkflow_eq (h : Codes (decode codecs) m) (cancel : CancelWorkflow R) :
    decodeCancelWorkflow codecs cancel = .ok { cancel with details := cancel.details.map m.list } := by
  have hdetails : decodeOptional codecs cancel.details = .ok _ := h.optional _
  unfold decodeCancelWorkflow
  rw [hdetails]
  rfl

lemma decodeSignalWorkflow_eq (h : Codes (decode codecs) m) (signal : SignalWorkflow R) :
    decodeSignalWorkflow codecs signal = .ok { signal with input := signal.input.map m.list } := by
  have hinput : decodeOptional codecs signal.input = .ok _ := h.optional _
  unfold decodeSignalWorkflow
  rw [hinput]
  rfl

lemma decodeResolveChildWorkflowExecutionStart_eq (h : Codes (decode codecs) m)
    (resolve : ResolveChildWorkflowExecutionStart R) :
    decodeResolveChildWorkflowExecutionStart codecs resolve =
      .ok { resolve with cancelled := resolve.cancelled.map (FailedWith.mapPayloads m) } := by
  unfold decodeResolveChildWorkflowExecutionStart
  rw [option_mapM_ok (decodeFailedWith_eq h)]
  rfl

lemma decodeJob_eq (h : Codes (decode codecs) m) (job : WorkflowActivationJob R Payload) :
    decodeJob codecs job = .ok (job.mapPayloads m (decodedRecordValue m)).normalize := by
  unfold decodeJob
  rw [option_mapM_ok (decodeStartWorkflow_eq h), option_mapM_ok (decodeQueryWorkflow_eq h),
    option_mapM_ok (decodeCancelWorkflow_eq h), option_mapM_ok (decodeSignalWorkflow_eq h),
    option_mapM_ok (decodeResolveOperation_eq h), option_mapM_ok (decodeResolveOperation_eq h),
    option_mapM_ok (decodeResolveChildWorkflowExecutionStart_eq h),
    option_mapM_ok (decodeResolveExternal_eq h), option_mapM_ok (decodeResolveExternal_eq h)]
  unfold WorkflowActivationJob.normalize WorkflowActivationJob.mapPayloads
  simp only [bind, Except.bind, pure, Except.pure, Option.map_map, Function.comp_def]

/-- What `decodeActivation` returns: the mapped activation, with arrays for the payloads of memos
and with a memo and a last completion result in every start job. -/
lemma decodeActivation_eq (h : Codes (decode codecs) m) (activation : WorkflowActivation R Payload) :
    decodeActivation codecs activation =
      .ok (activation.mapPayloads m (decodedRecordValue m)).normalize := by
  unfold decodeActivation
  rw [option_mapM_ok (list_mapM_ok (decodeJob_eq h))]
  unfold WorkflowActivation.normalize WorkflowActivation.mapPayloads
  simp only [bind, Except.bind, pure, Except.pure, Option.map_map, Function.comp_def, List.map_map]

end Decoded

section Exact

variable {R V W : Type} {m : PayloadMap} {value value' : V → W}

def StartWorkflow.memoEntries (start : StartWorkflow R V) : PayloadRecord V :=
  (start.memo.bind Memo.fields).getD []

/-- No start job has a payload in its memo. -/
def WorkflowActivation.NoMemoEntries (activation : WorkflowActivation R V) : Prop :=
  ∀ job ∈ activation.jobs.getD [], ∀ start ∈ job.startWorkflow, start.memoEntries = []

lemma WorkflowActivationJob.normalize_normalize (job : WorkflowActivationJob R V) :
    job.normalize.normalize = job.normalize := by
  unfold normalize
  rw [Option.map_map]
  rfl

lemma WorkflowActivation.normalize_normalize (activation : WorkflowActivation R V) :
    activation.normalize.normalize = activation.normalize := by
  unfold normalize
  simp only [Option.map_map, Function.comp_def, List.map_map,
    WorkflowActivationJob.normalize_normalize]

lemma record_map_eq_iff (h : ∀ v, value v ≠ value' v) (record : PayloadRecord V) :
    record.map (fun (k, v) => (k, value v)) = record.map (fun (k, v) => (k, value' v)) ↔
      record = [] := by
  rw [List.map_inj_left, List.eq_nil_iff_forall_not_mem]
  apply forall_congr'
  rintro ⟨k, v⟩
  simp [h v]

lemma StartWorkflow.normalize_mapPayloads_eq_iff (h : ∀ v, value v ≠ value' v)
    (start : StartWorkflow R V) :
    (start.mapPayloads m value).normalize = (start.mapPayloads m value').normalize ↔
      start.memoEntries = [] := by
  unfold normalize mapPayloads memoEntries
  rcases hmemo : start.memo with _ | ⟨_ | record⟩
  · simp
  · simp
  · simpa using record_map_eq_iff h record

lemma WorkflowActivationJob.normalize_mapPayloads_eq_iff (h : ∀ v, value v ≠ value' v)
    (job : WorkflowActivationJob R V) :
    (job.mapPayloads m value).normalize = (job.mapPayloads m value').normalize ↔
      ∀ start ∈ job.startWorkflow, start.memoEntries = [] := by
  unfold normalize mapPayloads
  rcases hstart : job.startWorkflow with _ | start
  · simp
  · simpa using StartWorkflow.normalize_mapPayloads_eq_iff h start

lemma WorkflowActivation.normalize_mapPayloads_eq_iff (h : ∀ v, value v ≠ value' v)
    (activation : WorkflowActivation R V) :
    (activation.mapPayloads m value).normalize = (activation.mapPayloads m value').normalize ↔
      activation.NoMemoEntries := by
  unfold normalize mapPayloads NoMemoEntries
  rcases hjobs : activation.jobs with _ | jobs
  · simp
  · simp only [Option.map_some, List.map_map, mk.injEq, Option.some.injEq, and_true,
      Option.getD_some, List.map_inj_left, Function.comp_apply]
    apply forall₂_congr
    intro job _
    exact job.normalize_mapPayloads_eq_iff h

end Exact

/-- Every payload outside headers and search attributes is decoded to a single payload, once, and
nothing else changes. -/
def DecodesExactly {R : Type} (codecs : List PayloadCodec) (activation : WorkflowActivation R Payload) :
    Prop :=
  ∃ m, Codes (decode codecs) m ∧ ∃ decoded, decodeActivation codecs activation = .ok decoded ∧
    decoded.Same (activation.mapPayloads m fun payload => RecordValue.payload (m.single payload))

def recordOfPayloads (record : PayloadRecord Payload) : PayloadRecord RecordValue :=
  record.map fun (k, v) => (k, .payload v)

lemma recordOfPayloads_injective : Function.Injective recordOfPayloads := by
  apply List.map_injective_iff.mpr
  rintro ⟨k, v⟩ ⟨k', v'⟩ he
  simpa using he

/-- Decoding an encoded record of payloads gives it back. -/
def RecordRoundTrips (codecs : List PayloadCodec) (record : Option (PayloadRecord Payload)) : Prop :=
  ∃ encoded : Option (PayloadRecord Payload),
    encodeMap codecs record = .ok (encoded.map recordOfPayloads) ∧
    decodeOptionalMap codecs encoded = .ok (record.map recordOfPayloads)

lemma decodesExactly_iff_of_codes {R : Type} {codecs : List PayloadCodec} {m : PayloadMap}
    (h : Codes (decode codecs) m) (activation : WorkflowActivation R Payload) :
    DecodesExactly codecs activation ↔ activation.NoMemoEntries := by
  have hvalue : ∀ payload, decodedRecordValue m payload ≠ RecordValue.payload (m.single payload) := by
    intro payload he
    cases he
  rw [← WorkflowActivation.normalize_mapPayloads_eq_iff (m := m) hvalue]
  constructor
  · rintro ⟨m', hm', decoded, hdecoded, hsame⟩
    cases h.unique hm'
    rw [decodeActivation_eq h] at hdecoded
    cases hdecoded
    unfold WorkflowActivation.Same at hsame
    rwa [WorkflowActivation.normalize_normalize] at hsame
  · intro he
    refine ⟨m, h, _, decodeActivation_eq h activation, ?_⟩
    unfold WorkflowActivation.Same
    rwa [WorkflowActivation.normalize_normalize]

lemma recordRoundTrips_iff {codecs : List PayloadCodec} (hround : ∀ codec ∈ codecs, codec.RoundTrips)
    (hsingle : ∀ codec ∈ codecs, codec.EncodesSingles) (record : Option (PayloadRecord Payload)) :
    RecordRoundTrips codecs record ↔ record.getD [] = [] := by
  obtain ⟨m, hm, -, hback⟩ := exists_codes_undone hround hsingle
  let coded := record.map (List.map fun (k, v) => (k, m.single v))
  have hencode : encodeMap codecs record = .ok (coded.map recordOfPayloads) := by
    rw [encodeMap_eq hm record, Option.map_map]
    simp only [recordOfPayloads, Function.comp_def, List.map_map]
  have hdecode : decodeOptionalMap codecs coded =
      .ok (record.map (List.map fun (k, v) => (k, RecordValue.array [v]))) := by
    apply mapM_map
    intro entries
    rw [List.mapM_map]
    apply list_mapM_ok
    intro (k, v)
    simp only [Function.comp_apply, hback v]
    rfl
  have harray : ∀ entries : PayloadRecord Payload,
      entries.map (fun (k, v) => (k, RecordValue.array [v])) = recordOfPayloads entries ↔ entries = [] := by
    have hne : ∀ v : Payload, RecordValue.array [v] ≠ RecordValue.payload v := by
      intro v he
      cases he
    exact fun entries => record_map_eq_iff hne entries
  constructor
  · rintro ⟨encoded, hencoded, hdecoded⟩
    have hcoded : coded = encoded := by
      apply Option.map_injective recordOfPayloads_injective
      exact Except.ok.inj (hencode.symm.trans hencoded)
    rw [← hcoded, hdecode] at hdecoded
    cases record with
    | none => rfl
    | some entries => exact (harray entries).mp (Option.some.inj (Except.ok.inj hdecoded))
  · intro hempty
    refine ⟨coded, hencode, hdecode.trans ?_⟩
    cases record with
    | none => rfl
    | some entries =>
      have he := (harray entries).mpr hempty
      rw [Option.map_some, Option.map_some, he]

/-- Payloads of memos come out as arrays; all others are decoded exactly, so that an activation is
decoded exactly when no start job has a memo entry, and a record of payloads is decoded exactly
when it is empty. -/
theorem decodesExactly_iff {R : Type} (codecs : List PayloadCodec)
    (hcodecs : ∀ codec ∈ codecs, KeepsSingles codec.decode) :
    (∀ activation : WorkflowActivation R Payload,
      DecodesExactly codecs activation ↔ activation.NoMemoEntries) ∧
    ((∀ codec ∈ codecs, codec.RoundTrips) → (∀ codec ∈ codecs, codec.EncodesSingles) →
      ∀ record, RecordRoundTrips codecs record ↔ record.getD [] = []) := by
  obtain ⟨m, hm⟩ := exists_codes_decode hcodecs
  exact ⟨decodesExactly_iff_of_codes hm, recordRoundTrips_iff⟩

/-- A start job with a memo of one payload -/
def memoActivation : WorkflowActivation Unit Payload :=
  ⟨some [⟨some ⟨none, none, none, some ⟨some [("key", ⟨[], [1]⟩)]⟩, none, none, ()⟩,
    none, none, none, none, none, none, none, none, ()⟩], ()⟩

/-- One with an argument, and without a memo -/
def argumentActivation : WorkflowActivation Unit Payload :=
  ⟨some [⟨some ⟨some [⟨[], [1, 2]⟩], none, none, none, none, none, ()⟩,
    none, none, none, none, none, none, none, none, ()⟩], ()⟩

theorem decodesExactly_iff_memoActivation :
    DecodesExactly [reverseData] argumentActivation ∧ ¬DecodesExactly [reverseData] memoActivation ∧
      RecordRoundTrips [reverseData] none := by
  have hsingles : KeepsSingles reverseData.decode := ⟨fun _ => ⟨_, rfl⟩, fun _ => ⟨_, rfl⟩⟩
  have h := decodesExactly_iff (R := Unit) [reverseData] (by simpa using hsingles)
  have hargument : argumentActivation.NoMemoEntries := by
    unfold WorkflowActivation.NoMemoEntries
    decide
  have hmemo : ¬memoActivation.NoMemoEntries := by
    unfold WorkflowActivation.NoMemoEntries
    decide
  refine ⟨(h.1 argumentActivation).mpr hargument, fun hdecodes => hmemo ((h.1 memoActivation).mp hdecodes), ?_⟩
  exact (h.2 (by simpa using reverseData_roundTrips) (by simpa using reverseData_encodesSingles) none).mpr rfl

/-- Without any codec, the memo of a start job is changed. -/
theorem decodesExactly_counterexample : ¬ DecodesExactly [] memoActivation := by
  have hcodecs : ∀ codec ∈ ([] : List PayloadCodec), KeepsSingles codec.decode := by simp
  obtain ⟨m, hm⟩ := exists_codes_decode hcodecs
  rw [decodesExactly_iff_of_codes hm]
  unfold WorkflowActivation.NoMemoEntries
  decide

end TemporalSdk.Coresdk
