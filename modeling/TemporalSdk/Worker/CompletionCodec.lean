import TemporalSdk.Worker.ActivationCodec

/-!
# Encoding of completions

`WorkflowCodecRunner.encodeCompletion`, up to the object that it hands to `encodeDelimited`.
-/

namespace TemporalSdk.Coresdk

/-- `IScheduleActivity` and `IScheduleLocalActivity` -/
structure ScheduleActivity (R : Type) where
  arguments : Option (List Payload)
  headers : Option (PayloadRecord Payload)
  rest : R
deriving DecidableEq

structure UpsertWorkflowSearchAttributes (R : Type) where
  searchAttributes : Option (PayloadRecord Payload)
  rest : R
deriving DecidableEq

structure QuerySuccess where
  response : Option Payload
deriving DecidableEq

structure RespondToQuery (R : Type) where
  succeeded : Option QuerySuccess
  failed : Option Failure
  rest : R
deriving DecidableEq

structure CompleteWorkflowExecution (R : Type) where
  result : Option Payload
  rest : R
deriving DecidableEq

structure FailWorkflowExecution (R : Type) where
  failure : Option Failure
  rest : R
deriving DecidableEq

/-- `IContinueAsNewWorkflowExecution` and `IStartChildWorkflowExecution`; `arguments` is the `input`
of the latter. -/
structure StartExecution (R V : Type) where
  arguments : Option (List Payload)
  memo : Option (PayloadRecord V)
  headers : Option (PayloadRecord Payload)
  searchAttributes : Option (PayloadRecord Payload)
  rest : R
deriving DecidableEq

structure SignalExternalWorkflowExecution (R : Type) where
  args : Option (List Payload)
  headers : Option (PayloadRecord Payload)
  rest : R
deriving DecidableEq

structure ModifyWorkflowProperties (R V : Type) where
  upsertedMemo : Option (Memo V)
  rest : R
deriving DecidableEq

structure WorkflowCommand (R V : Type) where
  scheduleActivity : Option (ScheduleActivity R)
  upsertWorkflowSearchAttributes : Option (UpsertWorkflowSearchAttributes R)
  respondToQuery : Option (RespondToQuery R)
  completeWorkflowExecution : Option (CompleteWorkflowExecution R)
  failWorkflowExecution : Option (FailWorkflowExecution R)
  continueAsNewWorkflowExecution : Option (StartExecution R V)
  startChildWorkflowExecution : Option (StartExecution R V)
  signalExternalWorkflowExecution : Option (SignalExternalWorkflowExecution R)
  scheduleLocalActivity : Option (ScheduleActivity R)
  modifyWorkflowProperties : Option (ModifyWorkflowProperties R V)
  rest : R
deriving DecidableEq

structure Successful (R V : Type) where
  commands : Option (List (WorkflowCommand R V))
deriving DecidableEq

structure WorkflowActivationCompletion (R V : Type) where
  failed : Option FailedWith
  successful : Option (Successful R V)
  rest : R
deriving DecidableEq

/-! ### The code -/

section Encode

variable {R : Type} (codecs : List PayloadCodec)

def encodeScheduleActivity (command : ScheduleActivity R) : Except JsError (ScheduleActivity R) := do
  let arguments ← encodeOptional codecs command.arguments
  return { command with arguments }

/-- The response of a succeeded query is also built for a failed one. -/
def encodeRespondToQuery (command : RespondToQuery R) : Except JsError (RespondToQuery R) := do
  let response ← encodeOptionalSingle codecs (command.succeeded.bind QuerySuccess.response)
  let failed ← encodeOptionalFailure codecs command.failed
  return { command with succeeded := some ⟨response⟩, failed }

def encodeCompleteWorkflowExecution (command : CompleteWorkflowExecution R) :
    Except JsError (CompleteWorkflowExecution R) := do
  let result ← encodeOptionalSingle codecs command.result
  return { command with result }

def encodeFailWorkflowExecution (command : FailWorkflowExecution R) :
    Except JsError (FailWorkflowExecution R) := do
  let failure ← encodeOptionalFailure codecs command.failure
  return { command with failure }

def encodeStartExecution (command : StartExecution R Payload) :
    Except JsError (StartExecution R RecordValue) := do
  let arguments ← encodeOptional codecs command.arguments
  let memo ← encodeMap codecs command.memo
  return { command with arguments, memo }

def encodeSignalExternalWorkflowExecution (command : SignalExternalWorkflowExecution R) :
    Except JsError (SignalExternalWorkflowExecution R) := do
  let args ← encodeOptional codecs command.args
  return { command with args }

/-- An upserted memo is built also where the command has none. -/
def encodeModifyWorkflowProperties (command : ModifyWorkflowProperties R Payload) :
    Except JsError (ModifyWorkflowProperties R RecordValue) := do
  let fields ← encodeMap codecs (command.upsertedMemo.bind Memo.fields)
  return { command with upsertedMemo := some ⟨fields⟩ }

def encodeCommand (command : WorkflowCommand R Payload) :
    Except JsError (WorkflowCommand R RecordValue) := do
  let scheduleActivity ← command.scheduleActivity.mapM (encodeScheduleActivity codecs)
  let respondToQuery ← command.respondToQuery.mapM (encodeRespondToQuery codecs)
  let completeWorkflowExecution ←
    command.completeWorkflowExecution.mapM (encodeCompleteWorkflowExecution codecs)
  let failWorkflowExecution ← command.failWorkflowExecution.mapM (encodeFailWorkflowExecution codecs)
  let continueAsNewWorkflowExecution ←
    command.continueAsNewWorkflowExecution.mapM (encodeStartExecution codecs)
  let startChildWorkflowExecution ←
    command.startChildWorkflowExecution.mapM (encodeStartExecution codecs)
  let signalExternalWorkflowExecution ←
    command.signalExternalWorkflowExecution.mapM (encodeSignalExternalWorkflowExecution codecs)
  let scheduleLocalActivity ← command.scheduleLocalActivity.mapM (encodeScheduleActivity codecs)
  let modifyWorkflowProperties ←
    command.modifyWorkflowProperties.mapM (encodeModifyWorkflowProperties codecs)
  return {
    scheduleActivity
    upsertWorkflowSearchAttributes := command.upsertWorkflowSearchAttributes
    respondToQuery, completeWorkflowExecution, failWorkflowExecution,
    continueAsNewWorkflowExecution, startChildWorkflowExecution, signalExternalWorkflowExecution,
    scheduleLocalActivity, modifyWorkflowProperties
    rest := command.rest }

def encodeSuccessful (successful : Successful R Payload) :
    Except JsError (Successful R RecordValue) := do
  let commands ← successful.commands.mapM fun commands => commands.mapM (encodeCommand codecs)
  return ⟨commands⟩

def encodeFailedWith (failed : FailedWith) : Except JsError FailedWith := do
  let failure ← encodeOptionalFailure codecs failed.failure
  return ⟨failure⟩

/-- `WorkflowCodecRunner.encodeCompletion` -/
def encodeCompletion (completion : WorkflowActivationCompletion R Payload) :
    Except JsError (WorkflowActivationCompletion R RecordValue) := do
  let failed ← completion.failed.mapM (encodeFailedWith codecs)
  let successful ← completion.successful.mapM (encodeSuccessful codecs)
  return { failed, successful, rest := completion.rest }

end Encode

/-! ### What encoding is for -/

section Mapped

variable {R V W : Type} (m : PayloadMap) (value : V → W)

def ScheduleActivity.mapPayloads (command : ScheduleActivity R) : ScheduleActivity R :=
  { command with arguments := command.arguments.map m.list }

def RespondToQuery.mapPayloads (command : RespondToQuery R) : RespondToQuery R :=
  { command with
    succeeded := command.succeeded.map fun success => ⟨success.response.map m.single⟩
    failed := command.failed.map (Failure.mapPayloads m) }

def StartExecution.mapPayloads (command : StartExecution R V) : StartExecution R W :=
  { command with
    arguments := command.arguments.map m.list
    memo := command.memo.map (List.map fun (k, v) => (k, value v)) }

def ModifyWorkflowProperties.mapPayloads (command : ModifyWorkflowProperties R V) :
    ModifyWorkflowProperties R W :=
  { command with
    upsertedMemo := command.upsertedMemo.map fun memo =>
      ⟨memo.fields.map (List.map fun (k, v) => (k, value v))⟩ }

def WorkflowCommand.mapPayloads (command : WorkflowCommand R V) : WorkflowCommand R W where
  scheduleActivity := command.scheduleActivity.map (ScheduleActivity.mapPayloads m)
  upsertWorkflowSearchAttributes := command.upsertWorkflowSearchAttributes
  respondToQuery := command.respondToQuery.map (RespondToQuery.mapPayloads m)
  completeWorkflowExecution := command.completeWorkflowExecution.map fun complete =>
    { complete with result := complete.result.map m.single }
  failWorkflowExecution := command.failWorkflowExecution.map fun fail =>
    { fail with failure := fail.failure.map (Failure.mapPayloads m) }
  continueAsNewWorkflowExecution :=
    command.continueAsNewWorkflowExecution.map (StartExecution.mapPayloads m value)
  startChildWorkflowExecution :=
    command.startChildWorkflowExecution.map (StartExecution.mapPayloads m value)
  signalExternalWorkflowExecution := command.signalExternalWorkflowExecution.map fun signal =>
    { signal with args := signal.args.map m.list }
  scheduleLocalActivity := command.scheduleLocalActivity.map (ScheduleActivity.mapPayloads m)
  modifyWorkflowProperties :=
    command.modifyWorkflowProperties.map (ModifyWorkflowProperties.mapPayloads value)
  rest := command.rest

/-- Every payload of a completion outside headers and search attributes is mapped. -/
def WorkflowActivationCompletion.mapPayloads (completion : WorkflowActivationCompletion R V) :
    WorkflowActivationCompletion R W where
  failed := completion.failed.map (FailedWith.mapPayloads m)
  successful := completion.successful.map fun successful =>
    ⟨successful.commands.map (List.map (WorkflowCommand.mapPayloads m value))⟩
  rest := completion.rest

/-- An absent upserted memo is replaced by one without fields. -/
def ModifyWorkflowProperties.normalize (command : ModifyWorkflowProperties R V) :
    ModifyWorkflowProperties R V :=
  { command with upsertedMemo := some ⟨command.upsertedMemo.bind Memo.fields⟩ }

def WorkflowCommand.normalize (command : WorkflowCommand R V) : WorkflowCommand R V :=
  { command with
    modifyWorkflowProperties := command.modifyWorkflowProperties.map ModifyWorkflowProperties.normalize }

def WorkflowActivationCompletion.mapCommands (f : WorkflowCommand R V → WorkflowCommand R V)
    (completion : WorkflowActivationCompletion R V) : WorkflowActivationCompletion R V :=
  { completion with
    successful := completion.successful.map fun successful =>
      ⟨successful.commands.map (List.map f)⟩ }

def WorkflowActivationCompletion.normalize (completion : WorkflowActivationCompletion R V) :
    WorkflowActivationCompletion R V :=
  completion.mapCommands WorkflowCommand.normalize

/-- The same completion up to absent fields. An upserted memo is compared by its fields; in a
response to a query, `succeeded` being populated is compared too. -/
def WorkflowActivationCompletion.Same (a b : WorkflowActivationCompletion R V) : Prop :=
  a.normalize = b.normalize

end Mapped

section Encoded

variable {R V : Type} {codecs : List PayloadCodec} {m : PayloadMap}

/-- What encoding does to a response to a query beside its payloads. -/
def RespondToQuery.populate (command : RespondToQuery R) : RespondToQuery R :=
  { command with succeeded := some ⟨command.succeeded.bind QuerySuccess.response⟩ }

def WorkflowCommand.populate (command : WorkflowCommand R V) : WorkflowCommand R V :=
  { command with respondToQuery := command.respondToQuery.map RespondToQuery.populate }

/-- What the encoded memo has for a payload. -/
def encodedRecordValue (m : PayloadMap) (payload : Payload) : RecordValue := .payload (m.single payload)

lemma encodeScheduleActivity_eq (h : Codes (encode codecs) m) (command : ScheduleActivity R) :
    encodeScheduleActivity codecs command = .ok (command.mapPayloads m) := by
  have harguments : encodeOptional codecs command.arguments = .ok _ := h.optional _
  unfold encodeScheduleActivity
  rw [harguments]
  rfl

lemma encodeRespondToQuery_eq (h : Codes (encode codecs) m) (command : RespondToQuery R) :
    encodeRespondToQuery codecs command = .ok (command.mapPayloads m).populate := by
  have hresponse : encodeOptionalSingle codecs (command.succeeded.bind QuerySuccess.response) = .ok _ :=
    h.optionalSingle _
  have hfailed : encodeOptionalFailure codecs command.failed = .ok _ := h.optionalFailure _
  unfold encodeRespondToQuery
  rw [hresponse, hfailed]
  unfold RespondToQuery.populate RespondToQuery.mapPayloads
  cases command.succeeded <;> rfl

lemma encodeCompleteWorkflowExecution_eq (h : Codes (encode codecs) m)
    (command : CompleteWorkflowExecution R) :
    encodeCompleteWorkflowExecution codecs command =
      .ok { command with result := command.result.map m.single } := by
  have hresult : encodeOptionalSingle codecs command.result = .ok _ := h.optionalSingle _
  unfold encodeCompleteWorkflowExecution
  rw [hresult]
  rfl

lemma encodeFailWorkflowExecution_eq (h : Codes (encode codecs) m) (command : FailWorkflowExecution R) :
    encodeFailWorkflowExecution codecs command =
      .ok { command with failure := command.failure.map (Failure.mapPayloads m) } := by
  have hfailure : encodeOptionalFailure codecs command.failure = .ok _ := h.optionalFailure _
  unfold encodeFailWorkflowExecution
  rw [hfailure]
  rfl

lemma encodeStartExecution_eq (h : Codes (encode codecs) m) (command : StartExecution R Payload) :
    encodeStartExecution codecs command = .ok (command.mapPayloads m (encodedRecordValue m)) := by
  have harguments : encodeOptional codecs command.arguments = .ok _ := h.optional _
  unfold encodeStartExecution
  rw [harguments, encodeMap_eq h]
  rfl

lemma encodeSignalExternalWorkflowExecution_eq (h : Codes (encode codecs) m)
    (command : SignalExternalWorkflowExecution R) :
    encodeSignalExternalWorkflowExecution codecs command =
      .ok { command with args := command.args.map m.list } := by
  have hargs : encodeOptional codecs command.args = .ok _ := h.optional _
  unfold encodeSignalExternalWorkflowExecution
  rw [hargs]
  rfl

lemma encodeModifyWorkflowProperties_eq (h : Codes (encode codecs) m)
    (command : ModifyWorkflowProperties R Payload) :
    encodeModifyWorkflowProperties codecs command =
      .ok (command.mapPayloads (encodedRecordValue m)).normalize := by
  unfold encodeModifyWorkflowProperties
  rw [encodeMap_eq h]
  unfold ModifyWorkflowProperties.normalize ModifyWorkflowProperties.mapPayloads
  cases command.upsertedMemo <;> rfl

lemma encodeCommand_eq (h : Codes (encode codecs) m) (command : WorkflowCommand R Payload) :
    encodeCommand codecs command =
      .ok (command.mapPayloads m (encodedRecordValue m)).populate.normalize := by
  unfold encodeCommand
  rw [option_mapM_ok (encodeScheduleActivity_eq h), option_mapM_ok (encodeRespondToQuery_eq h),
    option_mapM_ok (encodeCompleteWorkflowExecution_eq h),
    option_mapM_ok (encodeFailWorkflowExecution_eq h), option_mapM_ok (encodeStartExecution_eq h),
    option_mapM_ok (encodeStartExecution_eq h),
    option_mapM_ok (encodeSignalExternalWorkflowExecution_eq h),
    option_mapM_ok (encodeScheduleActivity_eq h), option_mapM_ok (encodeModifyWorkflowProperties_eq h)]
  unfold WorkflowCommand.normalize WorkflowCommand.populate WorkflowCommand.mapPayloads
  simp only [bind, Except.bind, pure, Except.pure, Option.map_map, Function.comp_def]

lemma encodeFailedWith_eq (h : Codes (encode codecs) m) (failed : FailedWith) :
    encodeFailedWith codecs failed = .ok (failed.mapPayloads m) := by
  have hfailure : encodeOptionalFailure codecs failed.failure = .ok _ := h.optionalFailure _
  unfold encodeFailedWith
  rw [hfailure]
  rfl

/-- What `encodeCompletion` hands over: the mapped completion, with `succeeded` populated in every
response to a query and with an upserted memo in every command that modifies properties. -/
lemma encodeCompletion_eq (h : Codes (encode codecs) m)
    (completion : WorkflowActivationCompletion R Payload) :
    encodeCompletion codecs completion =
      .ok ((completion.mapPayloads m (encodedRecordValue m)).mapCommands WorkflowCommand.populate).normalize := by
  have hsuccessful : ∀ successful : Successful R Payload, encodeSuccessful codecs successful =
      .ok ⟨successful.commands.map (List.map fun command =>
        (command.mapPayloads m (encodedRecordValue m)).populate.normalize)⟩ := by
    intro successful
    unfold encodeSuccessful
    rw [option_mapM_ok (list_mapM_ok (encodeCommand_eq h))]
    rfl
  unfold encodeCompletion
  rw [option_mapM_ok (encodeFailedWith_eq h), option_mapM_ok hsuccessful]
  unfold WorkflowActivationCompletion.normalize WorkflowActivationCompletion.mapCommands
    WorkflowActivationCompletion.mapPayloads
  simp only [bind, Except.bind, pure, Except.pure, Option.map_map, Function.comp_def, List.map_map]

end Encoded

section Exact

variable {R V : Type}

def WorkflowActivationCompletion.commands (completion : WorkflowActivationCompletion R V) :
    List (WorkflowCommand R V) :=
  (completion.successful.bind Successful.commands).getD []

/-- Every response to a query is a success. -/
def WorkflowActivationCompletion.QueriesSucceed (completion : WorkflowActivationCompletion R V) : Prop :=
  ∀ command ∈ completion.commands, ∀ response ∈ command.respondToQuery, response.succeeded.isSome

lemma RespondToQuery.populate_eq_iff (command : RespondToQuery R) :
    command.populate = command ↔ command.succeeded.isSome := by
  unfold populate
  obtain ⟨succeeded, failed, rest⟩ := command
  cases succeeded <;> simp

lemma WorkflowCommand.normalize_populate_eq_iff (command : WorkflowCommand R V) :
    command.populate.normalize = command.normalize ↔
      ∀ response ∈ command.respondToQuery, response.succeeded.isSome := by
  unfold normalize populate
  rcases hresponse : command.respondToQuery with _ | response
  · simp
  · simpa [hresponse] using response.populate_eq_iff

lemma WorkflowCommand.normalize_normalize (command : WorkflowCommand R V) :
    command.normalize.normalize = command.normalize := by
  unfold normalize
  rw [Option.map_map]
  rfl

lemma WorkflowActivationCompletion.mapCommands_eq_iff {f g : WorkflowCommand R V → WorkflowCommand R V}
    (completion : WorkflowActivationCompletion R V) :
    completion.mapCommands f = completion.mapCommands g ↔
      ∀ command ∈ completion.commands, f command = g command := by
  unfold mapCommands commands
  rcases completion.successful with _ | ⟨_ | commands⟩
  · simp
  · simp
  · simp [List.map_inj_left]

lemma WorkflowActivationCompletion.mapCommands_mapCommands
    (f g : WorkflowCommand R V → WorkflowCommand R V) (completion : WorkflowActivationCompletion R V) :
    (completion.mapCommands f).mapCommands g = completion.mapCommands (g ∘ f) := by
  unfold mapCommands
  simp only [Option.map_map, Function.comp_def, List.map_map]

lemma WorkflowActivationCompletion.populate_same_iff (completion : WorkflowActivationCompletion R V) :
    (completion.mapCommands WorkflowCommand.populate).normalize.Same completion ↔
      completion.QueriesSucceed := by
  unfold Same normalize
  rw [mapCommands_mapCommands, mapCommands_mapCommands, mapCommands_eq_iff]
  apply forall₂_congr
  intro command _
  simp only [Function.comp_apply]
  rw [WorkflowCommand.normalize_normalize, WorkflowCommand.normalize_populate_eq_iff]

lemma WorkflowActivationCompletion.queriesSucceed_mapPayloads {W : Type} (m : PayloadMap)
    (value : V → W) (completion : WorkflowActivationCompletion R V) :
    (completion.mapPayloads m value).QueriesSucceed ↔ completion.QueriesSucceed := by
  unfold QueriesSucceed commands mapPayloads
  rcases completion.successful with _ | ⟨_ | commands⟩
  · simp
  · simp
  · simp [WorkflowCommand.mapPayloads, RespondToQuery.mapPayloads]

end Exact

/-- Every payload outside headers and search attributes is encoded, once, nothing else changes, and
the same members of unions are populated. -/
def EncodesExactly {R : Type} (codecs : List PayloadCodec)
    (completion : WorkflowActivationCompletion R Payload) : Prop :=
  ∃ m, Codes (encode codecs) m ∧ ∃ encoded, encodeCompletion codecs completion = .ok encoded ∧
    encoded.Same (completion.mapPayloads m fun payload => RecordValue.payload (m.single payload))

lemma encodesExactly_iff_of_codes {R : Type} {codecs : List PayloadCodec} {m : PayloadMap}
    (h : Codes (encode codecs) m) (completion : WorkflowActivationCompletion R Payload) :
    EncodesExactly codecs completion ↔ completion.QueriesSucceed := by
  rw [← completion.queriesSucceed_mapPayloads m (encodedRecordValue m),
    ← WorkflowActivationCompletion.populate_same_iff]
  constructor
  · rintro ⟨m', hm', encoded, hencoded, hsame⟩
    cases h.unique hm'
    rw [encodeCompletion_eq h] at hencoded
    cases hencoded
    exact hsame
  · intro hsame
    exact ⟨m, h, _, encodeCompletion_eq h completion, hsame⟩

/-- A completion is encoded exactly when no query of it has failed: the response to a failed one
also has `succeeded` populated. -/
theorem encodesExactly_iff {R : Type} (codecs : List PayloadCodec)
    (hcodecs : ∀ codec ∈ codecs, KeepsSingles codec.encode)
    (completion : WorkflowActivationCompletion R Payload) :
    EncodesExactly codecs completion ↔ completion.QueriesSucceed := by
  obtain ⟨m, hm⟩ := exists_codes_encode hcodecs
  exact encodesExactly_iff_of_codes hm completion

/-- A failed response to a query -/
def failedQueryCompletion : WorkflowActivationCompletion Unit Payload :=
  ⟨none, some ⟨some [⟨none, none, some ⟨none, some (.leaf FailureFields.empty), ()⟩,
    none, none, none, none, none, none, none, ()⟩]⟩, ()⟩

/-- A succeeded one -/
def succeededQueryCompletion : WorkflowActivationCompletion Unit Payload :=
  ⟨none, some ⟨some [⟨none, none, some ⟨some ⟨some ⟨[], [1, 2]⟩⟩, none, ()⟩,
    none, none, none, none, none, none, none, ()⟩]⟩, ()⟩

theorem encodesExactly_iff_failedQuery :
    EncodesExactly [reverseData] succeededQueryCompletion ∧ ¬EncodesExactly [reverseData] failedQueryCompletion := by
  have hreverse : KeepsSingles reverseData.encode := ⟨fun _ => ⟨_, rfl⟩, fun _ => ⟨_, rfl⟩⟩
  have hsingles : ∀ codec ∈ [reverseData], KeepsSingles codec.encode := by simpa using hreverse
  have hsucceeded : succeededQueryCompletion.QueriesSucceed := by
    unfold WorkflowActivationCompletion.QueriesSucceed
    decide
  have hfailed : ¬failedQueryCompletion.QueriesSucceed := by
    unfold WorkflowActivationCompletion.QueriesSucceed
    decide
  exact ⟨(encodesExactly_iff [reverseData] hsingles succeededQueryCompletion).mpr hsucceeded, fun hencodes =>
    hfailed ((encodesExactly_iff [reverseData] hsingles failedQueryCompletion).mp hencodes)⟩

/-- Without any codec, the response to a failed query gets a second populated member. -/
theorem encodesExactly_counterexample : ¬ EncodesExactly [] failedQueryCompletion := by
  have hcodecs : ∀ codec ∈ ([] : List PayloadCodec), KeepsSingles codec.encode := by simp
  obtain ⟨m, hm⟩ := exists_codes_encode hcodecs
  rw [encodesExactly_iff_of_codes hm]
  unfold WorkflowActivationCompletion.QueriesSucceed
  decide

end TemporalSdk.Coresdk
