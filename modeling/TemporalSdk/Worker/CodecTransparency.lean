import TemporalSdk.Worker.CompletionCodec

/-!
# Workflows do not see the codecs

The worker decodes an activation, activates the workflow and encodes its completion. What the workflow does with
encoded activations behind codecs is what it does with the same activations in the open.
-/

namespace TemporalSdk

/-- The payloads that stand under a key of a record are mapped. -/
def RecordValue.mapPayloads (m : PayloadMap) : RecordValue → RecordValue
  | undefined => undefined
  | payload p => payload (m.single p)
  | array payloads => array (m.list payloads)

/-- Decoding gives back what `m` has made of lists and of single payloads. -/
structure Undoes (codecs : List PayloadCodec) (m : PayloadMap) : Prop where
  list : ∀ payloads, decode codecs (m.list payloads) = .ok payloads
  single : ∀ payload, decode codecs [m.single payload] = .ok [payload]

section Undone

variable {codecs : List PayloadCodec} {m : PayloadMap}

lemma decode_nil (payloads : List Payload) : decode [] payloads = .ok payloads := rfl

lemma mapM_congr {α β γ : Type} {f : β → Except JsError γ} {g : α → β} {f' : α → Except JsError γ}
    (h : ∀ x, f (g x) = f' x) (o : Option α) : (o.map g).mapM f = o.mapM f' := by
  cases o with
  | none => rfl
  | some x =>
    rw [Option.map_some, Option.mapM_some, Option.mapM_some, h]

lemma list_mapM_congr {α β γ : Type} {f : β → Except JsError γ} {g : α → β} {f' : α → Except JsError γ}
    (h : ∀ x, f (g x) = f' x) (l : List α) : (l.map g).mapM f = l.mapM f' := by
  rw [List.mapM_map]
  exact congrArg (l.mapM ·) (funext h)

namespace Undoes

lemma optional (h : Undoes codecs m) (payloads : Option (List Payload)) :
    decodeOptional codecs (payloads.map m.list) = decodeOptional [] payloads :=
  mapM_congr (fun payloads => (h.list payloads).trans (decode_nil payloads).symm) payloads

lemma optionalSingle (h : Undoes codecs m) (payload : Option Payload) :
    decodeOptionalSingle codecs (payload.map m.single) = decodeOptionalSingle [] payload := by
  cases payload with
  | none => rfl
  | some payload =>
    have hsingle : codeSingle (decode codecs) (m.single payload) = codeSingle (decode []) payload := by
      rw [codeSingle, codeSingle, h.single, decode_nil]
    exact hsingle

lemma optionalFailure (h : Undoes codecs m) (failure : Option Failure) :
    decodeOptionalFailure codecs (failure.map (Failure.mapPayloads m)) = decodeOptionalFailure [] failure := by
  refine mapM_congr (fun failure => (codeFailure_undo h.list h.single failure).trans ?_) failure
  have hid : Codes (decode []) ⟨id, id⟩ := ⟨decode_nil, fun payload => decode_nil [payload]⟩
  exact (hid.failure failure).symm

lemma optionalMap (h : Undoes codecs m) (payloads : Option (PayloadRecord Payload)) :
    decodeOptionalMap codecs (payloads.map (List.map fun (k, v) => (k, m.single v))) =
      decodeOptionalMap [] payloads := by
  refine mapM_congr (fun payloads => list_mapM_congr (fun (k, v) => ?_) payloads) payloads
  simp only [h.single, decode_nil]

end Undoes

end Undone

namespace Coresdk

variable {R : Type} {codecs : List PayloadCodec} {m : PayloadMap}

/-! ### Activations -/

lemma decodeStartWorkflow_mapPayloads (h : Undoes codecs m) (start : StartWorkflow R Payload) :
    decodeStartWorkflow codecs (start.mapPayloads m m.single) = decodeStartWorkflow [] start := by
  have hmemo : (start.mapPayloads m m.single).memo.bind Memo.fields =
      (start.memo.bind Memo.fields).map (List.map fun (k, v) => (k, m.single v)) := by
    unfold StartWorkflow.mapPayloads
    cases start.memo <;> rfl
  have hresult : (start.mapPayloads m m.single).lastCompletionResult.bind Payloads.payloads =
      (start.lastCompletionResult.bind Payloads.payloads).map m.list := by
    unfold StartWorkflow.mapPayloads
    cases start.lastCompletionResult <;> rfl
  unfold decodeStartWorkflow
  rw [hmemo, hresult, h.optionalMap, h.optional]
  simp only [StartWorkflow.mapPayloads, h.optional, h.optionalFailure]

lemma decodeFailedWith_mapPayloads (h : Undoes codecs m) (failed : FailedWith) :
    decodeFailedWith codecs (failed.mapPayloads m) = decodeFailedWith [] failed := by
  simp only [decodeFailedWith, FailedWith.mapPayloads, h.optionalFailure]

lemma decodeSuccess_mapPayloads (h : Undoes codecs m) (success : Success) :
    decodeSuccess codecs ⟨success.result.map m.single⟩ = decodeSuccess [] success := by
  simp only [decodeSuccess, h.optionalSingle]

lemma decodeResolutionResult_mapPayloads (h : Undoes codecs m) (result : ResolutionResult R) :
    decodeResolutionResult codecs
        { result with
          completed := result.completed.map fun success => ⟨success.result.map m.single⟩
          failed := result.failed.map (FailedWith.mapPayloads m)
          cancelled := result.cancelled.map (FailedWith.mapPayloads m) } =
      decodeResolutionResult [] result := by
  simp only [decodeResolutionResult]
  rw [mapM_congr (decodeSuccess_mapPayloads h), mapM_congr (decodeFailedWith_mapPayloads h),
    mapM_congr (decodeFailedWith_mapPayloads h)]

lemma decodeResolveOperation_mapPayloads (h : Undoes codecs m) (resolve : ResolveOperation R) :
    decodeResolveOperation codecs (resolve.mapPayloads m) = decodeResolveOperation [] resolve := by
  simp only [decodeResolveOperation, ResolveOperation.mapPayloads]
  rw [mapM_congr (decodeResolutionResult_mapPayloads h)]

lemma decodeResolveExternal_mapPayloads (h : Undoes codecs m) (resolve : ResolveExternal R) :
    decodeResolveExternal codecs (resolve.mapPayloads m) = decodeResolveExternal [] resolve := by
  simp only [decodeResolveExternal, ResolveExternal.mapPayloads, h.optionalFailure]

lemma decodeQueryWorkflow_mapPayloads (h : Undoes codecs m) (query : QueryWorkflow R) :
    decodeQueryWorkflow codecs { query with arguments := query.arguments.map m.list } =
      decodeQueryWorkflow [] query := by
  simp only [decodeQueryWorkflow, h.optional]

lemma decodeCancelWorkflow_mapPayloads (h : Undoes codecs m) (cancel : CancelWorkflow R) :
    decodeCancelWorkflow codecs { cancel with details := cancel.details.map m.list } =
      decodeCancelWorkflow [] cancel := by
  simp only [decodeCancelWorkflow, h.optional]

lemma decodeSignalWorkflow_mapPayloads (h : Undoes codecs m) (signal : SignalWorkflow R) :
    decodeSignalWorkflow codecs { signal with input := signal.input.map m.list } =
      decodeSignalWorkflow [] signal := by
  simp only [decodeSignalWorkflow, h.optional]

lemma decodeResolveChildWorkflowExecutionStart_mapPayloads (h : Undoes codecs m)
    (resolve : ResolveChildWorkflowExecutionStart R) :
    decodeResolveChildWorkflowExecutionStart codecs
        { resolve with cancelled := resolve.cancelled.map (FailedWith.mapPayloads m) } =
      decodeResolveChildWorkflowExecutionStart [] resolve := by
  simp only [decodeResolveChildWorkflowExecutionStart]
  rw [mapM_congr (decodeFailedWith_mapPayloads h)]

lemma decodeJob_mapPayloads (h : Undoes codecs m) (job : WorkflowActivationJob R Payload) :
    decodeJob codecs (job.mapPayloads m m.single) = decodeJob [] job := by
  simp only [decodeJob, WorkflowActivationJob.mapPayloads]
  rw [mapM_congr (decodeStartWorkflow_mapPayloads h), mapM_congr (decodeQueryWorkflow_mapPayloads h),
    mapM_congr (decodeCancelWorkflow_mapPayloads h), mapM_congr (decodeSignalWorkflow_mapPayloads h),
    mapM_congr (decodeResolveOperation_mapPayloads h), mapM_congr (decodeResolveOperation_mapPayloads h),
    mapM_congr (decodeResolveChildWorkflowExecutionStart_mapPayloads h),
    mapM_congr (decodeResolveExternal_mapPayloads h), mapM_congr (decodeResolveExternal_mapPayloads h)]

/-- The workflow is activated with what it would be activated with in the open, arrays in memos included. -/
lemma decodeActivation_mapPayloads (h : Undoes codecs m) (activation : WorkflowActivation R Payload) :
    decodeActivation codecs (activation.mapPayloads m m.single) = decodeActivation [] activation := by
  simp only [decodeActivation, WorkflowActivation.mapPayloads]
  rw [mapM_congr fun jobs => list_mapM_congr (decodeJob_mapPayloads h) jobs]

/-! ### Completions -/

section Completions

variable {V W X : Type} (value : V → W) (value' : W → X)

lemma failure_mapPayloads (m : PayloadMap) (failure : Failure) :
    (failure.mapPayloads ⟨id, id⟩).mapPayloads m = failure.mapPayloads m := by
  rw [Failure.mapPayloads, Failure.mapPayloads, Failure.mapWith_mapWith]
  rfl

lemma failedWith_mapPayloads (m : PayloadMap) (failed : FailedWith) :
    (failed.mapPayloads ⟨id, id⟩).mapPayloads m = failed.mapPayloads m := by
  simp only [FailedWith.mapPayloads, Option.map_map, Function.comp_def, failure_mapPayloads]

lemma respondToQuery_mapPayloads (m : PayloadMap) (command : RespondToQuery R) :
    (command.mapPayloads ⟨id, id⟩).populate.mapPayloads m = (command.mapPayloads m).populate := by
  unfold RespondToQuery.populate RespondToQuery.mapPayloads
  cases command.succeeded <;> simp [Function.comp_def, failure_mapPayloads]

lemma startExecution_mapPayloads (m : PayloadMap) (command : StartExecution R V) :
    (command.mapPayloads ⟨id, id⟩ value).mapPayloads m value' = command.mapPayloads m (value' ∘ value) := by
  unfold StartExecution.mapPayloads
  simp [Function.comp_def]

lemma modifyWorkflowProperties_mapPayloads (command : ModifyWorkflowProperties R V) :
    (command.mapPayloads value).normalize.mapPayloads value' = (command.mapPayloads (value' ∘ value)).normalize := by
  unfold ModifyWorkflowProperties.normalize ModifyWorkflowProperties.mapPayloads
  cases command.upsertedMemo <;> simp [Function.comp_def]

lemma command_mapPayloads (m : PayloadMap) (command : WorkflowCommand R V) :
    ((command.mapPayloads ⟨id, id⟩ value).populate.normalize).mapPayloads m value' =
      (command.mapPayloads m (value' ∘ value)).populate.normalize := by
  unfold WorkflowCommand.normalize WorkflowCommand.populate WorkflowCommand.mapPayloads
  simp only [Option.map_map, Function.comp_def, failure_mapPayloads, ScheduleActivity.mapPayloads, id]
  simp only [respondToQuery_mapPayloads, startExecution_mapPayloads, modifyWorkflowProperties_mapPayloads,
    Function.comp_def]
  rfl

/-- What encoding makes of a completion that has been passed through without codecs -/
lemma mapPayloads_mapPayloads (m : PayloadMap) (completion : WorkflowActivationCompletion R V) :
    (((completion.mapPayloads ⟨id, id⟩ value).mapCommands WorkflowCommand.populate).normalize).mapPayloads m value' =
      ((completion.mapPayloads m (value' ∘ value)).mapCommands WorkflowCommand.populate).normalize := by
  unfold WorkflowActivationCompletion.normalize WorkflowActivationCompletion.mapCommands
    WorkflowActivationCompletion.mapPayloads
  simp only [Option.map_map, Function.comp_def, List.map_map, failedWith_mapPayloads]
  simp only [command_mapPayloads, Function.comp_def]

end Completions

lemma encodeCompletion_mapPayloads (h : Codes (encode codecs) m)
    (completion : WorkflowActivationCompletion R Payload) :
    encodeCompletion codecs completion =
      (encodeCompletion [] completion).map
        (WorkflowActivationCompletion.mapPayloads m (RecordValue.mapPayloads m)) := by
  have hid : Codes (encode []) ⟨id, id⟩ := ⟨fun _ => rfl, fun _ => rfl⟩
  rw [encodeCompletion_eq h, encodeCompletion_eq hid, Except.map, mapPayloads_mapPayloads]
  rfl

/-! ### The workflow between them -/

section Worker

variable {S : Type} (codecs : List PayloadCodec)
  (activate : S → WorkflowActivation R RecordValue → S × Except JsError (WorkflowActivationCompletion R Payload))

/-- What the worker does with an activation: `s` is what the workflow has become. -/
def activateDecoded (s : S) (activation : WorkflowActivation R Payload) :
    S × Except JsError (WorkflowActivationCompletion R RecordValue) :=
  match decodeActivation codecs activation with
  | .error err => (s, .error err)
  | .ok decodedActivation =>
    let (s', unencodedCompletion) := activate s decodedActivation
    (s', unencodedCompletion.bind (encodeCompletion codecs))

/-- The activations of a run, one after the other -/
def activateAll (s : S) : List (WorkflowActivation R Payload) →
    S × List (Except JsError (WorkflowActivationCompletion R RecordValue))
  | [] => (s, [])
  | activation :: activations =>
    let (s', completion) := activateDecoded codecs activate s activation
    let (s'', completions) := activateAll s' activations
    (s'', completion :: completions)

end Worker

section Transparent

variable {S : Type}
  {activate : S → WorkflowActivation R RecordValue → S × Except JsError (WorkflowActivationCompletion R Payload)}

/-- A completion whose payloads have been mapped, or the same error -/
def mapCompletion (m : PayloadMap) (completion : Except JsError (WorkflowActivationCompletion R RecordValue)) :
    Except JsError (WorkflowActivationCompletion R RecordValue) :=
  completion.map (WorkflowActivationCompletion.mapPayloads m (RecordValue.mapPayloads m))

lemma activateDecoded_mapPayloads (hundoes : Undoes codecs m) (hcodes : Codes (encode codecs) m) (s : S)
    (activation : WorkflowActivation R Payload) :
    activateDecoded codecs activate s (activation.mapPayloads m m.single) =
      ((activateDecoded [] activate s activation).1,
        mapCompletion m (activateDecoded [] activate s activation).2) := by
  unfold activateDecoded
  rw [decodeActivation_mapPayloads hundoes]
  cases decodeActivation [] activation with
  | error err => rfl
  | ok decodedActivation =>
    have hencode (completion : Except JsError (WorkflowActivationCompletion R Payload)) :
        completion.bind (encodeCompletion codecs) = mapCompletion m (completion.bind (encodeCompletion [])) := by
      cases completion with
      | error err => rfl
      | ok completion => exact encodeCompletion_mapPayloads hcodes completion
    simp only [hencode]

lemma activateAll_mapPayloads (hundoes : Undoes codecs m) (hcodes : Codes (encode codecs) m) (s : S)
    (activations : List (WorkflowActivation R Payload)) :
    activateAll codecs activate s (activations.map (WorkflowActivation.mapPayloads m m.single)) =
      ((activateAll [] activate s activations).1,
        (activateAll [] activate s activations).2.map (mapCompletion m)) := by
  induction activations generalizing s with
  | nil => rfl
  | cons activation activations ih =>
    rw [List.map_cons, activateAll, activateDecoded_mapPayloads hundoes hcodes, activateAll]
    simp only [ih, List.map_cons]

end Transparent

/-- **Codecs are transparent**: whatever the workflow does, the activations of a run whose payloads have been encoded
leave it in the state in which the plain ones would leave it, and its completions are those that it would make of the
plain ones, encoded. -/
theorem activateAll_transparent {S : Type} (codecs : List PayloadCodec)
    (hround : ∀ codec ∈ codecs, codec.RoundTrips) (hsingle : ∀ codec ∈ codecs, codec.EncodesSingles) :
    ∃ m, Codes (encode codecs) m ∧
      ∀ (activate : S → WorkflowActivation R RecordValue →
          S × Except JsError (WorkflowActivationCompletion R Payload)) s activations,
        activateAll codecs activate s (activations.map (WorkflowActivation.mapPayloads m m.single)) =
          ((activateAll [] activate s activations).1,
            (activateAll [] activate s activations).2.map (mapCompletion m)) := by
  obtain ⟨m, hcodes, hlist, hpayload⟩ := exists_codes_undone hround hsingle
  exact ⟨m, hcodes, fun _ => activateAll_mapPayloads ⟨hlist, hpayload⟩ hcodes⟩

/-- The codec that reverses data, twice -/
theorem activateAll_transparent_reverseData :
    ∃ m, Codes (encode [reverseData, reverseData]) m ∧
      ∀ (activate : ℕ → WorkflowActivation Unit RecordValue →
          ℕ × Except JsError (WorkflowActivationCompletion Unit Payload)) s activations,
        activateAll [reverseData, reverseData] activate s
            (activations.map (WorkflowActivation.mapPayloads m m.single)) =
          ((activateAll [] activate s activations).1,
            (activateAll [] activate s activations).2.map (mapCompletion m)) :=
  activateAll_transparent [reverseData, reverseData] (by simpa using reverseData_roundTrips)
    (by simpa using reverseData_encodesSingles)

end Coresdk

end TemporalSdk
