import TemporalSdk.Common.Codec
import TemporalSdk.Common.FailureRoundTrip
import TemporalSdk.Library.Pipeline

/-!
# Cancellation across conversions

Whether an error is caused by cancellation is read off its class and the one of its cause. The error that
another process makes of its failure is a cancellation just when the error itself is.
-/

namespace TemporalSdk

/-! ### Kinds -/

/-- The classes of temporal failures -/
inductive FailureKind
  | activity
  | childWorkflow
  | application
  | cancelled
  | timeout
  | server
  | terminated
  | temporal
deriving DecidableEq

def FailureClass.kind : FailureClass → FailureKind
  | activityFailure _ _ _ _ => .activity
  | childWorkflowFailure _ _ _ _ => .childWorkflow
  | applicationFailure _ _ _ => .application
  | cancelledFailure _ => .cancelled
  | timeoutFailure _ _ => .timeout
  | serverFailure _ => .server
  | terminatedFailure => .terminated
  | temporalFailure => .temporal

def FailureKind.wrapsCause (kind : FailureKind) : Bool := kind == .activity || kind == .childWorkflow

namespace ErrorValue

/-- `CancelledFailure.is` -/
def isCancelledFailure : ErrorValue → Bool
  | temporal cls _ _ _ _ => cls.kind == .cancelled
  | _ => false

/-- `isCancellation` -/
def isCancellation : ErrorValue → Bool
  | temporal cls _ _ _ cause => cls.kind == .cancelled || (cls.kind.wrapsCause && cause.isCancelledFailure)
  | _ => false

end ErrorValue

/-- The first info that a failure has, in the order in which they are looked at -/
def FailureFields.kind (fields : FailureFields) : FailureKind :=
  if fields.applicationFailureInfo.isSome then .application
  else if fields.serverFailureInfo.isSome then .server
  else if fields.timeoutFailureInfo.isSome then .timeout
  else if fields.terminatedFailureInfo.isSome then .terminated
  else if fields.canceledFailureInfo.isSome then .cancelled
  else if fields.resetWorkflowFailureInfo.isSome then .application
  else if fields.childWorkflowExecutionFailureInfo.isSome then .childWorkflow
  else if fields.activityFailureInfo.isSome then .activity
  else .temporal

namespace Failure

def kind (failure : Failure) : FailureKind := failure.fields.kind

/-- The kinds of the failure and of its causes -/
def kinds : Failure → List FailureKind
  | leaf fields => [fields.kind]
  | caused fields cause => fields.kind :: cause.kinds

/-- What `isCancellation` is of the error that the failure becomes -/
def isCancellation (failure : Failure) : Bool :=
  failure.kind == .cancelled || (failure.kind.wrapsCause && failure.cause.any fun cause => cause.kind == .cancelled)

lemma kinds_mk (fields : FailureFields) (cause : Option Failure) :
    (mk fields cause).kinds = fields.kind :: (cause.map kinds).getD [] := by
  cases cause <;> rfl

lemma head?_kinds (failure : Failure) : failure.kinds.head? = some failure.kind := by cases failure <;> rfl

lemma head?_tail_kinds (failure : Failure) : failure.kinds.tail.head? = failure.cause.map kind := by
  cases failure with
  | leaf _ => rfl
  | caused _ cause => exact head?_kinds cause

lemma kind_eq_of_kinds {failure failure' : Failure} (h : failure'.kinds = failure.kinds) :
    failure'.kind = failure.kind := by
  have hhead := failure'.head?_kinds
  rw [h, head?_kinds] at hhead
  exact (Option.some.inj hhead).symm

lemma isCancellation_eq_of_kinds {failure failure' : Failure} (h : failure'.kinds = failure.kinds) :
    failure'.isCancellation = failure.isCancellation := by
  have hany (failure : Failure) : (failure.cause.any fun cause => cause.kind == .cancelled) =
      failure.kinds.tail.head?.any fun kind => kind == .cancelled := by
    rw [head?_tail_kinds]
    cases failure.cause <;> rfl
  rw [isCancellation, isCancellation, kind_eq_of_kinds h, hany, hany, h]

end Failure

namespace FailureConverter

variable {c : FailureConverter}

/-! ### From failures to errors -/

/-- The class is of the kind of the failure, and one that can make a cancellation of it has its cause. -/
lemma failureToErrorInner_kind {fields : FailureFields} {cause : Except JsError ErrorValue} {cls : FailureClass}
    {message : String} {err : ErrorValue} (h : c.failureToErrorInner fields cause = .ok (cls, message, err)) :
    cls.kind = fields.kind ∧ (fields.kind.wrapsCause = true → cause = .ok err) := by
  have hcause (cls' : FailureClass) (message' : String) (h : (do let cause ← cause; return (cls', message', cause)) =
      (.ok (cls, message, err) : Except JsError _)) : cls' = cls ∧ cause = .ok err := by
    obtain ⟨err', hcause, h⟩ := Pipeline.bind_eq_ok.mp h
    cases h
    exact ⟨rfl, hcause⟩
  unfold failureToErrorInner at h
  unfold FailureFields.kind
  cases happlication : fields.applicationFailureInfo with
  | some info =>
    simp only [happlication] at h
    obtain ⟨details, -, h⟩ := Pipeline.bind_eq_ok.mp h
    obtain ⟨rfl, hok⟩ := hcause _ _ h
    exact ⟨rfl, fun _ => hok⟩
  | none =>
  simp only [happlication] at h
  cases hserver : fields.serverFailureInfo with
  | some info =>
    simp only [hserver] at h
    obtain ⟨rfl, hok⟩ := hcause _ _ h
    exact ⟨rfl, fun _ => hok⟩
  | none =>
  simp only [hserver] at h
  cases htimeout : fields.timeoutFailureInfo with
  | some info =>
    simp only [htimeout] at h
    obtain ⟨details, -, h⟩ := Pipeline.bind_eq_ok.mp h
    cases h
    exact ⟨rfl, fun h => by cases h⟩
  | none =>
  simp only [htimeout] at h
  cases hterminated : fields.terminatedFailureInfo with
  | some info =>
    simp only [hterminated] at h
    obtain ⟨rfl, hok⟩ := hcause _ _ h
    exact ⟨rfl, fun _ => hok⟩
  | none =>
  simp only [hterminated] at h
  cases hcanceled : fields.canceledFailureInfo with
  | some info =>
    simp only [hcanceled] at h
    obtain ⟨details, -, h⟩ := Pipeline.bind_eq_ok.mp h
    obtain ⟨rfl, hok⟩ := hcause _ _ h
    exact ⟨rfl, fun _ => hok⟩
  | none =>
  simp only [hcanceled] at h
  cases hreset : fields.resetWorkflowFailureInfo with
  | some info =>
    simp only [hreset] at h
    obtain ⟨details, -, h⟩ := Pipeline.bind_eq_ok.mp h
    obtain ⟨rfl, hok⟩ := hcause _ _ h
    exact ⟨rfl, fun _ => hok⟩
  | none =>
  simp only [hreset] at h
  cases hchild : fields.childWorkflowExecutionFailureInfo with
  | some info =>
    simp only [hchild] at h
    split at h
    · cases h
    split at h
    · cases h
    obtain ⟨rfl, hok⟩ := hcause _ _ h
    exact ⟨rfl, fun _ => hok⟩
  | none =>
  simp only [hchild] at h
  cases hactivity : fields.activityFailureInfo with
  | some info =>
    simp only [hactivity] at h
    split at h
    · cases h
    obtain ⟨rfl, hok⟩ := hcause _ _ h
    exact ⟨rfl, fun _ => hok⟩
  | none =>
    simp only [hactivity] at h
    obtain ⟨rfl, hok⟩ := hcause _ _ h
    exact ⟨rfl, fun _ => hok⟩

lemma decodeAttributes_kind {fields fields' : FailureFields} (h : c.decodeAttributes fields = .ok fields') :
    fields'.kind = fields.kind := by
  unfold decodeAttributes at h
  split at h
  · cases h
    rfl
  · obtain ⟨attrs, -, h⟩ := Pipeline.bind_eq_ok.mp h
    cases h
    rfl

/-- The error has the kind of the failure, which it carries with decoded attributes. -/
lemma failureToError_temporal {failure : Failure} {err : ErrorValue} (h : c.failureToError failure = .ok err) :
    ∃ cls message stack failure' cause, err = .temporal cls message stack (some failure') cause ∧
      cls.kind = failure.kind ∧ failure'.kinds = failure.kinds ∧
      (failure.kind.wrapsCause = true → c.optionalFailureToOptionalError failure.cause = .ok cause) := by
  have hmk : failure = .mk failure.fields failure.cause := by cases failure <;> rfl
  rw [hmk, failureToError_mk] at h
  obtain ⟨fields, hfields, h⟩ := Pipeline.bind_eq_ok.mp h
  obtain ⟨⟨cls, message, cause⟩, hinner, h⟩ := Pipeline.bind_eq_ok.mp h
  cases h
  obtain ⟨hkind, hcause⟩ := failureToErrorInner_kind hinner
  have hsame := decodeAttributes_kind hfields
  refine ⟨_, _, _, _, _, rfl, hkind.trans hsame, ?_, fun hwraps => hcause ?_⟩
  · rw [Failure.kinds_mk, hsame]
    cases failure <;> rfl
  · rw [hsame]
    exact hwraps

lemma isCancelledFailure_failureToError {failure : Failure} {err : ErrorValue}
    (h : c.failureToError failure = .ok err) : err.isCancelledFailure = (failure.kind == .cancelled) := by
  obtain ⟨cls, message, stack, failure', cause, rfl, hkind, -⟩ := failureToError_temporal h
  rw [ErrorValue.isCancelledFailure, hkind]

lemma isCancellation_failureToError {failure : Failure} {err : ErrorValue}
    (h : c.failureToError failure = .ok err) : err.isCancellation = failure.isCancellation := by
  obtain ⟨cls, message, stack, failure', cause, rfl, hkind, -, hcause⟩ := failureToError_temporal h
  rw [ErrorValue.isCancellation, Failure.isCancellation, hkind]
  cases hwraps : failure.kind.wrapsCause with
  | false => simp
  | true =>
    have hcause := hcause hwraps
    cases hof : failure.cause with
    | none =>
      rw [hof] at hcause
      cases hcause
      rfl
    | some causeFailure =>
      rw [hof] at hcause
      rw [isCancelledFailure_failureToError hcause]
      simp

/-! ### From errors to failures -/

/-- The converter adds the info of the class. -/
lemma addInfo_kind {message stackTrace : String} {cls : FailureClass} {fields : FailureFields}
    (h : c.addInfo (baseFields message stackTrace) cls = .ok fields) : fields.kind = cls.kind := by
  cases cls with
  | activityFailure _ _ _ _ =>
    cases h
    rfl
  | childWorkflowFailure _ _ _ _ =>
    cases h
    rfl
  | applicationFailure type nonRetryable details =>
    obtain ⟨details, -, h⟩ := Pipeline.bind_eq_ok.mp h
    cases h
    rfl
  | cancelledFailure details =>
    obtain ⟨details, -, h⟩ := Pipeline.bind_eq_ok.mp h
    cases h
    rfl
  | timeoutFailure lastHeartbeatDetails timeoutType =>
    cases htruthy : lastHeartbeatDetails.truthy with
    | true =>
      simp only [addInfo, htruthy, if_true] at h
      obtain ⟨details, -, h⟩ := Pipeline.bind_eq_ok.mp h
      cases h
      rfl
    | false =>
      simp only [addInfo, htruthy] at h
      cases h
      rfl
  | serverFailure _ =>
    cases h
    rfl
  | terminatedFailure =>
    cases h
    rfl
  | temporalFailure =>
    cases h
    rfl

lemma encodeAttributes_kinds {failure encoded : Failure} (h : c.encodeAttributes failure = .ok encoded) :
    encoded.kinds = failure.kinds := by
  unfold encodeAttributes at h
  split at h
  · obtain ⟨payload, -, h⟩ := Pipeline.bind_eq_ok.mp h
    cases h
    cases failure <;> rfl
  · cases h
    rfl

end FailureConverter

namespace ErrorValue

/-- What may become of an error: `ApplicationFailure.fromError` overrides fields of application failures, their causes
among them, and texts may be changed. -/
inductive Overridden : ErrorValue → ErrorValue → Prop
  | same (err : ErrorValue) : Overridden err err
  | application {cls cls' : FailureClass} {message message' : String} {stack stack' : Option String}
      {failure failure' : Option Failure} {cause cause' : ErrorValue} (hcls : cls.kind = .application)
      (hcls' : cls'.kind = .application) :
      Overridden (temporal cls message stack failure cause) (temporal cls' message' stack' failure' cause')
  | cause {cls : FailureClass} {message message' : String} {stack stack' : Option String}
      {failure failure' : Option Failure} {cause cause' : ErrorValue} (h : Overridden cause cause') :
      Overridden (temporal cls message stack failure cause) (temporal cls message' stack' failure' cause')

/-- An error that has kept a failure was made from one, by whatever converter, and overridden since. -/
def Coherent : ErrorValue → Prop
  | temporal cls message stack (some failure) cause =>
    ∃ (c : FailureConverter) (source made : Failure) (cls' : FailureClass) (message' : String)
      (stack' : Option String) (cause' : ErrorValue),
      c.failureToError source = .ok (temporal cls' message' stack' (some made) cause') ∧
        failure.kinds = made.kinds ∧
          Overridden (temporal cls' message' stack' (some made) cause')
            (temporal cls message stack (some failure) cause)
  | temporal _ _ _ none cause => cause.Coherent
  | record _ _ cause => cause.Coherent
  | plain _ _ => True

variable {err err' : ErrorValue}

lemma Overridden.isCancelledFailure (h : err.Overridden err') : err'.isCancelledFailure = err.isCancelledFailure := by
  cases h with
  | same => rfl
  | application hcls hcls' => rw [ErrorValue.isCancelledFailure, ErrorValue.isCancelledFailure, hcls, hcls']
  | cause h => rfl

/-- Whether an error is a cancellation cannot be overridden. -/
lemma Overridden.isCancellation (h : err.Overridden err') : err'.isCancellation = err.isCancellation := by
  cases h with
  | same => rfl
  | application hcls hcls' =>
    rw [ErrorValue.isCancellation, ErrorValue.isCancellation, hcls, hcls']
    rfl
  | cause h => rw [ErrorValue.isCancellation, ErrorValue.isCancellation, h.isCancelledFailure]

end ErrorValue

namespace FailureConverter

variable {c : FailureConverter}

/-- The failure says of an error whether it is cancelled, and whether it is a cancellation. -/
def Says (failure : Failure) (err : ErrorValue) : Prop :=
  (failure.kind == .cancelled) = err.isCancelledFailure ∧ failure.isCancellation = err.isCancellation

lemma says_of_kinds {failure failure' : Failure} {err : ErrorValue} (h : Says failure err)
    (hkinds : failure'.kinds = failure.kinds) : Says failure' err :=
  ⟨by rw [Failure.kind_eq_of_kinds hkinds, h.1], by rw [Failure.isCancellation_eq_of_kinds hkinds, h.2]⟩

/-- A failure made of fields and the failure of the cause -/
lemma says_mk {fields : FailureFields} {causeFailure : Option Failure} {cls : FailureClass}
    {message : String} {stack : Option String} {cause : ErrorValue} (hkind : fields.kind = cls.kind)
    (hcause : causeFailure.any (fun cause => cause.kind == .cancelled) = cause.isCancelledFailure) :
    Says (.mk fields causeFailure) (.temporal cls message stack none cause) := by
  have hmk : (Failure.mk fields causeFailure).cause = causeFailure := by cases causeFailure <;> rfl
  have hkind' : (Failure.mk fields causeFailure).kind = cls.kind := by
    rw [Failure.kind, Failure.fields_mk, hkind]
  refine ⟨by rw [hkind']; rfl, ?_⟩
  rw [Failure.isCancellation, hkind', hmk, hcause, ErrorValue.isCancellation]

lemma errorToFailureInner_record (message stack : String) (cause : ErrorValue) :
    c.errorToFailureInner (.record message stack cause) = do
      let cause ← c.optionalErrorToOptionalFailure cause
      return .mk (baseFields message (cutoffStackTrace (some stack))) cause := by
  rw [errorToFailureInner]
  unfold optionalErrorToOptionalFailure errorToFailure
  cases cause.truthy <;> simp

lemma isCancelledFailure_of_not_truthy {err : ErrorValue} (h : err.truthy = false) :
    err.isCancelledFailure = false := by
  cases err with
  | temporal _ _ _ _ _ => cases h
  | record _ _ _ => rfl
  | plain _ _ => rfl

/-- The failure of a cause, when the failure of any error that is converted says what the error is -/
lemma cancelled_optional {cause : ErrorValue} {causeFailure : Option Failure}
    (hsaid : ∀ failure, c.errorToFailureInner cause = .ok failure → Says failure cause)
    (h : c.optionalErrorToOptionalFailure cause = .ok causeFailure) :
    causeFailure.any (fun cause => cause.kind == .cancelled) = cause.isCancelledFailure := by
  unfold optionalErrorToOptionalFailure at h
  split at h
  · obtain ⟨failure, hfailure, rfl⟩ :
        ∃ failure, c.errorToFailure cause = .ok failure ∧ some failure = causeFailure := by
      cases hresult : c.errorToFailure cause with
      | error e =>
        rw [hresult] at h
        cases h
      | ok failure =>
        rw [hresult] at h
        cases h
        exact ⟨failure, rfl, rfl⟩
    obtain ⟨inner, hinner, hencode⟩ := Pipeline.bind_eq_ok.mp hfailure
    exact (says_of_kinds (hsaid inner hinner) (encodeAttributes_kinds hencode)).1
  · rename_i htruthy
    cases h
    exact (isCancelledFailure_of_not_truthy (Bool.eq_false_iff.mpr htruthy)).symm

lemma says_errorToFailureInner {err : ErrorValue} {failure : Failure} (hcoherent : err.Coherent)
    (h : c.errorToFailureInner err = .ok failure) : Says failure err := by
  induction err generalizing failure with
  | temporal cls message stack cached cause ih =>
    cases cached with
    | some cached =>
      rw [errorToFailureInner] at h
      cases h
      obtain ⟨c', source, made, cls', message', stack', cause', hsource, hkinds, hoverridden⟩ := hcoherent
      have hsaid : Says source (.temporal cls message stack (some failure) cause) :=
        ⟨(hoverridden.isCancelledFailure.trans (isCancelledFailure_failureToError hsource)).symm,
          (hoverridden.isCancellation.trans (isCancellation_failureToError hsource)).symm⟩
      obtain ⟨_, _, _, made', _, heq, -, hmade, -⟩ := failureToError_temporal hsource
      have hsame : made = made' := by
        cases heq
        rfl
      exact says_of_kinds hsaid (hkinds.trans (hsame ▸ hmade))
    | none =>
      rw [errorToFailureInner_temporal] at h
      obtain ⟨causeFailure, hcause, h⟩ := Pipeline.bind_eq_ok.mp h
      obtain ⟨fields, hfields, h⟩ := Pipeline.bind_eq_ok.mp h
      cases h
      exact says_mk (addInfo_kind hfields) (cancelled_optional (fun _ => ih hcoherent) hcause)
  | record message stack cause ih =>
    rw [errorToFailureInner_record] at h
    obtain ⟨causeFailure, hcause, h⟩ := Pipeline.bind_eq_ok.mp h
    cases h
    cases causeFailure <;> exact ⟨rfl, rfl⟩
  | plain text truthy =>
    cases h
    exact ⟨rfl, rfl⟩

/-! ### Payload codecs -/

lemma mapM_isSome {α β : Type} {f : α → Except JsError β} {x : Option α} {y : Option β}
    (h : x.mapM f = .ok y) : y.isSome = x.isSome := by
  cases x with
  | none =>
    cases h
    rfl
  | some value =>
    obtain ⟨result, -, h⟩ := Pipeline.bind_eq_ok.mp h
    cases h
    rfl

lemma codeInfos_kind {code : List Payload → Except JsError (List Payload)} {fields coded : FailureFields}
    (h : codeInfos code fields = .ok coded) : coded.kind = fields.kind := by
  unfold codeInfos at h
  obtain ⟨application, happlication, h⟩ := Pipeline.bind_eq_ok.mp h
  obtain ⟨timeout, htimeout, h⟩ := Pipeline.bind_eq_ok.mp h
  obtain ⟨canceled, hcanceled, h⟩ := Pipeline.bind_eq_ok.mp h
  obtain ⟨reset, hreset, h⟩ := Pipeline.bind_eq_ok.mp h
  cases h
  simp only [FailureFields.kind, mapM_isSome happlication, mapM_isSome htimeout, mapM_isSome hcanceled,
    mapM_isSome hreset]

/-- Coding the payloads of a failure leaves the kinds of its chain as they are. -/
lemma codeFailure_kinds {code : List Payload → Except JsError (List Payload)} {failure coded : Failure}
    (h : codeFailure code failure = .ok coded) : coded.kinds = failure.kinds := by
  induction failure generalizing coded with
  | leaf fields =>
    obtain ⟨attributes, -, h⟩ := Pipeline.bind_eq_ok.mp h
    obtain ⟨codedFields, hfields, h⟩ := Pipeline.bind_eq_ok.mp h
    cases h
    exact congrArg (fun kind => [kind]) ((codeInfos_kind hfields).trans rfl)
  | caused fields cause ih =>
    obtain ⟨attributes, -, h⟩ := Pipeline.bind_eq_ok.mp h
    obtain ⟨codedCause, hcause, h⟩ := Pipeline.bind_eq_ok.mp h
    obtain ⟨codedFields, hfields, h⟩ := Pipeline.bind_eq_ok.mp h
    cases h
    exact congrArg₂ List.cons ((codeInfos_kind hfields).trans rfl) (ih hcause)

end FailureConverter

namespace LoadedDataConverter

variable (converter : LoadedDataConverter)

def encodeErrorToFailure (err : ErrorValue) : Except JsError Failure := do
  let failure ← converter.failureConverter.errorToFailure err
  encodeFailure converter.payloadCodecs failure

/-- **A cancellation stays one** on its way to another process, and nothing becomes one, whichever converters
and codecs the two processes have. -/
theorem isCancellation_kept {sender receiver : LoadedDataConverter} {err err' : ErrorValue} {failure : Failure}
    (hcoherent : err.Coherent) (hsent : sender.encodeErrorToFailure err = .ok failure)
    (hreceived : receiver.decodeOptionalFailureToOptionalError (some failure) = .ok err') :
    err'.isCancellation = err.isCancellation := by
  obtain ⟨converted, hconverted, hcoded⟩ := Pipeline.bind_eq_ok.mp hsent
  obtain ⟨inner, hinner, hencode⟩ := Pipeline.bind_eq_ok.mp hconverted
  obtain ⟨decoded, hdecoded, herror⟩ := Pipeline.bind_eq_ok.mp hreceived
  have hsaid := FailureConverter.says_errorToFailureInner hcoherent hinner
  have hkinds : decoded.kinds = inner.kinds := by
    rw [FailureConverter.codeFailure_kinds hdecoded, FailureConverter.codeFailure_kinds hcoded,
      FailureConverter.encodeAttributes_kinds hencode]
  rw [FailureConverter.isCancellation_failureToError herror, (FailureConverter.says_of_kinds hsaid hkinds).2]

/-- An activity that failed since it was cancelled -/
def cancelledActivity : ErrorValue :=
  .temporal (.activityFailure "greet" (some "1") .nonRetryableFailure none) "Activity task failed" none none
    (.temporal (.cancelledFailure [.string "late"]) "CANCELLED" none none .undefined)

/-- The failure of an activity that was cancelled, as the server has it -/
def cancellationFailure : Failure :=
  .caused { FailureFields.empty with
      message := some "Activity task failed"
      activityFailureInfo := some ⟨none, none, none, some ⟨some "greet"⟩, some "1", some .nonRetryableFailure⟩ }
    (.leaf { FailureFields.empty with message := some "CANCELLED", canceledFailureInfo := some ⟨none⟩ })

/-- The error that is made of it -/
def receivedCancellation : ErrorValue :=
  .temporal (.activityFailure "greet" (some "1") .nonRetryableFailure none) "Activity task failed" (some "")
    (some cancellationFailure)
    (.temporal (.cancelledFailure []) "CANCELLED" (some "") cancellationFailure.cause .undefined)

def lateFailure : Failure :=
  .leaf { FailureFields.empty with message := some "late", applicationFailureInfo := some ⟨none, none, none⟩ }

/-- The error that is made of it, after `ApplicationFailure.fromError` has given it another type and a cause -/
def overriddenFailure : ErrorValue :=
  .temporal (.applicationFailure (some "Late") (some true) none) "too late" (some "") (some lateFailure)
    receivedCancellation

/-- With payload codecs -/
def codedJson (encodeCommonAttributes : Bool) : LoadedDataConverter :=
  ⟨⟨encodeCommonAttributes, FailureConverter.jsonConverter⟩, [reverseData]⟩

/-- What arrives of an error -/
def Arrives (err err' : ErrorValue) : Prop :=
  ∃ failure, (codedJson false).encodeErrorToFailure err = .ok failure ∧
    (codedJson true).decodeOptionalFailureToOptionalError (some failure) = .ok err'

theorem isCancellation_kept_received :
    (∃ err', Arrives cancelledActivity err' ∧ err'.isCancellation = true) ∧
      (∃ err', Arrives receivedCancellation err' ∧ err'.isCancellation = true) ∧
        ∃ err', Arrives overriddenFailure err' ∧ err'.isCancellation = false := by
  have hreceived : receivedCancellation.Coherent :=
    ⟨⟨false, FailureConverter.jsonConverter⟩, cancellationFailure, cancellationFailure, _, _, _, _, rfl, rfl, .same _⟩
  have hoverridden : overriddenFailure.Coherent :=
    ⟨⟨false, FailureConverter.jsonConverter⟩, lateFailure, lateFailure, _, _, _, _, rfl, rfl, .application rfl rfl⟩
  refine ⟨?_, ?_, ?_⟩
  · obtain ⟨err', harrives⟩ : ∃ err', Arrives cancelledActivity err' := ⟨_, _, rfl, rfl⟩
    have ⟨failure, hsent, hdecoded⟩ := harrives
    have hfresh : cancelledActivity.Coherent := trivial
    exact ⟨err', harrives, isCancellation_kept hfresh hsent hdecoded⟩
  · obtain ⟨err', harrives⟩ : ∃ err', Arrives receivedCancellation err' := ⟨_, _, rfl, rfl⟩
    have ⟨failure, hsent, hdecoded⟩ := harrives
    exact ⟨err', harrives, isCancellation_kept hreceived hsent hdecoded⟩
  · obtain ⟨err', harrives⟩ : ∃ err', Arrives overriddenFailure err' := ⟨_, _, rfl, rfl⟩
    have ⟨failure, hsent, hdecoded⟩ := harrives
    exact ⟨err', harrives, isCancellation_kept hoverridden hsent hdecoded⟩

end LoadedDataConverter

end TemporalSdk
