import TemporalSdk.Worker.ActivityOperator

/-!
# The outcome of an Activity

`Activity.run` calls the function of the Activity, encodes what it returns, and has one `catch` for what is
thrown by either. Cancellation may be requested at each of its `await`s: the promise `cancelled` keeps the
first reason, the field `cancelReason` the last one.
-/

namespace TemporalSdk

/-- The cancellation state of an Activity: the field, the signal of the abort controller, and what the promise
`cancelled` is rejected with -/
structure Activity where
  cancelReason : Option CancelReason
  aborted : Bool
  rejected : Option CancelReason
deriving DecidableEq

namespace Activity

def initial : Activity := ⟨none, false, none⟩

variable (a : Activity)

/-- A promise that is rejected already stays as it is. -/
def cancel (reason : CancelReason) : Activity := ⟨some reason, true, a.rejected.or (some reason)⟩

/-- The details of a heartbeat cannot be encoded. -/
def onError : Activity := a.cancel .heartbeatDetailsConversionFailed

def cancelAll (reasons : List CancelReason) : Activity := reasons.foldl cancel a

end Activity

/-- The failures in results: the encoding of an error, the same without its stack trace, and the one of an
Activity that was aborted by its signal -/
inductive ResultFailure
  | encoded (error : ErrorToEncode)
  | withoutStackTrace (error : ErrorToEncode)
  | aborted
deriving DecidableEq

/-- `encodeErrorToFailure` does not throw. -/
def ResultFailure.failure (encodeErrorToFailure : ErrorToEncode → Failure) : ResultFailure → Failure
  | encoded error => encodeErrorToFailure error
  | withoutStackTrace error => (encodeErrorToFailure error).withoutStackTrace
  | aborted => .leaf { FailureFields.empty with
      source := some failureSource
      canceledFailureInfo := some ⟨none⟩ }

/-- `coresdk.activity_result.IActivityExecutionResult`, field by field -/
structure ActivityExecutionResult where
  completed : Option Payload := none
  failed : Option ResultFailure := none
  cancelled : Option ResultFailure := none
  willCompleteAsync : Option Unit := none
deriving DecidableEq

/-- The number of variants that are there -/
def ActivityExecutionResult.populated (result : ActivityExecutionResult) : ℕ :=
  result.completed.isSome.toNat + result.failed.isSome.toNat + result.cancelled.isSome.toNat +
    result.willCompleteAsync.isSome.toNat

/-- The failure with the message `HEARTBEAT_DETAILS_CONVERSION_FAILED` -/
def ActivityExecutionResult.IsHeartbeatFailure (result : ActivityExecutionResult) : Prop :=
  result.failed = some (.encoded .heartbeatDetailsConversionFailed)

/-- The `catch` of `Activity.run` -/
def Activity.catchError (a : Activity) (err : ThrownValue) : ActivityExecutionResult :=
  if err = .completeAsyncError then { willCompleteAsync := some () }
  else if a.cancelReason = some .heartbeatDetailsConversionFailed then
    { failed := some (.encoded .heartbeatDetailsConversionFailed) }
  else if a.cancelReason.isSome && err.isCancelledFailure then
    { cancelled := some (.withoutStackTrace (.thrown err)) }
  else if a.cancelReason.isSome && err.isAbortError then { cancelled := some .aborted }
  else { failed := some (.encoded (.ensured err)) }

/-- What happens to an Activity: the reasons of the `cancel` calls until its function with the interceptors
around it has ended, while the result is encoded, until an error is caught, and after that -/
structure ActivityTimeline where
  executing : List CancelReason
  outcome : Except ThrownValue JsValue
  encoding : List CancelReason
  encodeToPayload : JsValue → Except ThrownValue Payload
  catching : List CancelReason
  settling : List CancelReason

namespace ActivityTimeline

variable (t : ActivityTimeline)

/-- `Activity.run`, and the Activity when the promise that it returns is resolved -/
def run : ActivityExecutionResult × Activity :=
  let a := Activity.initial.cancelAll t.executing
  match t.outcome with
  | .ok value =>
    let a := a.cancelAll t.encoding
    match t.encodeToPayload value with
    | .ok payload => ({ completed := some payload }, a.cancelAll t.settling)
    | .error err =>
      let a := a.cancelAll t.catching
      (a.catchError err, a.cancelAll t.settling)
  | .error err =>
    let a := a.cancelAll t.catching
    (a.catchError err, a.cancelAll t.settling)

/-- What the function or the encoding of its result has thrown -/
def thrown : Option ThrownValue :=
  match t.outcome with
  | .error err => some err
  | .ok value =>
    match t.encodeToPayload value with
    | .error err => some err
    | .ok _ => none

/-- The reason that the function of the Activity may observe -/
def observed : Option CancelReason := t.executing.head?

/-- One variant is there; an Activity is cancelled only on request, fails with its heartbeats only if this is why
it was cancelled, and is cancelled by what it throws because of another reason that it observed. -/
structure Classified : Prop where
  populated : t.run.1.populated = 1
  cancelled : t.run.1.cancelled.isSome = true → t.executing ≠ []
  heartbeat : t.run.1.IsHeartbeatFailure → t.run.2.rejected = some .heartbeatDetailsConversionFailed
  confirmed : ∀ reason, t.observed = some reason → reason ≠ .heartbeatDetailsConversionFailed →
    ∀ err, t.thrown = some err → err.isCancelledFailure = true ∨ err.isAbortError = true →
      t.run.1.cancelled.isSome = true

/-- The reasons of the `cancel` calls until an error is caught -/
def requests : List CancelReason :=
  match t.outcome with
  | .ok _ => t.executing ++ t.encoding ++ t.catching
  | .error _ => t.executing ++ t.catching

/-- For an error that is not `CompleteAsyncError`: heartbeats are the last reason only if they are the first one;
and if the error says that the Activity is cancelled, for another last reason, then cancellation was requested
before the function had ended. -/
def Consistent : Prop :=
  ∀ err, t.thrown = some err → err ≠ .completeAsyncError →
    (t.requests.getLast? = some .heartbeatDetailsConversionFailed →
      t.requests.head? = some .heartbeatDetailsConversionFailed) ∧
    ((err.isCancelledFailure = true ∨ err.isAbortError = true) → t.requests ≠ [] →
      t.requests.getLast? ≠ some .heartbeatDetailsConversionFailed → t.executing ≠ [])

end ActivityTimeline

/-! ### The first reason and the last -/

namespace Activity

variable (a : Activity) (reasons : List CancelReason)

lemma cancelAll_append (xs ys : List CancelReason) : a.cancelAll (xs ++ ys) = (a.cancelAll xs).cancelAll ys :=
  List.foldl_append ..

/-- The promise keeps the first reason. -/
lemma rejected_cancelAll : (a.cancelAll reasons).rejected = a.rejected.or reasons.head? := by
  induction reasons generalizing a with
  | nil => exact (Option.or_none ..).symm
  | cons reason reasons ih =>
    have htail := ih (a.cancel reason)
    rw [cancelAll, List.foldl_cons, ← cancelAll, htail]
    cases a with
    | mk _ _ rejected => cases rejected <;> rfl

/-- The field keeps the last one. -/
lemma cancelReason_cancelAll : (a.cancelAll reasons).cancelReason = reasons.getLast?.or a.cancelReason := by
  induction reasons using List.reverseRecOn with
  | nil => rfl
  | append_singleton reasons reason _ =>
    rw [cancelAll_append, List.getLast?_append]
    rfl

end Activity

lemma cancelReason_initial (reasons : List CancelReason) :
    (Activity.initial.cancelAll reasons).cancelReason = reasons.getLast? := by
  rw [Activity.cancelReason_cancelAll]
  exact Option.or_none ..

lemma rejected_initial (reasons : List CancelReason) :
    (Activity.initial.cancelAll reasons).rejected = reasons.head? := by
  rw [Activity.rejected_cancelAll]
  rfl

/-! ### The results of an error -/

namespace ThrownValue

variable {err : ThrownValue}

lemma ne_completeAsyncError (h : err.isCancelledFailure = true ∨ err.isAbortError = true) :
    err ≠ .completeAsyncError := by
  rintro rfl
  rcases h with h | h <;> cases h

end ThrownValue

namespace Activity

variable (a : Activity) (err : ThrownValue)

lemma populated_catchError : (a.catchError err).populated = 1 := by
  unfold catchError
  split
  · rfl
  · split
    · rfl
    · split
      · rfl
      · split <;> rfl

lemma isHeartbeatFailure_catchError_iff : (a.catchError err).IsHeartbeatFailure ↔
    err ≠ .completeAsyncError ∧ a.cancelReason = some .heartbeatDetailsConversionFailed := by
  unfold catchError ActivityExecutionResult.IsHeartbeatFailure
  split
  · rename_i herr
    simp [herr]
  · rename_i herr
    split
    · rename_i hreason
      simp [herr, hreason]
    · rename_i hreason
      split
      · simp [hreason]
      · split <;> simp [hreason]

/-- An Activity is cancelled by what it throws, when cancellation was requested for another reason. -/
lemma cancelled_catchError_iff : (a.catchError err).cancelled.isSome = true ↔
    (err.isCancelledFailure = true ∨ err.isAbortError = true) ∧ a.cancelReason.isSome = true ∧
      a.cancelReason ≠ some .heartbeatDetailsConversionFailed := by
  unfold catchError
  split
  · rename_i herr
    subst herr
    simp [ThrownValue.isCancelledFailure, ThrownValue.isAbortError]
  · split
    · rename_i hreason
      simp [hreason]
    · rename_i hreason
      split
      · rename_i hcancelled
        simp only [Bool.and_eq_true] at hcancelled
        simp [hcancelled, hreason]
      · split
        · rename_i haborted
          simp only [Bool.and_eq_true] at haborted
          simp [haborted, hreason]
        · rename_i hcancelled haborted
          simp only [Bool.and_eq_true, not_and, Bool.not_eq_true] at hcancelled haborted
          simp only [Option.isSome_none, Bool.false_eq_true, false_iff, not_and]
          rintro (h | h) hsome
          · exact absurd h (by simp [hcancelled hsome])
          · exact absurd h (by simp [haborted hsome])

end Activity

namespace ActivityTimeline

variable {t : ActivityTimeline} {err : ThrownValue}

lemma run_of_thrown_eq_none (h : t.thrown = none) : ∃ payload, t.run.1 = { completed := some payload } := by
  unfold thrown at h
  unfold run
  split at h
  · cases h
  · rename_i value houtcome
    simp only [houtcome]
    split at h
    · cases h
    · rename_i payload hpayload
      simp only [hpayload]
      exact ⟨payload, rfl⟩

/-- An error is caught with all the requests so far. -/
lemma run_of_thrown (h : t.thrown = some err) :
    t.run = ((Activity.initial.cancelAll t.requests).catchError err,
      Activity.initial.cancelAll (t.requests ++ t.settling)) := by
  unfold thrown at h
  unfold run requests
  split at h
  · rename_i houtcome
    obtain rfl := Option.some.inj h
    simp only [houtcome, Activity.cancelAll_append]
  · rename_i value houtcome
    split at h
    · rename_i hpayload
      obtain rfl := Option.some.inj h
      simp only [houtcome, hpayload, Activity.cancelAll_append]
    · cases h

lemma requests_eq_append (t : ActivityTimeline) : ∃ later, t.requests = t.executing ++ later := by
  unfold requests
  split
  · exact ⟨_, List.append_assoc ..⟩
  · exact ⟨_, rfl⟩

/-- What the function observes is the first reason. -/
lemma head?_requests {reason : CancelReason} (h : t.observed = some reason) : t.requests.head? = some reason := by
  obtain ⟨later, hrequests⟩ := requests_eq_append t
  rw [hrequests, List.head?_append, ← observed, h]
  rfl

lemma classified_of_thrown_eq_none (h : t.thrown = none) : t.Classified := by
  obtain ⟨payload, hrun⟩ := run_of_thrown_eq_none h
  refine ⟨?_, ?_, ?_, ?_⟩
  · rw [hrun]
    rfl
  · rw [hrun]
    exact fun hcancelled => by cases hcancelled
  · rw [hrun, ActivityExecutionResult.IsHeartbeatFailure]
    exact fun hfailed => by cases hfailed
  · intro reason _ _ err herr
    rw [h] at herr
    cases herr

/-- What is caught is classified well by the last reason, where that is enough like the first. -/
lemma classified_of_thrown (h : t.thrown = some err)
    (hfirst : err ≠ .completeAsyncError → t.requests.getLast? = some .heartbeatDetailsConversionFailed →
      t.requests.head? = some .heartbeatDetailsConversionFailed)
    (hrequested : (err.isCancelledFailure = true ∨ err.isAbortError = true) → t.requests ≠ [] →
      t.requests.getLast? ≠ some .heartbeatDetailsConversionFailed → t.executing ≠ []) : t.Classified := by
  have hrun := run_of_thrown h
  refine ⟨?_, ?_, ?_, ?_⟩
  · rw [hrun]
    exact Activity.populated_catchError _ _
  · rw [hrun, Activity.cancelled_catchError_iff, cancelReason_initial]
    rintro ⟨herr, hsome, hlast⟩
    exact hrequested herr (List.getLast?_isSome.mp hsome) hlast
  · rw [hrun, Activity.isHeartbeatFailure_catchError_iff, cancelReason_initial, rejected_initial]
    rintro ⟨herr, hlast⟩
    rw [List.head?_append, hfirst herr hlast]
    rfl
  · intro reason hobserved hreason err' herr' hthrown
    rw [h] at herr'
    obtain rfl := Option.some.inj herr'
    have hhead := head?_requests hobserved
    have hne : t.requests ≠ [] := by
      intro hnil
      rw [hnil] at hhead
      cases hhead
    rw [hrun, Activity.cancelled_catchError_iff, cancelReason_initial]
    refine ⟨hthrown, List.getLast?_isSome.mpr hne, fun hlast => ?_⟩
    have hheartbeat := hfirst (ThrownValue.ne_completeAsyncError hthrown) hlast
    exact hreason (Option.some.inj (hhead.symm.trans hheartbeat))

/-- The outcome of an Activity says why and when it was cancelled exactly where the reason that the field keeps
is consistent with the one that the promise was rejected with. -/
theorem classified_iff (t : ActivityTimeline) : t.Classified ↔ t.Consistent := by
  cases hthrown : t.thrown with
  | none =>
    refine iff_of_true (classified_of_thrown_eq_none hthrown) fun err herr => ?_
    rw [hthrown] at herr
    cases herr
  | some err =>
    have hrun := run_of_thrown hthrown
    constructor
    · intro h err' herr' hne
      rw [hthrown] at herr'
      obtain rfl := Option.some.inj herr'
      refine ⟨fun hlast => ?_, fun hcancelled hrequests hlast => h.cancelled ?_⟩
      · have hheartbeat : t.run.1.IsHeartbeatFailure := by
          rw [hrun, Activity.isHeartbeatFailure_catchError_iff, cancelReason_initial]
          exact ⟨hne, hlast⟩
        have hrejected := h.heartbeat hheartbeat
        rw [hrun, rejected_initial, List.head?_append] at hrejected
        obtain ⟨reason, rest, hrequests⟩ := List.exists_cons_of_ne_nil (l := t.requests) (by
          rintro hnil
          rw [hnil] at hlast
          cases hlast)
        rw [hrequests] at hrejected ⊢
        exact hrejected
      · rw [hrun, Activity.cancelled_catchError_iff, cancelReason_initial]
        exact ⟨hcancelled, List.getLast?_isSome.mpr hrequests, hlast⟩
    · intro h
      refine classified_of_thrown hthrown (fun hne => (h err hthrown hne).1) fun hcancelled => ?_
      exact (h err hthrown (ThrownValue.ne_completeAsyncError hcancelled)).2 hcancelled

/-- The server cancels the Activity, its next heartbeat cannot be encoded, and it confirms the cancellation. -/
def heartbeatAfterCancel : ActivityTimeline where
  executing := [.core .cancelled, .heartbeatDetailsConversionFailed]
  outcome := .error (.cancelledFailure "CANCELLED")
  encoding := []
  encodeToPayload _ := .error .other
  catching := []
  settling := []

/-- The activity fails with its heartbeats, though it has observed that it was cancelled. -/
theorem not_classified_heartbeatAfterCancel :
    heartbeatAfterCancel.observed = some (.core .cancelled) ∧
      heartbeatAfterCancel.run.1.IsHeartbeatFailure ∧ ¬heartbeatAfterCancel.Classified := by
  refine ⟨rfl, rfl, fun h => ?_⟩
  have hrejected := h.heartbeat rfl
  exact absurd hrejected (by decide)

end ActivityTimeline

/-! ### The operator -/

namespace ActivityExecutionResult

/-- The stage that the operator is in once the result is known but for its encoding -/
def execution (result : ActivityExecutionResult) : Execution :=
  match result.failed, result.cancelled with
  | some (.encoded error), _ => .encodingFailure false error
  | _, some (.withoutStackTrace error) => .encodingFailure true error
  | _, some .aborted => .resolving .aborted
  | _, _ => .resolving .willCompleteAsync

end ActivityExecutionResult

end TemporalSdk
