import TemporalSdk.Common.FailureConverter

/-!
# Round trip of the failure converter

What an error made from the failure of another error has in common with it, along the whole
chain of causes.
-/

namespace TemporalSdk

/-- The payload converter gives the value back. -/
def PayloadConverter.RoundTrips (converter : PayloadConverter) (value : JsValue) : Prop :=
  ∃ payload, converter.toPayload value = .ok payload ∧ converter.fromPayload payload = .ok value

namespace FailureClass

/-- The values of the details of an error. -/
def values : FailureClass → List JsValue
  | applicationFailure _ _ details => details.getD []
  | cancelledFailure details => details
  | timeoutFailure lastHeartbeatDetails _ =>
    if lastHeartbeatDetails.isUndefined then [] else [lastHeartbeatDetails]
  | _ => []

def isChildWorkflowFailure : FailureClass → Bool
  | childWorkflowFailure _ _ _ _ => true
  | _ => false

def isTimeoutFailure : FailureClass → Bool
  | timeoutFailure _ _ => true
  | _ => false

/-- The class and the fields of the error that is made from the failure of another one; `none` when
the attempt throws. -/
def readBack : FailureClass → Option FailureClass
  | activityFailure activityType activityId retryState identity =>
    if activityType = "" then none
    else some (activityFailure activityType activityId retryState identity)
  | childWorkflowFailure workflowNamespace execution workflowType retryState =>
    if workflowType = "" then none
    else some (childWorkflowFailure workflowNamespace execution workflowType retryState)
  | applicationFailure type nonRetryable details =>
    some (applicationFailure type (some (nonRetryable.getD false)) (some (details.getD [])))
  | timeoutFailure lastHeartbeatDetails timeoutType =>
    some (timeoutFailure (if lastHeartbeatDetails.truthy then lastHeartbeatDetails else .undefined)
      timeoutType)
  | cls => some cls

/-- The fields of the class are neither lost nor replaced: type names are not empty, heartbeat
details are `undefined` or a value that is true in a condition, and `nonRetryable` and `details`
are set. -/
def Kept : FailureClass → Prop
  | activityFailure activityType _ _ _ => activityType ≠ ""
  | childWorkflowFailure _ _ workflowType _ => workflowType ≠ ""
  | applicationFailure _ nonRetryable details => nonRetryable.isSome ∧ details.isSome
  | timeoutFailure lastHeartbeatDetails _ =>
    lastHeartbeatDetails.truthy ∨ lastHeartbeatDetails.isUndefined
  | _ => True

lemma readBack_eq_self_iff (cls : FailureClass) : cls.readBack = some cls ↔ cls.Kept := by
  cases cls with
  | activityFailure activityType _ _ _ =>
    unfold readBack Kept
    by_cases h : activityType = "" <;> simp [h]
  | childWorkflowFailure _ _ workflowType _ =>
    unfold readBack Kept
    by_cases h : workflowType = "" <;> simp [h]
  | applicationFailure _ nonRetryable details =>
    unfold readBack Kept
    cases nonRetryable <;> cases details <;> simp
  | timeoutFailure lastHeartbeatDetails _ =>
    unfold readBack Kept
    cases h : lastHeartbeatDetails.truthy with
    | true => simp [h]
    | false => cases lastHeartbeatDetails <;> simp_all [JsValue.isUndefined, JsValue.truthy]
  | cancelledFailure _ => simp [readBack, Kept]
  | serverFailure _ => simp [readBack, Kept]
  | terminatedFailure => simp [readBack, Kept]
  | temporalFailure => simp [readBack, Kept]

end FailureClass

namespace ErrorValue

/-- A chain of temporal failures, none made from a failure. A child workflow failure has its
constant message, and a timeout failure no cause. -/
def IsChain : ErrorValue → Prop
  | temporal cls message _ failure cause =>
    failure = none ∧ (cls.isChildWorkflowFailure → message = childWorkflowFailureMessage) ∧
      (cls.isTimeoutFailure → cause = undefined) ∧ (cause = undefined ∨ cause.IsChain)
  | _ => False

/-- The same classes with the same fields, the same messages, and the stacks as cut off, at every depth. -/
def ReadsAs : ErrorValue → ErrorValue → Prop
  | temporal cls message stack _ cause, temporal cls' message' stack' _ cause' =>
    cls' = cls ∧ message' = message ∧ stack' = some (cutoffStackTrace stack) ∧ ReadsAs cause cause'
  | plain text truthy, plain text' truthy' => text' = text ∧ truthy' = truthy
  | _, _ => False

lemma IsChain.truthy {err : ErrorValue} (h : err.IsChain) : err.truthy := by
  cases err with
  | temporal _ _ _ _ _ => rfl
  | record _ _ _ => exact h.elim
  | plain _ _ => exact h.elim

end ErrorValue

namespace FailureConverter

variable (c : FailureConverter)

/-- The payload converter round-trips the values of the details of a chain. -/
def DetailsRoundTrip : ErrorValue → Prop
  | .temporal cls _ _ _ cause =>
    (∀ value ∈ cls.values, c.payloadConverter.RoundTrips value) ∧ DetailsRoundTrip cause
  | _ => True

/-- An error made from the failure of this one has its classes, fields and messages. -/
def RoundTripsError (err : ErrorValue) : Prop :=
  ∃ failure err', c.errorToFailure err = .ok failure ∧ c.failureToError failure = .ok err' ∧ err.ReadsAs err'

/-- The message and the stack trace that are read from the encoding of the given ones. -/
def readTexts (message stackTrace : String) : Except JsError (String × String) :=
  if c.encodeCommonAttributes then do
    let payload ← c.payloadConverter.toPayload (commonAttributes (some message) (some stackTrace))
    let attrs ← c.payloadConverter.fromPayload payload
    return ((attrs.stringProperty "message").getD "Encoded failure", (attrs.stringProperty "stack_trace").getD "")
  else .ok (message, stackTrace)

/-- The payload converter gives back a value with the message and the stack trace, where they are encoded; the
message of a child workflow failure is constant. -/
def KeepsTexts (cls : FailureClass) (message stackTrace : String) : Prop :=
  ∃ message', c.readTexts message stackTrace = .ok (message', stackTrace) ∧
    (cls.isChildWorkflowFailure = true ∨ message' = message)

/-- Every class of the chain is kept, and so are the encoded texts. -/
def Keeps : ErrorValue → Prop
  | .temporal cls message stack _ cause =>
    cls.Kept ∧ c.KeepsTexts cls message (cutoffStackTrace stack) ∧ Keeps cause
  | _ => True

variable {c}

lemma toPayloads_roundTrip {converter : PayloadConverter} {values : List JsValue}
    (h : ∀ value ∈ values, converter.RoundTrips value) :
    ∃ payloads, values.mapM converter.toPayload = .ok payloads ∧
      payloads.mapM converter.fromPayload = .ok values :=
  Pipeline.mapM_undo h

lemma detailsPayloads_roundTrip {details : Option (List JsValue)}
    (h : ∀ value ∈ details.getD [], c.payloadConverter.RoundTrips value) :
    ∃ payloads, c.detailsPayloads details = .ok payloads ∧
      c.payloadConverter.arrayFromPayloads (payloads.bind Payloads.payloads) = .ok (details.getD []) := by
  match details with
  | none => exact ⟨none, rfl, rfl⟩
  | some [] => exact ⟨none, rfl, rfl⟩
  | some (value :: values) =>
    obtain ⟨payloads, hto, hfrom⟩ := toPayloads_roundTrip h
    have htos : c.payloadConverter.toPayloads (value :: values) = .ok (some payloads) := by
      unfold PayloadConverter.toPayloads
      rw [if_neg (by simp)]
      rw [Option.getD_some] at hto
      rw [hto]
      rfl
    refine ⟨some ⟨some payloads⟩, ?_, hfrom⟩
    simp only [detailsPayloads, htos]
    rfl

/-- What the failure info of a class is read back as, whatever the texts and the encoded attributes are. -/
lemma failureToErrorInner_addInfo {cls : FailureClass} (message stackTrace : String)
    (hvalues : ∀ value ∈ cls.values, c.payloadConverter.RoundTrips value) :
    ∃ fields, c.addInfo (baseFields message stackTrace) cls = .ok fields ∧
      fields.message = some message ∧ fields.stackTrace = some stackTrace ∧
      fields.encodedAttributes = none ∧
      ∀ (message' stackTrace' : String) attributes cause, (cls.isTimeoutFailure → cause = .ok .undefined) →
        match cls.readBack with
        | none => ∃ err, c.failureToErrorInner { fields with
            message := some message', stackTrace := some stackTrace', encodedAttributes := attributes } cause =
              .error err
        | some cls' => c.failureToErrorInner { fields with
            message := some message', stackTrace := some stackTrace', encodedAttributes := attributes } cause =
              cause.map fun cause =>
                (cls', if cls.isChildWorkflowFailure then childWorkflowFailureMessage else message', cause) := by
  cases cls with
  | activityFailure activityType activityId retryState identity =>
    refine ⟨_, rfl, rfl, rfl, rfl, fun message' stackTrace' attributes cause _ => ?_⟩
    by_cases htype : activityType = ""
    · subst htype
      exact ⟨_, rfl⟩
    · simp only [FailureClass.readBack, if_neg htype, failureToErrorInner, baseFields,
        FailureFields.empty, Option.bind_some, Option.getD_some]
      cases cause <;> rfl
  | childWorkflowFailure workflowNamespace execution workflowType retryState =>
    refine ⟨_, rfl, rfl, rfl, rfl, fun message' stackTrace' attributes cause _ => ?_⟩
    by_cases htype : workflowType = ""
    · subst htype
      exact ⟨_, rfl⟩
    · simp only [FailureClass.readBack, if_neg htype, failureToErrorInner, baseFields,
        FailureFields.empty, Option.bind_some, Option.getD_some]
      cases cause <;> rfl
  | applicationFailure type nonRetryable details =>
    obtain ⟨payloads, hto, hfrom⟩ := detailsPayloads_roundTrip (c := c) hvalues
    refine ⟨_, by rw [addInfo, hto]; rfl, rfl, rfl, rfl, fun message' stackTrace' attributes cause _ => ?_⟩
    simp only [FailureClass.readBack, failureToErrorInner, hfrom]
    cases cause <;> rfl
  | cancelledFailure details =>
    have hdetails : ∀ value ∈ (some details).getD [], c.payloadConverter.RoundTrips value := hvalues
    obtain ⟨payloads, hto, hfrom⟩ := detailsPayloads_roundTrip hdetails
    refine ⟨_, by rw [addInfo, hto]; rfl, rfl, rfl, rfl, fun message' stackTrace' attributes cause _ => ?_⟩
    simp only [FailureClass.readBack, failureToErrorInner, baseFields, FailureFields.empty, hfrom]
    cases cause <;> rfl
  | timeoutFailure lastHeartbeatDetails timeoutType =>
    cases htruthy : lastHeartbeatDetails.truthy with
    | true =>
      have hmem : lastHeartbeatDetails ∈ (FailureClass.timeoutFailure lastHeartbeatDetails timeoutType).values := by
        cases lastHeartbeatDetails <;> simp_all [FailureClass.values, JsValue.isUndefined, JsValue.truthy]
      obtain ⟨payload, hto, hfrom⟩ := hvalues lastHeartbeatDetails hmem
      have hpayloads : c.detailsPayloads (some [lastHeartbeatDetails]) = .ok (some ⟨some [payload]⟩) := by
        simp only [detailsPayloads, PayloadConverter.toPayloads, List.mapM_cons, hto]
        rfl
      refine ⟨_, by rw [addInfo, if_pos htruthy, hpayloads]; rfl, rfl, rfl, rfl,
        fun message' stackTrace' attributes cause hcause => ?_⟩
      rw [hcause rfl]
      simp only [FailureClass.readBack, htruthy, failureToErrorInner, baseFields, FailureFields.empty,
        PayloadConverter.fromPayloadsAtIndex, Option.bind_some, List.getElem?_cons_zero, hfrom]
      rfl
    | false =>
      refine ⟨_, by rw [addInfo, if_neg (by simp [htruthy])]; rfl, rfl, rfl, rfl,
        fun message' stackTrace' attributes cause hcause => ?_⟩
      rw [hcause rfl]
      simp only [FailureClass.readBack, htruthy, failureToErrorInner, baseFields, FailureFields.empty,
        PayloadConverter.fromPayloadsAtIndex]
      rfl
  | serverFailure nonRetryable =>
    refine ⟨_, rfl, rfl, rfl, rfl, fun message' stackTrace' attributes cause _ => ?_⟩
    cases cause <;> rfl
  | terminatedFailure =>
    refine ⟨_, rfl, rfl, rfl, rfl, fun message' stackTrace' attributes cause _ => ?_⟩
    cases cause <;> rfl
  | temporalFailure =>
    refine ⟨_, rfl, rfl, rfl, rfl, fun message' stackTrace' attributes cause _ => ?_⟩
    cases cause <;> rfl

lemma errorToFailureInner_temporal (cls : FailureClass) (message : String) (stack : Option String)
    (cause : ErrorValue) :
    c.errorToFailureInner (.temporal cls message stack none cause) = do
      let cause ← c.optionalErrorToOptionalFailure cause
      let fields ← c.addInfo (baseFields message (cutoffStackTrace stack)) cls
      return .mk fields cause := by
  rw [errorToFailureInner]
  unfold optionalErrorToOptionalFailure errorToFailure
  cases cause.truthy <;> simp

lemma failureToError_mk (fields : FailureFields) (cause : Option Failure) :
    c.failureToError (.mk fields cause) = do
      let fields ← c.decodeAttributes fields
      let (cls, message, err) ← c.failureToErrorInner fields (c.optionalFailureToOptionalError cause)
      return .temporal cls message (some (fields.stackTrace.getD "")) (some (.mk fields cause)) err := by
  cases cause with
  | none => rw [Failure.mk, failureToError]; rfl
  | some cause => rw [Failure.mk, failureToError]; rfl

lemma errorToFailure_eq_ok {err : ErrorValue} {failure : Failure} :
    c.errorToFailure err = .ok failure ↔
      ∃ inner, c.errorToFailureInner err = .ok inner ∧ c.encodeAttributes inner = .ok failure :=
  Pipeline.bind_eq_ok

/-- The failure of a fresh temporal failure, from that of its cause. -/
lemma errorToFailureInner_temporal_eq_ok {cls : FailureClass} {message : String}
    {stack : Option String} {cause : ErrorValue} {failure : Failure} :
    c.errorToFailureInner (.temporal cls message stack none cause) = .ok failure ↔
      ∃ causeFailure fields, c.optionalErrorToOptionalFailure cause = .ok causeFailure ∧
        c.addInfo (baseFields message (cutoffStackTrace stack)) cls = .ok fields ∧
        failure = .mk fields causeFailure := by
  rw [errorToFailureInner_temporal]
  constructor
  · intro h
    obtain ⟨causeFailure, hcause, h⟩ := Pipeline.bind_eq_ok.mp h
    obtain ⟨fields, hfields, h⟩ := Pipeline.bind_eq_ok.mp h
    cases h
    exact ⟨causeFailure, fields, hcause, hfields, rfl⟩
  · rintro ⟨causeFailure, fields, hcause, hfields, rfl⟩
    rw [hcause]
    simp only [bind, Except.bind, hfields]
    rfl

section Reread

variable {fields : FailureFields} {message stackTrace : String} {cause : Option Failure}

/-- A failure that is encoded is read with the texts that its attributes give back. -/
lemma failureToError_encodeAttributes (cause : Option Failure) (hmessage : fields.message = some message)
    (hstack : fields.stackTrace = some stackTrace) (hnone : fields.encodedAttributes = none)
    {texts : String × String} (htexts : c.readTexts message stackTrace = .ok texts) :
    ∃ failure attributes origin, c.encodeAttributes (.mk fields cause) = .ok failure ∧
      c.failureToError failure = (c.failureToErrorInner { fields with
          message := some texts.1, stackTrace := some texts.2, encodedAttributes := attributes }
        (c.optionalFailureToOptionalError cause)).map fun read =>
          .temporal read.1 read.2.1 (some texts.2) (some origin) read.2.2 := by
  unfold readTexts at htexts
  cases hencode : c.encodeCommonAttributes with
  | false =>
    rw [if_neg (by simp [hencode])] at htexts
    cases htexts
    refine ⟨.mk fields cause, none, .mk fields cause, by simp [encodeAttributes, hencode], ?_⟩
    have hsame : { fields with
        message := some message, stackTrace := some stackTrace, encodedAttributes := none } = fields := by
      rw [← hmessage, ← hstack, ← hnone]
    rw [failureToError_mk, decodeAttributes, hnone]
    simp only [bind, Except.bind, hsame]
    cases c.failureToErrorInner fields (c.optionalFailureToOptionalError cause) with
    | error err => rfl
    | ok read => simp only [hstack]; rfl
  | true =>
    rw [if_pos hencode] at htexts
    obtain ⟨payload, hto, htexts⟩ := Pipeline.bind_eq_ok.mp htexts
    obtain ⟨attrs, hfrom, htexts⟩ := Pipeline.bind_eq_ok.mp htexts
    cases htexts
    have hdecode : c.decodeAttributes (fields.withEncoded payload) = .ok { fields with
        message := some ((attrs.stringProperty "message").getD "Encoded failure")
        stackTrace := some ((attrs.stringProperty "stack_trace").getD "")
        encodedAttributes := some payload } := by
      simp only [decodeAttributes, FailureFields.withEncoded, hfrom, Option.or_some]
      rfl
    refine ⟨.mk (fields.withEncoded payload) cause, some payload, .mk { fields with
        message := some ((attrs.stringProperty "message").getD "Encoded failure")
        stackTrace := some ((attrs.stringProperty "stack_trace").getD "")
        encodedAttributes := some payload } cause, ?_, ?_⟩
    · rw [encodeAttributes, if_pos hencode, Failure.fields_mk, hmessage, hstack, hto]
      cases cause <;> rfl
    · rw [failureToError_mk, hdecode]
      simp only [bind, Except.bind]
      cases c.failureToErrorInner _ (c.optionalFailureToOptionalError cause) <;> rfl

/-- A failure is only read when its attributes are. -/
lemma readTexts_of_failureToError (hmessage : fields.message = some message)
    (hstack : fields.stackTrace = some stackTrace) {failure : Failure} {err : ErrorValue}
    (hfailure : c.encodeAttributes (.mk fields cause) = .ok failure)
    (herr : c.failureToError failure = .ok err) : ∃ texts, c.readTexts message stackTrace = .ok texts := by
  unfold readTexts
  cases hencode : c.encodeCommonAttributes with
  | false => exact ⟨_, if_neg (by simp)⟩
  | true =>
    rw [encodeAttributes, if_pos hencode, Failure.fields_mk, hmessage, hstack] at hfailure
    obtain ⟨payload, hto, hfailure⟩ := Pipeline.bind_eq_ok.mp hfailure
    cases hfailure
    have hmk : (Failure.mk fields cause).modify (FailureFields.withEncoded payload) =
        .mk (fields.withEncoded payload) cause := by
      cases cause <;> rfl
    rw [hmk, failureToError_mk] at herr
    obtain ⟨decoded, hdecoded, -⟩ := Pipeline.bind_eq_ok.mp herr
    obtain ⟨attrs, hfrom, -⟩ := Pipeline.bind_eq_ok.mp hdecoded
    rw [if_pos rfl, hto]
    simp only [bind, Except.bind, hfrom]
    exact ⟨_, rfl⟩

end Reread

/-- One level of the chain: a temporal failure comes back when its class and its texts are kept and its cause
comes back. -/
lemma roundTripsError_temporal_iff {cls : FailureClass} {message : String} {stack : Option String}
    {cause : ErrorValue} (hvalues : ∀ value ∈ cls.values, c.payloadConverter.RoundTrips value)
    (hmessage : cls.isChildWorkflowFailure → message = childWorkflowFailureMessage)
    (htimeout : cls.isTimeoutFailure → cause = .undefined) :
    c.RoundTripsError (.temporal cls message stack none cause) ↔
      cls.Kept ∧ c.KeepsTexts cls message (cutoffStackTrace stack) ∧
        ∃ causeFailure causeError, c.optionalErrorToOptionalFailure cause = .ok causeFailure ∧
          c.optionalFailureToOptionalError causeFailure = .ok causeError ∧ cause.ReadsAs causeError := by
  obtain ⟨fields, hinfo, hm, hs, hnone, hread⟩ :=
    failureToErrorInner_addInfo message (cutoffStackTrace stack) hvalues
  have hcauseError : ∀ causeFailure, c.optionalErrorToOptionalFailure cause = .ok causeFailure →
      cls.isTimeoutFailure → c.optionalFailureToOptionalError causeFailure = .ok .undefined := by
    intro causeFailure hcause ht
    rw [htimeout ht] at hcause
    cases hcause
    rfl
  have hkeptMessage : ∀ message', (if cls.isChildWorkflowFailure then childWorkflowFailureMessage else message') =
      message ↔ cls.isChildWorkflowFailure = true ∨ message' = message := by
    intro message'
    cases hchild : cls.isChildWorkflowFailure with
    | true => simp [hmessage hchild]
    | false => simp
  constructor
  · rintro ⟨failure, err', hfailure, herr', hreads⟩
    obtain ⟨inner, hinner, hencode⟩ := errorToFailure_eq_ok.mp hfailure
    obtain ⟨causeFailure, fields', hcause, hinfo', rfl⟩ := errorToFailureInner_temporal_eq_ok.mp hinner
    cases hinfo.symm.trans hinfo'
    obtain ⟨texts, htexts⟩ := readTexts_of_failureToError hm hs hencode herr'
    obtain ⟨failure', attributes, origin, hencode', hback⟩ :=
      failureToError_encodeAttributes causeFailure hm hs hnone htexts
    cases hencode.symm.trans hencode'
    have hinner := hread texts.1 texts.2 attributes (c.optionalFailureToOptionalError causeFailure)
      (hcauseError causeFailure hcause)
    rw [herr'] at hback
    cases hreadBack : cls.readBack with
    | none =>
      rw [hreadBack] at hinner
      obtain ⟨err, herr⟩ := hinner
      rw [herr] at hback
      cases hback
    | some cls' =>
      rw [hreadBack] at hinner
      rw [hinner] at hback
      cases hcauseRead : c.optionalFailureToOptionalError causeFailure with
      | error err =>
        rw [hcauseRead] at hback
        cases hback
      | ok causeError =>
        rw [hcauseRead] at hback
        cases hback
        obtain ⟨hcls, hmessage', hstack', hcauseReads⟩ := hreads
        have hkept := (FailureClass.readBack_eq_self_iff cls).mp (hreadBack.trans (congrArg some hcls))
        refine ⟨hkept, ⟨texts.1, ?_, (hkeptMessage _).mp hmessage'⟩, causeFailure, causeError, hcause, hcauseRead,
          hcauseReads⟩
        rw [htexts, ← Option.some.inj hstack']
  · rintro ⟨hkept, ⟨message', htexts, hmessage'⟩, causeFailure, causeError, hcause, hcauseRead, hcauseReads⟩
    obtain ⟨failure, attributes, origin, hencode, hback⟩ :=
      failureToError_encodeAttributes causeFailure hm hs hnone htexts
    have hinner := hread message' (cutoffStackTrace stack) attributes
      (c.optionalFailureToOptionalError causeFailure) (hcauseError causeFailure hcause)
    rw [(FailureClass.readBack_eq_self_iff cls).mpr hkept] at hinner
    rw [hinner, hcauseRead] at hback
    refine ⟨failure, _, errorToFailure_eq_ok.mpr ⟨.mk fields causeFailure, ?_, hencode⟩, hback, ?_⟩
    · exact errorToFailureInner_temporal_eq_ok.mpr ⟨causeFailure, fields, hcause, hinfo, rfl⟩
    · exact ⟨rfl, (hkeptMessage message').mpr hmessage', rfl, hcauseReads⟩

/-- A chain of temporal failures round-trips exactly when, at every depth, the class and the encoded texts are
kept. -/
theorem roundTripsError_iff (c : FailureConverter) (err : ErrorValue) (hchain : err.IsChain)
    (hdetails : c.DetailsRoundTrip err) : c.RoundTripsError err ↔ c.Keeps err := by
  induction err with
  | temporal cls message stack failure cause ih =>
    obtain ⟨rfl, hmessage, htimeout, hcauseChain⟩ := hchain
    obtain ⟨hvalues, hcauseDetails⟩ := hdetails
    rw [roundTripsError_temporal_iff hvalues hmessage htimeout, Keeps]
    refine and_congr_right fun _ => and_congr_right fun _ => ?_
    rcases hcauseChain with rfl | hcauseChain
    · exact iff_of_true ⟨none, .undefined, rfl, rfl, rfl, rfl⟩ trivial
    · rw [← ih hcauseChain hcauseDetails]
      constructor
      · rintro ⟨causeFailure, causeError, hcause, hread, hreads⟩
        rw [optionalErrorToOptionalFailure, if_pos hcauseChain.truthy] at hcause
        cases hfailure : c.errorToFailure cause with
        | error err =>
          rw [hfailure] at hcause
          cases hcause
        | ok failure =>
          rw [hfailure] at hcause
          cases hcause
          exact ⟨failure, causeError, hfailure, hread, hreads⟩
      · rintro ⟨failure, causeError, hfailure, hread, hreads⟩
        refine ⟨some failure, causeError, ?_, hread, hreads⟩
        rw [optionalErrorToOptionalFailure, if_pos hcauseChain.truthy, hfailure]
        rfl
  | record _ _ _ _ => exact hchain.elim
  | plain _ _ => exact hchain.elim

def asciiBytes (s : String) : List UInt8 := s.toList.map fun char => UInt8.ofNat char.toNat

def jsonPayload (text : String) : Payload := ⟨[("encoding", asciiBytes "json/plain")], asciiBytes text⟩

/-- The text up to the next quote, and what comes after the `n` characters that follow. -/
def quoted (text : List Char) (n : ℕ) : String × List Char :=
  (String.ofList (text.takeWhile (· ≠ '"')), (text.dropWhile (· ≠ '"')).drop n)

/-- JSON for ASCII strings without escapes, for zero and for common attributes, and `undefined` -/
def jsonConverter : PayloadConverter where
  toPayload
    | .undefined => .ok ⟨[("encoding", asciiBytes "binary/null")], []⟩
    | .number (.finite 0) => .ok (jsonPayload "0")
    | .string s => .ok (jsonPayload ("\"" ++ s ++ "\""))
    | .object [(_, .string message), (_, .string stackTrace)] =>
      .ok (jsonPayload ("\x7b\"message\":\"" ++ message ++ "\",\"stack_trace\":\"" ++ stackTrace ++
        "\"\x7d"))
    | _ => .error (.valueError "Unable to convert the value to a payload")
  fromPayload payload :=
    match payload.data.map fun byte => Char.ofNat byte.toNat with
    | [] => .ok .undefined
    | ['0'] => .ok (.number (.finite 0))
    | '"' :: text => .ok (.string (String.ofList text.dropLast))
    | '\x7b' :: text =>
      let message := quoted (text.drop "\"message\":\"".length) "\",\"stack_trace\":\"".length
      .ok (commonAttributes (some message.1) (some (quoted message.2 0).1))
    | _ => .error (.valueError "Unable to convert the payload to a value")

/-- An activity that failed with an application failure -/
def failedActivity : ErrorValue :=
  .temporal (.activityFailure "greet" (some "1") .maximumAttemptsReached none) "Activity task failed"
    none none
    (.temporal (.applicationFailure (some "Error") (some true) (some [.string "progress"])) "boom"
      (some "Error: boom") none .undefined)

/-- The attributes are encoded at both depths. -/
theorem roundTripsError_failedActivity :
    (FailureConverter.mk true jsonConverter).RoundTripsError failedActivity := by
  have hvalue : jsonConverter.RoundTrips (.string "progress") := ⟨_, rfl, rfl⟩
  have hchain : failedActivity.IsChain := by
    simp [failedActivity, ErrorValue.IsChain, FailureClass.isChildWorkflowFailure,
      FailureClass.isTimeoutFailure]
  have hdetails : (FailureConverter.mk true jsonConverter).DetailsRoundTrip failedActivity := by
    simpa [failedActivity, DetailsRoundTrip, FailureClass.values, ErrorValue.undefined] using hvalue
  apply (roundTripsError_iff ⟨true, jsonConverter⟩ failedActivity hchain hdetails).mpr
  refine ⟨by simp [FailureClass.Kept], ⟨_, rfl, Or.inr rfl⟩, by simp [FailureClass.Kept], ⟨_, rfl, Or.inr rfl⟩,
    trivial⟩

/-- A timeout failure with heartbeat details that are false in a condition -/
def zeroHeartbeat : ErrorValue :=
  .temporal (.timeoutFailure (.number (.finite 0)) .heartbeat) "activity timed out" none none .undefined

/-- The heartbeat details `0` of a timeout failure are lost. -/
theorem roundTripsError_counterexample :
    zeroHeartbeat.IsChain ∧ (FailureConverter.mk false jsonConverter).DetailsRoundTrip zeroHeartbeat ∧
      ¬ (FailureConverter.mk false jsonConverter).RoundTripsError zeroHeartbeat := by
  have hchain : zeroHeartbeat.IsChain := by
    simp [zeroHeartbeat, ErrorValue.IsChain, FailureClass.isChildWorkflowFailure]
  have hvalue : jsonConverter.RoundTrips (.number (.finite 0)) := ⟨_, rfl, rfl⟩
  have hvalues : ∀ value ∈ (FailureClass.timeoutFailure (.number (.finite 0)) .heartbeat).values,
      jsonConverter.RoundTrips value := by
    simpa [FailureClass.values, JsValue.isUndefined] using hvalue
  refine ⟨hchain, ⟨hvalues, trivial⟩, fun h => ?_⟩
  have hkept := ((roundTripsError_temporal_iff hvalues (by simp [FailureClass.isChildWorkflowFailure])
    fun _ => rfl).mp h).1
  simp [FailureClass.Kept, JsValue.truthy, JsValue.isUndefined] at hkept

end FailureConverter

end TemporalSdk
