import TemporalSdk.Common.FailureRoundTrip
import TemporalSdk.Library.Pipeline

/-!
# Confidentiality of encoded failures

With `encodeCommonAttributes`, messages and stack traces are to leave a worker only inside the
payloads of `encodedAttributes`. An error that was made from a failure is turned back into that
failure, and the causes of the latter stay as they are; and the failure infos of activities and child workflows
are made with `...err`, which copies the error that is the cause.
-/

namespace TemporalSdk

/-- The message and the stack trace are replaced, and the encoded attributes are set. -/
def FailureFields.Hidden (fields : FailureFields) : Prop :=
  fields.message = some "Encoded failure" ∧ fields.stackTrace = some "" ∧ fields.encodedAttributes.isSome

/-- Forget messages and stack traces, plain and encoded. -/
def FailureFields.eraseTexts (fields : FailureFields) : FailureFields :=
  { fields with
    message := none
    stackTrace := none
    encodedAttributes := fields.encodedAttributes.map fun _ => ⟨[], []⟩ }

/-- Forget what is inside the payload of the encoded attributes. -/
def FailureFields.eraseAttributes (fields : FailureFields) : FailureFields :=
  { fields with encodedAttributes := fields.encodedAttributes.map fun _ => ⟨[], []⟩ }

namespace Failure

def mapFields (f : FailureFields → FailureFields) : Failure → Failure
  | leaf fields => leaf (f fields)
  | caused fields cause => caused (f fields) (cause.mapFields f)

/-- Every node of the tree is hidden. -/
def Hidden : Failure → Prop
  | leaf fields => fields.Hidden
  | caused fields cause => fields.Hidden ∧ cause.Hidden

def CausesHidden : Failure → Prop
  | leaf _ => True
  | caused _ cause => cause.Hidden

/-- The same failure up to messages and stack traces, plain and encoded. -/
def SameUpToTexts (f g : Failure) : Prop :=
  f.mapFields FailureFields.eraseTexts = g.mapFields FailureFields.eraseTexts

/-- The same failure up to what is inside the payloads of encoded attributes. -/
def SameUpToAttributes (f g : Failure) : Prop :=
  f.mapFields FailureFields.eraseAttributes = g.mapFields FailureFields.eraseAttributes

lemma hidden_iff_fields {f : Failure} : f.Hidden ↔ f.fields.Hidden ∧ f.CausesHidden := by
  cases f with
  | leaf fields => simp [Hidden, CausesHidden, Failure.fields]
  | caused fields cause => simp [Hidden, CausesHidden, Failure.fields]

lemma causesHidden_mk {fields : FailureFields} {cause : Option Failure} :
    (mk fields cause).CausesHidden ↔ ∀ failure ∈ cause, failure.Hidden := by
  cases cause with
  | none => simp [mk, CausesHidden]
  | some failure => simp [mk, CausesHidden]

lemma SameUpToTexts.attributes {f g : Failure} (h : f.SameUpToTexts g) (hf : f.Hidden)
    (hg : g.Hidden) : f.SameUpToAttributes g := by
  have hfields : ∀ a b : FailureFields, a.Hidden → b.Hidden → a.eraseTexts = b.eraseTexts →
      a.eraseAttributes = b.eraseAttributes := by
    rintro a b ⟨hma, hsa, -⟩ ⟨hmb, hsb, -⟩ he
    simp only [FailureFields.eraseTexts, FailureFields.mk.injEq] at he
    simp only [FailureFields.eraseAttributes, FailureFields.mk.injEq, hma, hsa, hmb, hsb, true_and]
    exact ⟨he.2.1, he.2.2.2⟩
  unfold SameUpToAttributes SameUpToTexts at *
  induction f generalizing g with
  | leaf a =>
    cases g with
    | leaf b => exact congrArg leaf (hfields a b hf hg (leaf.inj h))
    | caused b cause => cases h
  | caused a cause ih =>
    cases g with
    | leaf b => cases h
    | caused b cause' =>
      obtain ⟨hab, hcause⟩ := caused.inj h
      exact congrArg₂ caused (hfields a b hf.1 hg.1 hab) (ih hcause hf.2 hg.2)

end Failure

namespace ErrorValue

/-- The causes of the first failure that an error of the chain was made from are hidden. -/
def CachedCausesHidden : ErrorValue → Prop
  | temporal _ _ _ (some failure) _ => failure.CausesHidden
  | temporal _ _ _ none cause => cause.CachedCausesHidden
  | record _ _ cause => cause.CachedCausesHidden
  | plain _ _ => True

/-- No failure info gets a cause by `...err`. -/
def NoCauseSpread : ErrorValue → Prop
  | temporal _ _ _ (some _) _ => True
  | temporal cls _ _ none cause => (cls.spreadsError = true → cause.truthy = false) ∧ cause.NoCauseSpread
  | record _ _ cause => cause.NoCauseSpread
  | plain _ _ => True

/-- The same chain up to the messages and the stacks, also of the failures that its errors were made
from. -/
def SameUpToTexts : ErrorValue → ErrorValue → Prop
  | temporal cls _ _ failure cause, temporal cls' _ _ failure' cause' =>
    cls = cls' ∧ failure.map (Failure.mapFields FailureFields.eraseTexts) =
      failure'.map (Failure.mapFields FailureFields.eraseTexts) ∧ cause.SameUpToTexts cause'
  | record _ _ cause, record _ _ cause' => cause.SameUpToTexts cause'
  | plain text truthy, plain text' truthy' => truthy = truthy' ∧ (truthy = false → text = text')
  | _, _ => False

lemma SameUpToTexts.truthy {err err' : ErrorValue} (h : err.SameUpToTexts err') :
    err.truthy = err'.truthy := by
  cases err <;> cases err' <;> first | rfl | exact h.1 | exact h.elim

lemma SameUpToTexts.eq_of_not_truthy {err err' : ErrorValue} (h : err.SameUpToTexts err')
    (hfalse : err.truthy = false) : err = err' := by
  cases err with
  | temporal _ _ _ _ _ => cases hfalse
  | record _ _ _ => cases hfalse
  | plain text truthy =>
    cases err' with
    | plain text' truthy' =>
      obtain ⟨rfl, htext⟩ := h
      rw [htext hfalse]
    | temporal _ _ _ _ _ => exact h.elim
    | record _ _ _ => exact h.elim

lemma SameUpToTexts.infoCauses_eq {err err' : ErrorValue} (h : err.SameUpToTexts err')
    (hspread : err.NoCauseSpread) : err.infoCauses = err'.infoCauses := by
  induction err generalizing err' with
  | temporal cls message stack origin cause ih =>
    cases err' with
    | temporal cls' message' stack' origin' cause' =>
      obtain ⟨rfl, horigin, hcauses⟩ := h
      cases origin with
      | some origin =>
        cases origin' with
        | none => cases horigin
        | some origin' => rfl
      | none =>
        cases origin' with
        | some origin' => cases horigin
        | none =>
          obtain ⟨hfalsy, hcause⟩ := hspread
          rw [infoCauses, infoCauses, ih hcauses hcause]
          split
          · rename_i hspreads
            rw [hcauses.eq_of_not_truthy (hfalsy hspreads)]
          · rfl
    | record _ _ _ => exact h.elim
    | plain _ _ => exact h.elim
  | record message stack cause ih =>
    cases err' with
    | record message' stack' cause' => exact congrArg (none :: ·) (ih h hspread)
    | temporal _ _ _ _ _ => exact h.elim
    | plain _ _ => exact h.elim
  | plain text truthy =>
    cases err' with
    | plain text' truthy' => rfl
    | temporal _ _ _ _ _ => exact h.elim
    | record _ _ _ => exact h.elim

/-- The same chain with other messages, and with other texts of the values that are no errors. -/
def renamed : ErrorValue → ErrorValue
  | temporal cls message stack origin cause => temporal cls (message ++ "!") stack origin cause.renamed
  | record message stack cause => record (message ++ "!") stack cause.renamed
  | plain text true => plain (text ++ "!") true
  | plain text false => plain text false

lemma sameUpToTexts_renamed (err : ErrorValue) : err.SameUpToTexts err.renamed := by
  induction err with
  | temporal cls message stack origin cause ih => exact ⟨rfl, rfl, ih⟩
  | record message stack cause ih => exact ih
  | plain text truthy => cases truthy <;> exact ⟨rfl, by simp⟩

lemma cachedCausesHidden_renamed (err : ErrorValue) :
    err.renamed.CachedCausesHidden ↔ err.CachedCausesHidden := by
  induction err with
  | temporal cls message stack origin cause ih => cases origin <;> [exact ih; exact Iff.rfl]
  | record message stack cause ih => exact ih
  | plain text truthy => cases truthy <;> exact Iff.rfl

lemma renamed_ne {err : ErrorValue} (htruthy : err.truthy = true) : err ≠ err.renamed := by
  have hne : ∀ text : String, text ≠ text ++ "!" := by
    intro text h
    simpa using congrArg String.length h
  cases err with
  | temporal cls message stack origin cause => exact fun h => hne message (temporal.inj h).2.1
  | record message stack cause => exact fun h => hne message (record.inj h).1
  | plain text truthy =>
    cases truthy with
    | true => exact fun h => hne text (plain.inj h).1
    | false => cases htruthy

/-- A cause that has been copied shows its texts. -/
lemma infoCauses_renamed_ne {err : ErrorValue} (hspread : ¬err.NoCauseSpread) :
    err.infoCauses ≠ err.renamed.infoCauses := by
  induction err with
  | temporal cls message stack origin cause ih =>
    cases origin with
    | some origin => exact absurd trivial hspread
    | none =>
      intro h
      obtain ⟨hhead, htail⟩ := List.cons.inj h
      by_cases hcause : cause.NoCauseSpread
      · have hcopied : cls.spreadsError = true ∧ cause.truthy = true := by
          simpa [NoCauseSpread, hcause] using hspread
        rw [if_pos hcopied.1, if_pos hcopied.1] at hhead
        exact renamed_ne hcopied.2 (Option.some.inj hhead)
      · exact ih hcause htail
  | record message stack cause ih => exact fun h => ih hspread (List.cons.inj h).2
  | plain text truthy => exact absurd trivial hspread

end ErrorValue

/-- The same object up to what is inside the payloads of encoded attributes. -/
def ReturnedFailure.SameUpToAttributes (object object' : ReturnedFailure) : Prop :=
  object.failure.SameUpToAttributes object'.failure ∧ object.infoCauses = object'.infoCauses

namespace FailureConverter

variable {payloadConverter : PayloadConverter}

lemma encodeAttributes_hidden {failure encoded : Failure}
    (h : (FailureConverter.mk true payloadConverter).encodeAttributes failure = .ok encoded) :
    ∃ attributes, encoded = failure.modify (FailureFields.withEncoded attributes) := by
  unfold encodeAttributes at h
  rw [if_pos rfl] at h
  cases hpayload : payloadConverter.toPayload
      (commonAttributes failure.fields.message failure.fields.stackTrace) with
  | error err =>
    simp only [hpayload] at h
    cases h
  | ok attributes =>
    simp only [hpayload] at h
    cases h
    exact ⟨attributes, rfl⟩

lemma encodeAttributes_hidden_iff {failure encoded : Failure}
    (h : (FailureConverter.mk true payloadConverter).encodeAttributes failure = .ok encoded) :
    encoded.Hidden ↔ failure.CausesHidden := by
  obtain ⟨attributes, rfl⟩ := encodeAttributes_hidden h
  rw [Failure.hidden_iff_fields]
  cases failure with
  | leaf fields =>
    simp [Failure.modify, Failure.fields, FailureFields.Hidden, FailureFields.withEncoded,
      Failure.CausesHidden]
  | caused fields cause =>
    simp [Failure.modify, Failure.fields, FailureFields.Hidden, FailureFields.withEncoded,
      Failure.CausesHidden]

lemma encodeAttributes_sameUpToTexts {failure failure' encoded encoded' : Failure}
    (h : (FailureConverter.mk true payloadConverter).encodeAttributes failure = .ok encoded)
    (h' : (FailureConverter.mk true payloadConverter).encodeAttributes failure' = .ok encoded')
    (hsame : failure.SameUpToTexts failure') : encoded.SameUpToTexts encoded' := by
  obtain ⟨attributes, rfl⟩ := encodeAttributes_hidden h
  obtain ⟨attributes', rfl⟩ := encodeAttributes_hidden h'
  have hfields : ∀ a b : FailureFields, a.eraseTexts = b.eraseTexts →
      (a.withEncoded attributes).eraseTexts = (b.withEncoded attributes').eraseTexts := by
    intro a b he
    exact congrArg (fun e : FailureFields => { e with encodedAttributes := some ⟨[], []⟩ }) he
  unfold Failure.SameUpToTexts at *
  cases failure with
  | leaf a =>
    cases failure' with
    | leaf b => exact congrArg Failure.leaf (hfields a b (Failure.leaf.inj hsame))
    | caused b cause => cases hsame
  | caused a cause =>
    cases failure' with
    | leaf b => cases hsame
    | caused b cause' =>
      obtain ⟨hab, hcause⟩ := Failure.caused.inj hsame
      exact congrArg₂ Failure.caused (hfields a b hab) hcause

variable {c : FailureConverter}

lemma optionalErrorToOptionalFailure_eq_ok {err : ErrorValue} {failure : Option Failure} :
    c.optionalErrorToOptionalFailure err = .ok failure ↔
      (err.truthy = false ∧ failure = none) ∨
        (err.truthy = true ∧ ∃ f, c.errorToFailure err = .ok f ∧ failure = some f) := by
  unfold optionalErrorToOptionalFailure
  cases err.truthy with
  | false =>
    simp [eq_comm]
  | true =>
    cases c.errorToFailure err with
    | error e => simp
    | ok f => simp [eq_comm]

lemma errorToFailureInner_record_eq_ok {message stack : String} {cause : ErrorValue}
    {failure : Failure} :
    c.errorToFailureInner (.record message stack cause) = .ok failure ↔
      ∃ causeFailure, c.optionalErrorToOptionalFailure cause = .ok causeFailure ∧
        failure = .mk (baseFields message (cutoffStackTrace (some stack))) causeFailure := by
  have hinner : c.errorToFailureInner (.record message stack cause) = do
      let cause ← c.optionalErrorToOptionalFailure cause
      return .mk (baseFields message (cutoffStackTrace (some stack))) cause := by
    rw [errorToFailureInner]
    unfold optionalErrorToOptionalFailure errorToFailure
    cases cause.truthy <;> simp
  rw [hinner]
  constructor
  · intro h
    obtain ⟨causeFailure, hcause, h⟩ := Pipeline.bind_eq_ok.mp h
    cases h
    exact ⟨causeFailure, hcause, rfl⟩
  · rintro ⟨causeFailure, hcause, rfl⟩
    rw [hcause]
    rfl

lemma causesHidden_iff {cause : ErrorValue} {causeFailure : Option Failure}
    (ih : ∀ {failure : Failure}, c.errorToFailure cause = .ok failure →
      (failure.Hidden ↔ cause.CachedCausesHidden))
    (hcause : c.optionalErrorToOptionalFailure cause = .ok causeFailure) :
    (∀ failure ∈ causeFailure, failure.Hidden) ↔ cause.CachedCausesHidden := by
  rcases optionalErrorToOptionalFailure_eq_ok.mp hcause with ⟨hfalse, rfl⟩ | ⟨-, f, hf, rfl⟩
  · cases cause with
    | plain text truthy => simp [ErrorValue.CachedCausesHidden]
    | temporal cls message stack failure cause => cases hfalse
    | record message stack cause => cases hfalse
  · rw [← ih hf]
    simp

/-- The failure of a chain hides its texts exactly when the causes of the first failure that an error
of it was made from do. -/
lemma errorToFailure_hidden_iff {err : ErrorValue} {failure : Failure}
    (h : (FailureConverter.mk true payloadConverter).errorToFailure err = .ok failure) :
    failure.Hidden ↔ err.CachedCausesHidden := by
  induction err generalizing failure with
  | temporal cls message stack origin cause ih =>
    obtain ⟨inner, hinner, hencode⟩ := errorToFailure_eq_ok.mp h
    rw [encodeAttributes_hidden_iff hencode]
    cases origin with
    | some origin =>
      cases hinner
      exact Iff.rfl
    | none =>
      obtain ⟨causeFailure, fields, hcause, -, rfl⟩ := errorToFailureInner_temporal_eq_ok.mp hinner
      rw [Failure.causesHidden_mk, ErrorValue.CachedCausesHidden]
      exact causesHidden_iff ih hcause
  | record message stack cause ih =>
    obtain ⟨inner, hinner, hencode⟩ := errorToFailure_eq_ok.mp h
    rw [encodeAttributes_hidden_iff hencode]
    obtain ⟨causeFailure, hcause, rfl⟩ := errorToFailureInner_record_eq_ok.mp hinner
    rw [Failure.causesHidden_mk, ErrorValue.CachedCausesHidden]
    exact causesHidden_iff ih hcause
  | plain text truthy =>
    obtain ⟨inner, hinner, hencode⟩ := errorToFailure_eq_ok.mp h
    rw [encodeAttributes_hidden_iff hencode]
    cases hinner
    exact Iff.rfl

/-- A failure info does not depend on the texts of the failure that it is added to. -/
lemma map_eraseTexts_addInfo (base : FailureFields) (cls : FailureClass) :
    (c.addInfo base cls).map FailureFields.eraseTexts = c.addInfo base.eraseTexts cls := by
  cases cls with
  | activityFailure _ _ _ _ => rfl
  | childWorkflowFailure _ _ _ _ => rfl
  | applicationFailure _ _ details =>
    simp only [addInfo]
    cases c.detailsPayloads details <;> rfl
  | cancelledFailure details =>
    simp only [addInfo]
    cases c.detailsPayloads (some details) <;> rfl
  | timeoutFailure lastHeartbeatDetails _ =>
    simp only [addInfo]
    cases lastHeartbeatDetails.truthy with
    | false => rfl
    | true => cases c.detailsPayloads (some [lastHeartbeatDetails]) <;> rfl
  | serverFailure _ => rfl
  | terminatedFailure => rfl
  | temporalFailure => rfl

lemma baseFields_eraseTexts (message message' stackTrace stackTrace' : String) :
    (baseFields message stackTrace).eraseTexts = (baseFields message' stackTrace').eraseTexts := rfl

lemma addInfo_eraseTexts {base base' fields fields' : FailureFields} {cls : FailureClass}
    (hbase : base.eraseTexts = base'.eraseTexts) (h : c.addInfo base cls = .ok fields)
    (h' : c.addInfo base' cls = .ok fields') : fields.eraseTexts = fields'.eraseTexts := by
  have he : (c.addInfo base cls).map FailureFields.eraseTexts =
      (c.addInfo base' cls).map FailureFields.eraseTexts := by
    rw [map_eraseTexts_addInfo, map_eraseTexts_addInfo, hbase]
  rw [h, h'] at he
  exact Except.ok.inj he

lemma mk_sameUpToTexts {fields fields' : FailureFields} {cause cause' : Option Failure}
    (hfields : fields.eraseTexts = fields'.eraseTexts)
    (hcause : cause.map (Failure.mapFields FailureFields.eraseTexts) =
      cause'.map (Failure.mapFields FailureFields.eraseTexts)) :
    (Failure.mk fields cause).SameUpToTexts (Failure.mk fields' cause') := by
  cases cause with
  | none =>
    cases cause' with
    | none => exact congrArg Failure.leaf hfields
    | some failure' => cases hcause
  | some failure =>
    cases cause' with
    | none => cases hcause
    | some failure' => exact congrArg₂ Failure.caused hfields (Option.some.inj hcause)

lemma optional_sameUpToTexts {cause cause' : ErrorValue} {failure failure' : Option Failure}
    (ih : ∀ {f f' : Failure}, c.errorToFailure cause = .ok f → c.errorToFailure cause' = .ok f' →
      f.SameUpToTexts f')
    (htruthy : cause.truthy = cause'.truthy)
    (h : c.optionalErrorToOptionalFailure cause = .ok failure)
    (h' : c.optionalErrorToOptionalFailure cause' = .ok failure') :
    failure.map (Failure.mapFields FailureFields.eraseTexts) =
      failure'.map (Failure.mapFields FailureFields.eraseTexts) := by
  rcases optionalErrorToOptionalFailure_eq_ok.mp h with ⟨hfalse, rfl⟩ | ⟨htrue, f, hf, rfl⟩ <;>
    rcases optionalErrorToOptionalFailure_eq_ok.mp h' with ⟨hfalse', rfl⟩ | ⟨htrue', f', hf', rfl⟩
  · rfl
  · rw [hfalse, htrue'] at htruthy
    cases htruthy
  · rw [htrue, hfalse'] at htruthy
    cases htruthy
  · exact congrArg some (ih hf hf')

/-- Errors that differ in their texts give failures that differ in their texts. -/
lemma errorToFailure_sameUpToTexts {err err' : ErrorValue} {failure failure' : Failure}
    (h : (FailureConverter.mk true payloadConverter).errorToFailure err = .ok failure)
    (h' : (FailureConverter.mk true payloadConverter).errorToFailure err' = .ok failure')
    (hsame : err.SameUpToTexts err') : failure.SameUpToTexts failure' := by
  induction err generalizing err' failure failure' with
  | temporal cls message stack origin cause ih =>
    cases err' with
    | temporal cls' message' stack' origin' cause' =>
      obtain ⟨rfl, horigin, hcauses⟩ := hsame
      obtain ⟨inner, hinner, hencode⟩ := errorToFailure_eq_ok.mp h
      obtain ⟨inner', hinner', hencode'⟩ := errorToFailure_eq_ok.mp h'
      apply encodeAttributes_sameUpToTexts hencode hencode'
      cases origin with
      | some origin =>
        cases origin' with
        | none => cases horigin
        | some origin' =>
          cases hinner
          cases hinner'
          exact Option.some.inj horigin
      | none =>
        cases origin' with
        | some origin' => cases horigin
        | none =>
          obtain ⟨f, fields, hf, hfields, rfl⟩ := errorToFailureInner_temporal_eq_ok.mp hinner
          obtain ⟨f', fields', hf', hfields', rfl⟩ := errorToFailureInner_temporal_eq_ok.mp hinner'
          apply mk_sameUpToTexts (addInfo_eraseTexts (baseFields_eraseTexts _ _ _ _) hfields hfields')
          exact optional_sameUpToTexts (fun g g' => ih g g' hcauses) hcauses.truthy hf hf'
    | record _ _ _ => exact hsame.elim
    | plain _ _ => exact hsame.elim
  | record message stack cause ih =>
    cases err' with
    | record message' stack' cause' =>
      obtain ⟨inner, hinner, hencode⟩ := errorToFailure_eq_ok.mp h
      obtain ⟨inner', hinner', hencode'⟩ := errorToFailure_eq_ok.mp h'
      apply encodeAttributes_sameUpToTexts hencode hencode'
      obtain ⟨f, hf, rfl⟩ := errorToFailureInner_record_eq_ok.mp hinner
      obtain ⟨f', hf', rfl⟩ := errorToFailureInner_record_eq_ok.mp hinner'
      apply mk_sameUpToTexts (baseFields_eraseTexts _ _ _ _)
      exact optional_sameUpToTexts (fun g g' => ih g g' hsame) (ErrorValue.SameUpToTexts.truthy hsame)
        hf hf'
    | temporal _ _ _ _ _ => exact hsame.elim
    | plain _ _ => exact hsame.elim
  | plain text truthy =>
    cases err' with
    | plain text' truthy' =>
      obtain ⟨inner, hinner, hencode⟩ := errorToFailure_eq_ok.mp h
      obtain ⟨inner', hinner', hencode'⟩ := errorToFailure_eq_ok.mp h'
      apply encodeAttributes_sameUpToTexts hencode hencode'
      cases hinner
      cases hinner'
      rfl
    | temporal _ _ _ _ _ => exact hsame.elim
    | record _ _ _ => exact hsame.elim

/-! ### Payload converters that accept everything -/

def acceptingConverter : PayloadConverter where
  toPayload _ := .ok ⟨[], []⟩
  fromPayload _ := .ok .undefined

lemma detailsPayloads_accepting (details : Option (List JsValue)) :
    ∃ payloads, (FailureConverter.mk true acceptingConverter).detailsPayloads details = .ok payloads := by
  match details with
  | none => exact ⟨none, rfl⟩
  | some [] => exact ⟨none, rfl⟩
  | some (value :: values) =>
    have haccepts : ∀ x ∈ value :: values, ∃ y, acceptingConverter.toPayload x = .ok y ∧ True :=
      fun _ _ => ⟨_, rfl, trivial⟩
    obtain ⟨payloads, hpayloads, -⟩ := Pipeline.exists_mapM (R := fun _ _ => True) haccepts
    refine ⟨some ⟨some payloads⟩, ?_⟩
    simp only [detailsPayloads, PayloadConverter.toPayloads, List.length_cons, Nat.add_one_ne_zero, if_false,
      hpayloads]
    rfl

lemma addInfo_accepting (base : FailureFields) (cls : FailureClass) :
    ∃ fields, (FailureConverter.mk true acceptingConverter).addInfo base cls = .ok fields := by
  cases cls with
  | applicationFailure type nonRetryable details =>
    obtain ⟨payloads, hpayloads⟩ := detailsPayloads_accepting details
    exact ⟨_, by rw [addInfo, hpayloads]; rfl⟩
  | cancelledFailure details =>
    obtain ⟨payloads, hpayloads⟩ := detailsPayloads_accepting (some details)
    exact ⟨_, by rw [addInfo, hpayloads]; rfl⟩
  | timeoutFailure lastHeartbeatDetails timeoutType =>
    obtain ⟨payloads, hpayloads⟩ := detailsPayloads_accepting (some [lastHeartbeatDetails])
    cases htruthy : lastHeartbeatDetails.truthy with
    | true => exact ⟨_, by rw [addInfo, if_pos htruthy, hpayloads]; rfl⟩
    | false => exact ⟨_, by rw [addInfo, if_neg (by simp [htruthy])]; rfl⟩
  | activityFailure _ _ _ _ => exact ⟨_, rfl⟩
  | childWorkflowFailure _ _ _ _ => exact ⟨_, rfl⟩
  | serverFailure _ => exact ⟨_, rfl⟩
  | terminatedFailure => exact ⟨_, rfl⟩
  | temporalFailure => exact ⟨_, rfl⟩

lemma optional_accepting {cause : ErrorValue}
    (h : ∃ failure, (FailureConverter.mk true acceptingConverter).errorToFailure cause = .ok failure) :
    ∃ failure, (FailureConverter.mk true acceptingConverter).optionalErrorToOptionalFailure cause =
      .ok failure := by
  obtain ⟨failure, hfailure⟩ := h
  cases htruthy : cause.truthy with
  | true => exact ⟨_, optionalErrorToOptionalFailure_eq_ok.mpr (.inr ⟨htruthy, failure, hfailure, rfl⟩)⟩
  | false => exact ⟨_, optionalErrorToOptionalFailure_eq_ok.mpr (.inl ⟨htruthy, rfl⟩)⟩

lemma errorToFailure_accepting (err : ErrorValue) :
    ∃ failure, (FailureConverter.mk true acceptingConverter).errorToFailure err = .ok failure := by
  induction err with
  | temporal cls message stack origin cause ih =>
    cases origin with
    | some origin => exact ⟨_, rfl⟩
    | none =>
      obtain ⟨causeFailure, hcause⟩ := optional_accepting ih
      obtain ⟨fields, hfields⟩ := addInfo_accepting (baseFields message (cutoffStackTrace stack)) cls
      exact ⟨_, errorToFailure_eq_ok.mpr
        ⟨_, errorToFailureInner_temporal_eq_ok.mpr ⟨_, _, hcause, hfields, rfl⟩, rfl⟩⟩
  | record message stack cause ih =>
    obtain ⟨causeFailure, hcause⟩ := optional_accepting ih
    exact ⟨_, errorToFailure_eq_ok.mpr ⟨_, errorToFailureInner_record_eq_ok.mpr ⟨_, hcause, rfl⟩, rfl⟩⟩
  | plain text truthy => exact ⟨_, rfl⟩

/-! ### What is hidden -/

/-- Whatever payload converter is used, every node of the failure has its texts replaced by encoded attributes, and
errors that differ in their texts give objects that differ inside encoded attributes only, if the second one is
hidden as well. -/
def HidesTexts (err : ErrorValue) : Prop :=
  ∀ payloadConverter object,
    (FailureConverter.mk true payloadConverter).errorToReturnedFailure err = .ok object →
      object.failure.Hidden ∧
      ∀ err' object', (FailureConverter.mk true payloadConverter).errorToReturnedFailure err' = .ok object' →
        err.SameUpToTexts err' → object'.failure.Hidden → object.SameUpToAttributes object'

lemma errorToReturnedFailure_eq_ok {err : ErrorValue} {object : ReturnedFailure} :
    c.errorToReturnedFailure err = .ok object ↔
      c.errorToFailure err = .ok object.failure ∧ object.infoCauses = err.infoCauses := by
  obtain ⟨failure, infoCauses⟩ := object
  unfold errorToReturnedFailure
  cases c.errorToFailure err with
  | error e => exact iff_of_false (fun h => by cases h) fun h => by cases h.1
  | ok failure' =>
    constructor
    · intro h
      cases h
      exact ⟨rfl, rfl⟩
    · rintro ⟨h, rfl⟩
      cases h
      rfl

/-- The texts of an error are hidden exactly when the causes of the first failure that an error of the chain was made
from are, and no error before it has a cause that is copied into a failure info. -/
theorem errorToFailure_hides_iff (err : ErrorValue) :
    HidesTexts err ↔ err.CachedCausesHidden ∧ err.NoCauseSpread := by
  constructor
  · intro h
    obtain ⟨failure, hfailure⟩ := errorToFailure_accepting err
    obtain ⟨hhidden, hsame⟩ :=
      h acceptingConverter ⟨failure, err.infoCauses⟩ (errorToReturnedFailure_eq_ok.mpr ⟨hfailure, rfl⟩)
    have hcached := (errorToFailure_hidden_iff hfailure).mp hhidden
    refine ⟨hcached, ?_⟩
    by_contra hspread
    obtain ⟨failure', hfailure'⟩ := errorToFailure_accepting err.renamed
    have hhidden' := (errorToFailure_hidden_iff hfailure').mpr (err.cachedCausesHidden_renamed.mpr hcached)
    have hobjects := hsame err.renamed ⟨failure', err.renamed.infoCauses⟩
      (errorToReturnedFailure_eq_ok.mpr ⟨hfailure', rfl⟩) err.sameUpToTexts_renamed hhidden'
    exact ErrorValue.infoCauses_renamed_ne hspread hobjects.2
  · rintro ⟨hcached, hspread⟩ payloadConverter object hobject
    obtain ⟨hfailure, hcauses⟩ := errorToReturnedFailure_eq_ok.mp hobject
    have hhidden := (errorToFailure_hidden_iff hfailure).mpr hcached
    refine ⟨hhidden, fun err' object' hobject' hsame hhidden' => ?_⟩
    obtain ⟨hfailure', hcauses'⟩ := errorToReturnedFailure_eq_ok.mp hobject'
    refine ⟨(errorToFailure_sameUpToTexts hfailure hfailure' hsame).attributes hhidden hhidden', ?_⟩
    rw [hcauses, hcauses', hsame.infoCauses_eq hspread]

/-- The texts of an application failure and of its cause are hidden; those of what made an activity fail are not. -/
theorem errorToFailure_hides_iff_failedActivity :
    HidesTexts (.temporal (.applicationFailure none none none) "boom" none none
        (.record "secret" "Error: secret" .undefined)) ∧ ¬HidesTexts failedActivity := by
  refine ⟨(errorToFailure_hides_iff _).mpr ⟨trivial, by simp [FailureClass.spreadsError], trivial⟩, fun h => ?_⟩
  exact absurd (((errorToFailure_hides_iff failedActivity).mp h).2.1 rfl) (by decide)

/-- A failure without encoded attributes whose cause has a message -/
def plainFailure : Failure :=
  .caused { FailureFields.empty with message := some "outer", stackTrace := some "" }
    (.leaf { FailureFields.empty with message := some "secret", stackTrace := some "" })

/-- The error made from a failure without encoded attributes is turned into a failure whose cause
still has its message. -/
theorem errorToFailure_hides_counterexample :
    ∃ err attributes, (FailureConverter.mk true jsonConverter).failureToError plainFailure = .ok err ∧
      (FailureConverter.mk true jsonConverter).errorToFailure err =
        .ok (plainFailure.modify (FailureFields.withEncoded attributes)) ∧
      ¬ (plainFailure.modify (FailureFields.withEncoded attributes)).Hidden := by
  let cause := Failure.leaf { FailureFields.empty with message := some "secret", stackTrace := some "" }
  let attributes := jsonPayload "\x7b\"message\":\"outer\",\"stack_trace\":\"\"\x7d"
  refine ⟨.temporal .temporalFailure "outer" (some "") (some plainFailure)
    (.temporal .temporalFailure "secret" (some "") (some cause) .undefined), attributes, rfl, rfl, ?_⟩
  intro h
  simp [Failure.Hidden, Failure.modify, plainFailure, FailureFields.Hidden] at h

end FailureConverter

end TemporalSdk
