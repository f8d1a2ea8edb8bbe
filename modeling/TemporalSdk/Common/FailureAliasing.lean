import TemporalSdk.Common.FailureRoundTrip

/-!
# Failures as objects

`DefaultFailureConverter` on failures as objects of a heap: an error refers to the failure that it was
made from, `errorToFailure` returns that very object, and overwrites fields of what it returns. Read as
trees, the results are those of the failure converter on values.
-/

namespace TemporalSdk

/-- A proto failure; its cause is an object of its own. -/
structure FailureObject where
  fields : FailureFields
  cause : Option ℕ
deriving DecidableEq

/-- The failures, each at its address -/
abbrev FailureHeap := List FailureObject

/-- The tree that a failure is the root of -/
inductive FailureHeap.Reads (heap : FailureHeap) : ℕ → Failure → Prop
  | leaf {a : ℕ} {fields : FailureFields} (h : heap[a]? = some ⟨fields, none⟩) :
    Reads heap a (.leaf fields)
  | caused {a b : ℕ} {fields : FailureFields} {cause : Failure} (h : heap[a]? = some ⟨fields, some b⟩)
    (hcause : Reads heap b cause) : Reads heap a (.caused fields cause)

/-- Thrown values, as `ErrorValue`, an error referring to the failure that it was made from -/
inductive ErrorObject
  | temporal (cls : FailureClass) (message : String) (stack : Option String) (failure : Option ℕ)
      (cause : ErrorObject)
  | record (message stack : String) (cause : ErrorObject)
  | plain (text : String) (truthy : Bool)

namespace ErrorObject

def truthy : ErrorObject → Bool
  | temporal _ _ _ _ _ => true
  | record _ _ _ => true
  | plain _ truthy => truthy

/-- The failures that the error and its causes refer to -/
def failures : ErrorObject → List ℕ
  | temporal _ _ _ failure cause => failure.toList ++ cause.failures
  | record _ _ cause => cause.failures
  | plain _ _ => []

/-- The first of them on the way through the causes that are converted -/
def cached : ErrorObject → Option ℕ
  | temporal _ _ _ (some failure) _ => some failure
  | temporal _ _ _ none cause => if cause.truthy then cause.cached else none
  | record _ _ cause => if cause.truthy then cause.cached else none
  | plain _ _ => none

/-- The error as a value, its failures read as trees -/
inductive Resolves (heap : FailureHeap) : ErrorObject → ErrorValue → Prop
  | cached {cls : FailureClass} {message : String} {stack : Option String} {a : ℕ} {failure : Failure}
    {cause : ErrorObject} {value : ErrorValue} (hreads : heap.Reads a failure)
    (hcause : Resolves heap cause value) :
    Resolves heap (.temporal cls message stack (some a) cause)
      (.temporal cls message stack (some failure) value)
  | temporal {cls : FailureClass} {message : String} {stack : Option String} {cause : ErrorObject}
    {value : ErrorValue} (hcause : Resolves heap cause value) :
    Resolves heap (.temporal cls message stack none cause) (.temporal cls message stack none value)
  | record {message stack : String} {cause : ErrorObject} {value : ErrorValue}
    (hcause : Resolves heap cause value) :
    Resolves heap (.record message stack cause) (.record message stack value)
  | plain (text : String) (truthy : Bool) : Resolves heap (.plain text truthy) (.plain text truthy)

end ErrorObject

namespace FailureConverter

variable (c : FailureConverter)

/-- The failure after its common attributes have been encoded; where they cannot be, the message and the
stack trace are gone all the same. -/
def encodedObject (object : FailureObject) : FailureObject :=
  match c.payloadConverter.toPayload (commonAttributes object.fields.message object.fields.stackTrace) with
  | .ok encodedAttributes => { object with fields := object.fields.withEncoded encodedAttributes }
  | .error _ =>
    { object with fields := { object.fields with message := some "Encoded failure", stackTrace := some "" } }

/-- What `errorToFailure` does to the failure from `errorToFailureInner` -/
def encodeObject (heap : FailureHeap) (a : ℕ) : Except JsError ℕ × FailureHeap :=
  if c.encodeCommonAttributes then
    match heap[a]? with
    | none => (.ok a, heap)
    | some object =>
      ((c.payloadConverter.toPayload
          (commonAttributes object.fields.message object.fields.stackTrace)).map fun _ => a,
        heap.set a (c.encodedObject object))
  else (.ok a, heap)

def encodeResult : Except JsError ℕ × FailureHeap → Except JsError ℕ × FailureHeap
  | (.error e, heap) => (.error e, heap)
  | (.ok a, heap) => c.encodeObject heap a

/-- A new failure with the fields, once these are there -/
def newFailure (heap : FailureHeap) (fields : Except JsError FailureFields) (cause : Option ℕ) :
    Except JsError ℕ × FailureHeap :=
  match fields with
  | .error e => (.error e, heap)
  | .ok fields => (.ok heap.length, heap ++ [⟨fields, cause⟩])

/-- A new failure whose cause has been converted -/
def newCaused (fields : Except JsError FailureFields) :
    Except JsError ℕ × FailureHeap → Except JsError ℕ × FailureHeap
  | (.error e, heap) => (.error e, heap)
  | (.ok a, heap) => newFailure heap fields (some a)

/-- `errorToFailureInner`, with the failures that there are before and after -/
def heapErrorToFailureInner (heap : FailureHeap) : ErrorObject → Except JsError ℕ × FailureHeap
  | .temporal _ _ _ (some failure) _ => (.ok failure, heap)
  | .temporal cls message stack none cause =>
    let fields := c.addInfo (baseFields message (cutoffStackTrace stack)) cls
    if cause.truthy then newCaused fields (c.encodeResult (heapErrorToFailureInner heap cause))
    else newFailure heap fields none
  | .record message stack cause =>
    let fields := .ok (baseFields message (cutoffStackTrace (some stack)))
    if cause.truthy then newCaused fields (c.encodeResult (heapErrorToFailureInner heap cause))
    else newFailure heap fields none
  | .plain text _ =>
    newFailure heap (.ok { FailureFields.empty with
      source := some failureSource
      message := some (text ++ recommendation) }) none

/-- `errorToFailure` -/
def heapErrorToFailure (heap : FailureHeap) (err : ErrorObject) : Except JsError ℕ × FailureHeap :=
  c.encodeResult (c.heapErrorToFailureInner heap err)

end FailureConverter

/-! ### Reading failures -/

namespace FailureHeap

variable {heap heap' : FailureHeap} {a : ℕ}

lemma Reads.unique {t t' : Failure} (h : heap.Reads a t) (h' : heap.Reads a t') : t = t' := by
  induction h generalizing t' with
  | leaf hobject =>
    cases h' with
    | leaf hobject' =>
      rw [hobject] at hobject'
      cases hobject'
      rfl
    | caused hobject' =>
      rw [hobject] at hobject'
      cases hobject'
  | caused hobject _ ih =>
    cases h' with
    | leaf hobject' =>
      rw [hobject] at hobject'
      cases hobject'
    | caused hobject' hcause' =>
      rw [hobject] at hobject'
      cases hobject'
      rw [ih hcause']

/-- New failures do not change the trees of those that are there. -/
lemma Reads.mono {t : Failure} (h : heap.Reads a t) (hpre : heap <+: heap') : heap'.Reads a t := by
  obtain ⟨added, rfl⟩ := hpre
  have hkeep : ∀ {a : ℕ} {object : FailureObject}, heap[a]? = some object →
      (heap ++ added)[a]? = some object := by
    intro a object hobject
    rw [List.getElem?_append_left (List.getElem?_eq_some_iff.mp hobject).1]
    exact hobject
  induction h with
  | leaf hobject => exact .leaf (hkeep hobject)
  | caused hobject _ ih => exact .caused (hkeep hobject) ih

/-- Failures whose causes were made before them are trees. -/
lemma exists_reads (hordered : ∀ (a : ℕ) object, heap[a]? = some object → ∀ b ∈ object.cause, b < a)
    (ha : a < heap.length) : ∃ t, heap.Reads a t := by
  induction a using Nat.strong_induction_on with
  | _ a ih =>
    obtain ⟨⟨fields, cause⟩, hobject⟩ : ∃ object, heap[a]? = some object :=
      ⟨_, List.getElem?_eq_getElem ha⟩
    cases cause with
    | none => exact ⟨_, .leaf hobject⟩
    | some b =>
      have hlt := hordered a _ hobject b rfl
      obtain ⟨t, ht⟩ := ih b hlt (by omega)
      exact ⟨_, .caused hobject ht⟩

end FailureHeap

namespace ErrorObject

variable {heap heap' : FailureHeap} {err : ErrorObject} {value : ErrorValue}

lemma Resolves.mono (h : Resolves heap err value) (hpre : heap <+: heap') :
    Resolves heap' err value := by
  induction h with
  | cached hreads _ ih => exact .cached (hreads.mono hpre) ih
  | temporal _ ih => exact .temporal ih
  | record _ ih => exact .record ih
  | plain text truthy => exact .plain text truthy

lemma Resolves.truthy (h : Resolves heap err value) : value.truthy = err.truthy := by
  cases h <;> rfl

lemma exists_resolves (hordered : ∀ (a : ℕ) object, heap[a]? = some object → ∀ b ∈ object.cause, b < a)
    (hwithin : ∀ a ∈ err.failures, a < heap.length) : ∃ value, Resolves heap err value := by
  induction err with
  | temporal cls message stack failure cause ih =>
    obtain ⟨value, hvalue⟩ := ih fun a ha => hwithin a (by simp [failures, ha])
    cases failure with
    | none => exact ⟨_, .temporal hvalue⟩
    | some a =>
      obtain ⟨t, ht⟩ := FailureHeap.exists_reads hordered (hwithin a (by simp [failures]))
      exact ⟨_, .cached ht hvalue⟩
  | record message stack cause ih =>
    obtain ⟨value, hvalue⟩ := ih fun a ha => hwithin a ha
    exact ⟨_, .record hvalue⟩
  | plain text truthy => exact ⟨_, .plain text truthy⟩

end ErrorObject

/-! ### What is overwritten -/

namespace FailureConverter

variable {c : FailureConverter} {heap heap' : FailureHeap} {err : ErrorObject}

/-- The failures once the one that the error refers to has been overwritten -/
def overwritten (c : FailureConverter) (heap : FailureHeap) (err : ErrorObject) : FailureHeap :=
  match err.cached with
  | some a => (c.encodeObject heap a).2
  | none => heap

lemma prefix_encodeObject {a : ℕ} (hpre : heap <+: heap') (ha : heap.length ≤ a) :
    heap <+: (c.encodeObject heap' a).2 := by
  obtain ⟨added, rfl⟩ := hpre
  unfold encodeObject
  split_ifs
  · cases (heap ++ added)[a]? with
    | none => exact List.prefix_append _ _
    | some object =>
      simp only [List.set_append_right _ _ ha]
      exact List.prefix_append _ _
  · exact List.prefix_append _ _

lemma prefix_newFailure (hpre : heap <+: heap') {fields : Except JsError FailureFields}
    {cause : Option ℕ} : heap <+: (c.encodeResult (newFailure heap' fields cause)).2 := by
  cases fields with
  | error e => exact hpre
  | ok fields => exact prefix_encodeObject (hpre.trans (List.prefix_append _ _)) hpre.length_le

lemma prefix_newCaused {fields : Except JsError FailureFields} {r : Except JsError ℕ × FailureHeap}
    (hpre : heap <+: r.2) : heap <+: (c.encodeResult (newCaused fields r)).2 := by
  rcases r with ⟨e | a, heap'⟩
  · exact hpre
  · exact prefix_newFailure hpre

variable (c heap err) in
/-- Apart from the failure that the error refers to, only new failures are written. -/
lemma overwritten_prefix : c.overwritten heap err <+: (c.heapErrorToFailure heap err).2 := by
  induction err with
  | temporal cls message stack failure cause ih =>
    cases failure with
    | some a => exact List.prefix_rfl
    | none =>
      unfold overwritten heapErrorToFailure heapErrorToFailureInner ErrorObject.cached
      split_ifs
      · exact prefix_newCaused ih
      · exact prefix_newFailure List.prefix_rfl
  | record message stack cause ih =>
    unfold overwritten heapErrorToFailure heapErrorToFailureInner ErrorObject.cached
    split_ifs
    · exact prefix_newCaused ih
    · exact prefix_newFailure List.prefix_rfl
  | plain text truthy => exact prefix_newFailure List.prefix_rfl

/-! ### The results as trees -/

/-- The result on the heap is the result on values. -/
def Matches : Except JsError ℕ × FailureHeap → Except JsError Failure → Prop
  | (.ok a, heap), .ok t => heap.Reads a t
  | (.error e, _), .error e' => e = e'
  | _, _ => False

lemma reads_new {fields : FailureFields} {cause : Option ℕ} {tree : Option Failure}
    (htree : Option.Rel heap.Reads cause tree) :
    FailureHeap.Reads (heap ++ [⟨fields, cause⟩]) heap.length (.mk fields tree) := by
  have hnew : (heap ++ [⟨fields, cause⟩])[heap.length]? = some ⟨fields, cause⟩ := by simp
  cases htree with
  | none => exact .leaf hnew
  | some hreads => exact .caused hnew (hreads.mono (List.prefix_append _ _))

/-- A new failure is encoded as its tree is. -/
lemma matches_newFailure {fields : Except JsError FailureFields} {cause : Option ℕ}
    {tree : Option Failure} (htree : Option.Rel heap.Reads cause tree) :
    Matches (c.encodeResult (newFailure heap fields cause))
      (fields >>= fun fields => c.encodeAttributes (.mk fields tree)) := by
  cases fields with
  | error e => rfl
  | ok fields =>
    have hnew : (heap ++ [⟨fields, cause⟩])[heap.length]? = some ⟨fields, cause⟩ := by simp
    change Matches (c.encodeObject (heap ++ [⟨fields, cause⟩]) heap.length)
      (c.encodeAttributes (.mk fields tree))
    unfold encodeObject encodeAttributes
    by_cases hencode : c.encodeCommonAttributes = true
    · rw [if_pos hencode, if_pos hencode, hnew, Failure.fields_mk]
      cases hpayload : c.payloadConverter.toPayload
        (commonAttributes fields.message fields.stackTrace) with
      | error e => simp only [hpayload]; rfl
      | ok encodedAttributes =>
        have hmodify : (Failure.mk fields tree).modify (FailureFields.withEncoded encodedAttributes) =
            .mk (fields.withEncoded encodedAttributes) tree := by
          cases tree <;> rfl
        have hset : (heap ++ [(⟨fields, cause⟩ : FailureObject)]).set heap.length
              (c.encodedObject ⟨fields, cause⟩) =
            heap ++ [⟨fields.withEncoded encodedAttributes, cause⟩] := by
          simp [encodedObject, hpayload]
        simp only [hpayload]
        change FailureHeap.Reads ((heap ++ [(⟨fields, cause⟩ : FailureObject)]).set heap.length
          (c.encodedObject ⟨fields, cause⟩)) heap.length ((Failure.mk fields tree).modify _)
        rw [hmodify, hset]
        exact reads_new htree
    · rw [if_neg hencode, if_neg hencode]
      exact reads_new htree

lemma matches_newCaused {fields : Except JsError FailureFields} {r : Except JsError ℕ × FailureHeap}
    {converted : Except JsError Failure} (hr : Matches r converted) :
    Matches (c.encodeResult (newCaused fields r))
      (do
        let cause ← converted
        let fields ← fields
        c.encodeAttributes (.mk fields (some cause))) := by
  rcases r with ⟨e | a, heap⟩
  · cases converted with
    | error e' => exact hr
    | ok cause => exact hr.elim
  · cases converted with
    | error e' => exact hr.elim
    | ok cause => exact matches_newFailure (.some hr)

/-- The failure that the error refers to is left as it is: common attributes are not encoded, no failure
is referred to, or its attributes are what they would be encoded as. -/
def Unaffected (c : FailureConverter) (heap : FailureHeap) (err : ErrorObject) : Prop :=
  c.encodeCommonAttributes = false ∨
    ∀ a ∈ err.cached, ∀ object, heap[a]? = some object →
      object.fields.message = some "Encoded failure" ∧ object.fields.stackTrace = some "" ∧
        ∀ payload, c.payloadConverter.toPayload
            (commonAttributes (some "Encoded failure") (some "")) = .ok payload →
          object.fields.encodedAttributes = some payload

lemma overwritten_of_unaffected (h : c.Unaffected heap err) : c.overwritten heap err = heap := by
  unfold overwritten
  cases hcached : err.cached with
  | none => rfl
  | some a =>
    simp only [encodeObject]
    split_ifs with hencode
    · cases hobject : heap[a]? with
      | none => rfl
      | some object =>
        obtain ⟨hmessage, hstack, hattributes⟩ :=
          (h.resolve_left (by simp [hencode])) a hcached object hobject
        have hsame : c.encodedObject object = object := by
          unfold encodedObject
          rw [hmessage, hstack]
          rcases object with ⟨fields, cause⟩
          cases hpayload : c.payloadConverter.toPayload
            (commonAttributes (some "Encoded failure") (some "")) with
          | error e => simp only [← hmessage, ← hstack]
          | ok payload =>
            simp only [FailureFields.withEncoded, ← hmessage, ← hstack, ← hattributes payload hpayload]
        obtain ⟨ha, rfl⟩ := List.getElem?_eq_some_iff.mp hobject
        simp only [hsame]
        exact List.set_getElem_self ha
    · rfl

lemma errorToFailure_temporal {cls : FailureClass} {message : String} {stack : Option String}
    {cause : ErrorValue} :
    c.errorToFailure (.temporal cls message stack none cause) =
      if cause.truthy then do
        let cause ← c.errorToFailure cause
        let fields ← c.addInfo (baseFields message (cutoffStackTrace stack)) cls
        c.encodeAttributes (.mk fields (some cause))
      else c.addInfo (baseFields message (cutoffStackTrace stack)) cls >>= fun fields =>
        c.encodeAttributes (.mk fields none) := by
  unfold errorToFailure
  rw [errorToFailureInner]
  split_ifs
  · cases c.errorToFailureInner cause with
    | error e => rfl
    | ok failure =>
      simp only [bind, Except.bind]
      cases c.encodeAttributes failure with
      | error e => rfl
      | ok encoded => cases c.addInfo (baseFields message (cutoffStackTrace stack)) cls <;> rfl
  · cases c.addInfo (baseFields message (cutoffStackTrace stack)) cls <;> rfl

lemma errorToFailure_record {message stack : String} {cause : ErrorValue} :
    c.errorToFailure (.record message stack cause) =
      if cause.truthy then do
        let cause ← c.errorToFailure cause
        let fields ← Except.ok (baseFields message (cutoffStackTrace (some stack)))
        c.encodeAttributes (.mk fields (some cause))
      else c.encodeAttributes (.mk (baseFields message (cutoffStackTrace (some stack))) none) := by
  unfold errorToFailure
  rw [errorToFailureInner]
  split_ifs
  · cases c.errorToFailureInner cause with
    | error e => rfl
    | ok failure =>
      simp only [bind, Except.bind]
      cases c.encodeAttributes failure <;> rfl
  · rfl

/-- A failure that is left as it is is encoded as its tree is. -/
lemma matches_cached {cls : FailureClass} {message : String} {stack : Option String} {a : ℕ}
    {cause : ErrorObject} {failure : Failure}
    (h : c.Unaffected heap (.temporal cls message stack (some a) cause)) (hreads : heap.Reads a failure) :
    Matches (c.encodeObject heap a) (c.encodeAttributes failure) := by
  have hsame : (c.encodeObject heap a).2 = heap := overwritten_of_unaffected h
  obtain ⟨cause', hobject⟩ : ∃ cause', heap[a]? = some ⟨failure.fields, cause'⟩ := by
    cases hreads with
    | leaf hobject => exact ⟨none, hobject⟩
    | caused hobject _ => exact ⟨_, hobject⟩
  unfold encodeObject encodeAttributes at *
  by_cases hencode : c.encodeCommonAttributes = true
  · rw [if_pos hencode] at hsame ⊢
    rw [if_pos hencode]
    rw [hobject] at hsame ⊢
    obtain ⟨hmessage, hstack, hattributes⟩ :=
      (h.resolve_left (by simp [hencode])) a rfl ⟨failure.fields, cause'⟩ hobject
    simp only at hmessage hstack hattributes hsame ⊢
    rw [hsame, hmessage, hstack]
    cases hpayload : c.payloadConverter.toPayload
      (commonAttributes (some "Encoded failure") (some "")) with
    | error e => rfl
    | ok payload =>
      have hmodify : failure.modify (FailureFields.withEncoded payload) = failure := by
        have hfields : failure.fields.withEncoded payload = failure.fields := by
          unfold FailureFields.withEncoded
          rw [← hmessage, ← hstack, ← hattributes payload hpayload]
        cases failure with
        | leaf fields => exact congrArg Failure.leaf hfields
        | caused fields cause => exact congrArg (Failure.caused · cause) hfields
      change heap.Reads a (failure.modify (FailureFields.withEncoded payload))
      rw [hmodify]
      exact hreads
  · rw [if_neg hencode, if_neg hencode]
    exact hreads

/-- Where nothing is overwritten, the objects that `errorToFailure` returns are the failures that it returns
on values. -/
lemma matches_errorToFailure {value : ErrorValue} (h : c.Unaffected heap err)
    (hresolves : err.Resolves heap value) :
    Matches (c.heapErrorToFailure heap err) (c.errorToFailure value) := by
  induction hresolves with
  | cached hreads _ _ => exact matches_cached h hreads
  | temporal hcause ih =>
    rw [errorToFailure_temporal, hcause.truthy]
    unfold heapErrorToFailure heapErrorToFailureInner
    split_ifs with htruthy
    · refine matches_newCaused (ih ?_)
      unfold Unaffected ErrorObject.cached at h
      rw [if_pos htruthy] at h
      exact h
    · exact matches_newFailure .none
  | record hcause ih =>
    rw [errorToFailure_record, hcause.truthy]
    unfold heapErrorToFailure heapErrorToFailureInner
    split_ifs with htruthy
    · refine matches_newCaused (ih ?_)
      unfold Unaffected ErrorObject.cached at h
      rw [if_pos htruthy] at h
      exact h
    · exact matches_newFailure .none
  | plain text truthy => exact matches_newFailure .none

end FailureConverter

/-! ### Two calls -/

/-- The message and the stack of an error, and of each of its causes -/
def ErrorValue.texts : ErrorValue → List (String × Option String)
  | temporal _ message stack _ cause => (message, stack) :: cause.texts
  | record message stack cause => (message, some stack) :: cause.texts
  | plain text _ => [(text, none)]

/-- An error with the failures that it refers to; each failure was made after its cause. -/
structure ErrorInHeap where
  heap : FailureHeap
  err : ErrorObject
  ordered : ∀ (a : ℕ) object, heap[a]? = some object → ∀ b ∈ object.cause, b < a
  within : ∀ a ∈ err.failures, a < heap.length

namespace FailureConverter

variable {c : FailureConverter} {heap : FailureHeap} {err : ErrorObject}

/-- `errorToFailure` leaves the failures that there are unchanged, and the failures that it returns when
called twice are decoded to the same messages and stacks. -/
structure Repeatable (c : FailureConverter) (heap : FailureHeap) (err : ErrorObject) : Prop where
  unchanged : ∀ a < heap.length, (c.heapErrorToFailure heap err).2[a]? = heap[a]?
  repeated : ∀ a b t u, (c.heapErrorToFailure heap err).1 = .ok a →
    (c.heapErrorToFailure heap err).2.Reads a t →
    (c.heapErrorToFailure (c.heapErrorToFailure heap err).2 err).1 = .ok b →
    (c.heapErrorToFailure (c.heapErrorToFailure heap err).2 err).2.Reads b u →
    (c.failureToError t).map ErrorValue.texts = (c.failureToError u).map ErrorValue.texts

lemma mem_failures_of_cached {err : ErrorObject} {a : ℕ} (h : err.cached = some a) : a ∈ err.failures := by
  induction err with
  | temporal cls message stack failure cause ih =>
    cases failure with
    | some b =>
      obtain rfl := Option.some.inj h
      simp [ErrorObject.failures]
    | none =>
      unfold ErrorObject.cached at h
      split_ifs at h
      simpa [ErrorObject.failures] using ih h
  | record message stack cause ih =>
    unfold ErrorObject.cached at h
    split_ifs at h
    exact ih h
  | plain text truthy => cases h

lemma unchanged_of_unaffected (h : c.Unaffected heap err) {a : ℕ} (ha : a < heap.length) :
    (c.heapErrorToFailure heap err).2[a]? = heap[a]? := by
  have hpre := overwritten_prefix c heap err
  rw [overwritten_of_unaffected h] at hpre
  obtain ⟨added, hadded⟩ := hpre
  rw [← hadded, List.getElem?_append_left ha]

/-- A call leaves the failure of the error as it is for the next call. -/
lemma unaffected_again (hwithin : ∀ a ∈ err.failures, a < heap.length) (h : c.Unaffected heap err) :
    c.Unaffected (c.heapErrorToFailure heap err).2 err := by
  rcases hencode : c.encodeCommonAttributes with _ | _
  · exact .inl hencode
  · refine .inr fun a ha object hobject => ?_
    rw [unchanged_of_unaffected h (hwithin a (mem_failures_of_cached ha))] at hobject
    exact (h.resolve_left (by simp [hencode])) a ha object hobject

lemma ok_of_matches {r : Except JsError ℕ × FailureHeap} {converted : Except JsError Failure} {a : ℕ}
    {t : Failure} (h : Matches r converted) (hok : r.1 = .ok a) (hreads : r.2.Reads a t) :
    converted = .ok t := by
  rcases r with ⟨e | b, heap⟩
  · cases hok
  · obtain rfl := Except.ok.inj hok
    cases converted with
    | error e => exact h.elim
    | ok u => exact congrArg Except.ok (FailureHeap.Reads.unique h hreads)

/-- An overwritten failure that is still as it was had its attributes encoded. -/
lemma unaffected_of_unchanged (hwithin : ∀ a ∈ err.failures, a < heap.length)
    (h : ∀ a < heap.length, (c.heapErrorToFailure heap err).2[a]? = heap[a]?) :
    c.Unaffected heap err := by
  rcases hencode : c.encodeCommonAttributes with _ | _
  · exact .inl hencode
  · refine .inr fun a ha object hobject => ?_
    have hlt := hwithin a (mem_failures_of_cached ha)
    have hcached : err.cached = some a := ha
    have hpre := overwritten_prefix c heap err
    have hwritten : c.overwritten heap err = heap.set a (c.encodedObject object) := by
      unfold overwritten encodeObject
      simp only [hcached, hencode, if_true, hobject]
    obtain ⟨added, hadded⟩ := hpre
    have hsame : c.encodedObject object = object := by
      have hat := h a hlt
      rw [← hadded, hwritten, List.getElem?_append_left (by simpa using hlt),
        List.getElem?_set_self hlt, hobject] at hat
      exact Option.some.inj hat
    unfold encodedObject at hsame
    cases hpayload : c.payloadConverter.toPayload
      (commonAttributes object.fields.message object.fields.stackTrace) with
    | error e =>
      rw [hpayload] at hsame
      have hfields := congrArg FailureObject.fields hsame
      have hmessage : some "Encoded failure" = object.fields.message := congrArg FailureFields.message hfields
      have hstack : some "" = object.fields.stackTrace := congrArg FailureFields.stackTrace hfields
      refine ⟨hmessage.symm, hstack.symm, fun payload hok => ?_⟩
      rw [hmessage, hstack, hpayload] at hok
      cases hok
    | ok encodedAttributes =>
      rw [hpayload] at hsame
      have hfields := congrArg FailureObject.fields hsame
      have hmessage : some "Encoded failure" = object.fields.message := congrArg FailureFields.message hfields
      have hstack : some "" = object.fields.stackTrace := congrArg FailureFields.stackTrace hfields
      have hattributes : some encodedAttributes = object.fields.encodedAttributes :=
        congrArg FailureFields.encodedAttributes hfields
      refine ⟨hmessage.symm, hstack.symm, fun payload hok => ?_⟩
      rw [hmessage, hstack, hpayload] at hok
      rw [← hattributes, Except.ok.inj hok]

/-- `errorToFailure` is repeatable exactly where it does not overwrite the failure that the error, or the
first of its causes that has one, was made from. -/
theorem repeatable_iff (s : ErrorInHeap) : c.Repeatable s.heap s.err ↔ c.Unaffected s.heap s.err := by
  constructor
  · intro h
    exact unaffected_of_unchanged s.within h.unchanged
  · intro h
    obtain ⟨value, hvalue⟩ := ErrorObject.exists_resolves s.ordered s.within
    refine ⟨fun a ha => unchanged_of_unaffected h ha, fun a b t u ha ht hb hu => ?_⟩
    have hpre := overwritten_prefix c s.heap s.err
    rw [overwritten_of_unaffected h] at hpre
    have hfirst := ok_of_matches (matches_errorToFailure h hvalue) ha ht
    have hsecond := ok_of_matches
      (matches_errorToFailure (unaffected_again s.within h) (hvalue.mono hpre)) hb hu
    rw [hfirst] at hsecond
    obtain rfl := Except.ok.inj hsecond
    rfl

/-- An error that was made from a failure, to which it refers -/
def decodedError : ErrorInHeap where
  heap := [⟨{ FailureFields.empty with message := some "boom", stackTrace := some "" }, none⟩]
  err := .temporal .temporalFailure "boom" (some "") (some 0) (.plain "undefined" false)
  ordered := by
    intro a object h b hb
    cases a with
    | zero =>
      obtain rfl := Option.some.inj h
      cases hb
    | succ a => cases h
  within := by decide

/-- When its common attributes are encoded, its failure becomes the encoded one. -/
theorem not_forall_repeatable :
    ¬∀ (c : FailureConverter) (s : ErrorInHeap), c.Repeatable s.heap s.err := by
  intro hall
  have hunchanged := (hall ⟨true, jsonConverter⟩ decodedError).unchanged 0 (by decide)
  have hmessage := congrArg (Option.map fun object => object.fields.message) hunchanged
  exact absurd hmessage (by decide)

end FailureConverter

end TemporalSdk
