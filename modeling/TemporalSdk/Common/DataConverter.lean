import TemporalSdk.Common.FailureRoundTrip

/-!
# Arrays and maps of values

The helpers that take arrays and maps of values through the payload converter and the codecs, and
the converter of search attributes, which are never coded.
-/

namespace TemporalSdk

namespace LoadedDataConverter

variable (converter : LoadedDataConverter)

def payloadConverter : PayloadConverter := converter.failureConverter.payloadConverter

def encodeToPayloads (values : List JsValue) : Except JsError (Option (List Payload)) := do
  let payloads ← converter.payloadConverter.toPayloads values
  payloads.mapM (encode converter.payloadCodecs)

/-- A payload of a map is coded alone; without a payload that comes back there is nothing to read
or to send. -/
def codeEntry (code : List Payload → Except JsError (List Payload)) (payload : Payload) :
    Except JsError Payload := do
  match ← codeSingle code payload with
  | some payload => .ok payload
  | none => .error (.typeError "Cannot read properties of undefined (reading 'metadata')")

def decodeMapFromPayloads (map : Option (PayloadRecord Payload)) :
    Except JsError (Option (PayloadRecord JsValue)) :=
  map.mapM fun map => map.mapM fun (k, payload) => do
    let decodedPayload ← codeEntry (decode converter.payloadCodecs) payload
    let value ← converter.payloadConverter.fromPayload decodedPayload
    return (k, value)

def encodeMapToPayloads (map : PayloadRecord JsValue) : Except JsError (PayloadRecord Payload) :=
  map.mapM fun (k, v) => do
    let payload ← converter.payloadConverter.toPayload v
    let encodedPayload ← codeEntry (encode converter.payloadCodecs) payload
    return (k, encodedPayload)

/-- The codecs give every list of payloads back, and map one-payload lists to such lists. -/
def CodecsRoundTrip : Prop :=
  ∀ codec ∈ converter.payloadCodecs, codec.RoundTrips ∧ codec.EncodesSingles

variable {converter}

lemma encodeToPayloads_roundTrip (hcodecs : converter.CodecsRoundTrip) {values : List JsValue}
    (h : ∀ value ∈ values, converter.payloadConverter.RoundTrips value) :
    ∃ payloads, converter.encodeToPayloads values = .ok payloads ∧
      converter.decodeArrayFromPayloads payloads = .ok values := by
  cases values with
  | nil => exact ⟨none, rfl, rfl⟩
  | cons value values =>
    obtain ⟨payloads, hto, hfrom⟩ := FailureConverter.toPayloads_roundTrip h
    obtain ⟨encoded, hencoded, hdecoded⟩ := encode_decode (fun codec hc => (hcodecs codec hc).1) payloads
    refine ⟨some encoded, ?_, ?_⟩
    · have htos : converter.payloadConverter.toPayloads (value :: values) = .ok (some payloads) := by
        unfold PayloadConverter.toPayloads
        rw [if_neg (by simp), hto]
        rfl
      rw [encodeToPayloads, htos]
      change (encode converter.payloadCodecs payloads >>= fun encoded => pure (some encoded)) = _
      rw [hencoded]
      rfl
    · have hdecode : decodeOptional converter.payloadCodecs (some encoded) = .ok (some payloads) := by
        rw [decodeOptional, codeOptional, Option.mapM_some, hdecoded]
        rfl
      rw [decodeArrayFromPayloads, hdecode]
      exact hfrom

lemma codeEntry_roundTrip (hcodecs : converter.CodecsRoundTrip) (payload : Payload) :
    ∃ encoded, codeEntry (encode converter.payloadCodecs) payload = .ok encoded ∧
      codeEntry (decode converter.payloadCodecs) encoded = .ok payload := by
  obtain ⟨m, hm, -, hback⟩ := exists_codes_undone (fun codec hc => (hcodecs codec hc).1)
    (fun codec hc => (hcodecs codec hc).2)
  refine ⟨m.single payload, ?_, ?_⟩
  · rw [codeEntry, codeSingle, hm.single]
    rfl
  · rw [codeEntry, codeSingle, hback]
    rfl

lemma encodeMapToPayloads_roundTrip (hcodecs : converter.CodecsRoundTrip) {map : PayloadRecord JsValue}
    (h : ∀ entry ∈ map, converter.payloadConverter.RoundTrips entry.2) :
    ∃ payloads, converter.encodeMapToPayloads map = .ok payloads ∧
      converter.decodeMapFromPayloads (some payloads) = .ok (some map) := by
  have hentry : ∀ entry ∈ map, ∃ payload : String × Payload,
      (do
        let payload ← converter.payloadConverter.toPayload entry.2
        let encodedPayload ← codeEntry (encode converter.payloadCodecs) payload
        return (entry.1, encodedPayload)) = Except.ok payload ∧
      (do
        let decodedPayload ← codeEntry (decode converter.payloadCodecs) payload.2
        let value ← converter.payloadConverter.fromPayload decodedPayload
        return (payload.1, value)) = Except.ok (ε := JsError) entry := by
    intro (k, value) hmem
    obtain ⟨payload, hto, hfrom⟩ := h (k, value) hmem
    obtain ⟨encoded, hencoded, hdecoded⟩ := codeEntry_roundTrip hcodecs payload
    refine ⟨(k, encoded), ?_, ?_⟩
    · simp only [hto, bind, Except.bind, hencoded]
      rfl
    · simp only [hdecoded, bind, Except.bind, hfrom]
      rfl
  obtain ⟨payloads, henc, hdec⟩ := Pipeline.mapM_undo hentry
  refine ⟨payloads, henc, ?_⟩
  rw [decodeMapFromPayloads, Option.mapM_some]
  exact congrArg (fun r => r >>= fun map => pure (some map)) hdec

end LoadedDataConverter

/-- JSON, as the bytes of its texts -/
structure Json where
  stringify : JsValue → Option (List UInt8)
  parse : List UInt8 → Except JsError JsValue

open FailureConverter (asciiBytes)

/-- `JsonPayloadConverter.toPayload` -/
def Json.toPayload (json : Json) (value : JsValue) : Option Payload :=
  if value.isUndefined then none
  else (json.stringify value).map fun data => ⟨[("encoding", asciiBytes "json/plain")], data⟩

/-- `typeof`; the values that are never looked into are objects. -/
def JsValue.typeOf : JsValue → String
  | undefined => "undefined"
  | null => "object"
  | bool _ => "boolean"
  | number _ => "number"
  | bigint _ => "bigint"
  | string _ => "string"
  | array _ => "object"
  | object _ => "object"
  | other _ => "object"

/-- `SearchAttributePayloadConverter`, with what it uses of the language: JSON, the dates, and the
texts of values in messages -/
structure SearchAttributePayloadConverter where
  json : Json
  isDate : JsValue → Bool
  newDate : JsValue → JsValue
  text : JsValue → String

namespace SearchAttributePayloadConverter

variable (c : SearchAttributePayloadConverter)

def validNonDateTypes : List String := ["string", "number", "boolean"]

/-- The checks on the elements of an array, each with its index -/
def checkValues (firstValue : JsValue) (values : List (JsValue × ℕ)) : Except JsError Unit :=
  if firstValue.typeOf = "object" then
    values.forM fun (value, idx) =>
      if c.isDate value then .ok ()
      else .error (.valueError (s!"SearchAttribute values must arrays of strings, numbers, booleans, " ++
        s!"or Dates. The value {c.text value} at index {idx} is of type {value.typeOf}"))
  else if firstValue.typeOf ∉ validNonDateTypes then
    .error (.valueError "SearchAttribute array values must be: string | number | boolean | Date")
  else
    values.forM fun (value, idx) =>
      if value.typeOf = firstValue.typeOf then .ok ()
      else .error (.valueError (s!"All SearchAttribute array values must be of the same type. The first " ++
        s!"value {c.text firstValue} of type {firstValue.typeOf} doesn't match value {c.text value} of " ++
        s!"type {value.typeOf} at index {idx}"))

def toPayload : JsValue → Except JsError Payload
  | .array values => do
    if let firstValue :: _ := values then
      c.checkValues firstValue values.zipIdx
    match c.json.toPayload (.array values) with
    | some payload => .ok payload
    | none => .error (.valueError "Could not convert search attributes to payloads")
  | _ => .error (.valueError "SearchAttribute value must be an array")

/-- The values that data have under a type; the values of a `Datetime` attribute are dates. -/
def readAs (type : Option (List UInt8)) (data : List UInt8) : Except JsError JsValue := do
  let value ← c.json.parse data
  let arrayWrappedValue := match value with
    | .array values => values
    | value => [value]
  return .array (if type = some (asciiBytes "Datetime") then arrayWrappedValue.map c.newDate
    else arrayWrappedValue)

def fromPayload (payload : Payload) : Except JsError JsValue :=
  c.readAs (payload.metadata.lookup "type") payload.data

/-- `mapToPayloads` with this converter -/
def mapToPayloads (map : PayloadRecord JsValue) : Except JsError (PayloadRecord Payload) :=
  map.mapM fun (k, v) => do
    let payload ← c.toPayload v
    return (k, payload)

/-- `mapFromPayloads` with this converter -/
def mapFromPayloads (map : PayloadRecord Payload) : Except JsError (PayloadRecord JsValue) :=
  map.mapM fun (k, payload) => do
    let value ← c.fromPayload payload
    return (k, value)

/-- The values of attributes whose types are known by their names. -/
def attributeValues (types : String → Option (List UInt8)) (map : PayloadRecord Payload) :
    Except JsError (PayloadRecord JsValue) :=
  map.mapM fun (k, payload) => do
    let value ← c.readAs (types k) payload.data
    return (k, value)

/-- The payload of the value, read under the type, gives the value back. -/
def RoundTrips (type : Option (List UInt8)) (value : JsValue) : Prop :=
  ∃ payload, c.toPayload value = .ok payload ∧ c.readAs type payload.data = .ok value

variable {c} {types : String → Option (List UInt8)}

/-- The payloads from the service have the types of their attributes in them. -/
lemma mapFromPayloads_eq {map : PayloadRecord Payload}
    (h : ∀ entry ∈ map, entry.2.metadata.lookup "type" = types entry.1) :
    c.mapFromPayloads map = c.attributeValues types map := by
  unfold mapFromPayloads attributeValues
  induction map with
  | nil => rfl
  | cons entry map ih =>
    have htype := h entry (by simp)
    rw [List.mapM_cons, List.mapM_cons, ih (fun e he => h e (by simp [he]))]
    simp only [fromPayload, htype]

lemma mapToPayloads_roundTrip {map : PayloadRecord JsValue}
    (h : ∀ entry ∈ map, c.RoundTrips (types entry.1) entry.2) :
    ∃ payloads, c.mapToPayloads map = .ok payloads ∧ c.attributeValues types payloads = .ok map := by
  apply Pipeline.mapM_undo
  intro (k, value) hmem
  obtain ⟨payload, hto, hfrom⟩ := h (k, value) hmem
  refine ⟨(k, payload), ?_, ?_⟩
  · simp only [hto]
    rfl
  · simp only [hfrom]
    rfl

end SearchAttributePayloadConverter

end TemporalSdk
