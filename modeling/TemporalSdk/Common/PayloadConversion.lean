import Mathlib.Data.List.Nodup
import TemporalSdk.Common.Time

/-!
# The default payload converter

`CompositePayloadConverter` over any converters, and `DefaultPayloadConverter` on the values of
JavaScript: a value may refer to objects, which may refer to each other in cycles and may have a
`toJSON` of their own. Calls of functions only compute; of the texts of JSON and of UTF-8 only what the
language documents is used.
-/

namespace TemporalSdk

/-! ### Values and objects -/

/-- A string of JavaScript, as its UTF-16 code units -/
abbrev JsString := List UInt16

namespace JsString

def ofAscii (s : String) : JsString := s.toList.map fun c => c.toNat.toUInt16

/-- The string in a message, which shows characters rather than code units -/
def toMessage (s : JsString) : String := String.ofList (s.map fun unit => Char.ofNat unit.toNat)

/-- Every surrogate is one of a pair. -/
def wellFormed : JsString → Bool
  | [] => true
  | unit :: rest =>
    if 0xd800 ≤ unit ∧ unit ≤ 0xdbff then
      match rest with
      | low :: rest => decide (0xdc00 ≤ low ∧ low ≤ 0xdfff) && wellFormed rest
      | [] => false
    else !decide (0xdc00 ≤ unit ∧ unit ≤ 0xdfff) && wellFormed rest

end JsString

inductive JsHeapValue
  | undefined
  | null
  | bool (b : Bool)
  | number (x : JsNumber)
  | string (s : JsString)
  | bigint (n : ℤ)
  | symbol
  | object (address : ℕ)
deriving DecidableEq

/-- The key that `toJSON` is called with -/
inductive JsPropertyKey
  | root
  | index (i : ℕ)
  | name (s : JsString)

/-- An object by what is read of it; `text` is what a template makes of it, an error for an object that
has no text. -/
inductive ObjectKind
  | uint8Array (data : List UInt8)
  | array (elements : List JsHeapValue)
  | plain (properties : List (JsString × JsHeapValue)) (text : Except JsError JsString)
  | function (call : JsHeapValue → JsPropertyKey → Except JsError JsHeapValue) (text : JsString)

structure JsHeapObject where
  kind : ObjectKind
  toJSON : JsHeapValue

/-- The objects, by their addresses -/
abbrev JsHeap := ℕ → JsHeapObject

inductive JsonTree
  | null
  | bool (b : Bool)
  | number (q : ℚ)
  | string (s : JsString)
  | array (elements : List JsonTree)
  | object (members : List (JsString × JsonTree))

/-- The texts of the language: numbers, JSON, and UTF-8 as `encode` and `decode` of encoding.ts -/
structure JsText where
  numberText : JsNumber → JsString
  print : JsonTree → JsString
  parse : JsString → Except JsError JsonTree
  encode : JsString → List UInt8
  decode : List UInt8 → JsString

/-- What is documented of the texts: `JSON.parse` accepts what `JSON.stringify` writes, which is well
formed, but not the empty text, and UTF-8 keeps well-formed strings. -/
structure JsText.Documented (text : JsText) : Prop where
  parse_print : ∀ tree, ∃ value, text.parse (text.print tree) = .ok value
  parse_nil : ∃ e, text.parse [] = .error e
  print_wellFormed : ∀ tree, (text.print tree).wellFormed = true
  decode_encode : ∀ s : JsString, s.wellFormed = true → text.decode (text.encode s) = s

/-! ### JSON.stringify -/

namespace JsHeap

variable (heap : JsHeap)

def isCallable : JsHeapValue → Bool
  | .object address =>
    match (heap address).kind with
    | .function _ _ => true
    | _ => false
  | _ => false

/-- The value that is written for a value: what its `toJSON` returns, if that can be called. -/
def applyToJSON (key : JsPropertyKey) (value : JsHeapValue) : Except JsError JsHeapValue :=
  match value with
  | .object address =>
    match (heap address).toJSON with
    | .object method =>
      match (heap method).kind with
      | .function call _ => call value key
      | _ => .ok value
    | _ => .ok value
  | _ => .ok value

def stackOverflow : JsError := .other "RangeError: Maximum call stack size exceeded"

/-- `SerializeJSONProperty`, with the objects around the value; `none` is `undefined`. Objects may be
nested as deep as `limit`, how far the stack of the engine reaches. -/
def serialize (limit : ℕ) (stack : List ℕ) (key : JsPropertyKey) (value : JsHeapValue) :
    Except JsError (Option JsonTree) := do
  match ← heap.applyToJSON key value with
  | .undefined => return none
  | .null => return some .null
  | .bool b => return some (.bool b)
  | .number (.finite q) => return some (.number q)
  | .number _ => return some .null
  | .string s => return some (.string s)
  | .bigint _ => throw (.typeError "Do not know how to serialize a BigInt")
  | .symbol => return none
  | .object address =>
    match (heap address).kind with
    | .function _ _ => return none
    | kind =>
      match limit with
      | 0 => throw stackOverflow
      | limit + 1 =>
        if address ∈ stack then
          throw (.typeError "Converting circular structure to JSON")
        match kind with
        | .array elements =>
          let members ← elements.zipIdx.mapM fun (element, i) => do
            let written ← serialize limit (address :: stack) (.index i) element
            return written.getD .null
          return some (.array members)
        | .plain properties _ =>
          let members ← properties.mapM fun (name, property) => do
            let written ← serialize limit (address :: stack) (.name name) property
            return written.map (name, ·)
          return some (.object (members.filterMap id))
        | .uint8Array data =>
          return some (.object (data.zipIdx.map fun (byte, i) =>
            (JsString.ofAscii (toString i), .number byte.toNat)))
        | .function _ _ => return none

/-- `JSON.stringify`, before its result is written as a text -/
def stringify (limit : ℕ) (value : JsHeapValue) : Except JsError (Option JsonTree) :=
  heap.serialize limit [] .root value

/-- What a template makes of a value; the elements of an array are joined, except the array itself. -/
def toText (text : JsText) (limit : ℕ) (stack : List ℕ) (value : JsHeapValue) : Except JsError JsString :=
  match value with
  | .undefined => .ok (JsString.ofAscii "undefined")
  | .null => .ok (JsString.ofAscii "null")
  | .bool b => .ok (JsString.ofAscii (toString b))
  | .number x => .ok (text.numberText x)
  | .string s => .ok s
  | .bigint n => .ok (JsString.ofAscii (toString n))
  | .symbol => .error (.typeError "Cannot convert a Symbol value to a string")
  | .object address =>
    match (heap address).kind with
    | .plain _ text => text
    | .function _ text => .ok text
    | .uint8Array data =>
      .ok (List.intercalate (JsString.ofAscii ",") (data.map fun byte =>
        text.numberText (.finite byte.toNat)))
    | .array elements =>
      match limit with
      | 0 => .error stackOverflow
      | limit + 1 =>
        if address ∈ stack then .ok []
        else do
          let texts ← elements.mapM fun element =>
            if element = .undefined ∨ element = .null then .ok []
            else toText text limit (address :: stack) element
          return List.intercalate (JsString.ofAscii ",") texts

end JsHeap

/-! ### Converters -/

/-- `Payload`, whose fields may be absent -/
structure PayloadMessage where
  metadata : Option (List (String × List UInt8))
  data : Option (List UInt8)
deriving DecidableEq

/-- `PayloadConverterWithEncoding`; `none` is the `undefined` of a converter that is unable to convert. -/
structure PayloadConverterWithEncoding (Value Result : Type) where
  encodingType : JsString
  toPayload : Value → Except JsError (Option PayloadMessage)
  fromPayload : PayloadMessage → Except JsError Result

/-- `CompositePayloadConverter`; its constructor refuses an empty list of converters. -/
structure CompositePayloadConverter (Value Result : Type) where
  converters : List (PayloadConverterWithEncoding Value Result)
  nonempty : converters ≠ []

namespace CompositePayloadConverter

variable {Value Result : Type} (text : JsText) (describe : Value → Except JsError JsString)

/-- The first result of the converters, in their order; `describe` is what a template makes of a value. -/
def firstResult (value : Value) :
    List (PayloadConverterWithEncoding Value Result) → Except JsError PayloadMessage
  | [] => do
    let described ← describe value
    throw (.valueError ("Unable to convert " ++ described.toMessage ++ " to payload"))
  | converter :: converters => do
    match ← converter.toPayload value with
    | some result => return result
    | none => firstResult value converters

def toPayload (c : CompositePayloadConverter Value Result) (value : Value) :
    Except JsError PayloadMessage :=
  firstResult describe value c.converters

/-- `converterByEncoding`: of converters with one encoding the last is kept. -/
def converterByEncoding (c : CompositePayloadConverter Value Result) (encoding : JsString) :
    Option (PayloadConverterWithEncoding Value Result) :=
  (c.converters.filter fun converter => converter.encodingType = encoding).getLast?

/-- The encoding in the metadata; decoding `undefined` gives the empty string. -/
def encodingOf (metadata : List (String × List UInt8)) : JsString :=
  (metadata.lookup "encoding").elim [] text.decode

def fromPayload (c : CompositePayloadConverter Value Result) (payload : PayloadMessage) :
    Except JsError Result :=
  match payload.metadata with
  | none => .error (.valueError "Missing payload metadata")
  | some metadata =>
    match c.converterByEncoding (encodingOf text metadata) with
    | none => .error (.valueError ("Unknown encoding: " ++ (encodingOf text metadata).toMessage))
    | some converter => converter.fromPayload payload

end CompositePayloadConverter

/-- What the default converter reads from payloads -/
inductive Converted
  | undefined
  | bytes (data : List UInt8)
  | json (value : JsonTree)

section Default

variable (text : JsText) (heap : JsHeap) (limit : ℕ)

/-- The bytes of a `Uint8Array` -/
def JsHeap.bytesOf : JsHeapValue → Option (List UInt8)
  | .object address =>
    match (heap address).kind with
    | .uint8Array data => some data
    | _ => none
  | _ => none

def encodingKey (encodingType : JsString) : Option (List (String × List UInt8)) :=
  some [("encoding", text.encode encodingType)]

def undefinedPayloadConverter : PayloadConverterWithEncoding JsHeapValue Converted where
  encodingType := JsString.ofAscii "binary/null"
  toPayload value :=
    if value ≠ .undefined then .ok none
    else .ok (some ⟨encodingKey text (JsString.ofAscii "binary/null"), none⟩)
  fromPayload _ := .ok .undefined

def binaryPayloadConverter : PayloadConverterWithEncoding JsHeapValue Converted where
  encodingType := JsString.ofAscii "binary/plain"
  toPayload value :=
    match heap.bytesOf value with
    | none => .ok none
    | some data => .ok (some ⟨encodingKey text (JsString.ofAscii "binary/plain"), some data⟩)
  fromPayload payload :=
    match payload.data with
    | some data => .ok (.bytes data)
    | none => .ok .undefined

/-- A text that is `undefined` is encoded as the empty one. -/
def jsonPayloadConverter : PayloadConverterWithEncoding JsHeapValue Converted where
  encodingType := JsString.ofAscii "json/plain"
  toPayload value :=
    if value = .undefined then .ok none
    else
      match heap.stringify limit value with
      | .error _ => .ok none
      | .ok json =>
        .ok (some ⟨encodingKey text (JsString.ofAscii "json/plain"),
          some (text.encode (json.elim [] text.print))⟩)
  fromPayload payload :=
    match payload.data with
    | none => .error (.valueError "Got payload with no data")
    | some data => .json <$> text.parse (text.decode data)

def defaultPayloadConverter : CompositePayloadConverter JsHeapValue Converted where
  converters := [undefinedPayloadConverter text, binaryPayloadConverter text heap,
    jsonPayloadConverter text heap limit]
  nonempty := by simp

end Default

/-! ### The converter of a payload -/

namespace CompositePayloadConverter

variable {Value Result : Type} (text : JsText) (describe : Value → Except JsError JsString)

/-- The payloads of the converter carry its own encoding. -/
def Tags (converter : PayloadConverterWithEncoding Value Result) : Prop :=
  ∀ value payload, converter.toPayload value = .ok (some payload) →
    ∃ metadata, payload.metadata = some metadata ∧ encodingOf text metadata = converter.encodingType

/-- The payload of a value is the first that a converter makes, and is read by that converter. -/
def UsesSameConverter (c : CompositePayloadConverter Value Result) : Prop :=
  ∀ value payload, c.toPayload describe value = .ok payload →
    ∃ before converter after, c.converters = before ++ converter :: after ∧
      (∀ other ∈ before, other.toPayload value = .ok none) ∧
      converter.toPayload value = .ok (some payload) ∧
      c.fromPayload text payload = converter.fromPayload payload

variable {text describe} {c : CompositePayloadConverter Value Result}

lemma exists_of_firstResult {value : Value} {payload : PayloadMessage}
    {converters : List (PayloadConverterWithEncoding Value Result)}
    (h : firstResult describe value converters = .ok payload) :
    ∃ before converter after, converters = before ++ converter :: after ∧
      (∀ other ∈ before, other.toPayload value = .ok none) ∧
      converter.toPayload value = .ok (some payload) := by
  induction converters with
  | nil =>
    unfold firstResult at h
    cases hdescribe : describe value <;> simp [hdescribe, bind, Except.bind, throw, throwThe,
      MonadExceptOf.throw] at h
  | cons converter converters ih =>
    unfold firstResult at h
    cases hresult : converter.toPayload value with
    | error e =>
      rw [hresult] at h
      cases h
    | ok result =>
      rw [hresult] at h
      cases result with
      | some result =>
        obtain rfl := Except.ok.inj h
        exact ⟨[], converter, converters, rfl, by simp, hresult⟩
      | none =>
        obtain ⟨before, found, after, rfl, hbefore, hfound⟩ := ih h
        refine ⟨converter :: before, found, after, rfl, ?_, hfound⟩
        intro other hother
        rcases List.mem_cons.mp hother with rfl | hother
        · exact hresult
        · exact hbefore other hother

/-- With one converter for each encoding, a converter is found by its own. -/
lemma converterByEncoding_eq (hdistinct : (c.converters.map (·.encodingType)).Nodup)
    {before after : List (PayloadConverterWithEncoding Value Result)}
    {converter : PayloadConverterWithEncoding Value Result}
    (hsplit : c.converters = before ++ converter :: after) :
    c.converterByEncoding converter.encodingType = some converter := by
  rw [hsplit, List.map_append, List.map_cons, List.nodup_middle, List.nodup_cons] at hdistinct
  have hnone : ∀ other ∈ before ++ after, ¬other.encodingType = converter.encodingType := by
    intro other hother heq
    apply hdistinct.1
    rw [← List.map_append, ← heq]
    exact List.mem_map_of_mem hother
  have hbefore : before.filter (fun other => other.encodingType = converter.encodingType) = [] := by
    rw [List.filter_eq_nil_iff]
    intro other hother
    simpa using hnone other (List.mem_append_left _ hother)
  have hafter : after.filter (fun other => other.encodingType = converter.encodingType) = [] := by
    rw [List.filter_eq_nil_iff]
    intro other hother
    simpa using hnone other (List.mem_append_right _ hother)
  simp only [converterByEncoding]
  rw [hsplit, List.filter_append, hbefore, List.filter_cons_of_pos (by simp), hafter]
  rfl

/-- Converters with distinct encodings that tag their payloads read what they have made. -/
lemma usesSameConverter (hdistinct : (c.converters.map (·.encodingType)).Nodup)
    (htags : ∀ converter ∈ c.converters, Tags text converter) : c.UsesSameConverter text describe := by
  intro value payload h
  obtain ⟨before, converter, after, hsplit, hbefore, hpayload⟩ := exists_of_firstResult h
  refine ⟨before, converter, after, hsplit, hbefore, hpayload, ?_⟩
  obtain ⟨metadata, hmetadata, hencoding⟩ :=
    htags converter (by simp [hsplit]) value payload hpayload
  simp only [fromPayload, hmetadata, hencoding, converterByEncoding_eq hdistinct hsplit]

end CompositePayloadConverter

/-! ### The default converter -/

section Default

open CompositePayloadConverter

variable {text : JsText} {heap : JsHeap} {limit : ℕ}

/-- What a value is converted to: `undefined`, equal bytes, or `JSON.parse(JSON.stringify(value))` -/
def ConvertsTo (text : JsText) (heap : JsHeap) (limit : ℕ) (value : JsHeapValue) (result : Converted) :
    Prop :=
  if value = .undefined then result = .undefined
  else
    match heap.bytesOf value with
    | some data => result = .bytes data
    | none => ∃ tree json, heap.stringify limit value = .ok (some tree) ∧
        text.parse (text.print tree) = .ok json ∧ result = .json json

/-- `toPayload` throws a `ValueError`, or returns a payload that `fromPayload` converts to what the value
is to be converted to. -/
def Readable (text : JsText) (heap : JsHeap) (limit : ℕ) (value : JsHeapValue) : Prop :=
  match (defaultPayloadConverter text heap limit).toPayload (heap.toText text limit []) value with
  | .error e => ∃ message, e = .valueError message
  | .ok payload =>
    ∃ result, (defaultPayloadConverter text heap limit).fromPayload text payload = .ok result ∧
      ConvertsTo text heap limit value result

/-- `JSON.stringify` writes `undefined` for the value: it is, or its `toJSON` returns, `undefined`, a
symbol or a function. -/
def Unwritten (heap : JsHeap) (value : JsHeapValue) : Prop :=
  ∃ written, heap.applyToJSON .root value = .ok written ∧
    (written = .undefined ∨ written = .symbol ∨ heap.isCallable written = true)

/-- The value is `undefined` or binary; or JSON writes something for it, or refuses it and it has a text for
the message of the `ValueError`. -/
def Convertible (text : JsText) (heap : JsHeap) (limit : ℕ) (value : JsHeapValue) : Prop :=
  value = .undefined ∨ (heap.bytesOf value).isSome ∨
    ¬Unwritten heap value ∧
      ((∃ e, heap.stringify limit value = .error e) →
        ∀ e, heap.toText text limit [] value = .error e → ∃ message, e = .valueError message)

variable (limit) in
/-- Only values that have nothing to write are written as `undefined`. -/
lemma stringify_eq_none_iff {value : JsHeapValue} :
    heap.stringify limit value = .ok none ↔ Unwritten heap value := by
  unfold JsHeap.stringify Unwritten
  rw [JsHeap.serialize]
  cases hwritten : heap.applyToJSON .root value with
  | error e => simp [bind, Except.bind]
  | ok written =>
    simp only [bind, Except.bind, Except.ok.injEq, exists_eq_left']
    cases written with
    | object address =>
      simp only [JsHeap.isCallable, reduceCtorEq, false_or]
      cases hkind : (heap address).kind with
      | function call described => simp [pure, Except.pure]
      | uint8Array data =>
        cases limit <;> simp [pure, Except.pure, throw, throwThe, MonadExceptOf.throw]
      | array elements =>
        cases limit with
        | zero => simp [throw, throwThe, MonadExceptOf.throw]
        | succ limit =>
          simp only [List.not_mem_nil, if_false]
          split <;> simp [pure, Except.pure]
      | plain properties described =>
        cases limit with
        | zero => simp [throw, throwThe, MonadExceptOf.throw]
        | succ limit =>
          simp only [List.not_mem_nil, if_false]
          split <;> simp [pure, Except.pure]
    | number x => cases x <;> simp [JsHeap.isCallable, pure, Except.pure]
    | _ => simp [JsHeap.isCallable, pure, Except.pure, throw, throwThe, MonadExceptOf.throw]

lemma nodup_default :
    ((defaultPayloadConverter text heap limit).converters.map (·.encodingType)).Nodup := by
  change [JsString.ofAscii "binary/null", JsString.ofAscii "binary/plain",
    JsString.ofAscii "json/plain"].Nodup
  decide +kernel

lemma encodingOf_encodingKey (htext : text.Documented) {encodingType : JsString}
    (hwellFormed : encodingType.wellFormed = true) :
    ∃ metadata, encodingKey text encodingType = some metadata ∧
      encodingOf text metadata = encodingType :=
  ⟨_, rfl, htext.decode_encode encodingType hwellFormed⟩

/-- The default converters tag their payloads. -/
lemma tags_default (htext : text.Documented) :
    ∀ converter ∈ (defaultPayloadConverter text heap limit).converters, Tags text converter := by
  intro converter hconverter value payload h
  rcases List.mem_cons.mp hconverter with rfl | hconverter
  · simp only [undefinedPayloadConverter] at h
    split_ifs at h
    · cases h
    · obtain rfl := Option.some.inj (Except.ok.inj h)
      exact encodingOf_encodingKey htext (by decide +kernel)
  · rcases List.mem_cons.mp hconverter with rfl | hconverter
    · simp only [binaryPayloadConverter] at h
      cases hbytes : heap.bytesOf value with
      | none =>
        rw [hbytes] at h
        cases h
      | some data =>
        rw [hbytes] at h
        obtain rfl := Option.some.inj (Except.ok.inj h)
        exact encodingOf_encodingKey htext (by decide +kernel)
    · obtain rfl := List.mem_singleton.mp hconverter
      simp only [jsonPayloadConverter] at h
      split_ifs at h
      · cases h
      · cases hjson : heap.stringify limit value with
        | error e =>
          rw [hjson] at h
          cases h
        | ok json =>
          rw [hjson] at h
          obtain rfl := Option.some.inj (Except.ok.inj h)
          exact encodingOf_encodingKey htext (by decide +kernel)

/-- What a converter of the default converter has made is read by that converter. -/
lemma fromPayload_default (htext : text.Documented) (encodingType : JsString)
    (hwellFormed : encodingType.wellFormed = true)
    {before after : List (PayloadConverterWithEncoding JsHeapValue Converted)}
    {converter : PayloadConverterWithEncoding JsHeapValue Converted}
    (hsplit : (defaultPayloadConverter text heap limit).converters = before ++ converter :: after)
    (hencoding : converter.encodingType = encodingType) (data : Option (List UInt8)) :
    (defaultPayloadConverter text heap limit).fromPayload text ⟨encodingKey text encodingType, data⟩ =
      converter.fromPayload ⟨encodingKey text encodingType, data⟩ := by
  obtain ⟨metadata, hmetadata, hof⟩ := encodingOf_encodingKey htext hwellFormed
  subst hencoding
  simp only [CompositePayloadConverter.fromPayload, hmetadata, hof,
    converterByEncoding_eq nodup_default hsplit]

lemma converters_default :
    (defaultPayloadConverter text heap limit).converters =
      [undefinedPayloadConverter text, binaryPayloadConverter text heap,
        jsonPayloadConverter text heap limit] :=
  rfl

lemma readable_of_toPayload {value : JsHeapValue} {payload : PayloadMessage}
    (hto : (defaultPayloadConverter text heap limit).toPayload (heap.toText text limit []) value =
      .ok payload) :
    Readable text heap limit value ↔
      ∃ result, (defaultPayloadConverter text heap limit).fromPayload text payload = .ok result ∧
        ConvertsTo text heap limit value result := by
  unfold Readable
  rw [hto]

lemma readable_undefined (htext : text.Documented) : Readable text heap limit .undefined := by
  have hto : (defaultPayloadConverter text heap limit).toPayload (heap.toText text limit [])
      .undefined = .ok ⟨encodingKey text (JsString.ofAscii "binary/null"), none⟩ := by
    simp only [CompositePayloadConverter.toPayload, converters_default, firstResult,
      undefinedPayloadConverter, ne_eq, not_true_eq_false, if_false]
    rfl
  have hsplit : (defaultPayloadConverter text heap limit).converters =
      [] ++ undefinedPayloadConverter text ::
        [binaryPayloadConverter text heap, jsonPayloadConverter text heap limit] := converters_default
  rw [readable_of_toPayload hto, fromPayload_default htext (JsString.ofAscii "binary/null")
    (by decide +kernel) hsplit rfl]
  exact ⟨.undefined, rfl, by simp [ConvertsTo]⟩

lemma readable_bytes (htext : text.Documented) {value : JsHeapValue} {data : List UInt8}
    (hdata : heap.bytesOf value = some data) : Readable text heap limit value := by
  have hne : value ≠ .undefined := by
    rintro rfl
    cases hdata
  have hto : (defaultPayloadConverter text heap limit).toPayload (heap.toText text limit []) value =
      .ok ⟨encodingKey text (JsString.ofAscii "binary/plain"), some data⟩ := by
    simp only [CompositePayloadConverter.toPayload, converters_default, firstResult,
      undefinedPayloadConverter, binaryPayloadConverter, hdata, ne_eq, hne, not_false_eq_true, if_true]
    rfl
  have hsplit : (defaultPayloadConverter text heap limit).converters =
      [undefinedPayloadConverter text] ++ binaryPayloadConverter text heap ::
        [jsonPayloadConverter text heap limit] := converters_default
  rw [readable_of_toPayload hto, fromPayload_default htext (JsString.ofAscii "binary/plain")
    (by decide +kernel) hsplit rfl]
  refine ⟨.bytes data, rfl, ?_⟩
  rw [ConvertsTo, if_neg hne, hdata]

variable (text limit) in
/-- What the JSON converter makes of the values that the other two leave to it -/
lemma toPayload_json {value : JsHeapValue} (hne : value ≠ .undefined) (hbytes : heap.bytesOf value = none) :
    (defaultPayloadConverter text heap limit).toPayload (heap.toText text limit []) value =
      match heap.stringify limit value with
      | .error _ => do
        let described ← heap.toText text limit [] value
        throw (.valueError ("Unable to convert " ++ described.toMessage ++ " to payload"))
      | .ok json => .ok ⟨encodingKey text (JsString.ofAscii "json/plain"),
          some (text.encode (json.elim [] text.print))⟩ := by
  simp only [CompositePayloadConverter.toPayload, converters_default, firstResult,
    undefinedPayloadConverter, binaryPayloadConverter, jsonPayloadConverter, hbytes, ne_eq, hne,
    not_false_eq_true, if_true, if_false]
  cases heap.stringify limit value <;> rfl

/-- The JSON converter reads the text that it has written. -/
lemma fromPayload_json (htext : text.Documented) {s : JsString} (hs : s.wellFormed = true) :
    (defaultPayloadConverter text heap limit).fromPayload text
        ⟨encodingKey text (JsString.ofAscii "json/plain"), some (text.encode s)⟩ =
      .json <$> text.parse s := by
  have hsplit : (defaultPayloadConverter text heap limit).converters =
      [undefinedPayloadConverter text, binaryPayloadConverter text heap] ++
        jsonPayloadConverter text heap limit :: [] := converters_default
  rw [fromPayload_default htext (JsString.ofAscii "json/plain") (by decide +kernel) hsplit rfl]
  simp only [jsonPayloadConverter, htext.decode_encode s hs]

/-- A value that JSON refuses is refused with a `ValueError` if its text is there for the message. -/
lemma readable_of_refused {value : JsHeapValue} (hne : value ≠ .undefined)
    (hbytes : heap.bytesOf value = none) {e : JsError} (hjson : heap.stringify limit value = .error e) :
    Readable text heap limit value ↔
      ∀ e, heap.toText text limit [] value = .error e → ∃ message, e = .valueError message := by
  have hto := toPayload_json text limit hne hbytes
  rw [hjson] at hto
  unfold Readable
  rw [hto]
  cases heap.toText text limit [] value with
  | error e' =>
    simp only [Except.error.injEq, forall_eq']
    rfl
  | ok described => exact iff_of_true ⟨_, rfl⟩ (by simp)

/-- What is written as `undefined` is not read again. -/
lemma not_readable_of_unwritten (htext : text.Documented) {value : JsHeapValue} (hne : value ≠ .undefined)
    (hbytes : heap.bytesOf value = none) (hjson : heap.stringify limit value = .ok none) :
    ¬Readable text heap limit value := by
  have hto := toPayload_json text limit hne hbytes
  rw [hjson] at hto
  rw [readable_of_toPayload hto]
  rintro ⟨result, hfrom, -⟩
  obtain ⟨e, he⟩ := htext.parse_nil
  rw [Option.elim_none, fromPayload_json htext rfl, he] at hfrom
  cases hfrom

lemma readable_of_written (htext : text.Documented) {value : JsHeapValue} (hne : value ≠ .undefined)
    (hbytes : heap.bytesOf value = none) {tree : JsonTree}
    (hjson : heap.stringify limit value = .ok (some tree)) : Readable text heap limit value := by
  have hto := toPayload_json text limit hne hbytes
  rw [hjson] at hto
  obtain ⟨json, hparse⟩ := htext.parse_print tree
  rw [readable_of_toPayload hto, Option.elim_some, fromPayload_json htext (htext.print_wellFormed tree),
    hparse]
  refine ⟨.json json, rfl, ?_⟩
  rw [ConvertsTo, if_neg hne, hbytes]
  exact ⟨tree, json, hjson, hparse, rfl⟩

lemma readable_iff_convertible (htext : text.Documented) {value : JsHeapValue} :
    Readable text heap limit value ↔ Convertible text heap limit value := by
  by_cases hne : value = .undefined
  · subst hne
    exact iff_of_true (readable_undefined htext) (.inl rfl)
  cases hbytes : heap.bytesOf value with
  | some data => exact iff_of_true (readable_bytes htext hbytes) (.inr (.inl (by rw [hbytes]; rfl)))
  | none =>
    have hconvertible : Convertible text heap limit value ↔ ¬Unwritten heap value ∧
        ((∃ e, heap.stringify limit value = .error e) →
          ∀ e, heap.toText text limit [] value = .error e → ∃ message, e = .valueError message) := by
      simp [Convertible, hne, hbytes]
    rw [hconvertible, ← stringify_eq_none_iff limit]
    cases hjson : heap.stringify limit value with
    | error e =>
      rw [readable_of_refused hne hbytes hjson]
      simp
    | ok json =>
      cases json with
      | none => simp [not_readable_of_unwritten htext hne hbytes hjson]
      | some tree => simp [readable_of_written htext hne hbytes hjson]

/-- The default converter gives a value back or refuses it exactly when it is convertible; and whatever the
converters of a composite converter, with distinct encodings that they tag their payloads with, a payload
is read by the converter that made it. -/
theorem payloads_readable_iff (htext : text.Documented) :
    (∀ value, Readable text heap limit value ↔ Convertible text heap limit value) ∧
      ∀ {Value Result : Type} (describe : Value → Except JsError JsString)
        (c : CompositePayloadConverter Value Result),
        (c.converters.map (·.encodingType)).Nodup → (∀ converter ∈ c.converters, Tags text converter) →
        c.UsesSameConverter text describe :=
  ⟨fun _ => readable_iff_convertible htext, fun _ _ => usesSameConverter⟩

end Default

/-! ### Texts for examples -/

def twoBytes : JsString → List UInt8
  | [] => []
  | unit :: rest => UInt8.ofNat (unit.toNat / 256) :: UInt8.ofNat (unit.toNat % 256) :: twoBytes rest

def ofTwoBytes : List UInt8 → JsString
  | high :: low :: rest => UInt16.ofNat (high.toNat * 256 + low.toNat) :: ofTwoBytes rest
  | _ => []

lemma ofTwoBytes_twoBytes (s : JsString) : ofTwoBytes (twoBytes s) = s := by
  induction s with
  | nil => rfl
  | cons unit rest ih =>
    rw [twoBytes, ofTwoBytes, ih]
    congr 1
    apply UInt16.toNat_inj.mp
    have hlt := unit.toNat_lt
    simp only [UInt16.toNat_ofNat', UInt8.toNat_ofNat']
    omega

/-- UTF-8 on ASCII, any other string being marked and written with two bytes a unit; of JSON only the text
of `null` -/
def asciiText : JsText where
  numberText _ := JsString.ofAscii "0"
  print _ := JsString.ofAscii "null"
  parse s :=
    if s = JsString.ofAscii "null" then .ok .null
    else .error (.other "SyntaxError: Unexpected end of JSON input")
  encode s :=
    if s.all fun unit => unit.toNat < 128 then s.map fun unit => UInt8.ofNat unit.toNat
    else 255 :: twoBytes s
  decode bytes :=
    if bytes.head? = some 255 then ofTwoBytes bytes.tail
    else bytes.map fun byte => UInt16.ofNat byte.toNat

lemma decode_encode_asciiText (s : JsString) : asciiText.decode (asciiText.encode s) = s := by
  simp only [asciiText]
  by_cases hall : (s.all fun unit => unit.toNat < 128) = true
  · have hsmall : ∀ unit ∈ s, unit.toNat < 128 := by simpa using hall
    have hhead : (s.map fun unit => UInt8.ofNat unit.toNat).head? ≠ some 255 := by
      cases s with
      | nil => simp
      | cons unit rest =>
        have hlt := hsmall unit (by simp)
        intro h
        have hbyte : UInt8.ofNat unit.toNat = 255 := Option.some.inj h
        have hnat : unit.toNat % 256 = 255 := by
          rw [← UInt8.toNat_ofNat', hbyte]
          rfl
        omega
    rw [if_pos hall, if_neg hhead, List.map_map]
    conv_rhs => rw [← List.map_id s]
    refine List.map_congr_left fun unit hunit => ?_
    have hlt := hsmall unit hunit
    apply UInt16.toNat_inj.mp
    simp only [Function.comp_apply, UInt16.toNat_ofNat', UInt8.toNat_ofNat', id]
    omega
  · rw [if_neg hall]
    exact ofTwoBytes_twoBytes s

lemma documented_asciiText : asciiText.Documented where
  parse_print tree := ⟨.null, by simp [asciiText]⟩
  parse_nil :=
    have hne : ¬([] : JsString) = JsString.ofAscii "null" := by decide +kernel
    ⟨.other "SyntaxError: Unexpected end of JSON input", by simp [asciiText, hne]⟩
  print_wellFormed tree :=
    have hnull : (JsString.ofAscii "null").wellFormed = true := by decide +kernel
    hnull
  decode_encode s _ := decode_encode_asciiText s

/-- No objects to speak of -/
def emptyHeap : JsHeap := fun _ => ⟨.plain [] (.ok (JsString.ofAscii "[object Object]")), .undefined⟩

/-- A symbol is written as an empty text, which is no JSON. -/
theorem not_forall_readable :
    ¬∀ (text : JsText) (heap : JsHeap) (limit : ℕ) (value : JsHeapValue), text.Documented →
      Readable text heap limit value := by
  intro hall
  have hunwritten : Unwritten emptyHeap .symbol := ⟨.symbol, rfl, .inr (.inl rfl)⟩
  exact not_readable_of_unwritten documented_asciiText (by decide) rfl
    ((stringify_eq_none_iff 100).mpr hunwritten) (hall asciiText emptyHeap 100 .symbol documented_asciiText)

end TemporalSdk
