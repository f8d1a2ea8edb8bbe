import TemporalSdk.Common.Failure
import TemporalSdk.Library.Pipeline

/-!
# Payload codecs

The helpers that run codecs over payloads, over maps of payloads and over failures. Encoding
and decoding differ only in the function that codes a list of payloads.
-/

namespace TemporalSdk

/-- A codec codes lists of payloads; its promises can be rejected. -/
structure PayloadCodec where
  encode : List Payload → Except JsError (List Payload)
  decode : List Payload → Except JsError (List Payload)

/-- Decode through each codec, starting with the last codec. -/
def decode (codecs : List PayloadCodec) (payloads : List Payload) : Except JsError (List Payload) :=
  Pipeline.feed (codecs.reverse.map PayloadCodec.decode) payloads

/-- Encode through each codec, starting with the first codec. -/
def encode (codecs : List PayloadCodec) (payloads : List Payload) : Except JsError (List Payload) :=
  Pipeline.feed (codecs.map PayloadCodec.encode) payloads

section Code

variable (code : List Payload → Except JsError (List Payload))

def codeOptional (payloads : Option (List Payload)) : Except JsError (Option (List Payload)) :=
  payloads.mapM code

/-- The first payload of the coded one-payload list; it is `undefined` when that list is empty. -/
def codeSingle (payload : Payload) : Except JsError (Option Payload) := do
  let payloads ← code [payload]
  return payloads[0]?

def codeOptionalSingle : Option Payload → Except JsError (Option Payload)
  | none => .ok none
  | some payload => codeSingle code payload

/-- The payload lists of details objects, where an absent list is coded as the empty one. -/
def codeDetails (details : Option Payloads) : Except JsError (Option Payloads) :=
  details.mapM fun details => do
    let payloads ← code (details.payloads.getD [])
    return ⟨some payloads⟩

/-- The failure infos that carry payloads. -/
def codeInfos (failure : FailureFields) : Except JsError FailureFields := do
  let applicationFailureInfo ← failure.applicationFailureInfo.mapM fun info => do
    let details ← codeDetails code info.details
    return { info with details }
  let timeoutFailureInfo ← failure.timeoutFailureInfo.mapM fun info => do
    let lastHeartbeatDetails ← codeDetails code info.lastHeartbeatDetails
    return { info with lastHeartbeatDetails }
  let canceledFailureInfo ← failure.canceledFailureInfo.mapM fun info => do
    let details ← codeDetails code info.details
    return { info with details }
  let resetWorkflowFailureInfo ← failure.resetWorkflowFailureInfo.mapM fun info => do
    let lastHeartbeatDetails ← codeDetails code info.lastHeartbeatDetails
    return { info with lastHeartbeatDetails }
  return { failure with
    applicationFailureInfo, timeoutFailureInfo, canceledFailureInfo, resetWorkflowFailureInfo }

def codeFailure : Failure → Except JsError Failure
  | .leaf failure => do
    let encodedAttributes ← codeOptionalSingle code failure.encodedAttributes
    let failure ← codeInfos code { failure with encodedAttributes }
    return .leaf failure
  | .caused failure cause => do
    let encodedAttributes ← codeOptionalSingle code failure.encodedAttributes
    let cause ← codeFailure cause
    let failure ← codeInfos code { failure with encodedAttributes }
    return .caused failure cause

def codeOptionalFailure (failure : Option Failure) : Except JsError (Option Failure) :=
  failure.mapM (codeFailure code)

end Code

/-- `Record<string, V>`, as its entries -/
abbrev PayloadRecord (V : Type) := List (String × V)

/-- What the coding functions put under the keys of a record of payloads. -/
inductive RecordValue
  | undefined
  | payload (payload : Payload)
  | array (payloads : List Payload)
deriving DecidableEq

def RecordValue.ofSingle : Option Payload → RecordValue
  | none => undefined
  | some p => payload p

section Helpers

variable (codecs : List PayloadCodec)

def encodeOptional := codeOptional (encode codecs)

def decodeOptional := codeOptional (decode codecs)

def encodeSingle := codeSingle (encode codecs)

def decodeSingle := codeSingle (decode codecs)

def encodeOptionalSingle := codeOptionalSingle (encode codecs)

def decodeOptionalSingle := codeOptionalSingle (decode codecs)

def encodeFailure := codeFailure (encode codecs)

def decodeFailure := codeFailure (decode codecs)

def encodeOptionalFailure := codeOptionalFailure (encode codecs)

def decodeOptionalFailure := codeOptionalFailure (decode codecs)

/-- The values of the decoded map are the decoded arrays, not their first payloads. -/
def decodeOptionalMap (payloads : Option (PayloadRecord Payload)) :
    Except JsError (Option (PayloadRecord RecordValue)) :=
  payloads.mapM fun payloads => payloads.mapM fun (k, v) => do
    let decoded ← decode codecs [v]
    return (k, .array decoded)

def encodeMap (map : Option (PayloadRecord Payload)) :
    Except JsError (Option (PayloadRecord RecordValue)) :=
  map.mapM fun map => map.mapM fun (k, payload) => do
    let encoded ← encodeSingle codecs payload
    return (k, .ofSingle encoded)

end Helpers

/-! ### What coding does to the payloads -/

/-- What a coding function does to lists of payloads, and to one-payload lists. -/
structure PayloadMap where
  list : List Payload → List Payload
  single : Payload → Payload

/-- The coding function succeeds on every list, and maps one-payload lists to one-payload lists. -/
structure Codes (code : List Payload → Except JsError (List Payload)) (m : PayloadMap) : Prop where
  list : ∀ payloads, code payloads = .ok (m.list payloads)
  single : ∀ payload, code [payload] = .ok [m.single payload]

/-- A stage of a codec that succeeds on every list and maps one-payload lists to such lists. -/
structure KeepsSingles (stage : List Payload → Except JsError (List Payload)) : Prop where
  total : ∀ payloads, ∃ coded, stage payloads = .ok coded
  single : ∀ payload, ∃ coded, stage [payload] = .ok [coded]

lemma exists_codes_of_feed {stages : List (List Payload → Except JsError (List Payload))}
    (h : ∀ stage ∈ stages, KeepsSingles stage) : ∃ m, Codes (Pipeline.feed stages) m := by
  have hlist : ∀ payloads, ∃ coded, Pipeline.feed stages payloads = .ok coded := by
    intro payloads
    have hkeep : ∀ stage ∈ stages, ∀ ps, True → ∃ coded, stage ps = .ok coded ∧ True := by
      intro stage hs ps _
      obtain ⟨coded, hcoded⟩ := (h stage hs).total ps
      exact ⟨coded, hcoded, trivial⟩
    obtain ⟨coded, hcoded, -⟩ := Pipeline.feed_invariant hkeep (x := payloads) trivial
    exact ⟨coded, hcoded⟩
  have hsingle : ∀ payload, ∃ coded, Pipeline.feed stages [payload] = .ok [coded] := by
    intro payload
    have hkeep : ∀ stage ∈ stages, ∀ ps, (∃ p, ps = [p]) → ∃ qs, stage ps = .ok qs ∧ ∃ q, qs = [q] := by
      rintro stage hs _ ⟨p, rfl⟩
      obtain ⟨coded, hcoded⟩ := (h stage hs).single p
      exact ⟨[coded], hcoded, coded, rfl⟩
    obtain ⟨_, hcoded, coded, rfl⟩ := Pipeline.feed_invariant hkeep ⟨payload, rfl⟩
    exact ⟨coded, hcoded⟩
  choose list hlist using hlist
  choose single hsingle using hsingle
  exact ⟨⟨list, single⟩, hlist, hsingle⟩

lemma exists_codes_encode {codecs : List PayloadCodec} (h : ∀ codec ∈ codecs, KeepsSingles codec.encode) :
    ∃ m, Codes (encode codecs) m := by
  apply exists_codes_of_feed
  intro stage hs
  obtain ⟨codec, hmem, rfl⟩ := List.mem_map.mp hs
  exact h codec hmem

lemma exists_codes_decode {codecs : List PayloadCodec} (h : ∀ codec ∈ codecs, KeepsSingles codec.decode) :
    ∃ m, Codes (decode codecs) m := by
  apply exists_codes_of_feed
  intro stage hs
  obtain ⟨codec, hmem, rfl⟩ := List.mem_map.mp hs
  exact h codec (List.mem_reverse.mp hmem)

lemma Codes.unique {code : List Payload → Except JsError (List Payload)} {m m' : PayloadMap}
    (h : Codes code m) (h' : Codes code m') : m = m' := by
  obtain ⟨list, single⟩ := m
  obtain ⟨list', single'⟩ := m'
  congr 1
  · funext payloads
    have he := (h.list payloads).symm.trans (h'.list payloads)
    simpa using he
  · funext payload
    have he := (h.single payload).symm.trans (h'.single payload)
    simpa using he

section Mapped

variable (single : Payload → Payload) (details : Payloads → Payloads)

def FailureFields.mapWith (failure : FailureFields) : FailureFields :=
  { failure with
    encodedAttributes := failure.encodedAttributes.map single
    applicationFailureInfo := failure.applicationFailureInfo.map fun info =>
      { info with details := info.details.map details }
    timeoutFailureInfo := failure.timeoutFailureInfo.map fun info =>
      { info with lastHeartbeatDetails := info.lastHeartbeatDetails.map details }
    canceledFailureInfo := failure.canceledFailureInfo.map fun info =>
      { info with details := info.details.map details }
    resetWorkflowFailureInfo := failure.resetWorkflowFailureInfo.map fun info =>
      { info with lastHeartbeatDetails := info.lastHeartbeatDetails.map details } }

/-- The encoded attributes and the details objects at every depth are mapped; nothing else
changes. -/
def Failure.mapWith : Failure → Failure
  | .leaf fields => .leaf (fields.mapWith single details)
  | .caused fields cause => .caused (fields.mapWith single details) cause.mapWith

end Mapped

/-- The payload list of a details object; an absent one counts as empty. -/
def Payloads.toList (details : Payloads) : List Payload := details.payloads.getD []

/-- Every payload of a failure is mapped. -/
def Failure.mapPayloads (m : PayloadMap) : Failure → Failure :=
  Failure.mapWith m.single fun details => ⟨some (m.list details.toList)⟩

/-- Absent payload lists of details objects are replaced by empty ones. -/
def Failure.normalize : Failure → Failure := Failure.mapPayloads ⟨id, id⟩

/-- The same failure, where an absent payload list of a details object counts as empty. -/
def Failure.Same (f g : Failure) : Prop := f.normalize = g.normalize

lemma FailureFields.mapWith_id (failure : FailureFields) : failure.mapWith id id = failure := by
  unfold mapWith
  simp

lemma Failure.mapWith_id (failure : Failure) : failure.mapWith id id = failure := by
  induction failure with
  | leaf fields => rw [mapWith, fields.mapWith_id]
  | caused fields cause ih => rw [mapWith, fields.mapWith_id, ih]

lemma FailureFields.mapWith_mapWith (s s' : Payload → Payload) (d d' : Payloads → Payloads)
    (failure : FailureFields) :
    (failure.mapWith s d).mapWith s' d' = failure.mapWith (s' ∘ s) (d' ∘ d) := by
  unfold mapWith
  simp [Function.comp_def]

lemma Failure.mapWith_mapWith (s s' : Payload → Payload) (d d' : Payloads → Payloads)
    (failure : Failure) : (failure.mapWith s d).mapWith s' d' = failure.mapWith (s' ∘ s) (d' ∘ d) := by
  induction failure with
  | leaf fields => simp only [mapWith, fields.mapWith_mapWith]
  | caused fields cause ih => simp only [mapWith, fields.mapWith_mapWith, ih]

lemma Failure.normalize_mapPayloads (m : PayloadMap) (failure : Failure) :
    (failure.mapPayloads m).normalize = failure.mapPayloads m := by
  unfold normalize mapPayloads
  rw [mapWith_mapWith]
  rfl

section Coded

variable {code : List Payload → Except JsError (List Payload)} {m : PayloadMap}
  {s t : Payload → Payload} {d e : Payloads → Payloads}

lemma codeOptionalSingle_map (hs : ∀ p, code [s p] = .ok [t p]) (payload : Option Payload) :
    codeOptionalSingle code (payload.map s) = .ok (payload.map t) := by
  cases payload with
  | none => rfl
  | some payload =>
    rw [Option.map_some, codeOptionalSingle, codeSingle, hs]
    rfl

lemma codeDetails_map (hd : ∀ p, code (d p).toList = .ok (e p).toList)
    (he : ∀ p, (e p).payloads.isSome) (details : Option Payloads) :
    codeDetails code (details.map d) = .ok (details.map e) := by
  cases details with
  | none => rfl
  | some details =>
    have hcode : code ((d details).payloads.getD []) = .ok ((e details).payloads.getD []) := hd details
    rw [Option.map_some, codeDetails, Option.mapM_some, hcode, Option.map_some]
    obtain ⟨list, hlist⟩ := Option.isSome_iff_exists.mp (he details)
    have hdetails : e details = ⟨some list⟩ := by
      rw [← hlist]
    rw [hdetails]
    rfl

lemma mapM_map {α β γ : Type} {f : β → Except JsError γ} {g : α → β} {h : α → γ}
    (hf : ∀ x, f (g x) = .ok (h x)) (o : Option α) : (o.map g).mapM f = .ok (o.map h) := by
  cases o with
  | none => rfl
  | some x =>
    rw [Option.map_some, Option.mapM_some, hf]
    rfl

lemma option_mapM_ok {α β : Type} {f : α → Except JsError β} {g : α → β} (h : ∀ x, f x = .ok (g x))
    (o : Option α) : o.mapM f = .ok (o.map g) := by
  have hmap := mapM_map (g := id) h o
  rwa [Option.map_id, id] at hmap

lemma codeInfos_mapWith (hd : ∀ p, code (d p).toList = .ok (e p).toList)
    (he : ∀ p, (e p).payloads.isSome) (failure : FailureFields) (encodedAttributes : Option Payload) :
    codeInfos code { failure.mapWith s d with encodedAttributes } =
      .ok { failure.mapWith s e with encodedAttributes } := by
  have hdetails := codeDetails_map hd he
  unfold codeInfos FailureFields.mapWith
  rw [mapM_map (h := fun info => { info with details := info.details.map e }) (by
      intro info
      rw [hdetails]
      rfl)]
  rw [mapM_map (h := fun info => { info with lastHeartbeatDetails := info.lastHeartbeatDetails.map e }) (by
      intro info
      rw [hdetails]
      rfl)]
  rw [mapM_map (h := fun info => { info with details := info.details.map e }) (by
      intro info
      rw [hdetails]
      rfl)]
  rw [mapM_map (h := fun info => { info with lastHeartbeatDetails := info.lastHeartbeatDetails.map e }) (by
      intro info
      rw [hdetails]
      rfl)]
  rfl

/-- If single payloads and details objects are coded to their images under one mapping when they
are the images under another, then so are failures. -/
lemma codeFailure_mapWith (hs : ∀ p, code [s p] = .ok [t p])
    (hd : ∀ p, code (d p).toList = .ok (e p).toList) (he : ∀ p, (e p).payloads.isSome)
    (failure : Failure) : codeFailure code (failure.mapWith s d) = .ok (failure.mapWith t e) := by
  induction failure with
  | leaf fields =>
    have hattributes := codeOptionalSingle_map hs fields.encodedAttributes
    have hinfos := codeInfos_mapWith (s := s) hd he fields (fields.encodedAttributes.map t)
    rw [Failure.mapWith, codeFailure]
    simp only [FailureFields.mapWith] at hattributes hinfos ⊢
    rw [hattributes]
    simp only [bind, Except.bind]
    rw [hinfos]
    rfl
  | caused fields cause ih =>
    have hattributes := codeOptionalSingle_map hs fields.encodedAttributes
    have hinfos := codeInfos_mapWith (s := s) hd he fields (fields.encodedAttributes.map t)
    rw [Failure.mapWith, codeFailure]
    simp only [FailureFields.mapWith] at hattributes hinfos ih ⊢
    rw [hattributes]
    simp only [bind, Except.bind]
    rw [ih]
    simp only
    rw [hinfos]
    rfl

/-- A coding function that codes every list codes every payload of a failure. -/
theorem Codes.failure (h : Codes code m) (failure : Failure) :
    codeFailure code failure = .ok (failure.mapPayloads m) := by
  have hmap := codeFailure_mapWith (s := id) (t := m.single) (d := id)
    (e := fun details => ⟨some (m.list details.toList)⟩) h.single (fun p => h.list p.toList)
    (fun _ => rfl) failure
  rwa [failure.mapWith_id] at hmap

/-- A coding function that undoes a mapping of lists and of single payloads undoes it on failures. -/
theorem codeFailure_undo (hlist : ∀ payloads, code (m.list payloads) = .ok payloads)
    (hsingle : ∀ payload, code [m.single payload] = .ok [payload]) (failure : Failure) :
    codeFailure code (failure.mapPayloads m) = .ok failure.normalize := by
  apply codeFailure_mapWith hsingle
  · exact fun p => hlist p.toList
  · exact fun _ => rfl

lemma Codes.optional (h : Codes code m) (payloads : Option (List Payload)) :
    codeOptional code payloads = .ok (payloads.map m.list) := by
  cases payloads with
  | none => rfl
  | some payloads =>
    rw [codeOptional, Option.mapM_some, h.list]
    rfl

lemma Codes.optionalSingle (h : Codes code m) (payload : Option Payload) :
    codeOptionalSingle code payload = .ok (payload.map m.single) := by
  have hmap := codeOptionalSingle_map (s := id) h.single payload
  rwa [Option.map_id, id] at hmap

lemma Codes.optionalFailure (h : Codes code m) (failure : Option Failure) :
    codeOptionalFailure code failure = .ok (failure.map (Failure.mapPayloads m)) :=
  option_mapM_ok h.failure failure

end Coded

/-- `decode` undoes `encode` on every list of payloads. -/
def PayloadCodec.RoundTrips (codec : PayloadCodec) : Prop :=
  ∀ payloads, ∃ encoded, codec.encode payloads = .ok encoded ∧ codec.decode encoded = .ok payloads

/-- `encode` maps one-payload lists to one-payload lists. -/
def PayloadCodec.EncodesSingles (codec : PayloadCodec) : Prop :=
  ∀ payload, ∃ encoded, codec.encode [payload] = .ok [encoded]

section Records

variable {codecs : List PayloadCodec} {m : PayloadMap}

lemma list_mapM_ok {α β : Type} {f : α → Except JsError β} {g : α → β} (h : ∀ x, f x = .ok (g x))
    (xs : List α) : xs.mapM f = .ok (xs.map g) := by
  have hf : f = fun x => pure (g x) := funext h
  rw [hf, List.mapM_pure]
  rfl

lemma decodeOptionalMap_eq (h : Codes (decode codecs) m) (payloads : Option (PayloadRecord Payload)) :
    decodeOptionalMap codecs payloads =
      .ok (payloads.map (List.map fun (k, v) => (k, RecordValue.array [m.single v]))) := by
  apply option_mapM_ok
  apply list_mapM_ok
  intro (k, v)
  simp only [h.single]
  rfl

lemma encodeMap_eq (h : Codes (encode codecs) m) (map : Option (PayloadRecord Payload)) :
    encodeMap codecs map =
      .ok (map.map (List.map fun (k, v) => (k, RecordValue.payload (m.single v)))) := by
  apply option_mapM_ok
  apply list_mapM_ok
  intro (k, v)
  simp only [encodeSingle, codeSingle, h.single]
  rfl

end Records

lemma encode_decode {codecs : List PayloadCodec} (h : ∀ codec ∈ codecs, codec.RoundTrips)
    (payloads : List Payload) :
    ∃ encoded, encode codecs payloads = .ok encoded ∧ decode codecs encoded = .ok payloads :=
  Pipeline.feed_undo PayloadCodec.encode PayloadCodec.decode h payloads

/-- Codecs that round-trip code lists and single payloads, and decoding undoes both. -/
lemma exists_codes_undone {codecs : List PayloadCodec} (hround : ∀ codec ∈ codecs, codec.RoundTrips)
    (hsingle : ∀ codec ∈ codecs, codec.EncodesSingles) :
    ∃ m, Codes (encode codecs) m ∧ (∀ payloads, decode codecs (m.list payloads) = .ok payloads) ∧
      ∀ payload, decode codecs [m.single payload] = .ok [payload] := by
  have hkeeps : ∀ codec ∈ codecs, KeepsSingles codec.encode := by
    intro codec hmem
    refine ⟨fun payloads => ?_, hsingle codec hmem⟩
    obtain ⟨encoded, hencoded, -⟩ := hround codec hmem payloads
    exact ⟨encoded, hencoded⟩
  obtain ⟨m, hm⟩ := exists_codes_encode hkeeps
  have hback : ∀ payloads, decode codecs (m.list payloads) = .ok payloads := by
    intro payloads
    obtain ⟨encoded, hencoded, hdecoded⟩ := encode_decode hround payloads
    have he : m.list payloads = encoded := by
      simpa using (hm.list payloads).symm.trans hencoded
    rwa [he]
  refine ⟨m, hm, hback, fun payload => ?_⟩
  have he : m.list [payload] = [m.single payload] := by
    simpa using (hm.list [payload]).symm.trans (hm.single payload)
  rw [← he]
  exact hback [payload]

/-- Decoding an encoded failure gives the failure back. -/
theorem decodeFailure_encodeFailure (codecs : List PayloadCodec)
    (hround : ∀ codec ∈ codecs, codec.RoundTrips) (hsingle : ∀ codec ∈ codecs, codec.EncodesSingles)
    (failure : Failure) :
    ∃ encoded decoded, encodeFailure codecs failure = .ok encoded ∧
      decodeFailure codecs encoded = .ok decoded ∧ decoded.Same failure := by
  obtain ⟨m, hm, hlist, hpayload⟩ := exists_codes_undone hround hsingle
  refine ⟨_, _, hm.failure failure, codeFailure_undo hlist hpayload failure, ?_⟩
  exact failure.normalize_mapPayloads ⟨id, id⟩

/-- A codec that reverses the data of each payload -/
def reverseData : PayloadCodec :=
  let reverse := fun payloads : List Payload =>
    .ok (payloads.map fun payload => { payload with data := payload.data.reverse })
  ⟨reverse, reverse⟩

lemma reverseData_roundTrips : reverseData.RoundTrips := by
  intro payloads
  refine ⟨_, rfl, ?_⟩
  simp only [reverseData, List.map_map, Function.comp_def, List.reverse_reverse, List.map_id']

lemma reverseData_encodesSingles : reverseData.EncodesSingles := fun _ => ⟨_, rfl⟩

/-- An application failure with details, caused by a failure with encoded attributes -/
def nestedFailure : Failure :=
  .caused
    { FailureFields.empty with
      message := some "outer"
      applicationFailureInfo := some ⟨some "Error", some true, some ⟨some [⟨[], [1, 2]⟩, ⟨[], [3]⟩]⟩⟩ }
    (.leaf { FailureFields.empty with encodedAttributes := some ⟨[], [4, 5]⟩ })

theorem decodeFailure_encodeFailure_reverseData :
    ∃ encoded decoded, encodeFailure [reverseData] nestedFailure = .ok encoded ∧
      decodeFailure [reverseData] encoded = .ok decoded ∧ decoded.Same nestedFailure :=
  decodeFailure_encodeFailure [reverseData]
    (by simpa using reverseData_roundTrips) (by simpa using reverseData_encodesSingles) nestedFailure

end TemporalSdk
