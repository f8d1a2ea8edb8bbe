import TemporalSdk.Common.PayloadConversion

/-!
# Payloads in JSON

`fromProto3JSON` takes no `null` for bytes, so that the null data of payloads is removed first. The members
of an object stand in the order of their keys.
-/

namespace TemporalSdk

abbrev JsonMembers := List (JsString × JsonTree)

namespace JsonMembers

def metadataKey : JsString := JsString.ofAscii "metadata"

def dataKey : JsString := JsString.ofAscii "data"

/-- `'key' in members` -/
def has (members : JsonMembers) (key : JsString) : Bool := (members.lookup key).isSome

/-- `const { key: _, ...rest } = members` -/
def without (members : JsonMembers) (key : JsString) : JsonMembers := members.filter fun m => m.1 ≠ key

/-- `isPayload` of an object that is not an array -/
def isPayload (members : JsonMembers) : Bool := members.has metadataKey && members.has dataKey

/-- `members.data === null` -/
def dataIsNull (members : JsonMembers) : Bool := members.lookup dataKey matches some .null

end JsonMembers

open JsonMembers

mutual

def fixPayloads : JsonTree → JsonTree
  | .object members =>
    if isPayload members then
      if dataIsNull members then .object (without members dataKey) else .object members
    else .object (fixMembers members)
  | .array elements => .array (fixElements elements)
  | .null => .null
  | .bool b => .bool b
  | .number q => .number q
  | .string s => .string s

/-- `e.map(fixPayloads)` -/
def fixElements : List JsonTree → List JsonTree
  | [] => []
  | element :: elements => fixPayloads element :: fixElements elements

/-- `Object.fromEntries(Object.entries(e).map(([k, v]) => [k, fixPayloads(v)]))` -/
def fixMembers : JsonMembers → JsonMembers
  | [] => []
  | (key, value) :: members => (key, fixPayloads value) :: fixMembers members

end

/-! ### What the function is for -/

/-- An object with metadata and with data that is `null` -/
def JsonMembers.isNullPayload (members : JsonMembers) : Bool :=
  members.has metadataKey && members.dataIsNull

mutual

/-- The value without the data of any object that has metadata and null data. -/
def dropNullData : JsonTree → JsonTree
  | .object members =>
    .object (if isNullPayload members then without (dropFromMembers members) dataKey
      else dropFromMembers members)
  | .array elements => .array (dropFromElements elements)
  | .null => .null
  | .bool b => .bool b
  | .number q => .number q
  | .string s => .string s

def dropFromElements : List JsonTree → List JsonTree
  | [] => []
  | element :: elements => dropNullData element :: dropFromElements elements

def dropFromMembers : JsonMembers → JsonMembers
  | [] => []
  | (key, value) :: members => (key, dropNullData value) :: dropFromMembers members

end

namespace JsonTree

/-- A value, or one of its elements or members at any depth -/
inductive Within : JsonTree → JsonTree → Prop
  | self (t : JsonTree) : Within t t
  | element {t e : JsonTree} {elements : List JsonTree} (hmem : e ∈ elements) (h : Within t e) :
    Within t (.array elements)
  | member {t : JsonTree} {m : JsString × JsonTree} {members : JsonMembers} (hmem : m ∈ members)
    (h : Within t m.2) : Within t (.object members)

/-- No object has metadata and null data. -/
def NullFree (t : JsonTree) : Prop := ∀ members, Within (.object members) t → isNullPayload members = false

/-- The metadata of a payload are strings, and its data is a string or `null`. -/
structure PayloadFields (members : JsonMembers) : Prop where
  metadata : ∀ v, (metadataKey, v) ∈ members →
    ∃ strings : List (JsString × JsString), v = .object (strings.map fun m => (m.1, .string m.2))
  data : ∀ v, (dataKey, v) ∈ members → v = .null ∨ ∃ s, v = .string s

/-- There are no payloads with null data inside anything else that a payload has. -/
structure PayloadMembers (members : JsonMembers) : Prop extends PayloadFields members where
  others : ∀ m ∈ members, m.1 ≠ metadataKey → m.1 ≠ dataKey → NullFree m.2

def PayloadsWellFormed (t : JsonTree) : Prop :=
  ∀ members, Within (.object members) t → isPayload members = true → PayloadMembers members

/-! ### Induction over the values -/

/-- What holds of the leaves, of arrays of such values and of objects of such values holds of all. -/
@[elab_as_elim]
theorem induction {P : JsonTree → Prop} (null : P .null) (bool : ∀ b, P (.bool b)) (number : ∀ q, P (.number q))
    (string : ∀ s, P (.string s)) (array : ∀ elements, (∀ e ∈ elements, P e) → P (.array elements))
    (object : ∀ members : JsonMembers, (∀ m ∈ members, P m.2) → P (.object members)) : ∀ t, P t
  | .null => null
  | .bool b => bool b
  | .number q => number q
  | .string s => string s
  | .array elements => array elements fun e _ => induction null bool number string array object e
  | .object members => object members fun m _ => induction null bool number string array object m.2
termination_by t => sizeOf t
decreasing_by
  · have hlt := List.sizeOf_lt_of_mem ‹e ∈ elements›
    simp only [JsonTree.array.sizeOf_spec]
    omega
  · have hlt := List.sizeOf_lt_of_mem ‹m ∈ members›
    have hpair : sizeOf m = 1 + sizeOf m.1 + sizeOf m.2 := by cases m; rfl
    simp only [JsonTree.object.sizeOf_spec]
    omega

/-! ### Values without null data -/

lemma Within.trans {s t u : JsonTree} (hst : Within s t) (htu : Within t u) : Within s u := by
  induction htu with
  | self => exact hst
  | element hmem _ ih => exact .element hmem ih
  | member hmem _ ih => exact .member hmem ih

lemma NullFree.within {s t : JsonTree} (h : NullFree t) (hst : Within s t) : NullFree s :=
  fun members hmembers => h members (hmembers.trans hst)

lemma nullFree_array {elements : List JsonTree} : NullFree (.array elements) ↔ ∀ e ∈ elements, NullFree e := by
  constructor
  · exact fun h e he => h.within (.element he (.self e))
  · intro h members hmembers
    cases hmembers with
    | element hmem hwithin => exact h _ hmem members hwithin

lemma nullFree_object {members : JsonMembers} :
    NullFree (.object members) ↔ isNullPayload members = false ∧ ∀ m ∈ members, NullFree m.2 := by
  constructor
  · exact fun h => ⟨h members (.self _), fun m hm => h.within (.member hm (.self m.2))⟩
  · rintro ⟨hnull, h⟩ inner hinner
    cases hinner with
    | self => exact hnull
    | member hmem hwithin => exact h _ hmem inner hwithin

/-- A value that is no array and no object contains no payload. -/
lemma nullFree_leaf {t : JsonTree} (harray : ∀ elements, t ≠ .array elements)
    (hobject : ∀ members, t ≠ .object members) : NullFree t := by
  intro members h
  cases h with
  | self => exact absurd rfl (hobject members)
  | element => exact absurd rfl (harray _)
  | member => exact absurd rfl (hobject _)

end JsonTree

open JsonTree

lemma fixElements_eq_map (elements : List JsonTree) : fixElements elements = elements.map fixPayloads := by
  induction elements with
  | nil => rfl
  | cons e elements ih => rw [fixElements, ih, List.map_cons]

lemma fixMembers_eq_map (members : JsonMembers) :
    fixMembers members = members.map fun m => (m.1, fixPayloads m.2) := by
  induction members with
  | nil => rfl
  | cons m members ih => rw [fixMembers, ih, List.map_cons]

lemma dropFromElements_eq_map (elements : List JsonTree) :
    dropFromElements elements = elements.map dropNullData := by
  induction elements with
  | nil => rfl
  | cons e elements ih => rw [dropFromElements, ih, List.map_cons]

lemma dropFromMembers_eq_map (members : JsonMembers) :
    dropFromMembers members = members.map fun m => (m.1, dropNullData m.2) := by
  induction members with
  | nil => rfl
  | cons m members ih => rw [dropFromMembers, ih, List.map_cons]

namespace JsonMembers

variable {members : JsonMembers}

lemma lookup_map (f : JsonTree → JsonTree) (key : JsString) (members : JsonMembers) :
    (members.map fun m => (m.1, f m.2)).lookup key = (members.lookup key).map f := by
  induction members with
  | nil => rfl
  | cons m members ih =>
    rw [List.map_cons, List.lookup_cons, List.lookup_cons]
    split
    · rfl
    · exact ih

lemma has_map (f : JsonTree → JsonTree) (key : JsString) (members : JsonMembers) :
    JsonMembers.has (members.map fun m => (m.1, f m.2)) key = members.has key := by
  rw [has, lookup_map, Option.isSome_map]
  rfl

lemma lookup_without (key : JsString) (members : JsonMembers) : (members.without key).lookup key = none := by
  rw [List.lookup_eq_none_iff]
  intro m hm
  have hne := of_decide_eq_true (List.mem_filter.mp hm).2
  simpa using fun h => hne h.symm

/-- A function that gives `null` for `null` only does not change whether the data is `null`. -/
lemma isNullPayload_map {f : JsonTree → JsonTree} (hf : ∀ t, f t = .null ↔ t = .null) (members : JsonMembers) :
    isNullPayload (members.map fun m => (m.1, f m.2)) = members.isNullPayload := by
  rw [isNullPayload, isNullPayload, has_map, dataIsNull, dataIsNull, lookup_map]
  congr 1
  cases hdata : members.lookup dataKey with
  | none => rfl
  | some v =>
    by_cases hv : v = .null
    · rw [hv, Option.map_some, (hf _).mpr rfl]
    · have hfv : f v ≠ .null := fun h => hv ((hf v).mp h)
      rw [Option.map_some]
      split <;> split <;> simp_all

lemma isPayload_of_isNullPayload (h : members.isNullPayload = true) : members.isPayload = true := by
  obtain ⟨hmetadata, hdata⟩ := Bool.and_eq_true_iff.mp h
  refine Bool.and_eq_true_iff.mpr ⟨hmetadata, ?_⟩
  unfold dataIsNull at hdata
  unfold has
  split at hdata
  · rename_i hlookup
    rw [hlookup]
    rfl
  · cases hdata

end JsonMembers

lemma dropNullData_eq_null_iff (t : JsonTree) : dropNullData t = .null ↔ t = .null := by
  cases t <;> simp [dropNullData]

/-- Nothing with null data is left. -/
lemma nullFree_dropNullData (t : JsonTree) : NullFree (dropNullData t) := by
  induction t using JsonTree.induction with
  | array elements ih =>
    rw [dropNullData, dropFromElements_eq_map, nullFree_array]
    intro e he
    obtain ⟨e', he', rfl⟩ := List.mem_map.mp he
    exact ih e' he'
  | object members ih =>
    have hmembers : ∀ m ∈ dropFromMembers members, NullFree m.2 := by
      rw [dropFromMembers_eq_map]
      intro m hm
      obtain ⟨m', hm', rfl⟩ := List.mem_map.mp hm
      exact ih m' hm'
    rw [dropNullData]
    split
    · refine nullFree_object.mpr ⟨?_, fun m hm => hmembers m (List.mem_filter.mp hm).1⟩
      rw [isNullPayload, dataIsNull, lookup_without, Bool.and_false]
    · rename_i hnull
      refine nullFree_object.mpr ⟨?_, hmembers⟩
      rw [dropFromMembers_eq_map, isNullPayload_map dropNullData_eq_null_iff]
      exact Bool.eq_false_of_not_eq_true hnull
  | _ => exact nullFree_leaf (by simp [dropNullData]) (by simp [dropNullData])

lemma map_eq_self_of_nullFree {f : JsonTree → JsonTree} {members : JsonMembers}
    (h : ∀ m ∈ members, f m.2 = m.2) : (members.map fun m => (m.1, f m.2)) = members := by
  refine (List.map_congr_left fun m hm => ?_).trans (List.map_id _)
  rw [h m hm]
  rfl

lemma dropNullData_of_nullFree {t : JsonTree} (h : NullFree t) : dropNullData t = t := by
  induction t using JsonTree.induction with
  | array elements ih =>
    rw [nullFree_array] at h
    rw [dropNullData, dropFromElements_eq_map]
    exact congrArg _ ((List.map_congr_left fun e he => ih e he (h e he)).trans (List.map_id _))
  | object members ih =>
    obtain ⟨hnull, h⟩ := nullFree_object.mp h
    rw [dropNullData, hnull, dropFromMembers_eq_map, map_eq_self_of_nullFree fun m hm => ih m hm (h m hm)]
    rfl
  | _ => rfl

lemma fixPayloads_of_nullFree {t : JsonTree} (h : NullFree t) : fixPayloads t = t := by
  induction t using JsonTree.induction with
  | array elements ih =>
    rw [nullFree_array] at h
    rw [fixPayloads, fixElements_eq_map]
    exact congrArg _ ((List.map_congr_left fun e he => ih e he (h e he)).trans (List.map_id _))
  | object members ih =>
    obtain ⟨hnull, h⟩ := nullFree_object.mp h
    rw [fixPayloads]
    split
    · rename_i hpayload
      have hdata : dataIsNull members = false := by
        have hmetadata := (Bool.and_eq_true_iff.mp hpayload).1
        rwa [isNullPayload, hmetadata, Bool.true_and] at hnull
      rw [hdata]
      rfl
    · rw [fixMembers_eq_map, map_eq_self_of_nullFree fun m hm => ih m hm (h m hm)]
  | _ => rfl

/-! ### Well-formed payloads -/

namespace JsonTree

lemma PayloadsWellFormed.within {s t : JsonTree} (h : PayloadsWellFormed t) (hst : Within s t) :
    PayloadsWellFormed s :=
  fun members hmembers => h members (hmembers.trans hst)

lemma nullFree_string (s : JsString) : NullFree (.string s) := nullFree_leaf (by simp) (by simp)

/-- There are no payloads inside a payload, but for those that have their data. -/
lemma PayloadMembers.nullFree {members : JsonMembers} (h : PayloadMembers members) {m : JsString × JsonTree}
    (hm : m ∈ members) : NullFree m.2 := by
  by_cases hmetadata : m.1 = metadataKey
  · obtain ⟨strings, hstrings⟩ := h.metadata m.2 (hmetadata ▸ hm)
    rw [hstrings, nullFree_object]
    refine ⟨?_, fun m' hm' => ?_⟩
    · rw [isNullPayload, Bool.and_eq_false_iff]
      right
      unfold dataIsNull
      split
      · rename_i hlookup
        have hmem := List.lookup_eq_some_iff.mp hlookup
        obtain ⟨l₁, l₂, heq, -⟩ := hmem
        have hnull : (dataKey, JsonTree.null) ∈ strings.map fun m => (m.1, JsonTree.string m.2) := by
          rw [heq]
          simp
        obtain ⟨_, -, hpair⟩ := List.mem_map.mp hnull
        exact absurd (Prod.mk.inj hpair).2 (by simp)
      · rfl
    · obtain ⟨_, -, rfl⟩ := List.mem_map.mp hm'
      exact nullFree_string _
  · by_cases hdata : m.1 = dataKey
    · rcases h.data m.2 (hdata ▸ hm) with hnull | ⟨s, hs⟩
      · rw [hnull]
        exact nullFree_leaf (by simp) (by simp)
      · rw [hs]
        exact nullFree_string s
    · exact h.others m hm hmetadata hdata

end JsonTree

lemma fixPayloads_eq_dropNullData {t : JsonTree} (h : PayloadsWellFormed t) :
    fixPayloads t = dropNullData t := by
  induction t using JsonTree.induction with
  | array elements ih =>
    rw [fixPayloads, dropNullData, fixElements_eq_map, dropFromElements_eq_map]
    exact congrArg _ (List.map_congr_left fun e he => ih e he (h.within (.element he (.self e))))
  | object members ih =>
    rw [fixPayloads, dropNullData]
    split
    · rename_i hpayload
      have hmembers := h members (.self _) hpayload
      have hdrop : dropFromMembers members = members := by
        rw [dropFromMembers_eq_map]
        exact map_eq_self_of_nullFree fun m hm => dropNullData_of_nullFree (hmembers.nullFree hm)
      have hmetadata := (Bool.and_eq_true_iff.mp hpayload).1
      rw [hdrop, isNullPayload, hmetadata, Bool.true_and]
      split <;> rfl
    · rename_i hpayload
      have hnull : isNullPayload members = false := by
        by_contra hnull
        exact hpayload (isPayload_of_isNullPayload (Bool.eq_true_of_not_eq_false hnull))
      rw [hnull, fixMembers_eq_map, dropFromMembers_eq_map]
      exact congrArg _ (List.map_congr_left fun m hm =>
        congrArg (Prod.mk m.1) (ih m hm (h.within (.member hm (.self m.2)))))
  | _ => rfl

/-- Where payloads are well formed, exactly their null data is removed, at every depth, and nothing changes
when it is done again. -/
theorem fixPayloads_removes_nullData (t : JsonTree) (h : PayloadsWellFormed t) :
    NullFree (fixPayloads t) ∧ fixPayloads t = dropNullData t ∧ fixPayloads (fixPayloads t) = fixPayloads t := by
  have heq := fixPayloads_eq_dropNullData h
  have hfree : NullFree (fixPayloads t) := heq ▸ nullFree_dropNullData t
  exact ⟨hfree, heq, fixPayloads_of_nullFree hfree⟩

def nullPayload : JsonTree := .object [(metadataKey, .object []), (dataKey, .null)]

lemma payloadFields_empty {data : JsonTree} (hdata : data = .null ∨ ∃ s, data = .string s) {rest : JsonMembers}
    (hrest : ∀ m ∈ rest, m.1 ≠ metadataKey ∧ m.1 ≠ dataKey) :
    PayloadFields ((metadataKey, .object []) :: (dataKey, data) :: rest) where
  metadata v hv := by
    rcases List.mem_cons.mp hv with hv | hv
    · exact ⟨[], (Prod.mk.inj hv).2⟩
    · rcases List.mem_cons.mp hv with hv | hv
      · exact absurd (Prod.mk.inj hv).1 (by decide)
      · exact absurd rfl (hrest _ hv).1
  data v hv := by
    rcases List.mem_cons.mp hv with hv | hv
    · exact absurd (Prod.mk.inj hv).1 (by decide)
    · rcases List.mem_cons.mp hv with hv | hv
      · exact (Prod.mk.inj hv).2 ▸ hdata
      · exact absurd rfl (hrest _ hv).2

lemma within_nullPayload {members : JsonMembers} (h : Within (.object members) nullPayload)
    (hpayload : isPayload members = true) : members = [(metadataKey, .object []), (dataKey, .null)] := by
  cases h with
  | self => rfl
  | member hmem hwithin =>
    rcases List.mem_cons.mp hmem with rfl | hmem
    · cases hwithin with
      | self => cases hpayload
      | member hmem _ => cases hmem
    · obtain rfl := List.mem_singleton.mp hmem
      cases hwithin

/-- An array of a payload with null data -/
theorem fixPayloads_removes_nullData_array :
    PayloadsWellFormed (.array [nullPayload]) ∧ NullFree (fixPayloads (.array [nullPayload])) := by
  have hwf : PayloadsWellFormed (.array [nullPayload]) := by
    intro members hmembers hpayload
    cases hmembers with
    | element hmem hwithin =>
      obtain rfl := List.mem_singleton.mp hmem
      rw [within_nullPayload hwithin hpayload]
      refine ⟨payloadFields_empty (.inl rfl) (by simp), fun m hm hmetadata hdata => ?_⟩
      rcases List.mem_cons.mp hm with rfl | hm
      · exact absurd rfl hmetadata
      · obtain rfl := List.mem_singleton.mp hm
        exact absurd rfl hdata
  exact ⟨hwf, (fixPayloads_removes_nullData _ hwf).1⟩

/-- A payload with a further member, in which there is a payload with null data -/
def payloadInPayload (data : JsonTree) : JsonTree :=
  .object [(metadataKey, .object []), (dataKey, data), (JsString.ofAscii "extra", nullPayload)]

lemma payloadFields_of_within {data : JsonTree} (hdata : data = .null ∨ ∃ s, data = .string s)
    {members : JsonMembers} (h : Within (.object members) (payloadInPayload data))
    (hpayload : isPayload members = true) : PayloadFields members := by
  cases h with
  | self => exact payloadFields_empty hdata (by decide)
  | member hmem hwithin =>
    rcases List.mem_cons.mp hmem with rfl | hmem
    · cases hwithin with
      | self => cases hpayload
      | member hmem _ => cases hmem
    · rcases List.mem_cons.mp hmem with rfl | hmem
      · rcases hdata with rfl | ⟨s, rfl⟩ <;> cases hwithin
      · obtain rfl := List.mem_singleton.mp hmem
        rw [within_nullPayload hwithin hpayload]
        exact payloadFields_empty (.inl rfl) (by simp)

/-- The payload is left as it is, the null data inside it too. When its own data is removed, the null data
inside it goes the next time. -/
theorem not_nullFree_payloadInPayload :
    ((∀ members, Within (.object members) (payloadInPayload (.string [])) → isPayload members = true →
        PayloadFields members) ∧ ¬NullFree (fixPayloads (payloadInPayload (.string [])))) ∧
      (∀ members, Within (.object members) (payloadInPayload .null) → isPayload members = true →
        PayloadFields members) ∧
      fixPayloads (fixPayloads (payloadInPayload .null)) ≠ fixPayloads (payloadInPayload .null) := by
  refine ⟨⟨fun _ => payloadFields_of_within (.inr ⟨[], rfl⟩), fun h => ?_⟩,
    fun _ => payloadFields_of_within (.inl rfl), fun h => ?_⟩
  · have hsame : fixPayloads (payloadInPayload (.string [])) = payloadInPayload (.string []) := rfl
    rw [hsame] at h
    have hwithin : Within nullPayload (payloadInPayload (.string [])) :=
      .member (m := (JsString.ofAscii "extra", nullPayload)) (by simp) (.self _)
    exact absurd (h _ hwithin) (by decide)
  · have honce : fixPayloads (payloadInPayload .null) =
        .object [(metadataKey, .object []), (JsString.ofAscii "extra", nullPayload)] := rfl
    have htwice : fixPayloads (.object [(metadataKey, .object []), (JsString.ofAscii "extra", nullPayload)]) =
        .object [(metadataKey, .object []), (JsString.ofAscii "extra", .object [(metadataKey, .object [])])] := rfl
    rw [honce, htwice] at h
    simp [nullPayload] at h

end TemporalSdk
