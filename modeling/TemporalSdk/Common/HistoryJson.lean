import TemporalSdk.Common.JsonPayloads

/-!
# Histories in JSON

Histories that other tools have written may name the values of enums in Pascal case; `fixHistory` writes
them as `fromProto3JSON` needs them. Objects are lists of members with different keys.
-/

namespace TemporalSdk

/-- What is used of the language -/
structure HistoryText where
  toUpperCase : JsString → JsString
  stringify : JsonTree → String

def isCapital (u : UInt16) : Bool := 65 ≤ u && u ≤ 90

def isLowerCase (u : UInt16) : Bool := 97 ≤ u && u ≤ 122

def asciiUpperCase (u : UInt16) : UInt16 := if isLowerCase u then u - 32 else u

/-- `toUpperCase` takes ASCII text letter by letter. -/
structure HistoryText.Documented (text : HistoryText) : Prop where
  toUpperCase : ∀ s : JsString, (∀ u ∈ s, u < 128) → text.toUpperCase s = s.map asciiUpperCase

open JsonMembers JsonTree

variable (text : HistoryText)

/-- `s.replace(/[^\b][A-Z]/g, ...)`, where `\b` is the backspace -/
def separateCapitals : JsString → JsString
  | a :: b :: rest =>
    if a ≠ 8 ∧ isCapital b then a :: 95 :: b :: separateCapitals rest else a :: separateCapitals (b :: rest)
  | s => s

def pascalCaseToConstantCase (s : JsString) : JsString := text.toUpperCase (separateCapitals s)

def JsonTree.truthy : JsonTree → Bool
  | .null => false
  | .bool b => b
  | .number q => q ≠ 0
  | .string s => s ≠ []
  | .array _ | .object _ => true

namespace JsonMembers

/-- The own enumerable properties of a value -/
def ofTree : JsonTree → JsonMembers
  | .object members => members
  | .array elements => elements.zipIdx.map fun (e, i) => (JsString.ofAscii (toString i), e)
  | .string s => s.zipIdx.map fun (u, i) => (JsString.ofAscii (toString i), .string [u])
  | _ => []

/-- One member of `{ ...members, [key]: value }` -/
def assign (members : JsonMembers) (m : JsString × JsonTree) : JsonMembers :=
  if members.has m.1 then members.map fun m' => if m'.1 = m.1 then m else m' else members ++ [m]

/-- `{ ...members, ...others }` -/
def spread (members others : JsonMembers) : JsonMembers := others.foldl assign members

end JsonMembers

namespace HistoryKey

def events : JsString := JsString.ofAscii "events"
def eventType : JsString := JsString.ofAscii "eventType"
def taskQueue : JsString := JsString.ofAscii "taskQueue"
def kind : JsString := JsString.ofAscii "kind"
def parentClosePolicy : JsString := JsString.ofAscii "parentClosePolicy"
def workflowIdReusePolicy : JsString := JsString.ofAscii "workflowIdReusePolicy"
def initiator : JsString := JsString.ofAscii "initiator"
def retryState : JsString := JsString.ofAscii "retryState"
def childWorkflowExecutionFailureInfo : JsString := JsString.ofAscii "childWorkflowExecutionFailureInfo"

/-- `k.endsWith('EventAttributes')` -/
def isAttributes (key : JsString) : Bool := (JsString.ofAscii "EventAttributes").isSuffixOf key

end HistoryKey

/-- The constant that the names of an enum begin with -/
inductive EnumType
  | eventType
  | taskQueueKind
  | parentClosePolicy
  | workflowIdReusePolicy
  | continueAsNewInitiator
  | retryState
deriving DecidableEq

def EnumType.constant : EnumType → JsString
  | eventType => JsString.ofAscii "EVENT_TYPE"
  | taskQueueKind => JsString.ofAscii "TASK_QUEUE_KIND"
  | parentClosePolicy => JsString.ofAscii "PARENT_CLOSE_POLICY"
  | workflowIdReusePolicy => JsString.ofAscii "WORKFLOW_ID_REUSE_POLICY"
  | continueAsNewInitiator => JsString.ofAscii "CONTINUE_AS_NEW_INITIATOR"
  | retryState => JsString.ofAscii "RETRY_STATE"

/-- The name that `fixEnumValue` gives a value that is a string -/
def fixEnumName (type : EnumType) (s : JsString) : JsString :=
  if type.constant.isPrefixOf s then s else type.constant ++ 95 :: pascalCaseToConstantCase text s

/-- What is spread over an object to fix one of its members -/
def fixEnumValue (obj : JsonMembers) (attr : JsString) (type : EnumType) : Except JsError JsonMembers :=
  match obj.lookup attr with
  | none => .ok []
  | some (.string s) => if s = [] then .ok [] else .ok [(attr, .string (fixEnumName text type s))]
  | some value =>
    if value.truthy then .error (.typeError "obj[attr].startsWith is not a function") else .ok []

/-- `obj[key] && { [key]: { ...obj[key], ...fixEnumValue(obj[key], attr, constant) } }` -/
def fixNestedEnumValue (obj : JsonMembers) (key attr : JsString) (type : EnumType) :
    Except JsError JsonMembers :=
  match obj.lookup key with
  | none => .ok []
  | some value =>
    if value.truthy then do
      let fixed ← fixEnumValue text (.ofTree value) attr type
      return [(key, .object ((JsonMembers.ofTree value).spread fixed))]
    else .ok []

/-- The attributes of an event -/
def fixAttributes (attributes : JsonTree) : Except JsError JsonMembers := do
  if attributes matches .null then
    throw (.typeError "Cannot read properties of null (reading 'taskQueue')")
  let members := JsonMembers.ofTree attributes
  let taskQueue ← fixNestedEnumValue text members HistoryKey.taskQueue HistoryKey.kind .taskQueueKind
  let parentClosePolicy ← fixEnumValue text members HistoryKey.parentClosePolicy .parentClosePolicy
  let workflowIdReusePolicy ← fixEnumValue text members HistoryKey.workflowIdReusePolicy .workflowIdReusePolicy
  let initiator ← fixEnumValue text members HistoryKey.initiator .continueAsNewInitiator
  let retryState ← fixEnumValue text members HistoryKey.retryState .retryState
  let childWorkflowExecutionFailureInfo ← fixNestedEnumValue text members
    HistoryKey.childWorkflowExecutionFailureInfo HistoryKey.retryState .retryState
  return [taskQueue, parentClosePolicy, workflowIdReusePolicy, initiator, retryState,
    childWorkflowExecutionFailureInfo].foldl JsonMembers.spread members

def fixHistoryEvent (e : JsonTree) : Except JsError JsonTree := do
  if e matches .null then throw (.typeError "Cannot convert undefined or null to object")
  match (JsonMembers.ofTree e).find? fun m => HistoryKey.isAttributes m.1 with
  | none => throw (.typeError ("Missing attributes in history event: " ++ text.stringify e))
  | some (type, _) =>
    let members := JsonMembers.ofTree (fixPayloads e)
    let eventType ← fixEnumValue text members HistoryKey.eventType .eventType
    let attributes ← fixAttributes text ((members.lookup type).getD .null)
    return .object ((members.spread eventType).spread [(type, .object attributes)])

def fixHistory (h : JsonMembers) : Except JsError JsonMembers :=
  match h.lookup HistoryKey.events with
  | some (.array events) => do return [(HistoryKey.events, .array (← events.mapM (fixHistoryEvent text)))]
  | _ => .error (.typeError "h.events.map is not a function")

/-- `historyFromJSON`, where `fromProto3JSON` may give `null` -/
def historyFromJSON {H : Type} (fromProto3JSON : JsonMembers → Except JsError (Option H)) (history : JsonTree) :
    Except JsError H := do
  match history with
  | .object h =>
    if !(h.lookup HistoryKey.events matches some (.array _)) then
      throw (.typeError "Invalid history, expected an object with an array of events")
    match ← fromProto3JSON (← fixHistory text h) with
    | some loaded => return loaded
    | none => throw (.typeError "Invalid history")
  | _ => throw (.typeError "Invalid history, expected an object with an array of events")

/-! ### What the function is for -/

/-- The words of a name in Pascal case -/
def splitWords : JsString → List JsString
  | [] => []
  | u :: rest =>
    match splitWords rest with
    | (v :: word) :: words => if isCapital v then [u] :: (v :: word) :: words else (u :: v :: word) :: words
    | _ => [[u]]

/-- The name in constant case, with the constant of its enum before it, unless that is there already -/
def constantName (type : EnumType) (s : JsString) : JsString :=
  if type.constant.isPrefixOf s then s
  else type.constant ++ 95 :: List.intercalate [95] ((splitWords s).map (·.map asciiUpperCase))

/-- A value of an enum that is a string -/
def enumValue (name : JsString → JsString) : JsonTree → JsonTree
  | .string s => .string (name s)
  | value => value

/-- The members with other values -/
def mapMembers (f : JsString → JsonTree → JsonTree) (members : JsonMembers) : JsonMembers :=
  members.map fun m => (m.1, f m.1 m.2)

def onMembers (f : JsonMembers → JsonMembers) : JsonTree → JsonTree
  | .object members => .object (f members)
  | value => value

/-- A member that is a retry state -/
def nameRetryState (key : JsString) (value : JsonTree) : JsonTree :=
  if key = HistoryKey.retryState then enumValue (constantName .retryState) value else value

mutual

/-- All retry states outside payloads, with the payloads fixed -/
def nameRetryStates : JsonTree → JsonTree
  | .object members =>
    if isPayload members then fixPayloads (.object members) else .object (nameInMembers members)
  | .array elements => .array (nameInElements elements)
  | .null => .null
  | .bool b => .bool b
  | .number q => .number q
  | .string s => .string s

def nameInElements : List JsonTree → List JsonTree
  | [] => []
  | element :: elements => nameRetryStates element :: nameInElements elements

def nameInMembers : JsonMembers → JsonMembers
  | [] => []
  | (key, value) :: members => (key, nameRetryState key (nameRetryStates value)) :: nameInMembers members

end

/-- The other enums in the attributes of an event -/
def nameInAttributes (key : JsString) (value : JsonTree) : JsonTree :=
  if key = HistoryKey.initiator then enumValue (constantName .continueAsNewInitiator) value
  else if key = HistoryKey.workflowIdReusePolicy then enumValue (constantName .workflowIdReusePolicy) value
  else if key = HistoryKey.parentClosePolicy then enumValue (constantName .parentClosePolicy) value
  else if key = HistoryKey.taskQueue then
    onMembers (mapMembers fun key value =>
      if key = HistoryKey.kind then enumValue (constantName .taskQueueKind) value else value) value
  else value

def nameInEvent (type key : JsString) (value : JsonTree) : JsonTree :=
  if key = type then onMembers (mapMembers nameInAttributes) value
  else if key = HistoryKey.eventType then enumValue (constantName .eventType) value else value

/-- The event as `fromProto3JSON` needs it, where `type` is the key of its attributes -/
def normalizeEvent (type : JsString) (members : JsonMembers) : JsonMembers :=
  mapMembers (nameInEvent type) (nameInMembers members)

/-! ### Histories -/

/-- A capital, and letters that are not -/
def IsPascalWord (word : JsString) : Prop :=
  ∃ c rest, word = c :: rest ∧ isCapital c = true ∧ rest ≠ [] ∧ ∀ u ∈ rest, isLowerCase u = true

/-- The name of a value of an enum, in either way of writing it -/
inductive EnumText (type : EnumType) : JsString → Prop
  | constant (rest : JsString) : EnumText type (type.constant ++ 95 :: rest)
  | pascal (words : List JsString) (hne : words ≠ []) (hwords : ∀ word ∈ words, IsPascalWord word) :
    EnumText type words.flatten

/-- A member that is an enum is the name of one of its values. -/
def EnumMember (members : JsonMembers) (key : JsString) (type : EnumType) : Prop :=
  ∀ value, (key, value) ∈ members → ∃ s, value = .string s ∧ EnumText type s

/-- A member that is `null`, or an object and no payload -/
def ObjectMember (members : JsonMembers) (key : JsString) : Prop :=
  ∀ value, (key, value) ∈ members → value = .null ∨ ∃ inner, value = .object inner ∧ isPayload inner = false

/-- A value, or one in it that is not inside a payload -/
inductive Reached : JsonTree → JsonTree → Prop
  | self (t : JsonTree) : Reached t t
  | element {t e : JsonTree} {elements : List JsonTree} (hmem : e ∈ elements) (h : Reached t e) :
    Reached t (.array elements)
  | member {t : JsonTree} {m : JsString × JsonTree} {members : JsonMembers} (hpayload : isPayload members = false)
    (hmem : m ∈ members) (h : Reached t m.2) : Reached t (.object members)

/-- A payload whose data is `null` has no others in it. -/
def NullDataAlone (t : JsonTree) : Prop :=
  ∀ inner, Reached (.object inner) t → isNullPayload inner = true → ∀ m ∈ inner, m.1 ≠ dataKey → NullFree m.2

/-- An event of a history with its attributes, where the enums are absent or named and keys are different -/
structure IsHistoryEvent (members : JsonMembers) (type : JsString) (attributes : JsonMembers) : Prop where
  find : members.find? (fun m => HistoryKey.isAttributes m.1) = some (type, .object attributes)
  nodup : ∀ inner, Within (.object inner) (.object members) → (inner.map Prod.fst).Nodup
  notPayload : isPayload members = false
  attributesNotPayload : isPayload attributes = false
  eventType : EnumMember members HistoryKey.eventType .eventType
  parentClosePolicy : EnumMember attributes HistoryKey.parentClosePolicy .parentClosePolicy
  workflowIdReusePolicy : EnumMember attributes HistoryKey.workflowIdReusePolicy .workflowIdReusePolicy
  initiator : EnumMember attributes HistoryKey.initiator .continueAsNewInitiator
  taskQueue : ObjectMember attributes HistoryKey.taskQueue
  kind : ∀ inner, (HistoryKey.taskQueue, .object inner) ∈ attributes →
    EnumMember inner HistoryKey.kind .taskQueueKind
  childInfo : ObjectMember attributes HistoryKey.childWorkflowExecutionFailureInfo
  retryState : ∀ inner, Reached (.object inner) (.object members) → isPayload inner = false →
    EnumMember inner HistoryKey.retryState .retryState
  nullData : NullDataAlone (.object members)

/-- The retry states in the value have their prefix already. -/
def RetryStatesPrefixed (t : JsonTree) : Prop :=
  ∀ inner, Reached (.object inner) t → isPayload inner = false → ∀ s, (HistoryKey.retryState, .string s) ∈ inner →
    EnumType.retryState.constant.isPrefixOf s = true

def MemberPrefixed (m : JsString × JsonTree) : Prop :=
  (m.1 = HistoryKey.retryState → ∀ s, m.2 = .string s → EnumType.retryState.constant.isPrefixOf s = true) ∧
    RetryStatesPrefixed m.2

/-- A retry state without its prefix is a member of the attributes, or of a failure info that is. -/
structure RetryStatesFound (members : JsonMembers) (type : JsString) (attributes : JsonMembers) : Prop where
  inEvent : ∀ m ∈ members, m.1 ≠ type → MemberPrefixed m
  inAttributes : ∀ m ∈ attributes, m.1 ≠ HistoryKey.retryState →
    m.1 ≠ HistoryKey.childWorkflowExecutionFailureInfo → MemberPrefixed m
  inChildInfo : ∀ inner, (HistoryKey.childWorkflowExecutionFailureInfo, JsonTree.object inner) ∈ attributes →
    ∀ m ∈ inner, m.1 ≠ HistoryKey.retryState → MemberPrefixed m

/-! ### Words -/

lemma isCapital_of_isLowerCase {u : UInt16} (h : isLowerCase u = true) : isCapital u = false := by
  simp only [isLowerCase, Bool.and_eq_true, decide_eq_true_eq] at h
  simp only [isCapital, Bool.and_eq_false_iff, decide_eq_false_iff_not]
  exact .inr (by simp only [UInt16.le_iff_toNat_le] at h ⊢; simp at h ⊢; omega)

lemma ne_backspace_of_isLowerCase {u : UInt16} (h : isLowerCase u = true) : u ≠ 8 := by
  rintro rfl
  simp [isLowerCase] at h

lemma ascii_of_isLowerCase {u : UInt16} (h : isLowerCase u = true) : u < 128 := by
  simp only [isLowerCase, Bool.and_eq_true, decide_eq_true_eq] at h
  simp only [UInt16.le_iff_toNat_le, UInt16.lt_iff_toNat_lt] at h ⊢
  simp at h ⊢
  omega

lemma ascii_of_isCapital {u : UInt16} (h : isCapital u = true) : u < 128 := by
  simp only [isCapital, Bool.and_eq_true, decide_eq_true_eq] at h
  simp only [UInt16.le_iff_toNat_le, UInt16.lt_iff_toNat_lt] at h ⊢
  simp at h ⊢
  omega

/-- After the letters of a word that are not capitals, each further word is separated. -/
lemma separateCapitals_append {rest : JsString} {words : List JsString} (hne : rest ≠ [])
    (hrest : ∀ u ∈ rest, isLowerCase u = true) (hwords : ∀ word ∈ words, IsPascalWord word) :
    separateCapitals (rest ++ words.flatten) = rest ++ words.flatMap (95 :: ·) := by
  induction words generalizing rest with
  | nil =>
    simp only [List.flatten_nil, List.flatMap_nil, List.append_nil]
    induction rest with
    | nil => exact absurd rfl hne
    | cons u rest ih =>
      cases rest with
      | nil => rfl
      | cons v rest =>
        have hv := isCapital_of_isLowerCase (hrest v (by simp))
        rw [separateCapitals, if_neg (by simp [hv]), ih (by simp) fun w hw => hrest w (List.mem_cons_of_mem _ hw)]
  | cons word words ih =>
    obtain ⟨c, lower, rfl, hc, hlower, hall⟩ := hwords word (List.mem_cons_self ..)
    have hwords' : ∀ word ∈ words, IsPascalWord word := fun w hw => hwords w (List.mem_cons_of_mem _ hw)
    induction rest with
    | nil => exact absurd rfl hne
    | cons u rest ihrest =>
      cases rest with
      | nil =>
        have hu := ne_backspace_of_isLowerCase (hrest u (by simp))
        simp only [List.flatten_cons, List.cons_append, List.nil_append, List.flatMap_cons]
        rw [separateCapitals, if_pos ⟨hu, hc⟩, ih hlower hall hwords']
      | cons v rest =>
        have hv := isCapital_of_isLowerCase (hrest v (by simp))
        have htail := ihrest (by simp) fun w hw => hrest w (List.mem_cons_of_mem _ hw)
        rw [List.cons_append, List.cons_append, separateCapitals, if_neg (by simp [hv]), ← List.cons_append, htail]
        rfl

lemma intercalate_cons_eq (word : JsString) (words : List JsString) :
    List.intercalate [95] (word :: words) = word ++ words.flatMap (95 :: ·) := by
  induction words generalizing word with
  | nil => simp [List.intercalate]
  | cons w words ih =>
    rw [List.intercalate_cons_cons, ih]
    simp

lemma separateCapitals_flatten {words : List JsString} (hwords : ∀ word ∈ words, IsPascalWord word) :
    separateCapitals words.flatten = List.intercalate [95] words := by
  cases words with
  | nil => rfl
  | cons word words =>
    obtain ⟨c, lower, rfl, -, hlower, hall⟩ := hwords word (List.mem_cons_self ..)
    rw [intercalate_cons_eq, List.flatten_cons]
    have htail := separateCapitals_append hlower hall fun w hw => hwords w (List.mem_cons_of_mem _ hw)
    obtain ⟨u, rest, rfl⟩ := List.exists_cons_of_ne_nil hlower
    have hu := isCapital_of_isLowerCase (hall u (by simp))
    rw [List.cons_append, List.cons_append, separateCapitals, if_neg (by simp [hu]), ← List.cons_append, htail]
    rfl

lemma splitWords_lower {rest : JsString} {words : List JsString} (hrest : ∀ u ∈ rest, isLowerCase u = true)
    {s : JsString} (hs : splitWords s = words) (hwords : ∀ word ∈ words, IsPascalWord word) (hne : rest ≠ []) :
    splitWords (rest ++ s) = rest :: words := by
  induction rest with
  | nil => exact absurd rfl hne
  | cons u rest ih =>
    cases rest with
    | nil =>
      rw [List.cons_append, List.nil_append, splitWords, hs]
      cases words with
      | nil => rfl
      | cons word words =>
        obtain ⟨c, lower, rfl, hc, -⟩ := hwords word (List.mem_cons_self ..)
        simp only [hc, if_true]
    | cons v rest =>
      have hv := isCapital_of_isLowerCase (hrest v (by simp))
      rw [List.cons_append, splitWords, ih (fun w hw => hrest w (List.mem_cons_of_mem _ hw)) (by simp)]
      simp [hv]

/-- A name in Pascal case is split into its words. -/
lemma splitWords_flatten {words : List JsString} (hwords : ∀ word ∈ words, IsPascalWord word) :
    splitWords words.flatten = words := by
  induction words with
  | nil => rfl
  | cons word words ih =>
    obtain ⟨c, lower, rfl, -, hlower, hall⟩ := hwords word (List.mem_cons_self ..)
    have hwords' : ∀ word ∈ words, IsPascalWord word := fun w hw => hwords w (List.mem_cons_of_mem _ hw)
    have htail := splitWords_lower hall (ih hwords') hwords' hlower
    obtain ⟨u, rest, rfl⟩ := List.exists_cons_of_ne_nil hlower
    rw [List.flatten_cons, List.cons_append, splitWords, htail]
    simp [isCapital_of_isLowerCase (hall u (by simp))]

/-! ### Names -/

/-- The first two letters of the constants are capitals, so that no name in Pascal case begins with one. -/
lemma not_isPrefixOf_flatten (type : EnumType) {words : List JsString} (hne : words ≠ [])
    (hwords : ∀ word ∈ words, IsPascalWord word) : type.constant.isPrefixOf words.flatten = false := by
  obtain ⟨word, rest, rfl⟩ := List.exists_cons_of_ne_nil hne
  obtain ⟨c, lower, rfl, -, hlower, hall⟩ := hwords word (List.mem_cons_self ..)
  obtain ⟨u, lower, rfl⟩ := List.exists_cons_of_ne_nil hlower
  have hu := isCapital_of_isLowerCase (hall u (by simp))
  have hconstant : ∃ a b tail, type.constant = a :: b :: tail ∧ isCapital b = true := by
    cases type <;> exact ⟨_, _, _, rfl, by decide⟩
  obtain ⟨a, b, tail, htype, hb⟩ := hconstant
  rw [htype, List.flatten_cons]
  by_contra h
  rw [Bool.not_eq_false, List.isPrefixOf_iff_prefix] at h
  have hsecond := (List.cons_prefix_cons.mp (List.cons_prefix_cons.mp h).2).1
  rw [hsecond, hu] at hb
  cases hb

variable {text : HistoryText}

lemma toUpperCase_intercalate (htext : text.Documented) {words : List JsString}
    (hwords : ∀ word ∈ words, IsPascalWord word) :
    text.toUpperCase (List.intercalate [95] words) =
      List.intercalate [95] (words.map (·.map asciiUpperCase)) := by
  have hascii : ∀ word ∈ words, ∀ u ∈ word, u < 128 := by
    intro word hword u hu
    obtain ⟨c, lower, rfl, hc, -, hall⟩ := hwords word hword
    rcases List.mem_cons.mp hu with rfl | hu
    · exact ascii_of_isCapital hc
    · exact ascii_of_isLowerCase (hall u hu)
  have hmap : ∀ words : List JsString, (List.intercalate [95] words).map asciiUpperCase =
      List.intercalate [95] (words.map (·.map asciiUpperCase)) := by
    intro words
    cases words with
    | nil => rfl
    | cons word words =>
      rw [intercalate_cons_eq, List.map_cons, intercalate_cons_eq, List.map_append, List.map_flatMap,
        List.flatMap_map]
      rfl
  rw [htext.toUpperCase _ ?_, hmap]
  intro u hu
  cases words with
  | nil => cases hu
  | cons word words =>
    rw [intercalate_cons_eq, List.mem_append, List.mem_flatMap] at hu
    rcases hu with hu | ⟨w, hw, hu⟩
    · exact hascii word (List.mem_cons_self ..) u hu
    · rcases List.mem_cons.mp hu with rfl | hu
      · decide
      · exact hascii w (List.mem_cons_of_mem _ hw) u hu

/-- The code gives names of either kind the name that they should have. -/
lemma fixEnumName_eq (htext : text.Documented) {type : EnumType} {s : JsString} (h : EnumText type s) :
    fixEnumName text type s = constantName type s := by
  cases h with
  | constant rest =>
    have hpre : type.constant.isPrefixOf (type.constant ++ 95 :: rest) = true :=
      List.isPrefixOf_iff_prefix.mpr (List.prefix_append _ _)
    rw [fixEnumName, constantName, hpre]
    rfl
  | pascal words hne hwords =>
    rw [fixEnumName, constantName, not_isPrefixOf_flatten type hne hwords, pascalCaseToConstantCase,
      separateCapitals_flatten hwords, splitWords_flatten hwords, toUpperCase_intercalate htext hwords]

/-- A name in Pascal case is written word by word, after the constant of its enum. -/
lemma constantName_flatten (type : EnumType) {words : List JsString} (hne : words ≠ [])
    (hwords : ∀ word ∈ words, IsPascalWord word) :
    constantName type words.flatten =
      type.constant ++ 95 :: List.intercalate [95] (words.map (·.map asciiUpperCase)) := by
  rw [constantName, not_isPrefixOf_flatten type hne hwords, splitWords_flatten hwords]
  rfl

lemma isPrefixOf_constantName (type : EnumType) (s : JsString) :
    type.constant.isPrefixOf (constantName type s) = true := by
  unfold constantName
  split
  · assumption
  · exact List.isPrefixOf_iff_prefix.mpr (List.prefix_append _ _)

lemma constantName_eq_self_iff (type : EnumType) (s : JsString) :
    constantName type s = s ↔ type.constant.isPrefixOf s = true := by
  constructor
  · intro h
    rw [← h]
    exact isPrefixOf_constantName type s
  · intro h
    rw [constantName, if_pos h]

lemma EnumText.ne_nil {type : EnumType} {s : JsString} (h : EnumText type s) : s ≠ [] := by
  cases h with
  | constant rest => simp
  | pascal words hne hwords =>
    obtain ⟨word, rest, rfl⟩ := List.exists_cons_of_ne_nil hne
    obtain ⟨c, lower, rfl, -⟩ := hwords word (List.mem_cons_self ..)
    simp

/-! ### Members with other values -/

section Members

variable {members : JsonMembers} {f g : JsString → JsonTree → JsonTree} {key : JsString}

lemma fixMembers_eq : fixMembers members = mapMembers (fun _ value => fixPayloads value) members :=
  fixMembers_eq_map members

lemma nameInMembers_eq :
    nameInMembers members = mapMembers (fun key value => nameRetryState key (nameRetryStates value)) members := by
  induction members with
  | nil => rfl
  | cons m members ih =>
    rw [nameInMembers, ih]
    rfl

lemma nameInElements_eq_map (elements : List JsonTree) :
    nameInElements elements = elements.map nameRetryStates := by
  induction elements with
  | nil => rfl
  | cons e elements ih => rw [nameInElements, ih, List.map_cons]

lemma mapMembers_mapMembers :
    mapMembers f (mapMembers g members) = mapMembers (fun key value => f key (g key value)) members := by
  simp [mapMembers]

lemma mapMembers_inj : mapMembers f members = mapMembers g members ↔ ∀ m ∈ members, f m.1 m.2 = g m.1 m.2 := by
  simp [mapMembers]

lemma mapMembers_id (members : JsonMembers) : mapMembers (fun _ value => value) members = members :=
  List.map_id _

lemma keys_mapMembers (f : JsString → JsonTree → JsonTree) (members : JsonMembers) :
    (mapMembers f members).map Prod.fst = members.map Prod.fst := by
  simp [mapMembers]

lemma lookup_mapMembers (f : JsString → JsonTree → JsonTree) (key : JsString) (members : JsonMembers) :
    (mapMembers f members).lookup key = (members.lookup key).map (f key) := by
  induction members with
  | nil => rfl
  | cons m members ih =>
    rw [mapMembers, List.map_cons, List.lookup_cons, List.lookup_cons]
    split
    · rename_i h
      rw [beq_iff_eq.mp h, Option.map_some]
    · exact ih

lemma has_mapMembers (f : JsString → JsonTree → JsonTree) (key : JsString) (members : JsonMembers) :
    JsonMembers.has (mapMembers f members) key = members.has key := by
  rw [has, lookup_mapMembers, Option.isSome_map]
  rfl

lemma isPayload_mapMembers (f : JsString → JsonTree → JsonTree) (members : JsonMembers) :
    isPayload (mapMembers f members) = isPayload members := by
  rw [isPayload, has_mapMembers, has_mapMembers]
  rfl

lemma mem_of_lookup {value : JsonTree} (h : members.lookup key = some value) : (key, value) ∈ members := by
  obtain ⟨before, after, heq, -⟩ := List.lookup_eq_some_iff.mp h
  rw [heq]
  exact List.mem_append_right _ (List.mem_cons_self ..)

/-- Keys are different, so that there is one value for each. -/
lemma eq_of_mem (hnodup : (members.map Prod.fst).Nodup) {value value' : JsonTree} (h : (key, value) ∈ members)
    (h' : (key, value') ∈ members) : value = value' :=
  (Prod.mk.inj (List.inj_on_of_nodup_map hnodup h h' rfl)).2

lemma mem_mapMembers {m : JsString × JsonTree} :
    m ∈ mapMembers f members ↔ ∃ value, (m.1, value) ∈ members ∧ f m.1 value = m.2 := by
  constructor
  · intro h
    obtain ⟨m', hm', rfl⟩ := List.mem_map.mp h
    exact ⟨m'.2, hm', rfl⟩
  · rintro ⟨value, hmem, hvalue⟩
    exact List.mem_map.mpr ⟨(m.1, value), hmem, Prod.ext rfl hvalue⟩

lemma find?_mapMembers (p : JsString → Bool) (f : JsString → JsonTree → JsonTree) (members : JsonMembers) :
    (mapMembers f members).find? (fun m => p m.1) =
      (members.find? fun m => p m.1).map fun m => (m.1, f m.1 m.2) := by
  rw [mapMembers, List.find?_map]
  rfl

/-- One member is changed by `f`, the others by `g`. -/
def updated (key : JsString) (f : JsonTree → JsonTree) (g : JsString → JsonTree → JsonTree) (key' : JsString)
    (value : JsonTree) : JsonTree :=
  if key' = key then f value else g key' value

lemma updated_self {f : JsonTree → JsonTree} (g : JsString → JsonTree → JsonTree) (value : JsonTree) :
    updated key f g key value = f value :=
  if_pos rfl

lemma updated_of_ne {f : JsonTree → JsonTree} {key' : JsString} (h : key' ≠ key)
    (g : JsString → JsonTree → JsonTree) (value : JsonTree) : updated key f g key' value = g key' value :=
  if_neg h

/-- What is spread over members for one key, where `g` has left its value as it was -/
lemma spread_mapMembers {f : JsonTree → JsonTree} {value : JsonTree}
    (hnodup : (members.map Prod.fst).Nodup) (hlookup : members.lookup key = some value)
    (g : JsString → JsonTree → JsonTree) :
    (mapMembers g members).spread [(key, f value)] = mapMembers (updated key f g) members := by
  have hhas : JsonMembers.has (mapMembers g members) key = true := by
    rw [has_mapMembers, has, hlookup]
    rfl
  rw [spread, List.foldl_cons, List.foldl_nil, assign, if_pos hhas, mapMembers, mapMembers, List.map_map]
  refine List.map_congr_left fun m hm => ?_
  simp only [Function.comp_apply, updated]
  split
  · rename_i hkey
    have hvalue : m.2 = value := eq_of_mem hnodup (hkey ▸ hm) (mem_of_lookup hlookup)
    rw [hvalue, hkey]
  · rfl

lemma mapMembers_updated_of_lookup {f : JsonTree → JsonTree} (hlookup : members.lookup key = none)
    (g : JsString → JsonTree → JsonTree) : mapMembers (updated key f g) members = mapMembers g members := by
  rw [mapMembers_inj]
  intro m hm
  rw [updated, if_neg]
  rintro rfl
  have hne := List.lookup_eq_none_iff.mp hlookup m hm
  simp at hne

end Members

/-! ### What the code does -/

variable {members attributes : JsonMembers} {key attr type : JsString} {enum : EnumType}

/-- An enum is fixed where it stands. -/
lemma fixEnumValue_ok (htext : text.Documented) (hnodup : (members.map Prod.fst).Nodup)
    (henum : EnumMember members key enum) :
    ∃ fixed, fixEnumValue text members key enum = .ok fixed ∧
      ∀ g, (mapMembers g members).spread fixed =
        mapMembers (updated key (enumValue (constantName enum)) g) members := by
  unfold fixEnumValue
  cases hlookup : members.lookup key with
  | none => exact ⟨[], rfl, fun g => (mapMembers_updated_of_lookup hlookup g).symm⟩
  | some value =>
    obtain ⟨s, rfl, hs⟩ := henum value (mem_of_lookup hlookup)
    refine ⟨[(key, .string (fixEnumName text enum s))], if_neg hs.ne_nil, fun g => ?_⟩
    rw [fixEnumName_eq htext hs]
    exact spread_mapMembers (f := enumValue (constantName enum)) hnodup hlookup g

/-- The members of an object, and those of an enum in it -/
def inObject (attr : JsString) (enum : EnumType) : JsonTree → JsonTree :=
  onMembers (mapMembers (updated attr (enumValue (constantName enum)) fun _ value => value))

lemma ObjectMember.notPayload (h : ObjectMember members key) {inner : JsonMembers}
    (hinner : (key, .object inner) ∈ members) : isPayload inner = false := by
  rcases h _ hinner with hnull | ⟨inner', heq, hpayload⟩
  · cases hnull
  · obtain rfl := JsonTree.object.inj heq
    exact hpayload

/-- A member that is `null` stays so. -/
lemma mapMembers_updated_of_null {f : JsonTree → JsonTree} {g : JsString → JsonTree → JsonTree}
    (hnodup : (members.map Prod.fst).Nodup) (hlookup : members.lookup key = some .null) (hf : f .null = .null)
    (hg : g key .null = .null) : mapMembers (updated key f g) members = mapMembers g members := by
  refine mapMembers_inj.mpr fun m hm => ?_
  by_cases hkey : m.1 = key
  · have hvalue : m.2 = .null := eq_of_mem hnodup (hkey ▸ hm) (mem_of_lookup hlookup)
    rw [hvalue, hkey, updated_self, hf, hg]
  · exact updated_of_ne hkey g m.2

/-- What is spread leaves a value that is `null` as it is. -/
lemma fixNestedEnumValue_ok (htext : text.Documented) (hnodup : (members.map Prod.fst).Nodup)
    (hobject : ObjectMember members key)
    (hinner : ∀ inner, (key, .object inner) ∈ members → (inner.map Prod.fst).Nodup ∧ EnumMember inner attr enum) :
    ∃ fixed, fixNestedEnumValue text members key attr enum = .ok fixed ∧
      ∀ g, g key .null = .null →
        (mapMembers g members).spread fixed = mapMembers (updated key (inObject attr enum) g) members := by
  unfold fixNestedEnumValue
  cases hlookup : members.lookup key with
  | none => exact ⟨[], rfl, fun g _ => (mapMembers_updated_of_lookup hlookup g).symm⟩
  | some value =>
    obtain rfl | ⟨inner, rfl, -⟩ := hobject value (mem_of_lookup hlookup)
    · exact ⟨[], rfl, fun g hg => (mapMembers_updated_of_null hnodup hlookup rfl hg).symm⟩
    obtain ⟨hnodup', henum⟩ := hinner inner (mem_of_lookup hlookup)
    obtain ⟨fixed, hfixed, hspread⟩ := fixEnumValue_ok htext hnodup' henum
    refine ⟨[(key, .object (JsonMembers.spread inner fixed))], ?_, fun g _ => ?_⟩
    · simp only [JsonTree.truthy, JsonMembers.ofTree, if_true, hfixed]
      rfl
    · have hinObject : .object (JsonMembers.spread inner fixed) = inObject attr enum (.object inner) := by
        have h := hspread fun _ value => value
        rw [mapMembers_id] at h
        rw [h]
        rfl
      rw [hinObject]
      exact spread_mapMembers (f := inObject attr enum) hnodup hlookup g

/-- What the code does to the attributes, and to the members of an event. -/
def fixInAttributes : JsString → JsonTree → JsonTree :=
  updated HistoryKey.childWorkflowExecutionFailureInfo (inObject HistoryKey.retryState .retryState)
    (updated HistoryKey.retryState (enumValue (constantName .retryState)) nameInAttributes)

def fixInEvent (type : JsString) : JsString → JsonTree → JsonTree :=
  updated type (onMembers (mapMembers fixInAttributes))
    (updated HistoryKey.eventType (enumValue (constantName .eventType)) fun _ value => value)

/-- The enums that the code looks at are named, in objects whose keys are different. -/
structure FixableEvent (members : JsonMembers) (type : JsString) (attributes : JsonMembers) : Prop where
  find : members.find? (fun m => HistoryKey.isAttributes m.1) = some (type, .object attributes)
  nodup : (members.map Prod.fst).Nodup
  attributesNodup : (attributes.map Prod.fst).Nodup
  notPayload : isPayload members = false
  attributesNotPayload : isPayload attributes = false
  eventType : EnumMember members HistoryKey.eventType .eventType
  parentClosePolicy : EnumMember attributes HistoryKey.parentClosePolicy .parentClosePolicy
  workflowIdReusePolicy : EnumMember attributes HistoryKey.workflowIdReusePolicy .workflowIdReusePolicy
  initiator : EnumMember attributes HistoryKey.initiator .continueAsNewInitiator
  retryState : EnumMember attributes HistoryKey.retryState .retryState
  taskQueue : ObjectMember attributes HistoryKey.taskQueue
  kind : ∀ inner, (HistoryKey.taskQueue, .object inner) ∈ attributes →
    (inner.map Prod.fst).Nodup ∧ EnumMember inner HistoryKey.kind .taskQueueKind
  childInfo : ObjectMember attributes HistoryKey.childWorkflowExecutionFailureInfo
  childRetryState : ∀ inner, (HistoryKey.childWorkflowExecutionFailureInfo, .object inner) ∈ attributes →
    (inner.map Prod.fst).Nodup ∧ EnumMember inner HistoryKey.retryState .retryState

lemma nameInAttributes_eq : nameInAttributes =
    updated HistoryKey.initiator (enumValue (constantName .continueAsNewInitiator))
      (updated HistoryKey.workflowIdReusePolicy (enumValue (constantName .workflowIdReusePolicy))
        (updated HistoryKey.parentClosePolicy (enumValue (constantName .parentClosePolicy))
          (updated HistoryKey.taskQueue (inObject HistoryKey.kind .taskQueueKind) fun _ value => value))) := rfl

lemma FixableEvent.attributes_eq (h : FixableEvent members type attributes) (htext : text.Documented) :
    fixAttributes text (.object attributes) = .ok (mapMembers fixInAttributes attributes) := by
  obtain ⟨taskQueue, htq, htq'⟩ := fixNestedEnumValue_ok htext h.attributesNodup h.taskQueue h.kind
  obtain ⟨parent, hp, hp'⟩ := fixEnumValue_ok htext h.attributesNodup h.parentClosePolicy
  obtain ⟨reuse, hr, hr'⟩ := fixEnumValue_ok htext h.attributesNodup h.workflowIdReusePolicy
  obtain ⟨initiator, hi, hi'⟩ := fixEnumValue_ok htext h.attributesNodup h.initiator
  obtain ⟨retry, hs, hs'⟩ := fixEnumValue_ok htext h.attributesNodup h.retryState
  obtain ⟨child, hc, hc'⟩ := fixNestedEnumValue_ok htext h.attributesNodup h.childInfo h.childRetryState
  have hspread := htq' (fun _ value => value) rfl
  rw [mapMembers_id] at hspread
  simp only [fixAttributes, JsonMembers.ofTree, htq, hp, hr, hi, hs, hc, Bind.bind, Except.bind, Pure.pure,
    Except.pure, List.foldl_cons, List.foldl_nil]
  rw [if_neg (by simp), hspread, hp', hr', hi', hs', hc' _ rfl, fixInAttributes, nameInAttributes_eq]

lemma FixableEvent.isAttributes (h : FixableEvent members type attributes) :
    HistoryKey.isAttributes type = true := by
  have hfound := List.find?_some h.find
  exact hfound

lemma FixableEvent.mem (h : FixableEvent members type attributes) : (type, .object attributes) ∈ members :=
  List.mem_of_find?_eq_some h.find

lemma fixPayloads_object (hpayload : isPayload members = false) :
    fixPayloads (.object members) = .object (fixMembers members) := by
  rw [fixPayloads, hpayload]
  rfl

lemma EnumMember.fixed (h : EnumMember members key enum) : EnumMember (fixMembers members) key enum := by
  intro value hvalue
  rw [fixMembers_eq] at hvalue
  obtain ⟨value', hmem, rfl⟩ := mem_mapMembers.mp hvalue
  obtain ⟨s, hs, htext⟩ := h value' hmem
  refine ⟨s, ?_, htext⟩
  rw [hs, fixPayloads]

lemma nodup_fixMembers (h : (members.map Prod.fst).Nodup) : ((fixMembers members).map Prod.fst).Nodup := by
  rwa [fixMembers_eq, keys_mapMembers]

lemma isPayload_fixMembers (members : JsonMembers) : isPayload (fixMembers members) = isPayload members := by
  rw [fixMembers_eq, isPayload_mapMembers]

lemma mem_fixMembers_object (hobject : ObjectMember members key) {inner : JsonMembers}
    (h : (key, .object inner) ∈ fixMembers members) :
    ∃ inner', (key, .object inner') ∈ members ∧ inner = fixMembers inner' ∧ isPayload inner' = false := by
  rw [fixMembers_eq] at h
  obtain ⟨value, hmem, hvalue⟩ := mem_mapMembers.mp h
  obtain rfl | ⟨inner', rfl, hpayload⟩ := hobject value hmem
  · cases hvalue
  · rw [fixPayloads_object hpayload] at hvalue
    exact ⟨inner', hmem, (JsonTree.object.inj hvalue).symm, hpayload⟩

lemma ObjectMember.fixed (h : ObjectMember members key) : ObjectMember (fixMembers members) key := by
  intro value hvalue
  rw [fixMembers_eq] at hvalue
  obtain ⟨value', hmem, rfl⟩ := mem_mapMembers.mp hvalue
  obtain rfl | ⟨inner, rfl, hpayload⟩ := h value' hmem
  · exact .inl rfl
  · exact .inr ⟨fixMembers inner, fixPayloads_object hpayload, by rw [isPayload_fixMembers, hpayload]⟩

/-- Enums and objects stay such when the payloads are fixed. -/
lemma FixableEvent.fixed (h : FixableEvent members type attributes) :
    FixableEvent (fixMembers members) type (fixMembers attributes) where
  find := by
    rw [fixMembers_eq, find?_mapMembers, h.find, Option.map_some, fixPayloads_object h.attributesNotPayload]
  nodup := nodup_fixMembers h.nodup
  attributesNodup := nodup_fixMembers h.attributesNodup
  notPayload := by rw [isPayload_fixMembers, h.notPayload]
  attributesNotPayload := by rw [isPayload_fixMembers, h.attributesNotPayload]
  eventType := h.eventType.fixed
  parentClosePolicy := h.parentClosePolicy.fixed
  workflowIdReusePolicy := h.workflowIdReusePolicy.fixed
  initiator := h.initiator.fixed
  retryState := h.retryState.fixed
  taskQueue := h.taskQueue.fixed
  kind inner hinner := by
    obtain ⟨inner', hmem, rfl, -⟩ := mem_fixMembers_object h.taskQueue hinner
    exact ⟨nodup_fixMembers (h.kind inner' hmem).1, (h.kind inner' hmem).2.fixed⟩
  childInfo := h.childInfo.fixed
  childRetryState inner hinner := by
    obtain ⟨inner', hmem, rfl, -⟩ := mem_fixMembers_object h.childInfo hinner
    exact ⟨nodup_fixMembers (h.childRetryState inner' hmem).1, (h.childRetryState inner' hmem).2.fixed⟩

/-- An event is fixed member by member. -/
lemma FixableEvent.event_eq (h : FixableEvent members type attributes) (htext : text.Documented) :
    fixHistoryEvent text (.object members) =
      .ok (.object (mapMembers (fixInEvent type) (fixMembers members))) := by
  have hfixed := h.fixed
  obtain ⟨eventType, hevent, hevent'⟩ := fixEnumValue_ok htext hfixed.nodup hfixed.eventType
  have hspread := hevent' fun _ value => value
  rw [mapMembers_id] at hspread
  have hlookup : (fixMembers members).lookup type = some (.object (fixMembers attributes)) := by
    rw [fixMembers_eq, lookup_mapMembers]
    cases hlookup : members.lookup type with
    | none =>
      have hne := List.lookup_eq_none_iff.mp hlookup _ h.mem
      simp at hne
    | some value =>
      rw [eq_of_mem h.nodup (mem_of_lookup hlookup) h.mem, Option.map_some,
        fixPayloads_object h.attributesNotPayload]
  have hattributes := hfixed.attributes_eq htext
  simp only [fixHistoryEvent, JsonMembers.ofTree, h.find, fixPayloads_object h.notPayload, hevent, hlookup,
    Option.getD_some, hattributes, hspread, Bind.bind, Except.bind, Pure.pure, Except.pure]
  rw [if_neg (by simp)]
  exact congrArg (fun members => Except.ok (JsonTree.object members))
    (spread_mapMembers (f := onMembers (mapMembers fixInAttributes)) hfixed.nodup hlookup _)

/-! ### Retry states -/

lemma IsHistoryEvent.mem (h : IsHistoryEvent members type attributes) : (type, .object attributes) ∈ members :=
  List.mem_of_find?_eq_some h.find

lemma IsHistoryEvent.within (h : IsHistoryEvent members type attributes) {t : JsonTree}
    (ht : Within t (.object attributes)) : Within t (.object members) :=
  .member h.mem ht

lemma IsHistoryEvent.reached (h : IsHistoryEvent members type attributes) {t : JsonTree}
    (ht : Reached t (.object attributes)) : Reached t (.object members) :=
  .member h.notPayload h.mem ht

lemma IsHistoryEvent.fixable (h : IsHistoryEvent members type attributes) :
    FixableEvent members type attributes where
  find := h.find
  nodup := h.nodup members (.self _)
  attributesNodup := h.nodup attributes (h.within (.self _))
  notPayload := h.notPayload
  attributesNotPayload := h.attributesNotPayload
  eventType := h.eventType
  parentClosePolicy := h.parentClosePolicy
  workflowIdReusePolicy := h.workflowIdReusePolicy
  initiator := h.initiator
  retryState := h.retryState attributes (h.reached (.self _)) h.attributesNotPayload
  taskQueue := h.taskQueue
  kind inner hinner := ⟨h.nodup inner (h.within (.member hinner (.self _))), h.kind inner hinner⟩
  childInfo := h.childInfo
  childRetryState inner hinner := ⟨h.nodup inner (h.within (.member hinner (.self _))),
    h.retryState inner (h.reached (.member h.attributesNotPayload hinner (.self _))) (h.childInfo.notPayload hinner)⟩

lemma retryStatesPrefixed_array {elements : List JsonTree} :
    RetryStatesPrefixed (.array elements) ↔ ∀ e ∈ elements, RetryStatesPrefixed e := by
  constructor
  · exact fun h e he inner hinner => h inner (.element he hinner)
  · intro h inner hinner
    cases hinner with
    | element hmem hreached => exact h _ hmem inner hreached

lemma retryStatesPrefixed_payload (hpayload : isPayload members = true) :
    RetryStatesPrefixed (.object members) := by
  intro inner hinner hinner'
  cases hinner with
  | self => exact absurd hpayload (Bool.eq_false_iff.mp hinner')
  | member hmembers => exact absurd hpayload (Bool.eq_false_iff.mp hmembers)

lemma retryStatesPrefixed_object (hpayload : isPayload members = false) :
    RetryStatesPrefixed (.object members) ↔ ∀ m ∈ members, MemberPrefixed m := by
  constructor
  · refine fun h m hm => ⟨fun hkey s hs => ?_, fun inner hinner => h inner (.member hpayload hm hinner)⟩
    exact h members (.self _) hpayload s (hkey ▸ hs ▸ hm)
  · intro h inner hinner hinner' s hs
    cases hinner with
    | self => exact (h _ hs).1 rfl s rfl
    | member _ hmem hreached => exact (h _ hmem).2 inner hreached hinner' s hs

lemma retryStatesPrefixed_leaf {t : JsonTree} (harray : ∀ elements, t ≠ .array elements)
    (hobject : ∀ members, t ≠ .object members) : RetryStatesPrefixed t := by
  intro inner hinner
  cases hinner with
  | self => exact absurd rfl (hobject inner)
  | element => exact absurd rfl (harray _)
  | member => exact absurd rfl (hobject _)

lemma memberPrefixed_string (hkey : key ≠ HistoryKey.retryState) (s : JsString) :
    MemberPrefixed (key, .string s) :=
  ⟨fun h => absurd h hkey, retryStatesPrefixed_leaf (by simp) (by simp)⟩

lemma memberPrefixed_null (key : JsString) : MemberPrefixed (key, .null) := by
  refine ⟨fun _ s hs => ?_, retryStatesPrefixed_leaf (by simp) (by simp)⟩
  cases hs

lemma memberPrefixed_object (hpayload : isPayload members = false) :
    MemberPrefixed (key, .object members) ↔ ∀ m ∈ members, MemberPrefixed m := by
  rw [← retryStatesPrefixed_object hpayload]
  refine ⟨And.right, fun h => ⟨fun _ s hs => ?_, h⟩⟩
  cases hs

lemma enumValue_of_ne_string {value : JsonTree} (h : ∀ s, value ≠ .string s) (name : JsString → JsString) :
    enumValue name value = value := by
  cases value with
  | string s => exact absurd rfl (h s)
  | _ => rfl

/-- The names that the retry states of a value should have -/
def nameInMember (m : JsString × JsonTree) : JsonTree := nameRetryState m.1 (nameRetryStates m.2)

lemma nameInMember_eq_iff {m : JsString × JsonTree}
    (h : nameRetryStates m.2 = fixPayloads m.2 ↔ RetryStatesPrefixed m.2) :
    nameInMember m = fixPayloads m.2 ↔ MemberPrefixed m := by
  obtain ⟨key, value⟩ := m
  unfold nameInMember nameRetryState MemberPrefixed
  by_cases hkey : key = HistoryKey.retryState
  · rw [if_pos hkey]
    cases value with
    | string s =>
      have hleaf : RetryStatesPrefixed (.string s) := retryStatesPrefixed_leaf (by simp) (by simp)
      simp [nameRetryStates, fixPayloads, enumValue, constantName_eq_self_iff, hkey, hleaf]
    | object members =>
      have hobject : ∀ s, nameRetryStates (.object members) ≠ .string s := by
        intro s
        rw [nameRetryStates, fixPayloads]
        split
        · split <;> simp
        · simp
      rw [enumValue_of_ne_string hobject, h]
      simp
    | _ => simpa [nameRetryStates, fixPayloads, enumValue, hkey] using h
  · rw [if_neg hkey, h]
    simp [hkey]

/-- Nothing but payloads changes in exactly the values whose retry states have their prefix. -/
lemma nameRetryStates_eq_iff (t : JsonTree) : nameRetryStates t = fixPayloads t ↔ RetryStatesPrefixed t := by
  induction t using JsonTree.induction with
  | array elements ih =>
    rw [nameRetryStates, fixPayloads, nameInElements_eq_map, fixElements_eq_map, retryStatesPrefixed_array]
    simp only [JsonTree.array.injEq, List.map_inj_left]
    exact forall₂_congr ih
  | object members ih =>
    rw [nameRetryStates]
    split
    · rename_i hpayload
      exact iff_of_true rfl (retryStatesPrefixed_payload hpayload)
    · rename_i hpayload
      rw [fixPayloads_object (Bool.eq_false_of_not_eq_true hpayload),
        retryStatesPrefixed_object (Bool.eq_false_of_not_eq_true hpayload), nameInMembers_eq, fixMembers_eq]
      simp only [JsonTree.object.injEq, mapMembers_inj]
      exact forall₂_congr fun m hm => nameInMember_eq_iff (ih m hm)
  | _ => exact iff_of_true rfl (retryStatesPrefixed_leaf (by simp) (by simp))

/-! ### What is found -/

/-- The values that the code leaves for a member, and those that it should leave, are the same if its retry
states have their prefix. -/
def Agrees (f g : JsString → JsonTree → JsonTree) (m : JsString × JsonTree) : Prop :=
  f m.1 (fixPayloads m.2) = g m.1 (nameInMember m) ↔ MemberPrefixed m

lemma agrees_id (m : JsString × JsonTree) : Agrees (fun _ value => value) (fun _ value => value) m := by
  rw [Agrees, eq_comm]
  exact nameInMember_eq_iff (nameRetryStates_eq_iff m.2)

lemma agrees_updated {f g : JsString → JsonTree → JsonTree} {h : JsonTree → JsonTree} {m : JsString × JsonTree}
    (hkey : m.1 = key → (h (fixPayloads m.2) = h (nameInMember m) ↔ MemberPrefixed m))
    (hother : m.1 ≠ key → Agrees f g m) : Agrees (updated key h f) (updated key h g) m := by
  by_cases hm : m.1 = key
  · rw [Agrees, hm, updated_self, updated_self]
    exact hkey hm
  · rw [Agrees, updated_of_ne hm, updated_of_ne hm]
    exact hother hm

lemma nameInMember_string (hkey : key ≠ HistoryKey.retryState) (s : JsString) :
    nameInMember (key, .string s) = .string s := by
  rw [nameInMember, nameRetryState, if_neg hkey, nameRetryStates]

/-- Other enums contain no retry states. -/
lemma agrees_enum {f g : JsString → JsonTree → JsonTree} (henum : EnumMember members key enum)
    (hkey : key ≠ HistoryKey.retryState) {m : JsString × JsonTree} (hm : m ∈ members)
    (hother : m.1 ≠ key → Agrees f g m) (h : JsonTree → JsonTree) :
    Agrees (updated key h f) (updated key h g) m := by
  refine agrees_updated (fun hm' => ?_) hother
  obtain ⟨key', value⟩ := m
  obtain rfl := hm'
  obtain ⟨s, rfl, -⟩ := henum value hm
  rw [nameInMember_string hkey, fixPayloads]
  exact iff_of_true rfl (memberPrefixed_string hkey s)

lemma nameInMember_object (hkey : key ≠ HistoryKey.retryState) (hpayload : isPayload members = false) :
    nameInMember (key, .object members) = .object (members.map fun m => (m.1, nameInMember m)) := by
  rw [nameInMember, nameRetryState, if_neg hkey, nameRetryStates, hpayload, nameInMembers_eq]
  rfl

lemma fixMembers_eq_mapMembers (f : JsString → JsonTree → JsonTree) (members : JsonMembers) :
    mapMembers f (fixMembers members) = mapMembers (fun key value => f key (fixPayloads value)) members := by
  rw [fixMembers_eq, mapMembers_mapMembers]

/-- In an object, the same is so for each member. -/
lemma object_eq_iff {f g : JsString → JsonTree → JsonTree} (hkey : key ≠ HistoryKey.retryState)
    (hpayload : isPayload members = false) :
    onMembers (mapMembers f) (fixPayloads (.object members)) =
        onMembers (mapMembers g) (nameInMember (key, .object members)) ↔
      ∀ m ∈ members, f m.1 (fixPayloads m.2) = g m.1 (nameInMember m) := by
  rw [fixPayloads_object hpayload, nameInMember_object hkey hpayload, onMembers, onMembers,
    fixMembers_eq_mapMembers]
  simp only [JsonTree.object.injEq, mapMembers, List.map_map, List.map_inj_left]
  refine forall₂_congr fun m _ => ?_
  simp

lemma nameInMember_null (key : JsString) : nameInMember (key, .null) = .null := by
  rw [nameInMember, nameRetryState]
  split <;> rfl

/-- So it is for an object with an enum that is no retry state. -/
lemma agrees_object {f g : JsString → JsonTree → JsonTree} (hobject : ObjectMember members key)
    (hinner : ∀ inner, (key, .object inner) ∈ members → EnumMember inner attr enum)
    (hkey : key ≠ HistoryKey.retryState) (hattr : attr ≠ HistoryKey.retryState) {m : JsString × JsonTree}
    (hm : m ∈ members) (hother : m.1 ≠ key → Agrees f g m) :
    Agrees (updated key (inObject attr enum) f) (updated key (inObject attr enum) g) m := by
  refine agrees_updated (fun hm' => ?_) hother
  obtain ⟨key', value⟩ := m
  obtain rfl := hm'
  obtain rfl | ⟨inner, rfl, hpayload⟩ := hobject value hm
  · rw [nameInMember_null]
    exact iff_of_true rfl (memberPrefixed_null key')
  rw [inObject, object_eq_iff hkey hpayload, memberPrefixed_object hpayload]
  exact forall₂_congr fun m hm' => agrees_enum (hinner inner hm) hattr hm' (fun _ => agrees_id m) _

/-- The members of the attributes that are no retry state and no failure info -/
lemma FixableEvent.agrees_attributes (h : FixableEvent members type attributes) {m : JsString × JsonTree}
    (hm : m ∈ attributes) : Agrees nameInAttributes nameInAttributes m := by
  rw [nameInAttributes_eq]
  refine agrees_enum h.initiator (by decide) hm (fun _ => ?_) _
  refine agrees_enum h.workflowIdReusePolicy (by decide) hm (fun _ => ?_) _
  refine agrees_enum h.parentClosePolicy (by decide) hm (fun _ => ?_) _
  exact agrees_object h.taskQueue (fun inner hinner => (h.kind inner hinner).2) (by decide) (by decide) hm
    fun _ => agrees_id m

lemma nameInMember_retryState (s : JsString) :
    nameInMember (HistoryKey.retryState, .string s) = enumValue (constantName .retryState) (.string s) := by
  rw [nameInMember, nameRetryState, if_pos rfl, nameRetryStates]

/-- Where the code looks at a retry state, it names it. -/
lemma fixed_retryState_iff (henum : EnumMember members HistoryKey.retryState .retryState) {m : JsString × JsonTree}
    (hm : m ∈ members) :
    updated HistoryKey.retryState (enumValue (constantName .retryState)) (fun _ value => value) m.1
        (fixPayloads m.2) = nameInMember m ↔
      (m.1 ≠ HistoryKey.retryState → MemberPrefixed m) := by
  obtain ⟨key, value⟩ := m
  by_cases hkey : key = HistoryKey.retryState
  · subst hkey
    obtain ⟨s, rfl, -⟩ := henum value hm
    rw [nameInMember_retryState, fixPayloads, updated_self]
    exact iff_of_true rfl fun h => absurd rfl h
  · rw [updated_of_ne hkey]
    exact (agrees_id (key, value)).trans ⟨fun h _ => h, fun h => h hkey⟩

/-- The members of a failure info in the attributes -/
lemma FixableEvent.childInfo_eq_iff (h : FixableEvent members type attributes) {inner : JsonMembers}
    (hinner : (HistoryKey.childWorkflowExecutionFailureInfo, .object inner) ∈ attributes) :
    fixInAttributes HistoryKey.childWorkflowExecutionFailureInfo (fixPayloads (.object inner)) =
        nameInAttributes HistoryKey.childWorkflowExecutionFailureInfo
          (nameInMember (HistoryKey.childWorkflowExecutionFailureInfo, .object inner)) ↔
      ∀ m ∈ inner, m.1 ≠ HistoryKey.retryState → MemberPrefixed m := by
  have hpayload := h.childInfo.notPayload hinner
  have hkey : HistoryKey.childWorkflowExecutionFailureInfo ≠ HistoryKey.retryState := by decide
  have hother : nameInAttributes HistoryKey.childWorkflowExecutionFailureInfo
      (nameInMember (HistoryKey.childWorkflowExecutionFailureInfo, .object inner)) =
        onMembers (mapMembers fun _ value => value)
          (nameInMember (HistoryKey.childWorkflowExecutionFailureInfo, .object inner)) := by
    rw [nameInMember_object hkey hpayload, onMembers, mapMembers_id]
    rfl
  rw [hother, fixInAttributes, updated_self, inObject, object_eq_iff hkey hpayload]
  exact forall₂_congr fun m hm => fixed_retryState_iff (h.childRetryState inner hinner).2 hm

lemma FixableEvent.attribute_eq_iff (h : FixableEvent members type attributes) {m : JsString × JsonTree}
    (hm : m ∈ attributes) :
    fixInAttributes m.1 (fixPayloads m.2) = nameInAttributes m.1 (nameInMember m) ↔
      (m.1 ≠ HistoryKey.retryState → m.1 ≠ HistoryKey.childWorkflowExecutionFailureInfo → MemberPrefixed m) ∧
        ∀ inner, m = (HistoryKey.childWorkflowExecutionFailureInfo, .object inner) →
          ∀ m' ∈ inner, m'.1 ≠ HistoryKey.retryState → MemberPrefixed m' := by
  obtain ⟨key, value⟩ := m
  by_cases hchild : key = HistoryKey.childWorkflowExecutionFailureInfo
  · subst hchild
    obtain rfl | ⟨inner, rfl, -⟩ := h.childInfo value hm
    · rw [nameInMember_null]
      refine iff_of_true rfl ⟨fun _ hne => absurd rfl hne, fun inner heq => ?_⟩
      cases (Prod.mk.inj heq).2
    · rw [h.childInfo_eq_iff hm]
      constructor
      · refine fun hinner => ⟨fun _ hne => absurd rfl hne, fun inner' heq => ?_⟩
        obtain rfl := JsonTree.object.inj (Prod.mk.inj heq).2
        exact hinner
      · exact fun hinner => hinner.2 inner rfl
  · have hinner : ∀ inner, (key, value) ≠ (HistoryKey.childWorkflowExecutionFailureInfo, .object inner) :=
      fun inner heq => hchild (Prod.mk.inj heq).1
    by_cases hkey : key = HistoryKey.retryState
    · subst hkey
      obtain ⟨s, rfl, -⟩ := h.retryState value hm
      rw [nameInMember_retryState, fixPayloads, fixInAttributes, updated_of_ne hchild, updated_self]
      exact iff_of_true rfl ⟨fun hne => absurd rfl hne, fun inner heq => absurd heq (hinner inner)⟩
    · rw [fixInAttributes, updated_of_ne hchild, updated_of_ne hkey]
      refine (h.agrees_attributes hm).trans ⟨fun hm' => ⟨fun _ _ => hm', ?_⟩, fun hm' => hm'.1 hkey hchild⟩
      exact fun inner heq => absurd heq (hinner inner)

lemma nameInEvent_eq (type : JsString) : nameInEvent type = updated type (onMembers (mapMembers nameInAttributes))
    (updated HistoryKey.eventType (enumValue (constantName .eventType)) fun _ value => value) := rfl

lemma ne_retryState_of_isAttributes (h : HistoryKey.isAttributes key = true) : key ≠ HistoryKey.retryState := by
  rintro rfl
  exact absurd h (by decide)

/-- The code gives an event its names exactly where it finds the retry states. -/
lemma FixableEvent.normalized_iff (h : FixableEvent members type attributes) :
    mapMembers (fixInEvent type) (fixMembers members) = normalizeEvent type members ↔
      RetryStatesFound members type attributes := by
  have hpointwise : mapMembers (fixInEvent type) (fixMembers members) = normalizeEvent type members ↔
      ∀ m ∈ members, fixInEvent type m.1 (fixPayloads m.2) = nameInEvent type m.1 (nameInMember m) := by
    rw [normalizeEvent, nameInMembers_eq, mapMembers_mapMembers, fixMembers_eq_mapMembers]
    exact mapMembers_inj
  have hattributes : fixInEvent type type (fixPayloads (.object attributes)) =
      nameInEvent type type (nameInMember (type, .object attributes)) ↔
        ∀ m ∈ attributes, fixInAttributes m.1 (fixPayloads m.2) = nameInAttributes m.1 (nameInMember m) := by
    rw [fixInEvent, nameInEvent_eq, updated_self, updated_self]
    exact object_eq_iff (ne_retryState_of_isAttributes h.isAttributes) h.attributesNotPayload
  have hother : ∀ m ∈ members, m.1 ≠ type →
      (fixInEvent type m.1 (fixPayloads m.2) = nameInEvent type m.1 (nameInMember m) ↔ MemberPrefixed m) := by
    intro m hm hne
    rw [fixInEvent, nameInEvent_eq, updated_of_ne hne, updated_of_ne hne]
    exact agrees_enum h.eventType (by decide) hm (fun _ => agrees_id m) _
  rw [hpointwise]
  constructor
  · intro hall
    have hmembers := hattributes.mp (hall _ h.mem)
    exact ⟨fun m hm hne => (hother m hm hne).mp (hall m hm),
      fun m hm => ((h.attribute_eq_iff hm).mp (hmembers m hm)).1,
      fun inner hinner => ((h.attribute_eq_iff hinner).mp (hmembers _ hinner)).2 inner rfl⟩
  · intro hfound m hm
    by_cases hne : m.1 = type
    · obtain ⟨key, value⟩ := m
      obtain rfl := hne
      obtain rfl := eq_of_mem h.nodup hm h.mem
      refine hattributes.mpr fun m' hm' => (h.attribute_eq_iff hm').mpr ⟨hfound.inAttributes m' hm', ?_⟩
      rintro inner rfl
      exact hfound.inChildInfo inner hm'
    · exact (hother m hm hne).mpr (hfound.inEvent m hm hne)

/-! ### Once and twice -/

lemma EnumText.named (h : EnumText enum s) : EnumText enum (constantName enum s) := by
  cases h with
  | constant rest =>
    rw [constantName, if_pos (List.isPrefixOf_iff_prefix.mpr (List.prefix_append _ _))]
    exact .constant rest
  | pascal words hne hwords =>
    rw [constantName_flatten enum hne hwords]
    exact .constant _

lemma enumValue_enumValue (enum : EnumType) (value : JsonTree) :
    enumValue (constantName enum) (enumValue (constantName enum) value) = enumValue (constantName enum) value := by
  cases value with
  | string s =>
    rw [enumValue, enumValue, (constantName_eq_self_iff enum _).mpr (isPrefixOf_constantName enum s)]
  | _ => rfl

lemma updated_updated {f : JsonTree → JsonTree} {g : JsString → JsonTree → JsonTree} (hf : ∀ v, f (f v) = f v)
    (hg : ∀ k v, g k (g k v) = g k v) (k : JsString) (v : JsonTree) :
    updated key f g k (updated key f g k v) = updated key f g k v := by
  unfold updated
  split
  · exact hf v
  · exact hg k v

lemma onMembers_onMembers {f : JsString → JsonTree → JsonTree} (hf : ∀ k v, f k (f k v) = f k v) (v : JsonTree) :
    onMembers (mapMembers f) (onMembers (mapMembers f) v) = onMembers (mapMembers f) v := by
  cases v with
  | object members =>
    rw [onMembers, onMembers, mapMembers_mapMembers]
    exact congrArg _ (mapMembers_inj.mpr fun m _ => hf m.1 m.2)
  | _ => rfl

lemma inObject_inObject (attr : JsString) (enum : EnumType) (v : JsonTree) :
    inObject attr enum (inObject attr enum v) = inObject attr enum v :=
  onMembers_onMembers (updated_updated (enumValue_enumValue enum) fun _ _ => rfl) v

lemma fixInAttributes_fixInAttributes (k : JsString) (v : JsonTree) :
    fixInAttributes k (fixInAttributes k v) = fixInAttributes k v := by
  unfold fixInAttributes
  rw [nameInAttributes_eq]
  exact updated_updated (inObject_inObject _ _) (updated_updated (enumValue_enumValue _)
    (updated_updated (enumValue_enumValue _) (updated_updated (enumValue_enumValue _)
      (updated_updated (enumValue_enumValue _) (updated_updated (inObject_inObject _ _) fun _ _ => rfl))))) k v

lemma fixInEvent_fixInEvent (type k : JsString) (v : JsonTree) :
    fixInEvent type k (fixInEvent type k v) = fixInEvent type k v :=
  updated_updated (onMembers_onMembers fixInAttributes_fixInAttributes)
    (updated_updated (enumValue_enumValue _) fun _ _ => rfl) k v

lemma fixPayloads_nullPayload (hpayload : isPayload members = true)
    (h : isNullPayload members = true → ∀ m ∈ members, m.1 ≠ dataKey → NullFree m.2) :
    fixPayloads (fixPayloads (.object members)) = fixPayloads (.object members) := by
  by_cases hdata : dataIsNull members = true
  · have hnull : isNullPayload members = true :=
      Bool.and_eq_true_iff.mpr ⟨(Bool.and_eq_true_iff.mp hpayload).1, hdata⟩
    have hrest : NullFree (.object (without members dataKey)) := by
      refine nullFree_object.mpr ⟨?_, fun m hm => ?_⟩
      · rw [isNullPayload, dataIsNull, lookup_without, Bool.and_false]
      · have hm' := List.mem_filter.mp hm
        exact h hnull m hm'.1 (of_decide_eq_true hm'.2)
    rw [fixPayloads, if_pos hpayload, if_pos hdata, fixPayloads_of_nullFree hrest]
  · rw [fixPayloads, if_pos hpayload, if_neg hdata, fixPayloads, if_pos hpayload, if_neg hdata]

/-- Nothing is left of null data to be fixed again. -/
lemma NullDataAlone.fixPayloads_fixPayloads {t : JsonTree} (h : NullDataAlone t) :
    fixPayloads (fixPayloads t) = fixPayloads t := by
  induction t using JsonTree.induction with
  | array elements ih =>
    rw [fixPayloads, fixElements_eq_map, fixPayloads, fixElements_eq_map, List.map_map]
    refine congrArg _ (List.map_congr_left fun e he => ?_)
    exact ih e he fun inner hinner => h inner (.element he hinner)
  | object members ih =>
    by_cases hpayload : isPayload members = true
    · exact fixPayloads_nullPayload hpayload (h members (.self _))
    · have hpayload' := Bool.eq_false_of_not_eq_true hpayload
      rw [fixPayloads_object hpayload', fixPayloads_object (by rwa [isPayload_fixMembers]), fixMembers_eq,
        fixMembers_eq, mapMembers_mapMembers]
      refine congrArg _ (mapMembers_inj.mpr fun m hm => ?_)
      exact ih m hm fun inner hinner => h inner (.member hpayload' hm hinner)
  | _ => rfl

/-- The values that the code leaves for a member have no null data. -/
def Fixed (f : JsString → JsonTree → JsonTree) (m : JsString × JsonTree) : Prop :=
  fixPayloads (f m.1 (fixPayloads m.2)) = f m.1 (fixPayloads m.2)

lemma fixed_updated {f : JsonTree → JsonTree} {g : JsString → JsonTree → JsonTree} {m : JsString × JsonTree}
    (hkey : m.1 = key → fixPayloads (f (fixPayloads m.2)) = f (fixPayloads m.2)) (hother : m.1 ≠ key → Fixed g m) :
    Fixed (updated key f g) m := by
  by_cases hm : m.1 = key
  · rw [Fixed, hm, updated_self]
    exact hkey hm
  · rw [Fixed, updated_of_ne hm]
    exact hother hm

lemma fixed_enum {g : JsString → JsonTree → JsonTree} (henum : EnumMember members key enum)
    {m : JsString × JsonTree} (hm : m ∈ members) (hother : m.1 ≠ key → Fixed g m) (enum' : EnumType) :
    Fixed (updated key (enumValue (constantName enum')) g) m := by
  refine fixed_updated (fun hm' => ?_) hother
  obtain ⟨key', value⟩ := m
  obtain rfl := hm'
  obtain ⟨s, rfl, -⟩ := henum value hm
  rw [fixPayloads, enumValue, fixPayloads]

lemma fixed_onMembers {f : JsString → JsonTree → JsonTree} (hpayload : isPayload members = false)
    (h : ∀ m ∈ members, Fixed f m) :
    fixPayloads (onMembers (mapMembers f) (fixPayloads (.object members))) =
      onMembers (mapMembers f) (fixPayloads (.object members)) := by
  have hpayload' : isPayload (mapMembers (fun key value => f key (fixPayloads value)) members) = false := by
    rw [isPayload_mapMembers, hpayload]
  rw [fixPayloads_object hpayload, onMembers, fixMembers_eq_mapMembers, fixPayloads_object hpayload',
    fixMembers_eq, mapMembers_mapMembers]
  exact congrArg _ (mapMembers_inj.mpr h)

lemma NullDataAlone.member (h : NullDataAlone (.object members)) (hpayload : isPayload members = false)
    {m : JsString × JsonTree} (hm : m ∈ members) : NullDataAlone m.2 :=
  fun inner hinner => h inner (.member hpayload hm hinner)

lemma fixed_object {g : JsString → JsonTree → JsonTree} (hobject : ObjectMember members key)
    (henum : ∀ inner, (key, .object inner) ∈ members → EnumMember inner attr enum)
    {m : JsString × JsonTree} (hm : m ∈ members) (hnull : NullDataAlone m.2) (hother : m.1 ≠ key → Fixed g m) :
    Fixed (updated key (inObject attr enum) g) m := by
  refine fixed_updated (fun hm' => ?_) hother
  obtain ⟨key', value⟩ := m
  obtain rfl := hm'
  obtain rfl | ⟨inner, rfl, hpayload⟩ := hobject value hm
  · rfl
  refine fixed_onMembers hpayload fun m hm' => fixed_enum (henum inner hm) hm' (fun _ => ?_) enum
  exact (hnull.member hpayload hm').fixPayloads_fixPayloads

lemma FixableEvent.fixed_attribute (h : FixableEvent members type attributes) {m : JsString × JsonTree}
    (hm : m ∈ attributes) (hnull : NullDataAlone m.2) : Fixed fixInAttributes m := by
  rw [fixInAttributes, nameInAttributes_eq]
  refine fixed_object h.childInfo (fun inner hinner => (h.childRetryState inner hinner).2) hm hnull fun _ => ?_
  refine fixed_enum h.retryState hm (fun _ => ?_) _
  refine fixed_enum h.initiator hm (fun _ => ?_) _
  refine fixed_enum h.workflowIdReusePolicy hm (fun _ => ?_) _
  refine fixed_enum h.parentClosePolicy hm (fun _ => ?_) _
  exact fixed_object h.taskQueue (fun inner hinner => (h.kind inner hinner).2) hm hnull
    fun _ => hnull.fixPayloads_fixPayloads

/-- The members of a fixed event -/
lemma FixableEvent.fixed_member (h : FixableEvent members type attributes)
    (hnull : NullDataAlone (.object members)) {m : JsString × JsonTree} (hm : m ∈ members) :
    Fixed (fixInEvent type) m := by
  have hm' := hnull.member h.notPayload hm
  refine fixed_updated (fun htype => ?_) fun _ => fixed_enum h.eventType hm (fun _ => ?_) _
  · obtain ⟨key, value⟩ := m
    obtain rfl := htype
    obtain rfl := eq_of_mem h.nodup hm h.mem
    exact fixed_onMembers h.attributesNotPayload fun m hm =>
      h.fixed_attribute hm (hm'.member h.attributesNotPayload hm)
  · exact hm'.fixPayloads_fixPayloads

lemma EnumMember.mapped {f : JsString → JsonTree → JsonTree} (h : EnumMember members key enum)
    (hf : ∀ value, f key value = enumValue (constantName enum) value) :
    EnumMember (mapMembers f members) key enum := by
  intro value hvalue
  obtain ⟨value', hmem, heq⟩ := mem_mapMembers.mp hvalue
  obtain ⟨s, rfl, hs⟩ := h value' hmem
  exact ⟨constantName enum s, heq.symm.trans (hf _), hs.named⟩

lemma ObjectMember.mapped {f g : JsString → JsonTree → JsonTree} (h : ObjectMember members key)
    (hf : ∀ value, f key value = onMembers (mapMembers g) value) : ObjectMember (mapMembers f members) key := by
  intro value hvalue
  obtain ⟨value', hmem, heq⟩ := mem_mapMembers.mp hvalue
  have hvalue' := heq.symm.trans (hf value')
  obtain rfl | ⟨inner, rfl, hpayload⟩ := h value' hmem
  · exact .inl hvalue'
  · exact .inr ⟨mapMembers g inner, hvalue', by rw [isPayload_mapMembers, hpayload]⟩

lemma enumMember_of_mem_mapMembers {f : JsString → JsonTree → JsonTree} (h : ObjectMember members key)
    (hf : ∀ value, f key value = inObject attr enum value) (hinner : ∀ inner, (key, .object inner) ∈ members →
      (inner.map Prod.fst).Nodup ∧ EnumMember inner attr enum) {inner : JsonMembers}
    (hmem : (key, .object inner) ∈ mapMembers f members) :
    (inner.map Prod.fst).Nodup ∧ EnumMember inner attr enum := by
  obtain ⟨value, hvalue, heq⟩ := mem_mapMembers.mp hmem
  obtain rfl | ⟨inner', rfl, -⟩ := h value hvalue
  · cases (hf _).symm.trans heq
  obtain ⟨hnodup, henum⟩ := hinner inner' hvalue
  obtain rfl := JsonTree.object.inj ((hf _).symm.trans heq)
  refine ⟨by rwa [keys_mapMembers], henum.mapped fun value => updated_self _ value⟩

/-- A fixed event can be fixed. -/
lemma FixableEvent.mapped (h : FixableEvent members type attributes) :
    FixableEvent (mapMembers (fixInEvent type) members) type (mapMembers fixInAttributes attributes) where
  find := by
    rw [find?_mapMembers, h.find, Option.map_some, fixInEvent, updated_self]
    rfl
  nodup := by rw [keys_mapMembers]; exact h.nodup
  attributesNodup := by rw [keys_mapMembers]; exact h.attributesNodup
  notPayload := by rw [isPayload_mapMembers, h.notPayload]
  attributesNotPayload := by rw [isPayload_mapMembers, h.attributesNotPayload]
  eventType := h.eventType.mapped fun value => by
    have hne : HistoryKey.eventType ≠ type := by
      rintro rfl
      exact absurd h.isAttributes (by decide)
    rw [fixInEvent, updated_of_ne hne, updated_self]
  parentClosePolicy := h.parentClosePolicy.mapped fun _ => rfl
  workflowIdReusePolicy := h.workflowIdReusePolicy.mapped fun _ => rfl
  initiator := h.initiator.mapped fun _ => rfl
  retryState := h.retryState.mapped fun _ => rfl
  taskQueue := h.taskQueue.mapped fun _ => rfl
  kind _ hinner := enumMember_of_mem_mapMembers h.taskQueue (fun _ => rfl) h.kind hinner
  childInfo := h.childInfo.mapped fun _ => rfl
  childRetryState _ hinner := enumMember_of_mem_mapMembers h.childInfo (fun _ => rfl) h.childRetryState hinner

/-! ### Whole histories -/

/-- An event in a history -/
structure HistoryEvent where
  members : JsonMembers
  type : JsString
  attributes : JsonMembers
  wf : IsHistoryEvent members type attributes

namespace HistoryEvent

variable (e : HistoryEvent)

def json : JsonTree := .object e.members

/-- What the event should be, and what the code makes of it -/
def normalized : JsonTree := .object (normalizeEvent e.type e.members)

def fixed : JsonTree := .object (mapMembers (fixInEvent e.type) (fixMembers e.members))

lemma fixHistoryEvent_json (htext : text.Documented) : fixHistoryEvent text e.json = .ok e.fixed :=
  e.wf.fixable.event_eq htext

/-- A fixed event stays as it is. -/
lemma fixHistoryEvent_fixed (htext : text.Documented) : fixHistoryEvent text e.fixed = .ok e.fixed := by
  have hfixed : fixMembers (mapMembers (fixInEvent e.type) (fixMembers e.members)) =
      mapMembers (fixInEvent e.type) (fixMembers e.members) := by
    rw [fixMembers_eq_mapMembers, fixMembers_eq, mapMembers_mapMembers]
    exact mapMembers_inj.mpr fun m hm => e.wf.fixable.fixed_member e.wf.nullData hm
  rw [fixed, e.wf.fixable.fixed.mapped.event_eq htext, hfixed, mapMembers_mapMembers]
  exact congrArg (fun members => Except.ok (JsonTree.object members))
    (mapMembers_inj.mpr fun m _ => fixInEvent_fixInEvent e.type m.1 m.2)

lemma fixed_eq_normalized_iff : e.fixed = e.normalized ↔ RetryStatesFound e.members e.type e.attributes := by
  rw [fixed, normalized, ← e.wf.fixable.normalized_iff, JsonTree.object.injEq]

end HistoryEvent

def historyOf (events : List JsonTree) : JsonMembers := [(HistoryKey.events, .array events)]

lemma mapM_eq_ok {f : JsonTree → Except JsError JsonTree} {events : List HistoryEvent}
    {g g' : HistoryEvent → JsonTree} (h : ∀ e, f (g e) = .ok (g' e)) : (events.map g).mapM f = .ok (events.map g') := by
  induction events with
  | nil => rfl
  | cons e events ih =>
    rw [List.map_cons, List.mapM_cons, h, ih]
    rfl

lemma fixHistory_of_events {h : JsonMembers} {events : List HistoryEvent} {g g' : HistoryEvent → JsonTree}
    (hevents : h.lookup HistoryKey.events = some (.array (events.map g)))
    (hg : ∀ e, fixHistoryEvent text (g e) = .ok (g' e)) : fixHistory text h = .ok (historyOf (events.map g')) := by
  have hmap : (events.map g).mapM (fixHistoryEvent text) = .ok (events.map g') := mapM_eq_ok hg
  simp only [fixHistory, hevents, hmap]
  rfl

/-- All enums of a history are named, nothing else but payloads is changed, and nothing changes the next time,
exactly where each retry state without its prefix is a member of the attributes or of a failure info that is. -/
theorem fixHistory_normalizes_iff (htext : text.Documented) (h : JsonMembers) (events : List HistoryEvent)
    (hevents : h.lookup HistoryKey.events = some (.array (events.map HistoryEvent.json))) :
    (fixHistory text h = .ok (historyOf (events.map HistoryEvent.normalized)) ∧
        fixHistory text (historyOf (events.map HistoryEvent.normalized)) =
          .ok (historyOf (events.map HistoryEvent.normalized))) ↔
      ∀ e ∈ events, RetryStatesFound e.members e.type e.attributes := by
  have honce := fixHistory_of_events hevents fun e => e.fixHistoryEvent_json htext
  have htwice : fixHistory text (historyOf (events.map HistoryEvent.fixed)) =
      .ok (historyOf (events.map HistoryEvent.fixed)) :=
    fixHistory_of_events (List.lookup_cons_self ..) fun e => e.fixHistoryEvent_fixed htext
  have hsame : events.map HistoryEvent.fixed = events.map HistoryEvent.normalized ↔
      ∀ e ∈ events, RetryStatesFound e.members e.type e.attributes := by
    rw [List.map_inj_left]
    exact forall₂_congr fun e _ => e.fixed_eq_normalized_iff
  rw [honce, ← hsame]
  constructor
  · rintro ⟨heq, -⟩
    simpa [historyOf] using heq
  · intro heq
    rw [← heq]
    exact ⟨rfl, htwice⟩

/-! ### A failed Workflow -/

def asciiHistoryText : HistoryText := ⟨fun s => s.map asciiUpperCase, fun _ => ""⟩

lemma asciiHistoryText_documented : asciiHistoryText.Documented := ⟨fun _ _ => rfl⟩

def workflowExecutionFailedEventAttributes : JsString := JsString.ofAscii "workflowExecutionFailedEventAttributes"

def failureKey : JsString := JsString.ofAscii "failure"

def maximumAttemptsReached : JsString := JsString.ofAscii "MaximumAttemptsReached"

def workflowExecutionFailed (attributes : JsonMembers) : JsonMembers :=
  [(HistoryKey.eventType, .string (JsString.ofAscii "WorkflowExecutionFailed")),
    (workflowExecutionFailedEventAttributes, .object attributes)]

lemma isPascalWord_of_all {c : UInt16} {rest : JsString} (hc : isCapital c = true) (hne : rest ≠ [])
    (h : rest.all isLowerCase = true) : IsPascalWord (c :: rest) :=
  ⟨c, rest, rfl, hc, hne, List.all_eq_true.mp h⟩

lemma enumText_maximumAttemptsReached : EnumText .retryState maximumAttemptsReached :=
  .pascal [JsString.ofAscii "Maximum", JsString.ofAscii "Attempts", JsString.ofAscii "Reached"] (by simp) (by
    simp only [List.forall_mem_cons, List.not_mem_nil, false_imp_iff, implies_true, and_true]
    exact ⟨isPascalWord_of_all (by decide) (by decide) (by decide),
      isPascalWord_of_all (by decide) (by decide) (by decide),
      isPascalWord_of_all (by decide) (by decide) (by decide)⟩)

lemma enumText_workflowExecutionFailed :
    EnumText .eventType (JsString.ofAscii "WorkflowExecutionFailed") :=
  .pascal [JsString.ofAscii "Workflow", JsString.ofAscii "Execution", JsString.ofAscii "Failed"] (by simp) (by
    simp only [List.forall_mem_cons, List.not_mem_nil, false_imp_iff, implies_true, and_true]
    exact ⟨isPascalWord_of_all (by decide) (by decide) (by decide),
      isPascalWord_of_all (by decide) (by decide) (by decide),
      isPascalWord_of_all (by decide) (by decide) (by decide)⟩)

lemma enumMember_of_ne (h : ∀ m ∈ members, m.1 ≠ key) : EnumMember members key enum :=
  fun value hvalue => absurd rfl (h (key, value) hvalue)

lemma objectMember_of_ne (h : ∀ m ∈ members, m.1 ≠ key) : ObjectMember members key :=
  fun value hvalue => absurd rfl (h (key, value) hvalue)

lemma Reached.within {s t : JsonTree} (h : Reached s t) : Within s t := by
  induction h with
  | self => exact .self _
  | element hmem _ ih => exact .element hmem ih
  | member _ hmem _ ih => exact .member hmem ih

/-- The attributes with a failure and a retry state -/
lemma isHistoryEvent_workflowExecutionFailed
    (hkeys : ∀ m ∈ attributes, m.1 = failureKey ∨ m.1 = HistoryKey.retryState)
    (hinner : ∀ inner, Within (.object inner) (.object attributes) → (inner.map Prod.fst).Nodup ∧
      isPayload inner = false ∧ EnumMember inner HistoryKey.retryState .retryState) :
    IsHistoryEvent (workflowExecutionFailed attributes) workflowExecutionFailedEventAttributes attributes := by
  have hne : ∀ key, key ≠ failureKey → key ≠ HistoryKey.retryState → ∀ m ∈ attributes, m.1 ≠ key := by
    rintro key hfailure hretry m hm rfl
    exact (hkeys m hm).elim hfailure hretry
  have hwithin : ∀ inner, Within (.object inner) (.object (workflowExecutionFailed attributes)) →
      inner = workflowExecutionFailed attributes ∨ Within (.object inner) (.object attributes) := by
    intro inner h
    cases h with
    | self => exact .inl rfl
    | member hmem hmember =>
      rcases List.mem_cons.mp hmem with rfl | hmem
      · cases hmember
      · obtain rfl := List.mem_singleton.mp hmem
        exact .inr hmember
  have hevent : isPayload (workflowExecutionFailed attributes) = false := by
    rw [isPayload, Bool.and_eq_false_iff]
    left
    rfl
  refine
    { find := rfl
      nodup := fun inner h => ?_
      notPayload := hevent
      attributesNotPayload := (hinner attributes (.self _)).2.1
      eventType := fun value h => ?_
      parentClosePolicy := enumMember_of_ne (hne _ (by decide) (by decide))
      workflowIdReusePolicy := enumMember_of_ne (hne _ (by decide) (by decide))
      initiator := enumMember_of_ne (hne _ (by decide) (by decide))
      taskQueue := objectMember_of_ne (hne _ (by decide) (by decide))
      kind := fun inner h => absurd rfl (hne HistoryKey.taskQueue (by decide) (by decide) _ h)
      childInfo := objectMember_of_ne (hne _ (by decide) (by decide))
      retryState := fun inner h _ => ?_
      nullData := fun inner h hnull => ?_ }
  · rcases hwithin inner h with rfl | h
    · exact (by decide : [HistoryKey.eventType, workflowExecutionFailedEventAttributes].Nodup)
    · exact (hinner inner h).1
  · rcases List.mem_cons.mp h with h | h
    · exact ⟨_, (Prod.mk.inj h).2, enumText_workflowExecutionFailed⟩
    · exact absurd (Prod.mk.inj (List.mem_singleton.mp h)).1 (by decide)
  · rcases hwithin inner h.within with rfl | h
    · exact enumMember_of_ne (by simp [workflowExecutionFailed]; decide)
    · exact (hinner inner h).2.2
  · have hpayload := isPayload_of_isNullPayload hnull
    rcases hwithin inner h.within with rfl | h
    · exact absurd hpayload (Bool.eq_false_iff.mp hevent)
    · exact absurd hpayload (Bool.eq_false_iff.mp (hinner inner h).2.1)

def retryStateMember : JsString × JsonTree := (HistoryKey.retryState, .string maximumAttemptsReached)

lemma retryStateMember_ok : ([retryStateMember].map Prod.fst).Nodup ∧ isPayload [retryStateMember] = false ∧
    EnumMember [retryStateMember] HistoryKey.retryState .retryState := by
  refine ⟨by simp, rfl, fun value h => ?_⟩
  exact ⟨maximumAttemptsReached, (Prod.mk.inj (List.mem_singleton.mp h)).2, enumText_maximumAttemptsReached⟩

lemma within_retryStateMember {inner : JsonMembers} (h : Within (.object inner) (.object [retryStateMember])) :
    inner = [retryStateMember] := by
  cases h with
  | self => rfl
  | member hmem hmember =>
    obtain rfl := List.mem_singleton.mp hmem
    cases hmember

/-- The event of a Workflow whose last attempt has failed -/
def lastAttemptFailed : HistoryEvent where
  members := workflowExecutionFailed [retryStateMember]
  type := workflowExecutionFailedEventAttributes
  attributes := [retryStateMember]
  wf := isHistoryEvent_workflowExecutionFailed (by simp [retryStateMember]) fun inner h => by
    rw [within_retryStateMember h]
    exact retryStateMember_ok

/-- A history with this event -/
theorem fixHistory_normalizes_iff_lastAttempt :
    fixHistory asciiHistoryText (historyOf [lastAttemptFailed.json]) =
      .ok (historyOf [lastAttemptFailed.normalized]) := by
  refine ((fixHistory_normalizes_iff asciiHistoryText_documented (historyOf [lastAttemptFailed.json])
    [lastAttemptFailed] rfl).mpr fun e he => ?_).1
  obtain rfl := List.mem_singleton.mp he
  refine ⟨fun m hm hne => ?_, fun m hm hne => ?_, fun inner hmem => ?_⟩
  · rcases List.mem_cons.mp hm with rfl | hm
    · exact memberPrefixed_string (by decide) _
    · exact absurd (congrArg Prod.fst (List.mem_singleton.mp hm)) hne
  · exact absurd (congrArg Prod.fst (List.mem_singleton.mp hm)) hne
  · have hne : HistoryKey.childWorkflowExecutionFailureInfo ≠ HistoryKey.retryState := by decide
    exact absurd (congrArg Prod.fst (List.mem_singleton.mp hmem)) hne

/-- A failure with the failure info of an Activity -/
def activityFailure : JsonMembers := [(JsString.ofAscii "activityFailureInfo", .object [retryStateMember])]

lemma within_activityFailure {inner : JsonMembers}
    (h : Within (.object inner) (.object [(failureKey, .object activityFailure)])) :
    inner = [(failureKey, .object activityFailure)] ∨ inner = activityFailure ∨ inner = [retryStateMember] := by
  cases h with
  | self => exact .inl rfl
  | member hmem hmember =>
    obtain rfl := List.mem_singleton.mp hmem
    cases hmember with
    | self => exact .inr (.inl rfl)
    | member hmem hmember =>
      obtain rfl := List.mem_singleton.mp hmem
      exact .inr (.inr (within_retryStateMember hmember))

/-- The event of a Workflow that has failed with its Activity -/
def activityHasFailed : HistoryEvent where
  members := workflowExecutionFailed [(failureKey, .object activityFailure)]
  type := workflowExecutionFailedEventAttributes
  attributes := [(failureKey, .object activityFailure)]
  wf := isHistoryEvent_workflowExecutionFailed (by simp) fun inner h => by
    rcases within_activityFailure h with rfl | rfl | rfl
    · exact ⟨by simp, rfl, enumMember_of_ne (by decide)⟩
    · exact ⟨by simp [activityFailure], rfl, enumMember_of_ne (by decide)⟩
    · exact retryStateMember_ok

/-- The retry state in the failure stays in Pascal case. -/
theorem not_fixHistory_normalizes_activityFailure :
    ¬∀ (text : HistoryText) (h : JsonMembers) (events : List HistoryEvent), text.Documented →
      h.lookup HistoryKey.events = some (.array (events.map HistoryEvent.json)) →
        fixHistory text h = .ok (historyOf (events.map HistoryEvent.normalized)) := by
  intro hall
  have hclaimed := hall asciiHistoryText (historyOf [activityHasFailed.json]) [activityHasFailed]
    asciiHistoryText_documented rfl
  have hlookup : (historyOf [activityHasFailed.json]).lookup HistoryKey.events =
      some (.array ([activityHasFailed].map HistoryEvent.json)) := rfl
  have honce : fixHistory asciiHistoryText (historyOf [activityHasFailed.json]) =
      .ok (historyOf [activityHasFailed.fixed]) :=
    fixHistory_of_events hlookup fun e => e.fixHistoryEvent_json asciiHistoryText_documented
  have hsame : activityHasFailed.fixed = activityHasFailed.normalized := by
    simpa [historyOf] using honce.symm.trans hclaimed
  have hfound := activityHasFailed.fixed_eq_normalized_iff.mp hsame
  have hmember := hfound.inAttributes _ (List.mem_singleton_self _) (by decide) (by decide)
  have hreached : Reached (.object [retryStateMember]) (.object activityFailure) :=
    .member rfl (List.mem_singleton_self _) (.self _)
  have hprefixed := hmember.2 [retryStateMember] hreached rfl maximumAttemptsReached (List.mem_singleton_self _)
  exact absurd hprefixed (by decide)

end TemporalSdk
