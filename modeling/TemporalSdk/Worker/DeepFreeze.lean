import Mathlib.Data.Finset.Basic
import Mathlib.Logic.Relation
import TemporalSdk.Common.Errors
import TemporalSdk.Library.OrderedMap

/-!
# Freezing what workflows share

`deepFreeze` of reusable-vm.ts, over the graph of the objects and functions that the modules and the
globals of a context refer to. It has no set of visited objects: on a cycle it calls itself until the
stack is full, and the error of the last call is swallowed by the one before.
-/

namespace TemporalSdk

inductive HeapValue (α : Type)
  | undefined
  | null
  | primitive
  | ref (object : α)
deriving DecidableEq

/-- Functions can be frozen, and objects but for some typed arrays. -/
inductive HeapKind
  | object (freezable : Bool)
  | function
deriving DecidableEq

/-- An object or a function with its own string-keyed properties, in the order of
`getOwnPropertyNames` -/
structure HeapNode (α : Type) where
  kind : HeapKind
  properties : OrderedMap String (HeapValue α)

abbrev Heap (α : Type) := α → HeapNode α

namespace Heap

variable {α : Type} [DecidableEq α] (heap : Heap α)

def isObject (a : α) : Bool :=
  match (heap a).kind with
  | .object _ => true
  | .function => false

def freezable (a : α) : Bool :=
  match (heap a).kind with
  | .object freezable => freezable
  | .function => true

/-- `Object.freeze` -/
def freeze (a : α) (frozen : Finset α) : Finset α × Except JsError Unit :=
  if heap.freezable a then (insert a frozen, .ok ())
  else (frozen, .error (.typeError "Cannot freeze array buffer views with elements"))

/-- `deepFreeze` of an object, with the number of calls that the stack has room for. The result has
what is frozen then, also if the call throws. -/
def deepFreeze : ℕ → α → Finset α → Finset α × Except JsError Unit
  | 0, _, frozen => (frozen, .error (.other "Maximum call stack size exceeded"))
  | stack + 1, a, frozen =>
    let frozen := (heap a).properties.entries.foldl (fun frozen property =>
      match property.2 with
      | .ref b => if heap.isObject b then (deepFreeze stack b frozen).1 else (heap.freeze b frozen).1
      | _ => frozen) frozen
    heap.freeze a frozen

/-- `deepFreeze` of a value: a primitive has no properties that could be frozen. -/
def deepFreezeValue (stack : ℕ) (value : HeapValue α) (frozen : Finset α) : Finset α × Except JsError Unit :=
  match value with
  | .undefined | .null => (frozen, .error (.typeError "Cannot convert undefined or null to object"))
  | .primitive => (frozen, .ok ())
  | .ref a => heap.deepFreeze stack a frozen

/-- The loops of the constructor over the shared modules and the preserved globals -/
def freezeAll (stack : ℕ) : List (HeapValue α) → Finset α → Except JsError (Finset α)
  | [], frozen => .ok frozen
  | value :: values, frozen =>
    match heap.deepFreezeValue stack value frozen with
    | (_, .error err) => .error err
    | (frozen, .ok ()) => freezeAll stack values frozen

def freezeShared (stack : ℕ) (sharedModules contextKeysToPreserve : List (HeapValue α)) :
    Except JsError (Finset α) := do
  let frozen ← heap.freezeAll stack sharedModules ∅
  heap.freezeAll stack contextKeysToPreserve frozen

/-- An assignment to a property: that of a frozen object throws and changes nothing. -/
def assign (frozen : Finset α) (a : α) (name : String) (value : HeapValue α) : Heap α :=
  if a ∈ frozen then heap
  else Function.update heap a { heap a with properties := (heap a).properties.set name value }

/-- An assignment of workflow code -/
structure Assignment (α : Type) where
  object : α
  name : String
  value : HeapValue α

def assignAll (frozen : Finset α) (assignments : List (Assignment α)) : Heap α :=
  assignments.foldl (fun heap a => heap.assign frozen a.object a.name a.value) heap

/-- `b` is the value of a property of `a`. -/
def Refers (a b : α) : Prop := ∃ name, (heap a).properties.lookup name = some (.ref b)

/-- `b` is in the graph of the shared modules and the preserved globals. -/
def Shared (roots : List (HeapValue α)) (b : α) : Prop :=
  ∃ a, .ref a ∈ roots ∧ Relation.ReflTransGen heap.Refers a b

/-- A path from `a` to `b` over fewer than `n` objects: only its last step may be to a function. -/
inductive Path : ℕ → α → α → Prop
  | nil {n : ℕ} {a : α} : Path (n + 1) a a
  | function {n : ℕ} {a f : α} (h : heap.Refers a f) (hf : heap.isObject f = false) : Path (n + 1) a f
  | object {n : ℕ} {a b c : α} (h : heap.Refers a b) (hb : heap.isObject b = true) (hc : Path n b c) :
    Path (n + 1) a c

/-- What is shared and can be frozen is frozen, and no assignment changes what is read from it. -/
structure SharedFrozen (roots : List (HeapValue α)) (frozen : Finset α) : Prop where
  complete : ∀ a, heap.Shared roots a → heap.freezable a = true → a ∈ frozen
  unchanged : ∀ a, heap.Shared roots a → heap.freezable a = true →
    ∀ assignments, heap.assignAll frozen assignments a = heap a

/-- The roots can be frozen, and from one of them a path over objects that fits on the stack leads to
each shared object or function that can be frozen. -/
structure WithinReach (stack : ℕ) (roots : List (HeapValue α)) : Prop where
  values : ∀ value ∈ roots, value ≠ .undefined ∧ value ≠ .null ∧
    ∀ a, value = .ref a → heap.freezable a = true
  paths : ∀ b, heap.Shared roots b → heap.freezable b = true → ∃ a, .ref a ∈ roots ∧ heap.Path stack a b

/-! ### What a call freezes -/

variable {heap}

lemma mem_freeze {a b : α} {frozen : Finset α} :
    b ∈ (heap.freeze a frozen).1 ↔ b ∈ frozen ∨ heap.freezable b = true ∧ b = a := by
  unfold freeze
  by_cases ha : heap.freezable a = true
  · rw [if_pos ha, Finset.mem_insert, or_comm]
    refine or_congr Iff.rfl ⟨fun hb => ⟨hb ▸ ha, hb⟩, And.right⟩
  · rw [if_neg ha]
    refine ⟨Or.inl, ?_⟩
    rintro (hb | ⟨hb, rfl⟩)
    · exact hb
    · exact absurd hb ha

omit [DecidableEq α] in
/-- A loop that adds to a set what each of its steps adds -/
lemma mem_foldl {ι : Type} {f : Finset α → ι → Finset α} {Q : ι → α → Prop} {b : α} (items : List ι)
    (frozen : Finset α) (hf : ∀ item ∈ items, ∀ frozen, b ∈ f frozen item ↔ b ∈ frozen ∨ Q item b) :
    b ∈ items.foldl f frozen ↔ b ∈ frozen ∨ ∃ item ∈ items, Q item b := by
  induction items generalizing frozen with
  | nil => simp
  | cons item items ih =>
    rw [List.foldl_cons, ih _ fun item hitem => hf item (List.mem_cons_of_mem _ hitem),
      hf item List.mem_cons_self, List.exists_mem_cons_iff, or_assoc]

/-- A call freezes what has a path from its object that fits on the stack. -/
lemma mem_deepFreeze {stack : ℕ} {a b : α} {frozen : Finset α} :
    b ∈ (heap.deepFreeze stack a frozen).1 ↔ b ∈ frozen ∨ heap.freezable b = true ∧ heap.Path stack a b := by
  induction stack generalizing a frozen with
  | zero =>
    refine ⟨Or.inl, ?_⟩
    rintro (hb | ⟨-, hpath⟩)
    · exact hb
    · cases hpath
  | succ stack ih =>
    have hloop := mem_foldl (b := b) (heap a).properties.entries frozen
      (f := fun frozen property =>
        match property.2 with
        | .ref c => if heap.isObject c then (deepFreeze heap stack c frozen).1 else (heap.freeze c frozen).1
        | _ => frozen)
      (Q := fun property b => ∃ c, property.2 = .ref c ∧ heap.freezable b = true ∧
        (heap.isObject c = true ∧ heap.Path stack c b ∨ heap.isObject c = false ∧ b = c)) (by
        rintro ⟨name, value⟩ - frozen
        cases value with
        | undefined => simp
        | null => simp
        | primitive => simp
        | ref c =>
          cases hc : heap.isObject c with
          | true => simp [hc, ih]
          | false => simp [hc, mem_freeze])
    rw [deepFreeze, mem_freeze, hloop, or_assoc]
    refine or_congr Iff.rfl ⟨?_, ?_⟩
    · rintro (⟨⟨name, value⟩, hproperty, c, hvalue, hb, hc⟩ | ⟨hb, rfl⟩)
      · simp only at hvalue
        subst hvalue
        have href : heap.Refers a c := ⟨name, AList.mem_lookup_iff.mpr hproperty⟩
        rcases hc with ⟨hobject, hpath⟩ | ⟨hfunction, rfl⟩
        · exact ⟨hb, .object href hobject hpath⟩
        · exact ⟨hb, .function href hfunction⟩
      · exact ⟨hb, .nil⟩
    · rintro ⟨hb, hpath⟩
      cases hpath with
      | nil => exact Or.inr ⟨hb, rfl⟩
      | function href hfunction =>
        obtain ⟨name, hlookup⟩ := href
        exact Or.inl ⟨⟨name, .ref b⟩, AList.mem_lookup_iff.mp hlookup, b, rfl, hb, Or.inr ⟨hfunction, rfl⟩⟩
      | object href hobject hpath =>
        obtain ⟨name, hlookup⟩ := href
        exact Or.inl ⟨⟨name, .ref _⟩, AList.mem_lookup_iff.mp hlookup, _, rfl, hb, Or.inl ⟨hobject, hpath⟩⟩

/-- A call returns when the stack has room for it and its object can be frozen. -/
lemma deepFreeze_eq_ok {stack : ℕ} {a : α} {frozen : Finset α} :
    (heap.deepFreeze stack a frozen).2 = .ok () ↔ 0 < stack ∧ heap.freezable a = true := by
  cases stack with
  | zero => simp [deepFreeze]
  | succ stack =>
    rw [deepFreeze]
    unfold freeze
    by_cases ha : heap.freezable a = true
    · simp [ha]
    · simp [ha]

/-- The loop over the roots returns when each of the calls does, and what is frozen then is what the
calls have frozen. -/
lemma freezeAll_eq_ok {stack : ℕ} {values : List (HeapValue α)} {frozen frozen' : Finset α}
    (h : heap.freezeAll stack values frozen = .ok frozen') :
    (∀ value ∈ values, value ≠ .undefined ∧ value ≠ .null ∧
      ∀ a, value = .ref a → heap.freezable a = true) ∧
    ∀ b, b ∈ frozen' ↔ b ∈ frozen ∨ ∃ a, .ref a ∈ values ∧ heap.freezable b = true ∧ heap.Path stack a b := by
  induction values generalizing frozen with
  | nil =>
    cases h
    simp
  | cons value values ih =>
    cases value with
    | undefined => cases h
    | null => cases h
    | primitive =>
      obtain ⟨hroots, hmem⟩ := ih h
      refine ⟨List.forall_mem_cons.mpr ⟨by simp, hroots⟩, fun b => ?_⟩
      rw [hmem b]
      simp
    | ref a =>
      rw [freezeAll, deepFreezeValue] at h
      cases hok : (heap.deepFreeze stack a frozen).2 with
      | error err =>
        rw [show heap.deepFreeze stack a frozen = (_, .error err) from Prod.ext rfl hok] at h
        cases h
      | ok =>
        rw [show heap.deepFreeze stack a frozen = (_, .ok ()) from Prod.ext rfl hok] at h
        obtain ⟨hroots, hmem⟩ := ih h
        obtain ⟨-, hfreezable⟩ := deepFreeze_eq_ok.mp hok
        refine ⟨List.forall_mem_cons.mpr ⟨by simp [hfreezable], hroots⟩, fun b => ?_⟩
        · rw [hmem b, mem_deepFreeze, or_assoc]
          refine or_congr Iff.rfl ⟨?_, ?_⟩
          · rintro (⟨hb, hpath⟩ | ⟨a', ha', hpath⟩)
            · exact ⟨a, List.mem_cons_self, hb, hpath⟩
            · exact ⟨a', List.mem_cons_of_mem _ ha', hpath⟩
          · rintro ⟨a', ha', hb, hpath⟩
            rcases List.mem_cons.mp ha' with heq | hmem'
            · cases heq
              exact Or.inl ⟨hb, hpath⟩
            · exact Or.inr ⟨a', hmem', hb, hpath⟩

lemma exists_freezeAll {values : List (HeapValue α)} (stack : ℕ) (frozen : Finset α)
    (hvalues : ∀ value ∈ values, value ≠ .undefined ∧ value ≠ .null ∧
      ∀ a, value = .ref a → 0 < stack ∧ heap.freezable a = true) :
    ∃ frozen', heap.freezeAll stack values frozen = .ok frozen' := by
  induction values generalizing frozen with
  | nil => exact ⟨frozen, rfl⟩
  | cons value values ih =>
    obtain ⟨⟨hundefined, hnull, href⟩, hrest⟩ := List.forall_mem_cons.mp hvalues
    cases value with
    | undefined => exact absurd rfl hundefined
    | null => exact absurd rfl hnull
    | primitive => exact ih frozen hrest
    | ref a =>
      have hok : (heap.deepFreeze stack a frozen).2 = .ok () := deepFreeze_eq_ok.mpr (href a rfl)
      rw [freezeAll, deepFreezeValue,
        show heap.deepFreeze stack a frozen = (_, .ok ()) from Prod.ext rfl hok]
      exact ih _ hrest

/-- The two loops of the constructor are one loop over all roots. -/
lemma freezeShared_eq (stack : ℕ) (sharedModules contextKeysToPreserve : List (HeapValue α)) :
    heap.freezeShared stack sharedModules contextKeysToPreserve =
      heap.freezeAll stack (sharedModules ++ contextKeysToPreserve) ∅ := by
  unfold freezeShared
  generalize (∅ : Finset α) = frozen
  induction sharedModules generalizing frozen with
  | nil => rfl
  | cons value values ih =>
    rw [List.cons_append, freezeAll, freezeAll]
    rcases heap.deepFreezeValue stack value frozen with ⟨frozen', err | ⟨⟩⟩
    · rfl
    · exact ih frozen'

/-! ### Assignments -/

lemma assign_of_mem {frozen : Finset α} {a : α} (ha : a ∈ frozen) (b : α) (name : String)
    (value : HeapValue α) : heap.assign frozen b name value a = heap a := by
  unfold assign
  split
  · rfl
  · rename_i hb
    have hne : a ≠ b := by
      rintro rfl
      exact hb ha
    rw [Function.update_of_ne hne]

/-- Nothing changes an object that is frozen. -/
lemma assignAll_of_mem {frozen : Finset α} {a : α} (ha : a ∈ frozen) (assignments : List (Assignment α)) :
    heap.assignAll frozen assignments a = heap a := by
  unfold assignAll
  induction assignments generalizing heap with
  | nil => rfl
  | cons assignment assignments ih =>
    rw [List.foldl_cons, ih]
    exact assign_of_mem ha _ _ _

lemma sharedFrozen_of_complete {roots : List (HeapValue α)} {frozen : Finset α}
    (h : ∀ a, heap.Shared roots a → heap.freezable a = true → a ∈ frozen) : heap.SharedFrozen roots frozen :=
  ⟨h, fun a ha hfreezable => assignAll_of_mem (h a ha hfreezable)⟩

/-- The constructor returns with all that is shared frozen, if and only if all of it is within reach
of paths over objects that fit on the stack. -/
theorem sharedFrozen_iff (heap : Heap α) (stack : ℕ)
    (sharedModules contextKeysToPreserve : List (HeapValue α)) :
    (∃ frozen, heap.freezeShared stack sharedModules contextKeysToPreserve = .ok frozen ∧
        heap.SharedFrozen (sharedModules ++ contextKeysToPreserve) frozen) ↔
      heap.WithinReach stack (sharedModules ++ contextKeysToPreserve) := by
  rw [freezeShared_eq]
  generalize sharedModules ++ contextKeysToPreserve = roots
  constructor
  · rintro ⟨frozen, hfrozen, hshared⟩
    obtain ⟨hroots, hmem⟩ := freezeAll_eq_ok hfrozen
    refine ⟨hroots, fun b hb hfreezable => ?_⟩
    rcases (hmem b).mp (hshared.complete b hb hfreezable) with hempty | ⟨a, ha, -, hpath⟩
    · exact absurd hempty (Finset.notMem_empty b)
    · exact ⟨a, ha, hpath⟩
  · intro hreach
    have hstack : ∀ a, .ref a ∈ roots → 0 < stack := by
      intro a ha
      obtain ⟨-, -, hfreezable⟩ := hreach.values _ ha
      obtain ⟨a', -, hpath⟩ := hreach.paths a ⟨a, ha, .refl⟩ (hfreezable a rfl)
      cases hpath <;> exact Nat.succ_pos _
    obtain ⟨frozen, hfrozen⟩ := exists_freezeAll stack ∅ fun value hvalue =>
      ⟨(hreach.values value hvalue).1, (hreach.values value hvalue).2.1, fun a ha =>
        ⟨hstack a (ha ▸ hvalue), (hreach.values value hvalue).2.2 a ha⟩⟩
    refine ⟨frozen, hfrozen, sharedFrozen_of_complete fun b hb hfreezable => ?_⟩
    obtain ⟨a, ha, hpath⟩ := hreach.paths b hb hfreezable
    exact ((freezeAll_eq_ok hfrozen).2 b).mpr (Or.inr ⟨a, ha, hfreezable, hpath⟩)

/-- A module with a function that has an object as its property -/
def configuredFunction : Heap ℕ
  | 0 => ⟨.object true, OrderedMap.set ∅ "exports" (.ref 1)⟩
  | 1 => ⟨.object true, OrderedMap.set ∅ "f" (.ref 2)⟩
  | 2 => ⟨.function, OrderedMap.set ∅ "config" (.ref 3)⟩
  | _ => ⟨.object true, ∅⟩

/-- The object that only the function refers to is not frozen, and one workflow can change what the
others read from it. -/
theorem sharedFrozen_counterexample :
    ∃ frozen, configuredFunction.freezeShared 10000 [.ref 0] [] = .ok frozen ∧
      configuredFunction.Shared [.ref 0] 3 ∧ configuredFunction.freezable 3 = true ∧ 3 ∉ frozen ∧
      (configuredFunction.assignAll frozen [⟨3, "count", .primitive⟩] 3).properties.lookup "count" =
        some .primitive := by
  refine ⟨{0, 1, 2}, rfl, ⟨0, List.mem_cons_self, ?_⟩, rfl, by decide, by decide⟩
  have hexports : configuredFunction.Refers 0 1 := ⟨"exports", by decide⟩
  have hf : configuredFunction.Refers 1 2 := ⟨"f", by decide⟩
  have hconfig : configuredFunction.Refers 2 3 := ⟨"config", by decide⟩
  exact .tail (.tail (.single hexports) hf) hconfig

end Heap

end TemporalSdk
