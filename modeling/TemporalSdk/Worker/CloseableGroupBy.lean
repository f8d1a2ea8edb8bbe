import Mathlib.Logic.Function.Basic
import TemporalSdk.Library.Transition

/-!
# Groups that can be closed

`closeableGroupBy` is `groupBy` with a duration for each group, which ends when the `close` function of the
group says so. Groups are numbered as they are emitted, and the number stands for the group, for its handle and
for the subject that is its duration.
-/

namespace TemporalSdk

/-- A group, with the items that it has received -/
structure KeyedGroup (K T : Type) where
  key : K
  items : List T
  completed : Bool
deriving DecidableEq

namespace KeyedGroup

variable {K T : Type} (group : KeyedGroup K T)

def receive (value : T) : KeyedGroup K T := { group with items := group.items ++ [value] }

def complete : KeyedGroup K T := { group with completed := true }

end KeyedGroup

/-- The map that `groupBy` has of the open groups, the map of their subjects, and all groups that were emitted -/
structure CloseableGroups (K T : Type) where
  groups : K → Option ℕ
  keyToSubject : K → Option ℕ
  emitted : List (KeyedGroup K T)

inductive GroupsInput (T : Type)
  | item (value : T)
  | close (handle : ℕ)

namespace CloseableGroups

variable {K T : Type}

def initial : CloseableGroups K T := ⟨fun _ => none, fun _ => none, []⟩

variable [DecidableEq K] (keyFunc : T → K) (s : CloseableGroups K T)

/-- An item goes to the group of its key; without one, a group is emitted, and its duration selected. -/
def next (value : T) : CloseableGroups K T :=
  match s.groups (keyFunc value) with
  | some group => { s with emitted := s.emitted.modify group (·.receive value) }
  | none =>
    { groups := Function.update s.groups (keyFunc value) (some s.emitted.length)
      keyToSubject := Function.update s.keyToSubject (keyFunc value) (some s.emitted.length)
      emitted := s.emitted ++ [⟨keyFunc value, [value], false⟩] }

/-- `subject.next()` ends the group whose duration the subject is, unless it has ended already. -/
def subjectNext (subject : ℕ) : CloseableGroups K T :=
  match s.emitted[subject]? with
  | some ⟨key, _, false⟩ =>
    { s with
      groups := Function.update s.groups key none
      emitted := s.emitted.modify subject (·.complete) }
  | _ => s

/-- The `close` function of a group that was emitted -/
def close (handle : ℕ) : Option (CloseableGroups K T) :=
  match s.emitted[handle]? with
  | none => none
  | some group =>
    match s.keyToSubject group.key with
    | none => some s
    | some subject =>
      let s := s.subjectNext subject
      some { s with keyToSubject := Function.update s.keyToSubject group.key none }

def step : GroupsInput T → Option (CloseableGroups K T)
  | .item value => some (s.next keyFunc value)
  | .close handle => s.close handle

/-! ### Closing one's own group -/

/-- The group is open, and has the key. -/
def IsOpen (n : ℕ) (key : K) : Prop := ∃ items, s.emitted[n]? = some ⟨key, items, false⟩

variable (t : CloseableGroups K T)

/-- An item goes to the open group of its key, and begins a new one if there is none. -/
structure Receives (value : T) : Prop where
  received : ∀ n, s.IsOpen n (keyFunc value) → t.emitted = s.emitted.modify n (·.receive value)
  fresh : (∀ n, ¬s.IsOpen n (keyFunc value)) →
    t.emitted = s.emitted ++ [⟨keyFunc value, [value], false⟩]

/-- The handle's group ends if it is open; otherwise nothing happens, and nothing happens the second time. -/
structure ClosesOwnGroup (handle : ℕ) : Prop where
  ended : ∀ key, s.IsOpen handle key → t.emitted = s.emitted.modify handle (·.complete)
  unchanged : (∀ key, ¬s.IsOpen handle key) → t = s
  twice : t.close handle = some t

def Correct : GroupsInput T → Prop
  | .item value => s.Receives keyFunc t value
  | .close handle => s.ClosesOwnGroup t handle

/-- The step with the input, if there is one, is correct. -/
def StepCorrect (input : GroupsInput T) : Prop := ∀ t, s.step keyFunc input = some t → s.Correct keyFunc t input

/-- A handle that is closed is that of an open group, or no group of its key is open. -/
def NotStale : GroupsInput T → Prop
  | .item _ => True
  | .close handle => ∀ group, s.emitted[handle]? = some group →
      s.IsOpen handle group.key ∨ ∀ n, ¬s.IsOpen n group.key

/-! ### The maps -/

/-- The maps have the open groups. -/
structure Inv : Prop where
  keyToSubject : s.keyToSubject = s.groups
  groups : ∀ key n, s.groups key = some n ↔ s.IsOpen n key

variable {keyFunc s t}

section Emitted

omit [DecidableEq K]

lemma inv_initial : (initial : CloseableGroups K T).Inv where
  keyToSubject := rfl
  groups key n := by simp [initial, IsOpen]

variable {m n : ℕ} {key key' : K} {value : T}

lemma IsOpen.key_eq (h : s.IsOpen n key) (h' : s.IsOpen n key') : key = key' := by
  obtain ⟨items, hn⟩ := h
  obtain ⟨items', hn'⟩ := h'
  rw [hn] at hn'
  simpa using congrArg (Option.map KeyedGroup.key) hn'

lemma isOpen_iff_of_receive (h : t.emitted = s.emitted.modify m (·.receive value)) :
    t.IsOpen n key ↔ s.IsOpen n key := by
  unfold IsOpen
  rw [h, List.getElem?_modify]
  cases s.emitted[n]? with
  | none => simp
  | some group =>
    obtain ⟨key', items, completed⟩ := group
    by_cases hm : m = n <;> simp [hm, KeyedGroup.receive]

lemma isOpen_iff_of_append (h : t.emitted = s.emitted ++ [⟨key', [value], false⟩]) :
    t.IsOpen n key ↔ s.IsOpen n key ∨ n = s.emitted.length ∧ key = key' := by
  unfold IsOpen
  rw [h]
  rcases Nat.lt_trichotomy n s.emitted.length with hlt | rfl | hlt
  · rw [List.getElem?_append_left hlt]
    simp [Nat.ne_of_lt hlt]
  · simp [eq_comm]
  · rw [List.getElem?_eq_none (by simp; omega), List.getElem?_eq_none (Nat.le_of_lt hlt)]
    simp [Nat.ne_of_gt hlt]

lemma isOpen_iff_of_complete (h : t.emitted = s.emitted.modify m (·.complete)) :
    t.IsOpen n key ↔ s.IsOpen n key ∧ n ≠ m := by
  unfold IsOpen
  rw [h, List.getElem?_modify]
  cases s.emitted[n]? with
  | none => simp
  | some group =>
    obtain ⟨key', items, completed⟩ := group
    by_cases hm : m = n
    · simp [hm, KeyedGroup.complete]
    · simp [hm, Ne.symm hm]

lemma modify_complete_ne (hn : s.IsOpen n key) :
    s.emitted.modify n (·.complete) ≠ s.emitted := by
  intro heq
  have hsame : s.IsOpen n key ↔ s.IsOpen n key ∧ n ≠ n := isOpen_iff_of_complete heq.symm
  exact (hsame.mp hn).2 rfl

/-- The groups that are open have different keys. -/
lemma Inv.eq_of_isOpen (h : s.Inv) (hm : s.IsOpen m key) (hn : s.IsOpen n key) : m = n := by
  have hm' := (h.groups key m).mpr hm
  rw [(h.groups key n).mpr hn] at hm'
  exact (Option.some.inj hm').symm

end Emitted

lemma next_of_groups_eq_some {value : T} {group : ℕ} (h : s.groups (keyFunc value) = some group) :
    s.next keyFunc value = { s with emitted := s.emitted.modify group (·.receive value) } := by
  rw [CloseableGroups.next, h]

lemma next_of_groups_eq_none {value : T} (h : s.groups (keyFunc value) = none) : s.next keyFunc value =
    { groups := Function.update s.groups (keyFunc value) (some s.emitted.length)
      keyToSubject := Function.update s.keyToSubject (keyFunc value) (some s.emitted.length)
      emitted := s.emitted ++ [⟨keyFunc value, [value], false⟩] } := by
  rw [CloseableGroups.next, h]

/-- An item is received as it should be, and the maps have the group that begins. -/
lemma Inv.next (h : s.Inv) (value : T) :
    (s.next keyFunc value).Inv ∧ s.Receives keyFunc (s.next keyFunc value) value := by
  cases hgroup : s.groups (keyFunc value) with
  | some group =>
    have hopen := (h.groups _ _).mp hgroup
    rw [next_of_groups_eq_some hgroup]
    refine ⟨⟨h.keyToSubject, fun key n => (h.groups key n).trans (isOpen_iff_of_receive rfl).symm⟩,
      fun n hn => ?_, fun hnone => absurd hopen (hnone group)⟩
    rw [h.eq_of_isOpen hn hopen]
  | none =>
    have hnone : ∀ n, ¬s.IsOpen n (keyFunc value) := by
      intro n hn
      rw [(h.groups _ n).mpr hn] at hgroup
      cases hgroup
    rw [next_of_groups_eq_none hgroup]
    refine ⟨⟨by rw [h.keyToSubject], fun key n => ?_⟩, fun n hn => absurd hn (hnone n), fun _ => rfl⟩
    rw [isOpen_iff_of_append rfl, ← h.groups]
    dsimp only
    by_cases hkey : key = keyFunc value
    · subst hkey
      rw [Function.update_self, hgroup]
      simp [eq_comm]
    · rw [Function.update_of_ne hkey]
      simp [hkey]

/-- The group that is open with the key of the handle is ended, whether or not it is the handle's. -/
lemma Inv.close_of_isOpen (h : s.Inv) {handle n : ℕ} {group : KeyedGroup K T}
    (hhandle : s.emitted[handle]? = some group) (hn : s.IsOpen n group.key) :
    s.close handle = some
      { groups := Function.update s.groups group.key none
        keyToSubject := Function.update s.keyToSubject group.key none
        emitted := s.emitted.modify n (·.complete) } := by
  have hsubject : s.keyToSubject group.key = some n := by rw [h.keyToSubject, (h.groups _ n).mpr hn]
  obtain ⟨items, hitems⟩ := hn
  simp only [close, hhandle, hsubject, subjectNext, hitems]

lemma Inv.close_of_not_isOpen (h : s.Inv) {handle : ℕ} {group : KeyedGroup K T}
    (hhandle : s.emitted[handle]? = some group) (hnone : ∀ n, ¬s.IsOpen n group.key) :
    s.close handle = some s := by
  have hsubject : s.keyToSubject group.key = none := by
    cases hgroup : s.groups group.key with
    | none => rw [h.keyToSubject, hgroup]
    | some n => exact absurd ((h.groups _ n).mp hgroup) (hnone n)
  simp only [close, hhandle, hsubject]

variable {handle : ℕ}

lemma emitted_of_close (h : s.close handle = some t) : ∃ group, s.emitted[handle]? = some group := by
  cases hhandle : s.emitted[handle]? with
  | none =>
    simp only [close, hhandle] at h
    cases h
  | some group => exact ⟨group, rfl⟩

lemma Inv.close (h : s.Inv) (hclose : s.close handle = some t) : t.Inv := by
  obtain ⟨group, hhandle⟩ := emitted_of_close hclose
  by_cases hopen : ∃ n, s.IsOpen n group.key
  · obtain ⟨n, hn⟩ := hopen
    rw [h.close_of_isOpen hhandle hn] at hclose
    obtain rfl := Option.some.inj hclose
    refine ⟨by rw [h.keyToSubject], fun key m => ?_⟩
    rw [isOpen_iff_of_complete rfl, ← h.groups]
    dsimp only
    by_cases hkey : key = group.key
    · subst hkey
      rw [Function.update_self, (h.groups _ n).mpr hn]
      simp [eq_comm]
    · rw [Function.update_of_ne hkey]
      refine ⟨fun hm => ⟨hm, ?_⟩, And.left⟩
      rintro rfl
      exact hkey (((h.groups key m).mp hm).key_eq hn)
  · rw [h.close_of_not_isOpen hhandle (not_exists.mp hopen)] at hclose
    obtain rfl := Option.some.inj hclose
    exact h

/-- Once a handle is closed, closing it again changes nothing. -/
lemma Inv.close_twice (h : s.Inv) (hclose : s.close handle = some t) : t.close handle = some t := by
  obtain ⟨group, hhandle⟩ := emitted_of_close hclose
  by_cases hopen : ∃ n, s.IsOpen n group.key
  · obtain ⟨n, hn⟩ := hopen
    rw [h.close_of_isOpen hhandle hn] at hclose
    obtain rfl := Option.some.inj hclose
    have hagain : ∃ again : KeyedGroup K T,
        (s.emitted.modify n (·.complete))[handle]? = some again ∧ again.key = group.key := by
      rw [List.getElem?_modify, hhandle]
      by_cases hne : n = handle
      · exact ⟨group.complete, by simp [hne], rfl⟩
      · exact ⟨group, by simp [hne], rfl⟩
    obtain ⟨again, hagain, hkey⟩ := hagain
    simp only [CloseableGroups.close, hagain, hkey, Function.update_self]
  · rw [h.close_of_not_isOpen hhandle (not_exists.mp hopen)] at hclose
    obtain rfl := Option.some.inj hclose
    exact h.close_of_not_isOpen hhandle (not_exists.mp hopen)

lemma Inv.step (h : s.Inv) {input : GroupsInput T} (hstep : s.step keyFunc input = some t) : t.Inv := by
  cases input with
  | item value =>
    obtain rfl := Option.some.inj hstep
    exact (h.next value).1
  | close handle => exact h.close hstep

/-- A step goes wrong exactly if a stale handle is closed while a later group of its key is open. -/
lemma Inv.stepCorrect_iff (h : s.Inv) {input : GroupsInput T} (hstep : s.step keyFunc input = some t) :
    s.StepCorrect keyFunc input ↔ s.NotStale input := by
  have hcorrect : s.StepCorrect keyFunc input ↔ s.Correct keyFunc t input := by
    constructor
    · exact fun hall => hall t hstep
    · intro ht u hu
      rw [hstep] at hu
      obtain rfl := Option.some.inj hu
      exact ht
  rw [hcorrect]
  cases input with
  | item value =>
    obtain rfl := Option.some.inj hstep
    exact iff_of_true (h.next value).2 trivial
  | close handle =>
    obtain ⟨group, hhandle⟩ := emitted_of_close hstep
    have hclose : s.close handle = some t := hstep
    constructor
    · intro hown group' hhandle'
      rw [hhandle] at hhandle'
      obtain rfl := Option.some.inj hhandle'
      by_contra hstale
      rw [not_or, not_forall] at hstale
      obtain ⟨hended, n, hn⟩ := hstale
      have hn := not_not.mp hn
      have hnot : ∀ key, ¬s.IsOpen handle key := by
        rintro key ⟨items, hitems⟩
        rw [hhandle] at hitems
        obtain rfl := Option.some.inj hitems
        exact hended ⟨items, hhandle⟩
      rw [h.close_of_isOpen hhandle hn] at hclose
      have hsame := hown.unchanged hnot
      rw [hsame] at hclose
      exact modify_complete_ne hn (congrArg emitted (Option.some.inj hclose))
    · intro hnotStale
      refine ⟨fun key hopen => ?_, fun hended => ?_, h.close_twice hclose⟩
      · have hkey : key = group.key := by
          obtain ⟨items, hitems⟩ := hopen
          rw [hhandle] at hitems
          obtain rfl := Option.some.inj hitems
          rfl
        subst hkey
        rw [h.close_of_isOpen hhandle hopen] at hclose
        exact (congrArg emitted (Option.some.inj hclose)).symm
      · rcases hnotStale group hhandle with hopen | hnone
        · exact absurd hopen (hended group.key)
        · rw [h.close_of_not_isOpen hhandle hnone] at hclose
          exact (Option.some.inj hclose).symm

/-- A run is correct in all its steps exactly if no stale handle is closed while a later group of its key is
open. -/
theorem closesOwnGroup_iff {inputs : List (GroupsInput T)}
    (h : Transition.run (step keyFunc) initial inputs = some s) :
    Transition.Meets (step keyFunc) (StepCorrect keyFunc) initial inputs ↔
      Transition.Meets (step keyFunc) NotStale initial inputs :=
  Transition.meets_congr (fun _ _ _ hinv hstep => hinv.step hstep)
    (fun _ _ _ hinv hstep => hinv.stepCorrect_iff hstep) inv_initial h

/-! ### Two groups of one key -/

/-- The first group of a key is closed twice, a second one begins and is closed, and the first one's handle is
closed again when no group is open. -/
def reopened : List (GroupsInput String) :=
  [.item "token", .close 0, .close 0, .item "token", .close 1, .close 0]

omit [DecidableEq K] in
lemma notStale_of_completed {handle : ℕ} (h : ∀ group ∈ s.emitted, group.completed = true) :
    s.NotStale (.close handle) := by
  rintro group -
  refine .inr fun n ⟨items, hitems⟩ => ?_
  exact absurd (h _ (List.mem_of_getElem? hitems)) (by simp)

theorem closesOwnGroup_iff_reopened :
    (∃ s, Transition.run (step fun token : String => token) initial reopened = some s ∧
      s.emitted = [⟨"token", ["token"], true⟩, ⟨"token", ["token"], true⟩]) ∧
      Transition.Meets (step fun token : String => token) (StepCorrect fun token => token) initial reopened := by
  have hrun : ∃ s, Transition.run (step fun token : String => token) initial reopened = some s ∧
      s.emitted = [⟨"token", ["token"], true⟩, ⟨"token", ["token"], true⟩] := ⟨_, rfl, rfl⟩
  obtain ⟨s, hs, hemitted⟩ := hrun
  refine ⟨⟨s, hs, hemitted⟩, (closesOwnGroup_iff hs).mpr ⟨trivial, ?_⟩⟩
  rintro t₁ ht₁
  obtain rfl := Option.some.inj ht₁
  refine ⟨fun group hgroup => .inl ?_, fun t₂ ht₂ => ?_⟩
  · obtain rfl := Option.some.inj hgroup
    exact ⟨["token"], rfl⟩
  obtain rfl := Option.some.inj ht₂
  refine ⟨notStale_of_completed (by decide), fun t₃ ht₃ => ?_⟩
  obtain rfl := Option.some.inj ht₃
  refine ⟨trivial, fun t₄ ht₄ => ?_⟩
  obtain rfl := Option.some.inj ht₄
  refine ⟨fun group hgroup => .inl ?_, fun t₅ ht₅ => ?_⟩
  · obtain rfl := Option.some.inj hgroup
    exact ⟨["token"], rfl⟩
  obtain rfl := Option.some.inj ht₅
  exact ⟨notStale_of_completed (by decide), fun _ _ => trivial⟩

/-- The first group of a key is closed, a second one begins, and the first one's handle is closed again. -/
def staleClose : List (GroupsInput String) := [.item "token", .close 0, .item "token", .close 0]

/-- This ends the second group. -/
theorem not_closesOwnGroup_stale :
    (∃ s, Transition.run (step fun token : String => token) initial staleClose = some s ∧
      s.emitted = [⟨"token", ["token"], true⟩, ⟨"token", ["token"], true⟩]) ∧
      ¬Transition.Meets (step fun token : String => token) (StepCorrect fun token => token) initial staleClose := by
  refine ⟨⟨_, rfl, rfl⟩, fun h => ?_⟩
  have hstale := (((h.2 _ rfl).2 _ rfl).2 _ rfl).1 _ rfl
  have hclosed : ∀ key, ¬(CloseableGroups.mk (fun _ => none) (fun _ => none)
      [⟨"token", ["token"], true⟩] : CloseableGroups String String).IsOpen 0 key := by
    rintro key ⟨items, hitems⟩
    simp at hitems
  have hsame := hstale.unchanged fun key ⟨items, hitems⟩ => hclosed key ⟨items, hitems⟩
  exact absurd (congrArg emitted hsame) (by decide)

end CloseableGroups

end TemporalSdk
