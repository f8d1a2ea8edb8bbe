import TemporalSdk.Library.OrderedMap
import TemporalSdk.Library.Transition

/-!
# The global object of a reused context

The workflows of one `ReusableVMWorkflowCreator` run in one V8 context. A call into a workflow assigns
the properties in the workflow's bag to the global object. When the call ends, the properties that are
not preserved are saved in the bag, set to `undefined`, and deleted. The deleting loop is a `for ... in`
over an array, which goes through the indices of the array and not through the keys in it.
-/

namespace TemporalSdk

inductive GlobalValue (α : Type*)
  | undefined
  | defined (value : α)
deriving DecidableEq

/-- The enumerable properties of the global object -/
abbrev Globals (α : Type*) := OrderedMap String (GlobalValue α)

/-- What workflow code does to its global object -/
inductive GlobalOp (α : Type*)
  | set (key : String) (value : GlobalValue α)
  | delete (key : String)

/-- A call of a function in the module of a workflow, with the operations of the code that it runs. The
call ends in the same way if the code throws. -/
structure GlobalsCall (ι α : Type*) where
  workflow : ι
  args : GlobalValue α
  ops : List (GlobalOp α)

/-- The global object as a call finds it and as the code leaves it. -/
structure Visit (ι α : Type*) where
  workflow : ι
  entered : Globals α
  left : Globals α

/-- `visits` are the calls so far, the last one first. -/
structure ReusableVMWorkflowCreator (ι α : Type*) where
  context : Globals α
  contextKeysToPreserve : List String
  bags : ι → Globals α
  visits : List (Visit ι α)

variable {ι α : Type*}

def GlobalOp.apply (context : Globals α) : GlobalOp α → Globals α
  | .set key value => OrderedMap.set context key value
  | .delete key => context.erase key

/-- What a property access reads -/
def Globals.get (context : Globals α) (key : String) : GlobalValue α :=
  (context.lookup key).getD .undefined

def reservedKeys : List String := ["__TEMPORAL_ARGS__", "__TEMPORAL_ACTIVATOR__"]

/-- The state of the loop that empties the global object into a bag -/
structure Emptying (α : Type*) where
  bag : Globals α
  context : Globals α
  keysToDelete : List String

def Emptying.key (contextKeysToPreserve : List String) (e : Emptying α) (k : String) : Emptying α :=
  if k ∈ contextKeysToPreserve then e
  else
    { bag := OrderedMap.set e.bag k (Globals.get e.context k)
      context := OrderedMap.set e.context k .undefined
      keysToDelete := e.keysToDelete ++ [k] }

/-- The keys that `for ... in` takes from an array -/
def arrayIndices (length : Nat) : List String := (List.range length).map toString

namespace ReusableVMWorkflowCreator

/-- The creator, once the bundle has been loaded -/
def create (context : Globals α) : ReusableVMWorkflowCreator ι α :=
  ⟨context, context.keys, fun _ => ∅, []⟩

variable [DecidableEq ι] (s : ReusableVMWorkflowCreator ι α)

/-- The global object when the code of a call starts to run -/
def enter (call : GlobalsCall ι α) : Globals α :=
  OrderedMap.set (OrderedMap.assign s.context (s.bags call.workflow)) "__TEMPORAL_ARGS__" call.args

def exit (workflow : ι) (left : Globals α) : ReusableVMWorkflowCreator ι α :=
  let e := left.keys.foldl (Emptying.key s.contextKeysToPreserve) ⟨s.bags workflow, left, []⟩
  let context := OrderedMap.eraseAll e.context (arrayIndices e.keysToDelete.length)
  { s with
    context := OrderedMap.set context "__TEMPORAL_ACTIVATOR__" (Globals.get e.bag "__TEMPORAL_ACTIVATOR__")
    bags := Function.update s.bags workflow e.bag }

def call (call : GlobalsCall ι α) : ReusableVMWorkflowCreator ι α :=
  let entered := s.enter call
  let left := call.ops.foldl GlobalOp.apply entered
  { s.exit call.workflow left with visits := ⟨call.workflow, entered, left⟩ :: s.visits }

def run (calls : List (GlobalsCall ι α)) : ReusableVMWorkflowCreator ι α := calls.foldl call s

def step (s : ReusableVMWorkflowCreator ι α) (c : GlobalsCall ι α) :
    Option (ReusableVMWorkflowCreator ι α) := some (s.call c)

lemma run_eq (calls : List (GlobalsCall ι α)) :
    Transition.run step s calls = some (s.run calls) := by
  induction calls generalizing s with
  | nil => rfl
  | cons c calls ih => exact ih (s.call c)

end ReusableVMWorkflowCreator

/-! ### Isolation -/

/-- The same enumerable properties, up to the reserved ones -/
def SameGlobals (x y : Globals α) : Prop := ∀ k, k ∉ reservedKeys → x.lookup k = y.lookup k

variable [DecidableEq ι]

/-- What a workflow left at its last exit; before its first entry, what the bundle has loaded. -/
def lastLeft (loaded : Globals α) (visits : List (Visit ι α)) (workflow : ι) : Globals α :=
  ((visits.find? (·.workflow = workflow)).map (·.left)).getD loaded

/-- At every entry, the workflow finds the properties that it left. -/
def Isolated (loaded : Globals α) : List (Visit ι α) → Prop
  | [] => True
  | v :: earlier =>
    SameGlobals v.entered (lastLeft loaded earlier v.workflow) ∧ Isolated loaded earlier

namespace Visit

variable (v : Visit ι α) (preserved : List String)

/-- The keys that the exit deletes: as many indices as there are properties to delete -/
def deleted : List String :=
  arrayIndices (v.left.keys.filter (fun k => k ∉ preserved)).length

end Visit

/-- The condition on a call of a workflow, given the calls before it: the workflow has not deleted what it
had left; the call before it, of whichever workflow, left no property that is new to this workflow; and that
call, and the loop at its end, left the preserved properties as this workflow had left them. -/
structure Undisturbed (loaded : Globals α) (visits : List (Visit ι α)) (workflow : ι) : Prop where
  deletesNone : ∀ v ∈ visits, v.workflow = workflow → ∀ k ∈ v.left, k ∉ reservedKeys → k ∉ loaded →
    k ∈ lastLeft loaded visits workflow
  addsNone : ∀ u ∈ visits.head?, ∀ k ∈ u.left, k ∉ reservedKeys → k ∉ loaded →
    k ∉ u.deleted loaded.keys → ∃ v ∈ visits, v.workflow = workflow ∧ k ∈ v.left
  keepsPreserved : ∀ u ∈ visits.head?, ∀ k ∈ loaded, k ∉ reservedKeys →
    (if k ∈ u.deleted loaded.keys then none else u.left.lookup k) =
      (lastLeft loaded visits workflow).lookup k

/-! ### The loop that empties the global object -/

namespace Emptying

variable (contextKeysToPreserve : List String) (e : Emptying α) {keys : List String}

lemma keysToDelete_foldl (keys : List String) :
    (keys.foldl (key contextKeysToPreserve) e).keysToDelete =
      e.keysToDelete ++ keys.filter (fun k => k ∉ contextKeysToPreserve) := by
  induction keys generalizing e with
  | nil => simp
  | cons a keys ih =>
    rw [List.foldl_cons, ih]
    by_cases ha : a ∈ contextKeysToPreserve
    · simp [key, ha]
    · simp [key, ha]

lemma lookup_context_key (a k : String) :
    (key contextKeysToPreserve e a).context.lookup k =
      if k = a ∧ a ∉ contextKeysToPreserve then some .undefined else e.context.lookup k := by
  by_cases ha : a ∈ contextKeysToPreserve
  · simp [key, ha]
  · simp [key, ha, OrderedMap.lookup_set]

lemma lookup_bag_key (a k : String) :
    (key contextKeysToPreserve e a).bag.lookup k =
      if k = a ∧ a ∉ contextKeysToPreserve then some (Globals.get e.context a) else e.bag.lookup k := by
  by_cases ha : a ∈ contextKeysToPreserve
  · simp [key, ha]
  · simp [key, ha, OrderedMap.lookup_set]

lemma lookup_context_foldl (keys : List String) (k : String) :
    (keys.foldl (key contextKeysToPreserve) e).context.lookup k =
      if k ∈ keys ∧ k ∉ contextKeysToPreserve then some .undefined else e.context.lookup k := by
  induction keys generalizing e with
  | nil => simp
  | cons a keys ih =>
    rw [List.foldl_cons, ih, lookup_context_key]
    by_cases hk : k = a
    · subst hk
      by_cases hpreserve : k ∈ contextKeysToPreserve
      · simp [hpreserve]
      · simp [hpreserve]
    · simp [hk]

/-- Each key is read before it is set to `undefined`. -/
lemma lookup_bag_foldl (hkeys : keys.Nodup) (k : String) :
    (keys.foldl (key contextKeysToPreserve) e).bag.lookup k =
      if k ∈ keys ∧ k ∉ contextKeysToPreserve then some (Globals.get e.context k)
      else e.bag.lookup k := by
  induction keys generalizing e with
  | nil => simp
  | cons a keys ih =>
    obtain ⟨ha, hkeys⟩ := List.nodup_cons.mp hkeys
    rw [List.foldl_cons, ih _ hkeys, lookup_bag_key]
    by_cases hk : k = a
    · subst hk
      by_cases hpreserve : k ∈ contextKeysToPreserve
      · simp [hpreserve]
      · simp [hpreserve, ha]
    · have hget : Globals.get (key contextKeysToPreserve e a).context k = Globals.get e.context k := by
        unfold Globals.get
        rw [lookup_context_key]
        simp [hk]
      rw [hget]
      simp [hk]

end Emptying

lemma some_get {m : Globals α} {k : String} (h : k ∈ m) : some (Globals.get m k) = m.lookup k := by
  obtain ⟨value, hvalue⟩ := Option.isSome_iff_exists.mp (AList.lookup_isSome.mpr h)
  rw [Globals.get, hvalue]
  rfl

namespace ReusableVMWorkflowCreator

variable (s : ReusableVMWorkflowCreator ι α)

/-- What the exit of a call leaves on the global object -/
lemma exit_context (workflow : ι) (left : Globals α) {k : String} (hk : k ∉ reservedKeys) :
    (s.exit workflow left).context.lookup k =
      if k ∈ arrayIndices (left.keys.filter (fun k => k ∉ s.contextKeysToPreserve)).length then none
      else if k ∈ s.contextKeysToPreserve then left.lookup k
      else (left.lookup k).map fun _ => .undefined := by
  have hne : k ≠ "__TEMPORAL_ACTIVATOR__" := by
    rintro rfl
    exact hk (by simp [reservedKeys])
  simp only [exit, OrderedMap.lookup_set, if_neg hne, OrderedMap.lookup_eraseAll,
    Emptying.lookup_context_foldl, Emptying.keysToDelete_foldl, List.nil_append]
  congr 1
  by_cases hpreserve : k ∈ s.contextKeysToPreserve
  · simp [hpreserve]
  · by_cases hmem : k ∈ left
    · have hkeys : k ∈ left.keys := hmem
      obtain ⟨value, hvalue⟩ := Option.isSome_iff_exists.mp (AList.lookup_isSome.mpr hmem)
      simp [hpreserve, hkeys, hvalue]
    · have hkeys : k ∉ left.keys := hmem
      simp [hpreserve, hkeys, AList.lookup_eq_none.mpr hmem]

/-- What it saves in the bag of the workflow -/
lemma exit_bags (workflow w : ι) (left : Globals α) (k : String) :
    ((s.exit workflow left).bags w).lookup k =
      if w = workflow ∧ k ∈ left ∧ k ∉ s.contextKeysToPreserve then left.lookup k
      else (s.bags w).lookup k := by
  by_cases hw : w = workflow
  · subst hw
    simp only [exit, Function.update_self, Emptying.lookup_bag_foldl _ _ left.keys_nodup, true_and]
    by_cases h : k ∈ left ∧ k ∉ s.contextKeysToPreserve
    · have hkeys : k ∈ left.keys ∧ k ∉ s.contextKeysToPreserve := h
      rw [if_pos h, if_pos hkeys, some_get h.1]
    · have hkeys : ¬(k ∈ left.keys ∧ k ∉ s.contextKeysToPreserve) := h
      rw [if_neg h, if_neg hkeys]
  · simp [exit, hw]

/-! ### The global object and the bags after any calls -/

/-- What a workflow left last under a key, whether or not it was there at its last exit -/
def saved (visits : List (Visit ι α)) (workflow : ι) (k : String) : Option (GlobalValue α) :=
  visits.findSome? fun v => if v.workflow = workflow then v.left.lookup k else none

/-- The global object is what the last call left, emptied; the bags hold all that the workflows left. -/
structure Inv (loaded : Globals α) (s : ReusableVMWorkflowCreator ι α) : Prop where
  preserve : s.contextKeysToPreserve = loaded.keys
  context : ∀ k, k ∉ reservedKeys → s.context.lookup k =
    match s.visits with
    | [] => loaded.lookup k
    | u :: _ =>
      if k ∈ u.deleted loaded.keys then none
      else if k ∈ loaded.keys then u.left.lookup k
      else (u.left.lookup k).map fun _ => .undefined
  bags : ∀ w k, (s.bags w).lookup k = if k ∈ loaded.keys then none else saved s.visits w k

lemma create_inv (loaded : Globals α) : (create loaded : ReusableVMWorkflowCreator ι α).Inv loaded := by
  refine ⟨rfl, fun k _ => rfl, fun w k => ?_⟩
  simp [create, saved]

variable {s} {loaded : Globals α}

lemma Inv.call (hs : s.Inv loaded) (c : GlobalsCall ι α) : (s.call c).Inv loaded := by
  refine ⟨hs.preserve, fun k hk => ?_, fun w k => ?_⟩
  · have h := s.exit_context c.workflow (c.ops.foldl GlobalOp.apply (s.enter c)) hk
    rw [hs.preserve] at h
    exact h
  · have h := s.exit_bags c.workflow w (c.ops.foldl GlobalOp.apply (s.enter c)) k
    rw [hs.preserve, hs.bags w k] at h
    refine Eq.trans h ?_
    simp only [ReusableVMWorkflowCreator.call, saved, List.findSome?_cons]
    generalize c.ops.foldl GlobalOp.apply (s.enter c) = left
    by_cases hpreserve : k ∈ loaded.keys
    · simp [hpreserve]
    · by_cases hw : w = c.workflow
      · by_cases hmem : k ∈ left
        · obtain ⟨value, hvalue⟩ := Option.isSome_iff_exists.mp (AList.lookup_isSome.mpr hmem)
          simp [hpreserve, hw, hmem, hvalue]
        · simp [hpreserve, hw, hmem, AList.lookup_eq_none.mpr hmem]
      · simp [hpreserve, hw, Ne.symm hw]

omit [DecidableEq ι] in
/-- What a call finds under a key -/
lemma enter_lookup (c : GlobalsCall ι α) {k : String} (hk : k ∉ reservedKeys) :
    (s.enter c).lookup k = ((s.bags c.workflow).lookup k).or (s.context.lookup k) := by
  have hne : k ≠ "__TEMPORAL_ARGS__" := by
    rintro rfl
    exact hk (by simp [reservedKeys])
  rw [enter, OrderedMap.lookup_set, if_neg hne, OrderedMap.lookup_assign]

lemma saved_eq_none {visits : List (Visit ι α)} {w : ι} {k : String} :
    saved visits w k = none ↔ ∀ v ∈ visits, v.workflow = w → k ∉ v.left := by
  unfold saved
  rw [List.findSome?_eq_none_iff]
  refine forall₂_congr fun v _ => ?_
  by_cases hw : v.workflow = w
  · simp [hw, AList.lookup_eq_none]
  · simp [hw]

lemma mem_lastLeft {visits : List (Visit ι α)} {w : ι} {k : String}
    (h : k ∈ lastLeft loaded visits w) :
    k ∈ loaded ∨ ∃ v ∈ visits, v.workflow = w ∧ k ∈ v.left := by
  unfold lastLeft at h
  cases hfind : visits.find? (·.workflow = w) with
  | none =>
    rw [hfind] at h
    exact .inl h
  | some v =>
    rw [hfind] at h
    have hw : v.workflow = w := by simpa using List.find?_some hfind
    exact .inr ⟨v, List.mem_of_find?_eq_some hfind, hw, h⟩

/-- The bag has what the workflow left at its last exit under the keys that it left there. -/
lemma saved_eq_lookup {visits : List (Visit ι α)} {w : ι} {k : String} (hloaded : k ∉ loaded)
    (h : k ∈ lastLeft loaded visits w) :
    saved visits w k = (lastLeft loaded visits w).lookup k := by
  induction visits with
  | nil => exact absurd h hloaded
  | cons v visits ih =>
    by_cases hw : v.workflow = w
    · have hlast : lastLeft loaded (v :: visits) w = v.left := by simp [lastLeft, hw]
      rw [hlast] at h ⊢
      obtain ⟨value, hvalue⟩ := Option.isSome_iff_exists.mp (AList.lookup_isSome.mpr h)
      simp [saved, hw, hvalue]
    · have hlast : lastLeft loaded (v :: visits) w = lastLeft loaded visits w := by
        simp [lastLeft, hw]
      have hsaved : saved (v :: visits) w k = saved visits w k := by simp [saved, hw]
      rw [hlast] at h ⊢
      rw [hsaved]
      exact ih h

lemma Inv.undisturbed (hs : s.Inv loaded) (c : GlobalsCall ι α)
    (h : SameGlobals (s.enter c) (lastLeft loaded s.visits c.workflow)) :
    Undisturbed loaded s.visits c.workflow := by
  refine ⟨fun v hv hw k hk hreserved hloaded => ?_, fun u hu k hk hreserved hloaded hdeleted => ?_,
    fun u hu k hk hreserved => ?_⟩
  · have hkeys : k ∉ loaded.keys := hloaded
    have hsaved : saved s.visits c.workflow k ≠ none := fun hnone => saved_eq_none.mp hnone v hv hw hk
    obtain ⟨value, hvalue⟩ := Option.ne_none_iff_exists'.mp hsaved
    have hbag : (s.bags c.workflow).lookup k = some value := by
      rw [hs.bags, if_neg hkeys, hvalue]
    have hlast := h k hreserved
    rw [enter_lookup c hreserved, hbag, Option.some_or] at hlast
    rw [← AList.lookup_isSome, ← hlast]
    rfl
  · by_contra hnot
    have hkeys : k ∉ loaded.keys := hloaded
    have hnone : saved s.visits c.workflow k = none :=
      saved_eq_none.mpr fun v hv hw hmem => hnot ⟨v, hv, hw, hmem⟩
    obtain ⟨earlier, hvisits⟩ := List.head?_eq_some_iff.mp hu
    obtain ⟨value, hvalue⟩ := Option.isSome_iff_exists.mp (AList.lookup_isSome.mpr hk)
    have hlast := h k hreserved
    rw [enter_lookup c hreserved, hs.bags, if_neg hkeys, hnone, Option.none_or, hs.context k hreserved]
      at hlast
    simp only [hvisits, if_neg hdeleted, if_neg hkeys, hvalue, Option.map_some] at hlast
    have hmem : k ∈ lastLeft loaded s.visits c.workflow := by
      rw [← AList.lookup_isSome, hvisits, ← hlast]
      rfl
    rcases mem_lastLeft hmem with h' | ⟨v, hv, hw, hmem⟩
    · exact hloaded h'
    · exact hnot ⟨v, hv, hw, hmem⟩
  · obtain ⟨earlier, hvisits⟩ := List.head?_eq_some_iff.mp hu
    have hkeys : k ∈ loaded.keys := hk
    have hlast := h k hreserved
    rw [enter_lookup c hreserved, hs.bags, if_pos hkeys, Option.none_or, hs.context k hreserved] at hlast
    rw [← hlast]
    simp only [hvisits, if_pos hkeys]

lemma Inv.sameGlobals (hs : s.Inv loaded) (c : GlobalsCall ι α)
    (h : Undisturbed loaded s.visits c.workflow) :
    SameGlobals (s.enter c) (lastLeft loaded s.visits c.workflow) := by
  intro k hreserved
  rw [enter_lookup c hreserved, hs.bags, hs.context k hreserved]
  by_cases hk : k ∈ loaded
  · have hkeys : k ∈ loaded.keys := hk
    rw [if_pos hkeys, Option.none_or]
    cases hvisits : s.visits with
    | nil => rfl
    | cons u earlier =>
      have hkeeps := h.keepsPreserved u (by rw [hvisits]; rfl) k hk hreserved
      rw [hvisits] at hkeeps
      simp only [if_pos hkeys]
      exact hkeeps
  · have hkeys : k ∉ loaded.keys := hk
    rw [if_neg hkeys]
    cases hsaved : saved s.visits c.workflow k with
    | some value =>
      have hleft : ¬∀ v ∈ s.visits, v.workflow = c.workflow → k ∉ v.left := by
        rw [← saved_eq_none, hsaved]
        exact Option.some_ne_none value
      push Not at hleft
      obtain ⟨v, hv, hw, hmem⟩ := hleft
      have hlast := h.deletesNone v hv hw k hmem hreserved hk
      rw [Option.some_or, ← hsaved]
      exact saved_eq_lookup hk hlast
    | none =>
      have hnever := saved_eq_none.mp hsaved
      have hlast : (lastLeft loaded s.visits c.workflow).lookup k = none := by
        rw [AList.lookup_eq_none]
        intro hmem
        rcases mem_lastLeft hmem with h' | ⟨v, hv, hw, hmem⟩
        · exact hk h'
        · exact hnever v hv hw hmem
      rw [Option.none_or, hlast]
      cases hvisits : s.visits with
      | nil => exact AList.lookup_eq_none.mpr hk
      | cons u earlier =>
        simp only [if_neg hkeys]
        split
        · rfl
        · rename_i hdeleted
          have hu : k ∉ u.left := by
            intro hmem
            obtain ⟨v, hv, hw, hleft⟩ :=
              h.addsNone u (by rw [hvisits]; rfl) k hmem hreserved hk hdeleted
            exact hnever v hv hw hleft
          rw [AList.lookup_eq_none.mpr hu]
          rfl

/-- Workflows in a reused context are isolated from each other exactly in the runs in which every call is
undisturbed by what the earlier calls left. -/
theorem isolated_iff (loaded : Globals α) (calls : List (GlobalsCall ι α)) :
    Isolated loaded ((create loaded).run calls).visits ↔
      Transition.Meets step (fun s c => Undisturbed loaded s.visits c.workflow) (create loaded) calls := by
  have hrun : Transition.run step (create loaded) calls = some ((create loaded).run calls) :=
    run_eq (create loaded) calls
  have h := Transition.meets_or_broken
    (C := fun (s : ReusableVMWorkflowCreator ι α) c => Undisturbed loaded s.visits c.workflow)
    (I := fun s => s.Inv loaded ∧ Isolated loaded s.visits) (B := fun s => ¬Isolated loaded s.visits)
    ?_ ?_ ?_ ⟨create_inv loaded, trivial⟩ hrun
  · rcases h with ⟨hmeets, -, hisolated⟩ | ⟨hmeets, hisolated⟩
    · exact ⟨fun _ => hmeets, fun _ => hisolated⟩
    · exact ⟨fun h => absurd h hisolated, fun h => absurd h hmeets⟩
  · rintro s c t ⟨hs, hisolated⟩ hc ht
    cases ht
    exact ⟨hs.call c, hs.sameGlobals c hc, hisolated⟩
  · rintro s c t ⟨hs, -⟩ hc ht hisolated
    cases ht
    exact hc (hs.undisturbed c hisolated.1)
  · intro s c t hbroken ht hisolated
    cases ht
    exact hbroken hisolated.2

/-- The first workflow sets a property; the second finds it when it is entered for the first time. -/
theorem not_isolated :
    ¬∀ (loaded : Globals ℕ) (calls : List (GlobalsCall ℕ ℕ)),
      Isolated loaded ((create loaded).run calls).visits := by
  intro h
  have hseen := (h (OrderedMap.set ∅ "assert" (.defined 0))
    [⟨0, .undefined, [.set "a" (.defined 1)]⟩, ⟨1, .undefined, []⟩]).1 "a" (by decide)
  revert hseen
  decide

end ReusableVMWorkflowCreator

end TemporalSdk
