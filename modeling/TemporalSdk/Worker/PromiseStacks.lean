import TemporalSdk.Library.OrderedMap
import TemporalSdk.Library.Transition
import TemporalSdk.Worker.StructuredStackTrace

/-!
# Promises that are tracked for stack traces

The hooks on promises fill two maps for each workflow, from which the stack trace query finds the promises
that nothing else waits for. What `Promise.all` and its like create inside is linked to the promise that
they return, which all workflows of a thread share one variable for.
-/

namespace TemporalSdk

namespace PromiseHook

/-! ### The hooks -/

section Formatted

open Regex

/-- `Function\.(race|all|allSettled|any) \(<anonymous>\)\n` behind `\s+at ` -/
def aggregatorFrame : Regex :=
  concat [plus (char isSpace), literal "at Function.",
    alt (literal "race") (alt (literal "all") (alt (literal "allSettled") (literal "any"))),
    literal " (<anonymous>)\n"]

def looksAggregator (formatted : String) : Bool := aggregatorFrame.matchesStart formatted.toList

/-- The frame of `Promise.then` on top of the one of an aggregator -/
def internalFrames : Regex :=
  concat [plus (char isSpace), literal "at", char isSpace, literal "Promise.then (<anonymous>)\n",
    aggregatorFrame]

def looksInternal (formatted : String) : Bool := internalFrames.matchesStart formatted.toList

end Formatted

structure Stack where
  formatted : String
  structured : List FileLocation
deriving DecidableEq

/-- `promiseToStack` may hold `undefined`. -/
structure PromiseStackStore (π : Type) where
  childToParent : OrderedMap π (Finset π)
  promiseToStack : OrderedMap π (Option Stack)

/-- The variable of the hook, and the stores of the workflows -/
structure State (ρ π : Type) where
  currentAggregation : Option π
  promiseStackStore : ρ → PromiseStackStore π

/-- What happens to a promise. Outside of workflow context there is no run, and without a run of
`prepareStackTrace` there is no stack. -/
inductive Event (ρ π : Type)
  | init (runId : Option ρ) (promise : π) (parent : Option π) (stackTrace : Option Stack)
  | settled (runId : Option ρ) (promise : π)
  | untrackPromise (runId : Option ρ) (promise : π)

variable {ρ π : Type} [DecidableEq ρ] [DecidableEq π]

def PromiseStackStore.untrack (store : PromiseStackStore π) (promise : π) : PromiseStackStore π where
  childToParent := store.childToParent.erase promise
  promiseToStack := store.promiseToStack.erase promise

def PromiseStackStore.track (store : PromiseStackStore π) (promise : π) (parent : Option π)
    (stackTrace : Option Stack) : PromiseStackStore π where
  childToParent :=
    let parents := (store.childToParent.lookup promise).getD ∅
    OrderedMap.set store.childToParent promise (match parent with
      | some parent => insert parent parents
      | none => parents)
  promiseToStack := OrderedMap.set store.promiseToStack promise stackTrace

def State.init (s : State ρ π) (runId : ρ) (promise : π) (parent : Option π) (stackTrace : Stack) :
    State ρ π :=
  let store := s.promiseStackStore runId
  match s.currentAggregation, looksInternal stackTrace.formatted with
  | some aggregation, true =>
    -- skips internal promises created by the aggregator and links directly
    let stackTrace := (store.promiseToStack.lookup aggregation).join
    if parent = some aggregation then s
    else
      { s with
        promiseStackStore :=
          Function.update s.promiseStackStore runId (store.track aggregation parent stackTrace) }
  | _, _ =>
    let s := { s with
      currentAggregation := if looksAggregator stackTrace.formatted then some promise else none }
    if parent = some promise then s
    else
      { s with
        promiseStackStore :=
          Function.update s.promiseStackStore runId (store.track promise parent (some stackTrace)) }

def State.untrack (s : State ρ π) (runId : ρ) (promise : π) : State ρ π :=
  { s with
    promiseStackStore :=
      Function.update s.promiseStackStore runId ((s.promiseStackStore runId).untrack promise) }

def step (s : State ρ π) : Event ρ π → Option (State ρ π)
  | .init (some runId) promise parent (some stackTrace) => some (s.init runId promise parent stackTrace)
  | .init _ _ _ _ => some s
  | .settled (some runId) promise => some (s.untrack runId promise)
  | .untrackPromise (some runId) promise => some (s.untrack runId promise)
  | .settled none _ => some s
  | .untrackPromise none _ => some s

def start : State ρ π := ⟨none, fun _ => ⟨∅, ∅⟩⟩

/-- The parents of all promises -/
def internalNodes (store : PromiseStackStore π) : Finset π :=
  store.childToParent.entries.foldl (fun acc e => acc ∪ e.2) ∅

/-- One turn of the loop over the children -/
def collect (store : PromiseStackStore π) (found : OrderedMap String Stack) (child : π) :
    OrderedMap String Stack :=
  if child ∈ internalNodes store then found
  else
    match (store.promiseToStack.lookup child).join with
    | some stack => if stack.formatted = "" then found else OrderedMap.set found stack.formatted stack
    | none => found

def stackTracesByText (store : PromiseStackStore π) : OrderedMap String Stack :=
  let found := store.childToParent.keys.foldl (collect store) ∅
  let found := found.erase "    at Promise.then (<anonymous>)"
  found.erase "    at Promise.then (<anonymous>)\n"

def getStackTraces (store : PromiseStackStore π) : List Stack := (stackTracesByText store).entries.map (·.2)

/-! ### What they keep track of -/

/-- A pending promise: where it was created and what it was created from -/
structure Pending (π : Type) where
  stack : Stack
  parents : Finset π

/-- The pending promises of the workflows, as one table -/
structure Table (ρ π : Type) where
  currentAggregation : Option π
  pending : ρ → π → Option (Pending π)

def Table.set (t : Table ρ π) (runId : ρ) (promise : π) (p : Option (Pending π)) : Table ρ π :=
  { t with pending := Function.update t.pending runId (Function.update (t.pending runId) promise p) }

/-- The parent is added to those of the promise, if it is pending. -/
def addParent (parents : Finset π) : Option π → Finset π
  | some parent => insert parent parents
  | none => parents

def Table.init (t : Table ρ π) (runId : ρ) (promise : π) (parent : Option π) (stackTrace : Stack) :
    Table ρ π :=
  match t.currentAggregation, looksInternal stackTrace.formatted with
  | some aggregation, true =>
    if parent = some aggregation then t
    else t.set runId aggregation ((t.pending runId aggregation).map fun p =>
      { p with parents := addParent p.parents parent })
  | _, _ =>
    let parents := ((t.pending runId promise).map (·.parents)).getD ∅
    let t := { t with
      currentAggregation := if looksAggregator stackTrace.formatted then some promise else none }
    if parent = some promise then t
    else t.set runId promise (some ⟨stackTrace, addParent parents parent⟩)

def Table.step (t : Table ρ π) : Event ρ π → Table ρ π
  | .init (some runId) promise parent (some stackTrace) => t.init runId promise parent stackTrace
  | .init _ _ _ _ => t
  | .settled (some runId) promise => t.set runId promise none
  | .untrackPromise (some runId) promise => t.set runId promise none
  | .settled none _ => t
  | .untrackPromise none _ => t

def Table.empty : Table ρ π := ⟨none, fun _ _ => none⟩

/-- The two maps hold the same promises, each with a stack. -/
def Consistent (s : State ρ π) : Prop :=
  ∀ runId promise,
    (promise ∈ (s.promiseStackStore runId).childToParent ↔
      promise ∈ (s.promiseStackStore runId).promiseToStack) ∧
    (s.promiseStackStore runId).promiseToStack.lookup promise ≠ some none

/-- A promise that an aggregator creates inside is announced while the one that it returns is tracked. -/
def AggregationTracked (s : State ρ π) : Event ρ π → Prop
  | .init (some runId) _ parent (some stackTrace) =>
    ∀ aggregation, s.currentAggregation = some aggregation → looksInternal stackTrace.formatted = true →
      parent = some aggregation ∨ aggregation ∈ (s.promiseStackStore runId).promiseToStack
  | _ => True

instance decidableAggregationTracked (s : State ρ π) : ∀ e, Decidable (AggregationTracked s e)
  | .init (some runId) _ parent (some stackTrace) =>
    decidable_of_iff
      (∀ aggregation ∈ s.currentAggregation, looksInternal stackTrace.formatted = true →
        parent = some aggregation ∨ aggregation ∈ (s.promiseStackStore runId).promiseToStack) Iff.rfl
  | .init (some _) _ _ none => .isTrue trivial
  | .init none _ _ _ => .isTrue trivial
  | .settled _ _ => .isTrue trivial
  | .untrackPromise _ _ => .isTrue trivial

/-- The maps and the table hold the same. -/
structure Represents (s : State ρ π) (t : Table ρ π) : Prop where
  currentAggregation : s.currentAggregation = t.currentAggregation
  childToParent : ∀ runId promise, (s.promiseStackStore runId).childToParent.lookup promise =
    (t.pending runId promise).map (·.parents)
  promiseToStack : ∀ runId promise, (s.promiseStackStore runId).promiseToStack.lookup promise =
    (t.pending runId promise).map fun p => some p.stack

variable {s s' : State ρ π} {t : Table ρ π}

omit [DecidableEq ρ] in
lemma represents_start : Represents (start : State ρ π) Table.empty := ⟨rfl, fun _ _ => rfl, fun _ _ => rfl⟩

@[simp] lemma Table.set_pending (runId runId' : ρ) (promise promise' : π) (p : Option (Pending π)) :
    (t.set runId promise p).pending runId' promise' =
      if runId' = runId ∧ promise' = promise then p else t.pending runId' promise' := by
  by_cases hrun : runId' = runId
  · subst hrun
    by_cases hpromise : promise' = promise
    · subst hpromise
      simp [Table.set]
    · simp [Table.set, hpromise]
  · simp [Table.set, hrun]

/-- A change of one promise in one store -/
lemma Represents.update (h : Represents s t) {runId : ρ} {promise : π} {store : PromiseStackStore π}
    {p : Option (Pending π)}
    (hparents : ∀ promise', store.childToParent.lookup promise' =
      if promise' = promise then p.map (·.parents)
      else (s.promiseStackStore runId).childToParent.lookup promise')
    (hstacks : ∀ promise', store.promiseToStack.lookup promise' =
      if promise' = promise then p.map fun p => some p.stack
      else (s.promiseStackStore runId).promiseToStack.lookup promise') :
    Represents { s with promiseStackStore := Function.update s.promiseStackStore runId store }
      (t.set runId promise p) := by
  refine ⟨h.currentAggregation, fun runId' promise' => ?_, fun runId' promise' => ?_⟩
  · rw [Table.set_pending]
    by_cases hrun : runId' = runId
    · subst hrun
      change (Function.update s.promiseStackStore runId' store runId').childToParent.lookup promise' = _
      rw [Function.update_self, hparents]
      by_cases hpromise : promise' = promise
      · rw [if_pos hpromise, if_pos ⟨rfl, hpromise⟩]
      · rw [if_neg hpromise, if_neg fun h => hpromise h.2, h.childToParent]
    · change (Function.update s.promiseStackStore runId store runId').childToParent.lookup promise' = _
      rw [Function.update_of_ne hrun, if_neg fun h => hrun h.1, h.childToParent]
  · rw [Table.set_pending]
    by_cases hrun : runId' = runId
    · subst hrun
      change (Function.update s.promiseStackStore runId' store runId').promiseToStack.lookup promise' = _
      rw [Function.update_self, hstacks]
      by_cases hpromise : promise' = promise
      · rw [if_pos hpromise, if_pos ⟨rfl, hpromise⟩]
      · rw [if_neg hpromise, if_neg fun h => hpromise h.2, h.promiseToStack]
    · change (Function.update s.promiseStackStore runId store runId').promiseToStack.lookup promise' = _
      rw [Function.update_of_ne hrun, if_neg fun h => hrun h.1, h.promiseToStack]

lemma lookup_erase {κ α : Type} [DecidableEq κ] (m : OrderedMap κ α) (k k' : κ) :
    (m.erase k).lookup k' = if k' = k then none else m.lookup k' := by
  by_cases hk : k' = k
  · subst hk
    rw [if_pos rfl, AList.lookup_erase]
  · rw [if_neg hk, AList.lookup_erase_ne hk]

lemma Represents.untrack (h : Represents s t) (runId : ρ) (promise : π) :
    Represents (s.untrack runId promise) (t.set runId promise none) :=
  h.update (fun _ => lookup_erase _ _ _) fun _ => lookup_erase _ _ _

lemma Represents.track (h : Represents s t) (runId : ρ) (promise : π) (parent : Option π) (stack : Stack) :
    Represents
      { s with
        promiseStackStore := Function.update s.promiseStackStore runId
          ((s.promiseStackStore runId).track promise parent (some stack)) }
      (t.set runId promise
        (some ⟨stack, addParent (((t.pending runId promise).map (·.parents)).getD ∅) parent⟩)) := by
  refine h.update (fun promise' => ?_) fun promise' => ?_
  · rw [PromiseStackStore.track, OrderedMap.lookup_set, h.childToParent runId promise]
    cases parent <;> rfl
  · rw [PromiseStackStore.track, OrderedMap.lookup_set]
    rfl

omit [DecidableEq ρ] in
lemma Represents.mem_promiseToStack (h : Represents s t) {runId : ρ} {promise : π} :
    promise ∈ (s.promiseStackStore runId).promiseToStack ↔ (t.pending runId promise).isSome = true := by
  rw [← AList.lookup_isSome, h.promiseToStack, Option.isSome_map]

/-- One hook, when what an aggregator creates is announced in time -/
lemma Represents.init (h : Represents s t) {runId : ρ} {promise : π} {parent : Option π} {stack : Stack}
    (htracked : AggregationTracked s (.init (some runId) promise parent (some stack))) :
    Represents (s.init runId promise parent stack) (t.init runId promise parent stack) := by
  have hcurrent := h.currentAggregation
  have hown : Represents
      (let s := { s with
        currentAggregation := if looksAggregator stack.formatted then some promise else none }
      if parent = some promise then s
      else
        { s with
          promiseStackStore :=
            Function.update s.promiseStackStore runId
              ((s.promiseStackStore runId).track promise parent (some stack)) })
      (let parents := ((t.pending runId promise).map (·.parents)).getD ∅
      let t := { t with
        currentAggregation := if looksAggregator stack.formatted then some promise else none }
      if parent = some promise then t
      else t.set runId promise (some ⟨stack, addParent parents parent⟩)) := by
    have hmoved : Represents
        { s with currentAggregation := if looksAggregator stack.formatted then some promise else none }
        { t with currentAggregation := if looksAggregator stack.formatted then some promise else none } :=
      ⟨rfl, h.childToParent, h.promiseToStack⟩
    dsimp only
    split
    · exact hmoved
    · exact hmoved.track runId promise parent stack
  unfold State.init Table.init
  rw [← hcurrent]
  cases hagg : s.currentAggregation with
  | none => exact hown
  | some aggregation =>
    cases hlooks : looksInternal stack.formatted with
    | false => exact hown
    | true =>
      dsimp only
      by_cases hparent : parent = some aggregation
      · rw [if_pos hparent, if_pos hparent]
        exact h
      · rw [if_neg hparent, if_neg hparent]
        have hmem := (htracked aggregation hagg hlooks).resolve_left hparent
        obtain ⟨p, hp⟩ := Option.isSome_iff_exists.mp (h.mem_promiseToStack.mp hmem)
        have htrack := h.track runId aggregation parent p.stack
        rw [hp] at htrack
        simp only [hagg] at htrack
        rw [h.promiseToStack, hp]
        exact htrack

lemma Represents.step {e : Event ρ π} (h : Represents s t) (htracked : AggregationTracked s e)
    (hstep : step s e = some s') : Represents s' (t.step e) := by
  match e, hstep with
  | .init (some runId) promise parent (some stackTrace), hstep =>
    cases hstep
    exact h.init htracked
  | .init (some runId) promise parent none, hstep =>
    cases hstep
    exact h
  | .init none promise parent stackTrace, hstep =>
    cases hstep
    exact h
  | .settled (some runId) promise, hstep =>
    cases hstep
    exact h.untrack runId promise
  | .untrackPromise (some runId) promise, hstep =>
    cases hstep
    exact h.untrack runId promise
  | .settled none promise, hstep =>
    cases hstep
    exact h
  | .untrackPromise none promise, hstep =>
    cases hstep
    exact h

omit [DecidableEq ρ] in
lemma Represents.consistent (h : Represents s t) : Consistent s := by
  intro runId promise
  constructor
  · rw [← AList.lookup_isSome, ← AList.lookup_isSome, h.childToParent, h.promiseToStack, Option.isSome_map,
      Option.isSome_map]
  · rw [h.promiseToStack]
    cases t.pending runId promise <;> simp

omit [DecidableEq ρ] [DecidableEq π] in
lemma exists_untracked {e : Event ρ π} (htracked : ¬AggregationTracked s e) :
    ∃ runId promise parent stackTrace aggregation, e = .init (some runId) promise parent (some stackTrace) ∧
      s.currentAggregation = some aggregation ∧ looksInternal stackTrace.formatted = true ∧
      parent ≠ some aggregation ∧ aggregation ∉ (s.promiseStackStore runId).promiseToStack := by
  match e with
  | .init (some runId) promise parent (some stackTrace) =>
    simp only [AggregationTracked, not_forall, not_or] at htracked
    obtain ⟨aggregation, hagg, hlooks, hparent, hmem⟩ := htracked
    exact ⟨runId, promise, parent, stackTrace, aggregation, rfl, hagg, hlooks, hparent, hmem⟩
  | .init (some _) _ _ none => exact absurd trivial htracked
  | .init none _ _ _ => exact absurd trivial htracked
  | .settled _ _ => exact absurd trivial htracked
  | .untrackPromise _ _ => exact absurd trivial htracked

/-- What is announced too late leaves a promise without a stack. -/
lemma not_consistent {e : Event ρ π} (htracked : ¬AggregationTracked s e) (hstep : step s e = some s') :
    ¬Consistent s' := by
  obtain ⟨runId, promise, parent, stackTrace, aggregation, rfl, hagg, hlooks, hparent, hmem⟩ :=
    exists_untracked htracked
  have hnone : (s.promiseStackStore runId).promiseToStack.lookup aggregation = none :=
    AList.lookup_eq_none.mpr hmem
  obtain rfl : s.init runId promise parent stackTrace = s' := Option.some_inj.mp hstep
  intro hconsistent
  refine (hconsistent runId aggregation).2 ?_
  rw [State.init, hagg, hlooks]
  dsimp only
  rw [if_neg hparent]
  simp only [Function.update_self, PromiseStackStore.track, OrderedMap.lookup_set, if_true, hnone,
    Option.join_none]

/-- No hook ever throws. -/
lemma exists_run (s : State ρ π) (events : List (Event ρ π)) : ∃ s', Transition.run step s events = some s' := by
  induction events generalizing s with
  | nil => exact ⟨s, rfl⟩
  | cons e events ih =>
    obtain ⟨u, hu⟩ : ∃ u, step s e = some u := by
      unfold step
      split <;> exact ⟨_, rfl⟩
    obtain ⟨s', hs'⟩ := ih u
    exact ⟨s', Transition.run_cons_eq_some.mpr ⟨u, hu, hs'⟩⟩

/-- `Promise.all` of a promise -/
def allEvents : List (Event Unit ℕ) :=
  [.init (some ()) 0 none (some ⟨"    at main\n", []⟩),
    .init (some ()) 1 none (some ⟨"    at Function.all (<anonymous>)\n", []⟩),
    .init (some ()) 2 (some 0) (some ⟨"    at Promise.then (<anonymous>)\n    at Function.all (<anonymous>)\n", []⟩)]

-- A thenable may settle the promise of `Promise.all` before the next element is looked at.
example : ¬Transition.Meets step AggregationTracked start
    (allEvents.take 2 ++ .settled (some ()) 1 :: allEvents.drop 2) := by decide +kernel

/-- **Every tracked promise has a stack**, and the two maps track the same promises, at each moment of a run, if and
only if what an aggregator creates inside is always announced while the promise that it returns is tracked. -/
theorem consistent_iff {events : List (Event ρ π)} (h : Transition.run step start events = some s) :
    Transition.Throughout step Consistent start events ↔
      Transition.Meets step AggregationTracked start events := by
  refine Transition.throughout_iff_meets (I := fun s => ∃ t, Represents s t) ?_ ?_ ?_ ⟨_, represents_start⟩ h
  · rintro s ⟨t, ht⟩
    exact ht.consistent
  · rintro s e s' ⟨t, ht⟩ htracked hstep
    exact ⟨t.step e, ht.step htracked hstep⟩
  · rintro s e s' - htracked hstep
    exact not_consistent htracked hstep

lemma meets_allEvents : Transition.Meets step AggregationTracked start allEvents := by decide +kernel

theorem consistent_iff_all :
    ∃ s, Transition.run step start allEvents = some s ∧
      Transition.Meets step AggregationTracked start allEvents ∧
        Transition.Throughout step Consistent start allEvents := by
  obtain ⟨s, hs⟩ := exists_run start allEvents
  exact ⟨s, hs, meets_allEvents, (consistent_iff hs).mpr meets_allEvents⟩

/-! ### The query -/

omit [DecidableEq ρ] in
lemma mem_foldl_union {l : List (Σ _ : π, Finset π)} {acc : Finset π} {p : π} :
    p ∈ l.foldl (fun acc e => acc ∪ e.2) acc ↔ p ∈ acc ∨ ∃ e ∈ l, p ∈ e.2 := by
  induction l generalizing acc with
  | nil => simp
  | cons e l ih => simp [ih, or_assoc]

lemma mem_internalNodes {store : PromiseStackStore π} {p : π} :
    p ∈ internalNodes store ↔ ∃ child parents, store.childToParent.lookup child = some parents ∧ p ∈ parents := by
  rw [internalNodes, mem_foldl_union]
  constructor
  · rintro (hempty | ⟨⟨child, parents⟩, hmem, hp⟩)
    · simp at hempty
    · exact ⟨child, parents, AList.mem_lookup_iff.mpr hmem, hp⟩
  · rintro ⟨child, parents, hlookup, hp⟩
    exact Or.inr ⟨⟨child, parents⟩, AList.mem_lookup_iff.mp hlookup, hp⟩

/-- A promise that is tracked with this stack, and that no tracked promise has as a parent -/
def IsLeaf (store : PromiseStackStore π) (promise : π) (stack : Stack) : Prop :=
  promise ∉ internalNodes store ∧ store.promiseToStack.lookup promise = some (some stack) ∧
    stack.formatted ≠ ""

/-- What has been found: under each text a leaf with this text -/
def Found (store : PromiseStackStore π) (children : List π) (found : OrderedMap String Stack) : Prop :=
  (∀ text stack, found.lookup text = some stack →
    stack.formatted = text ∧ ∃ child ∈ children, IsLeaf store child stack) ∧
  ∀ child ∈ children, ∀ stack, IsLeaf store child stack → stack.formatted ∈ found

lemma found_collect {store : PromiseStackStore π} {children : List π} {found : OrderedMap String Stack}
    (h : Found store children found) (child : π) :
    Found store (children ++ [child]) (collect store found child) := by
  have hkeep (hnone : ∀ stack, ¬IsLeaf store child stack) : Found store (children ++ [child]) found := by
    refine ⟨fun text stack hlookup => ?_, fun c hc stack hleaf => ?_⟩
    · obtain ⟨htext, c, hc, hleaf⟩ := h.1 text stack hlookup
      exact ⟨htext, c, List.mem_append_left _ hc, hleaf⟩
    · rcases List.mem_append.mp hc with hc | hc
      · exact h.2 c hc stack hleaf
      · obtain rfl := List.mem_singleton.mp hc
        exact absurd hleaf (hnone stack)
  unfold collect
  split
  · rename_i hinternal
    exact hkeep fun stack hleaf => hleaf.1 hinternal
  rename_i hinternal
  cases hjoin : (store.promiseToStack.lookup child).join with
  | none =>
    refine hkeep fun stack hleaf => ?_
    rw [hleaf.2.1] at hjoin
    cases hjoin
  | some stack =>
    have hlookup : store.promiseToStack.lookup child = some (some stack) := Option.join_eq_some_iff.mp hjoin
    have hsame {stack' : Stack} (hleaf : IsLeaf store child stack') : stack' = stack := by
      have heq := hleaf.2.1.symm.trans hlookup
      simpa using heq
    dsimp only
    split
    · rename_i hempty
      exact hkeep fun stack' hleaf => hleaf.2.2 (hsame hleaf ▸ hempty)
    · rename_i hnonempty
      have hleaf : IsLeaf store child stack := ⟨hinternal, hlookup, hnonempty⟩
      refine ⟨fun text stack' hfound => ?_, fun c hc stack' hleaf' => ?_⟩
      · rw [OrderedMap.lookup_set] at hfound
        split at hfound
        · rename_i htext
          obtain rfl := Option.some_inj.mp hfound
          exact ⟨htext.symm, child, by simp, hleaf⟩
        · obtain ⟨htext, c, hc, hleaf'⟩ := h.1 text stack' hfound
          exact ⟨htext, c, List.mem_append_left _ hc, hleaf'⟩
      · rw [OrderedMap.mem_set]
        rcases List.mem_append.mp hc with hc | hc
        · exact Or.inr (h.2 c hc stack' hleaf')
        · obtain rfl := List.mem_singleton.mp hc
          exact Or.inl (congrArg Stack.formatted (hsame hleaf'))

lemma found_foldl {store : PromiseStackStore π} (rest : List π) {children : List π}
    {found : OrderedMap String Stack} (h : Found store children found) :
    Found store (children ++ rest) (rest.foldl (collect store) found) := by
  induction rest generalizing children found with
  | nil => simpa using h
  | cons child rest ih =>
    have hrest := ih (found_collect h child)
    rwa [List.append_assoc] at hrest

/-- The texts that are filtered out -/
def filteredTexts : List String := ["    at Promise.then (<anonymous>)", "    at Promise.then (<anonymous>)\n"]

lemma lookup_stackTracesByText (store : PromiseStackStore π) (text : String) :
    (stackTracesByText store).lookup text =
      if text ∈ filteredTexts then none
      else (store.childToParent.keys.foldl (collect store) ∅).lookup text := by
  rw [stackTracesByText, lookup_erase, lookup_erase, filteredTexts]
  by_cases hfirst : text = "    at Promise.then (<anonymous>)"
  · simp [hfirst]
  · by_cases hsecond : text = "    at Promise.then (<anonymous>)\n"
    · simp [hsecond]
    · simp [hfirst, hsecond]

lemma found_keys (store : PromiseStackStore π) :
    Found store store.childToParent.keys (store.childToParent.keys.foldl (collect store) ∅) := by
  have hempty : Found store [] ∅ := by
    refine ⟨fun text stack hlookup => ?_, fun child hchild => by simp at hchild⟩
    rw [AList.lookup_empty] at hlookup
    cases hlookup
  simpa using found_foldl store.childToParent.keys hempty

lemma mem_getStackTraces {store : PromiseStackStore π} {stack : Stack} :
    stack ∈ getStackTraces store ↔ ∃ text, (stackTracesByText store).lookup text = some stack := by
  rw [getStackTraces, List.mem_map]
  constructor
  · rintro ⟨⟨text, stack⟩, hmem, rfl⟩
    exact ⟨text, AList.mem_lookup_iff.mpr hmem⟩
  · rintro ⟨text, hlookup⟩
    exact ⟨⟨text, stack⟩, AList.mem_lookup_iff.mp hlookup, rfl⟩

lemma formatted_of_lookup {store : PromiseStackStore π} {text : String} {stack : Stack}
    (hlookup : (stackTracesByText store).lookup text = some stack) :
    stack.formatted = text ∧ text ∉ filteredTexts ∧ ∃ child ∈ store.childToParent.keys, IsLeaf store child stack := by
  rw [lookup_stackTracesByText] at hlookup
  split at hlookup
  · cases hlookup
  · rename_i htext
    obtain ⟨hformatted, hleaf⟩ := (found_keys store).1 text stack hlookup
    exact ⟨hformatted, htext, hleaf⟩

/-- Each text is shown once. -/
lemma nodup_getStackTraces (store : PromiseStackStore π) :
    ((getStackTraces store).map (·.formatted)).Nodup := by
  have htexts : (getStackTraces store).map (·.formatted) = (stackTracesByText store).keys := by
    rw [getStackTraces, List.map_map]
    refine List.map_congr_left fun e he => ?_
    exact (formatted_of_lookup (AList.mem_lookup_iff.mpr he)).1
  rw [htexts]
  exact (stackTracesByText store).keys_nodup

namespace Table

/-- A pending promise of the workflow that no pending one was created from -/
def Leaf (t : Table ρ π) (runId : ρ) (promise : π) (stack : Stack) : Prop :=
  (∃ p, t.pending runId promise = some p ∧ p.stack = stack) ∧
    (∀ child q, t.pending runId child = some q → promise ∉ q.parents) ∧ stack.formatted ≠ ""

/-- What the query shows: the texts of leaves, each of them once, and all but the two of `filteredTexts` -/
structure ShownBy (t : Table ρ π) (runId : ρ) (shown : List Stack) : Prop where
  nodup : (shown.map (·.formatted)).Nodup
  leaf : ∀ stack ∈ shown, stack.formatted ∉ filteredTexts ∧ ∃ promise, t.Leaf runId promise stack
  all : ∀ promise stack, t.Leaf runId promise stack → stack.formatted ∉ filteredTexts →
    ∃ stack' ∈ shown, stack'.formatted = stack.formatted

end Table

omit [DecidableEq ρ] in
lemma Represents.leaf_iff (h : Represents s t) {runId : ρ} {promise : π} {stack : Stack} :
    IsLeaf (s.promiseStackStore runId) promise stack ↔ t.Leaf runId promise stack := by
  have hinternal : promise ∉ internalNodes (s.promiseStackStore runId) ↔
      ∀ child q, t.pending runId child = some q → promise ∉ q.parents := by
    rw [mem_internalNodes]
    constructor
    · intro hnone child q hq hmem
      exact hnone ⟨child, q.parents, by rw [h.childToParent, hq, Option.map_some], hmem⟩
    · rintro hnone ⟨child, parents, hlookup, hmem⟩
      rw [h.childToParent] at hlookup
      obtain ⟨q, hq, rfl⟩ := Option.map_eq_some_iff.mp hlookup
      exact hnone child q hq hmem
  have hstack : (s.promiseStackStore runId).promiseToStack.lookup promise = some (some stack) ↔
      ∃ p, t.pending runId promise = some p ∧ p.stack = stack := by
    rw [h.promiseToStack, Option.map_eq_some_iff]
    simp only [Option.some.injEq]
  rw [IsLeaf, hinternal, hstack, Table.Leaf]
  exact and_left_comm

lemma represents_run {events : List (Event ρ π)} (h : Represents s t)
    (hmeets : Transition.Meets step AggregationTracked s events)
    (hrun : Transition.run step s events = some s') : Represents s' (events.foldl Table.step t) := by
  induction events generalizing s t with
  | nil =>
    cases hrun
    exact h
  | cons e events ih =>
    obtain ⟨u, hu, hrest⟩ := Transition.run_cons_eq_some.mp hrun
    exact ih (h.step hmeets.1 hu) (hmeets.2 u hu) hrest

/-- **The stack trace query shows the leaves of the pending promises**, but for two texts, after every run in which
what an aggregator creates inside is announced while the promise that it returns is tracked. -/
theorem shownBy_of_run {events : List (Event ρ π)} (hrun : Transition.run step start events = some s)
    (hmeets : Transition.Meets step AggregationTracked start events) (runId : ρ) :
    (events.foldl Table.step Table.empty).ShownBy runId (getStackTraces (s.promiseStackStore runId)) := by
  have h := represents_run represents_start hmeets hrun
  refine ⟨nodup_getStackTraces _, fun stack hstack => ?_, fun promise stack hleaf htext => ?_⟩
  · obtain ⟨text, hlookup⟩ := mem_getStackTraces.mp hstack
    obtain ⟨rfl, htext, child, -, hleaf⟩ := formatted_of_lookup hlookup
    exact ⟨htext, child, h.leaf_iff.mp hleaf⟩
  · have hleaf' := h.leaf_iff.mpr hleaf
    have hkey : promise ∈ (s.promiseStackStore runId).childToParent := by
      rw [(h.consistent runId promise).1, ← AList.lookup_isSome, hleaf'.2.1]
      rfl
    have hfound := (found_keys (s.promiseStackStore runId)).2 promise hkey stack hleaf'
    obtain ⟨stack', hstack'⟩ := Option.isSome_iff_exists.mp (AList.lookup_isSome.mpr hfound)
    have hlookup : (stackTracesByText (s.promiseStackStore runId)).lookup stack.formatted = some stack' := by
      rw [lookup_stackTracesByText, if_neg htext, hstack']
    exact ⟨stack', mem_getStackTraces.mpr ⟨_, hlookup⟩, (formatted_of_lookup hlookup).1⟩

/-- Behind `Promise.all`, a promise with one of the texts that are left out -/
def thenEvents : List (Event Unit ℕ) :=
  allEvents ++ [.init (some ()) 3 none (some ⟨"    at Promise.then (<anonymous>)", []⟩)]

theorem shownBy_of_run_all :
    ∃ s, Transition.run step start thenEvents = some s ∧
      getStackTraces (s.promiseStackStore ()) = [⟨"    at Function.all (<anonymous>)\n", []⟩] ∧
        (thenEvents.foldl Table.step Table.empty).ShownBy () (getStackTraces (s.promiseStackStore ())) := by
  obtain ⟨s, hs, hshown⟩ : ∃ s, Transition.run step start thenEvents = some s ∧
      getStackTraces (s.promiseStackStore ()) = [⟨"    at Function.all (<anonymous>)\n", []⟩] :=
    ⟨_, rfl, by decide +kernel⟩
  exact ⟨s, hs, hshown, shownBy_of_run hs (by decide +kernel) ()⟩

end PromiseHook

end TemporalSdk
