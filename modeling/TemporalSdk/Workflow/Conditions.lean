import TemporalSdk.Library.Sweep
import TemporalSdk.Workflow.CommandLog
import TemporalSdk.Workflow.ScopeTree

/-!
# Conditions

A condition whose predicate is false when it is called is blocked. The predicates of the blocked
conditions are evaluated after each job inside the isolate, and after each batch in a loop that lets
microtasks run between its turns. What is resolved runs workflow code in a later microtask, and that
code may change what predicates read, call further conditions and cancel scopes. Microtasks run here
in any order.
-/

namespace TemporalSdk

variable {σ V : Type}

inductive ConditionSettlement
  | resolved
  | rejected
deriving DecidableEq

/-- The promise that `conditionInner` returns. -/
structure ConditionPromise (σ : Type) where
  fn : σ → Bool
  scope : ScopeId
  settlement : Option ConditionSettlement

/-- `Condition`: the predicate, and the promise that its `resolve` settles -/
structure BlockedCondition (σ : Type) where
  fn : σ → Bool
  promise : ℕ

/-- What `conditionInner` registers on `scope.cancelRequested`. -/
inductive CatchReaction
  | reject (promise : ℕ)
  | deleteAndReject (seq : Seq) (promise : ℕ)
deriving DecidableEq

def CatchReaction.promise : CatchReaction → ℕ
  | .reject promise => promise
  | .deleteAndReject _ promise => promise

/-- `vars` is what the predicates read, `nextSeq` is `nextSeqs.condition`. `catches` are the reactions on
scopes that have not run, `continuations` counts the queued microtasks that run workflow code. `settled`
are the promises in the order in which they were settled, `processed` the batches of the current
activation so far. -/
structure ConditionState (σ : Type) where
  vars : σ
  runtime : Runtime
  promises : List (ConditionPromise σ)
  nextSeq : Seq
  blockedConditions : OrderedMap Seq (BlockedCondition σ)
  catches : List (ScopeId × CatchReaction)
  continuations : ℕ
  completed : Bool
  settled : List ℕ
  jobs : List WorkflowJob
  processed : List (List WorkflowJob)
  phase : Phase

/-- What workflow code does between two awaits. The `finally` block of a condition with a timeout is a
call of `cancel` on its scope. -/
inductive ConditionOp (σ V : Type)
  | modify (f : σ → σ)
  | runtime (input : Input V)
  | condition (fn : σ → Bool) (timeout : Option Duration) (patched : Bool) (scope : ScopeId)
  | enqueue
  | complete

/-- In `nextJob` and `jobThrows`, `ops` are what the handler of the job and the code it runs do; in
`reaction`, `resumed` counts the reactions to the promises that the microtask settles. -/
inductive ConditionInput (σ V : Type)
  | activate (jobs : List WorkflowJob)
  | enterBatch
  | nextJob (ops : List (ConditionOp σ V))
  | jobThrows (ops : List (ConditionOp σ V))
  | leaveBatch
  | reaction (resumed : ℕ)
  | continuation (ops : List (ConditionOp σ V))
  | catchReaction (index : ℕ)
  | drained
  | tryUnblockConditions
  | conclude

namespace ConditionState

variable (env : Env V) (s : ConditionState σ)

def create (vars : σ) : ConditionState σ :=
  ⟨vars, .init, [], 1, ∅, [], 0, false, [], [], [], .idle⟩

/-- A call of `resolve` or `reject`; on a settled promise it has no effect. -/
def settle (promise : ℕ) (settlement : ConditionSettlement) : ConditionState σ :=
  match s.promises[promise]? with
  | some ⟨fn, scope, none⟩ =>
    { s with
      promises := s.promises.set promise ⟨fn, scope, some settlement⟩
      continuations := s.continuations + 1
      settled := s.settled ++ [promise] }
  | _ => s

def newPromise (fn : σ → Bool) (scope : ScopeId) : ConditionState σ :=
  { s with promises := s.promises ++ [⟨fn, scope, none⟩] }

/-- `scope.cancelRequested.catch(reaction)` -/
def onCancelRequested (scope : ScopeId) (reaction : CatchReaction) : ConditionState σ :=
  { s with catches := s.catches ++ [(scope, reaction)] }

def conditionInner (fn : σ → Bool) (scope : ScopeId) : ConditionState σ :=
  let promise := s.promises.length
  let s := s.newPromise fn scope
  if s.runtime.consideredCancelled scope then s.onCancelRequested scope (.reject promise)
  else
    let seq := s.nextSeq
    let s := { s with nextSeq := seq + 1 }
    let s :=
      if (s.runtime.scope scope).cancellable then
        s.onCancelRequested scope (.deleteAndReject seq promise)
      else s
    if fn s.vars then s.settle promise .resolved
    else { s with blockedConditions := OrderedMap.set s.blockedConditions seq ⟨fn, promise⟩ }

/-- `condition`, where `patched` says whether the code is patched with `CONDITION_0_PATCH`. If `sleep`
throws, `conditionInner` is not called. -/
def condition (fn : σ → Bool) (timeout : Option Duration) (patched : Bool) (scope : ScopeId) :
    ConditionState σ :=
  match timeout with
  | none => s.conditionInner fn scope
  | some timeout =>
    if timeout = .number (.finite 0) ∧ !patched then s.conditionInner fn scope
    else
      let child := s.runtime.scopes.length
      let runtime := (s.runtime.newScope true scope).sleep env child timeout
      match msToNumber env.parseMs timeout with
      | .error _ => { s with runtime := runtime.cancel child }
      | .ok _ => { s with runtime }.conditionInner fn child

/-- Microtasks of the runtime are not run by code, and conditions are called in scopes that exist. -/
def runOp (s : ConditionState σ) : ConditionOp σ V → Option (ConditionState σ)
  | .modify f => some { s with vars := f s.vars }
  | .runtime .microtask => none
  | .runtime input => (s.runtime.step env input).map fun runtime => { s with runtime }
  | .condition fn timeout patched scope =>
    if scope < s.runtime.scopes.length then some (s.condition env fn timeout patched scope) else none
  | .enqueue => some { s with continuations := s.continuations + 1 }
  | .complete => some { s with completed := true }

def runOps (ops : List (ConditionOp σ V)) : Option (ConditionState σ) :=
  Transition.run (runOp env) s ops

def runCatch : CatchReaction → ConditionState σ
  | .reject promise => s.settle promise .rejected
  | .deleteAndReject seq promise =>
    { s with blockedConditions := s.blockedConditions.erase seq }.settle promise .rejected

/-! ### Unblocking -/

/-- One turn of the loop over the blocked conditions -/
def unblock (x : ConditionState σ × ℕ) (e : Σ _ : Seq, BlockedCondition σ) : ConditionState σ × ℕ :=
  if e.2.fn x.1.vars then
    let s := x.1.settle e.2.promise .resolved
    ({ s with blockedConditions := s.blockedConditions.erase e.1 }, x.2 + 1)
  else x

def unblockPass : ConditionState σ × ℕ := s.blockedConditions.entries.foldl unblock (s, 0)

/-- `tryUnblockConditions` of the isolate, with the number of conditions that it has unblocked. Each pass
that is not the last one unblocks a condition. -/
def tryUnblockConditions : ConditionState σ × ℕ :=
  Sweep.loop unblockPass (s.blockedConditions.entries.length + 1) s

/-! ### Activations -/

/-- Are conditions unblocked after the batch? -/
def unblocks (batch : List WorkflowJob) : Bool := batch.head?.any WorkflowJob.shouldUnblockConditions

/-- No microtask is queued. -/
def quiet : Bool :=
  s.runtime.loop.microtasks.isEmpty && s.continuations == 0 &&
    s.catches.all fun c => !s.runtime.loop.rejected c.1

/-- Microtasks run outside the loop over the jobs. -/
def runsMicrotasks : Bool :=
  match s.phase with
  | .idle | .drain _ _ _ | .unblock _ _ => true
  | _ => false

def nextJob (ops : List (ConditionOp σ V)) (job : WorkflowJob) (todo : List WorkflowJob) (unblock : Bool)
    (later : List (List WorkflowJob)) (batchIndex : ℕ) : Option (ConditionState σ) :=
  if s.completed && !job.isQueryWorkflow then some { s with phase := .drain unblock later batchIndex }
  else
    (s.runOps env ops).map fun s =>
      let s := if job.shouldUnblockConditions then s.tryUnblockConditions.1 else s
      { s with phase := .jobs todo unblock later batchIndex }

def step (s : ConditionState σ) : ConditionInput σ V → Option (ConditionState σ)
  | .activate jobs =>
    match s.phase with
    | .idle =>
      if s.quiet then some { s with jobs, processed := [], phase := .between (jobBatches jobs) 0 } else none
    | _ => none
  | .enterBatch =>
    match s.phase with
    | .between (batch :: later) batchIndex =>
      some { s with
        processed := s.processed ++ [batch]
        phase := .jobs batch (unblocks batch) later (batchIndex + 1) }
    | _ => none
  | .nextJob ops =>
    match s.phase with
    | .jobs (job :: todo) unblock later batchIndex => s.nextJob env ops job todo unblock later batchIndex
    | _ => none
  | .jobThrows ops =>
    match s.phase with
    | .jobs (_ :: _) _ _ _ => (s.runOps env ops).map fun s => { s with phase := .idle }
    | _ => none
  | .leaveBatch =>
    match s.phase with
    | .jobs [] unblock later batchIndex => some { s with phase := .drain unblock later batchIndex }
    | _ => none
  | .reaction resumed =>
    if s.runsMicrotasks then
      s.runtime.microtask.map fun runtime =>
        { s with runtime, continuations := s.continuations + resumed }
    else none
  | .continuation ops =>
    if s.runsMicrotasks && s.continuations != 0 then
      { s with continuations := s.continuations - 1 }.runOps env ops
    else none
  | .catchReaction index =>
    match s.catches[index]? with
    | some (scope, reaction) =>
      if s.runsMicrotasks && s.runtime.loop.rejected scope then
        some ({ s with catches := s.catches.eraseIdx index }.runCatch reaction)
      else none
    | none => none
  | .drained =>
    match s.phase with
    | .drain unblock later batchIndex =>
      if s.quiet then
        some { s with phase := if unblock then .unblock later batchIndex else .between later batchIndex }
      else none
    | _ => none
  | .tryUnblockConditions =>
    match s.phase with
    | .unblock later batchIndex =>
      if s.quiet then
        let (s, numUnblocked) := s.tryUnblockConditions
        some (if numUnblocked = 0 then { s with phase := .between later batchIndex } else s)
      else none
    | _ => none
  | .conclude =>
    match s.phase with
    | .between [] _ => some { s with phase := .idle }
    | _ => none

/-! ### Quiescence -/

/-- No microtask is queued, no blocked condition is true, and every condition that is true has been
resolved, if its scope is not considered cancelled. -/
structure Quiescent : Prop where
  quiet : s.quiet = true
  blocked : ∀ seq cond, s.blockedConditions.lookup seq = some cond → cond.fn s.vars = false
  resolved : ∀ p ∈ s.promises, p.fn s.vars = true →
    p.settlement = some .resolved ∨ s.runtime.consideredCancelled p.scope = true

/-- The promises are settled at most once. When a batch after which conditions are unblocked has been
processed, they are quiescent; every batch of the activation is processed before the activation is
concluded. -/
structure ConditionsOk : Prop where
  settledOnce : s.settled.Nodup
  quiescent : ∀ later batchIndex, s.phase = .between later batchIndex →
    jobBatches s.jobs = s.processed ++ later ∧
      (s.processed.getLast?.any unblocks = true → s.Quiescent)

/-! ### The invariant of conditions -/

/-- Every pending promise is that of a blocked condition, or its scope is considered cancelled; `exempt` may be
one for which this does not hold yet. Only conditions in cancellable scopes react to a cancellation. -/
structure ConditionInv (exempt : Option ℕ) (s : ConditionState σ) : Prop where
  scopes : s.runtime.ScopesInv
  pending : ∀ id p, s.promises[id]? = some p → p.settlement = none →
    exempt = some id ∨ s.runtime.consideredCancelled p.scope = true ∨
      ∃ seq, s.blockedConditions.lookup seq = some ⟨p.fn, id⟩
  rejected : ∀ p ∈ s.promises, p.settlement = some .rejected → s.runtime.consideredCancelled p.scope = true
  fresh : ∀ seq ∈ s.blockedConditions, seq < s.nextSeq
  catches : ∀ scope reaction, (scope, reaction) ∈ s.catches →
    (s.runtime.scope scope).cancellable = true ∧ ∃ p, s.promises[reaction.promise]? = some p ∧ p.scope = scope
  deletes : ∀ scope seq promise, (scope, .deleteAndReject seq promise) ∈ s.catches →
    seq < s.nextSeq ∧ ∀ cond, s.blockedConditions.lookup seq = some cond → cond.promise = promise
  settled : s.settled.Nodup
  isSettled : ∀ id ∈ s.settled, ∃ p, s.promises[id]? = some p ∧ p.settlement ≠ none

variable {s : ConditionState σ} {s' : ConditionState σ} {env : Env V} {exempt : Option ℕ}

/-- Code calls every operation of the runtime but a microtask. -/
lemma runOp_runtime {input : Input V} (h : s.runOp env (.runtime input) = some s') :
    ∃ rt, s.runtime.step env input = some rt ∧ { s with runtime := rt } = s' := by
  cases input with
  | microtask => cases h
  | _ => exact Option.map_eq_some_iff.mp h

lemma conditionInv_create (vars : σ) : ConditionInv none (create vars) where
  scopes := Runtime.ScopesInv.init
  pending := by simp [create]
  rejected := by simp [create]
  fresh := by simp [create]
  catches := by simp [create]
  deletes := by simp [create]
  settled := List.nodup_nil
  isSettled := by simp [create]

namespace ConditionInv

lemma of_eq (h : ConditionInv exempt s) (hruntime : s'.runtime = s.runtime)
    (hpromises : s'.promises = s.promises) (hnextSeq : s'.nextSeq = s.nextSeq)
    (hblocked : s'.blockedConditions = s.blockedConditions) (hcatches : s'.catches = s.catches)
    (hsettled : s'.settled = s.settled) : ConditionInv exempt s' := by
  obtain ⟨vars, runtime, promises, nextSeq, blocked, catches, continuations, completed, settled, jobs,
    processed, phase⟩ := s'
  cases hruntime
  cases hpromises
  cases hnextSeq
  cases hblocked
  cases hcatches
  cases hsettled
  exact ⟨h.scopes, h.pending, h.rejected, h.fresh, h.catches, h.deletes, h.settled, h.isSettled⟩

lemma weaken (h : ConditionInv none s) : ConditionInv exempt s :=
  { h with
    pending := fun id p hp hnone => .inr ((h.pending id p hp hnone).resolve_left (by simp)) }

/-- The runtime makes a step in which scopes stay cancelled. -/
lemma runtime (h : ConditionInv exempt s) {rt : Runtime} (hscopes : rt.ScopesInv)
    (hkept : ∀ scope, s.runtime.ScopeKept rt scope) : ConditionInv exempt { s with runtime := rt } where
  scopes := hscopes
  pending id p hp hnone := by
    rcases h.pending id p hp hnone with hexempt | hscope | hblocked
    · exact .inl hexempt
    · exact .inr (.inl ((hkept _).consideredCancelled hscope))
    · exact .inr (.inr hblocked)
  rejected p hp hrejected := (hkept _).consideredCancelled (h.rejected p hp hrejected)
  fresh := h.fresh
  catches scope reaction hc := (h.catches scope reaction hc).imp_left (hkept scope).cancellable
  deletes := h.deletes
  settled := h.settled
  isSettled := h.isSettled

lemma getElem?_newPromise {fn : σ → Bool} {scope : ScopeId} {id : ℕ} {p : ConditionPromise σ}
    (hp : s.promises[id]? = some p) : (s.newPromise fn scope).promises[id]? = some p := by
  obtain ⟨hlt, -⟩ := List.getElem?_eq_some_iff.mp hp
  rw [ConditionState.newPromise, List.getElem?_append_left hlt]
  exact hp

lemma newPromise (h : ConditionInv none s) (fn : σ → Bool) (scope : ScopeId) :
    ConditionInv (some s.promises.length) (s.newPromise fn scope) where
  scopes := h.scopes
  pending id p hp hnone := by
    obtain ⟨hlt, -⟩ := List.getElem?_eq_some_iff.mp hp
    have hlen : (s.newPromise fn scope).promises.length = s.promises.length + 1 := by
      simp [ConditionState.newPromise]
    rcases Nat.lt_or_ge id s.promises.length with hid | hid
    · rw [ConditionState.newPromise, List.getElem?_append_left hid] at hp
      exact .inr ((h.pending id p hp hnone).resolve_left (by simp))
    · have heq : s.promises.length = id := by omega
      exact .inl (congrArg some heq)
  rejected p hp hrejected := by
    rcases List.mem_append.mp hp with hp | hp
    · exact h.rejected p hp hrejected
    · rw [List.mem_singleton.mp hp] at hrejected
      cases hrejected
  fresh := h.fresh
  catches c reaction hc := by
    obtain ⟨hcancellable, p, hp, hscope⟩ := h.catches c reaction hc
    exact ⟨hcancellable, p, getElem?_newPromise hp, hscope⟩
  deletes := h.deletes
  settled := h.settled
  isSettled id hid := by
    obtain ⟨p, hp, hsettled⟩ := h.isSettled id hid
    exact ⟨p, getElem?_newPromise hp, hsettled⟩

/-- A promise whose scope has been cancelled need not be blocked. -/
lemma ofCancelled {id : ℕ} (h : ConditionInv (some id) s)
    (hcancelled : ∀ p, s.promises[id]? = some p → s.runtime.consideredCancelled p.scope = true) : ConditionInv none s :=
  { h with
    pending := fun id' p hp hnone => by
      rcases h.pending id' p hp hnone with hexempt | hrest
      · cases hexempt
        exact .inr (.inl (hcancelled p hp))
      · exact .inr hrest }

lemma onCancelRequested (h : ConditionInv exempt s) (scope : ScopeId) (reaction : CatchReaction)
    (hpromise : (s.runtime.scope scope).cancellable = true ∧
      ∃ p, s.promises[reaction.promise]? = some p ∧ p.scope = scope)
    (hdeletes : ∀ seq promise, reaction = .deleteAndReject seq promise →
      seq < s.nextSeq ∧ ∀ cond, s.blockedConditions.lookup seq = some cond → cond.promise = promise) :
    ConditionInv exempt (s.onCancelRequested scope reaction) where
  scopes := h.scopes
  pending := h.pending
  rejected := h.rejected
  fresh := h.fresh
  catches c r hc := by
    rcases List.mem_append.mp hc with hc | hc
    · exact h.catches c r hc
    · cases List.mem_singleton.mp hc
      exact hpromise
  deletes c seq promise hc := by
    rcases List.mem_append.mp hc with hc | hc
    · exact h.deletes c seq promise hc
    · cases List.mem_singleton.mp hc
      exact hdeletes seq promise rfl
  settled := h.settled
  isSettled := h.isSettled

/-- A condition with a fresh number is blocked. -/
lemma block {id : ℕ} {p : ConditionPromise σ} (h : ConditionInv (some id) s)
    (hp : s.promises[id]? = some p) {seq : Seq} (hseq : seq < s.nextSeq)
    (hfresh : seq ∉ s.blockedConditions)
    (hcatches : ∀ scope promise, (scope, .deleteAndReject seq promise) ∈ s.catches → promise = id) :
    ConditionInv none
      { s with blockedConditions := OrderedMap.set s.blockedConditions seq ⟨p.fn, id⟩ } where
  scopes := h.scopes
  pending id' p' hp' hnone := by
    by_cases hid : id' = id
    · subst hid
      rw [hp] at hp'
      cases hp'
      refine .inr (.inr ⟨seq, ?_⟩)
      rw [OrderedMap.lookup_set, if_pos rfl]
    · rcases h.pending id' p' hp' hnone with hexempt | hscope | ⟨seq', hlookup⟩
      · cases hexempt
        exact absurd rfl hid
      · exact .inr (.inl hscope)
      · refine .inr (.inr ⟨seq', ?_⟩)
        have hne : seq' ≠ seq := by
          rintro rfl
          rw [AList.lookup_eq_none.mpr hfresh] at hlookup
          cases hlookup
        rw [OrderedMap.lookup_set, if_neg hne]
        exact hlookup
  rejected := h.rejected
  fresh seq' hmem := by
    rcases (OrderedMap.mem_set _).mp hmem with rfl | hmem
    · exact hseq
    · exact h.fresh seq' hmem
  catches := h.catches
  deletes scope seq' promise hc := by
    obtain ⟨hlt, hlookup⟩ := h.deletes scope seq' promise hc
    refine ⟨hlt, fun cond hcond => ?_⟩
    rw [OrderedMap.lookup_set] at hcond
    split at hcond
    · rename_i heq
      subst heq
      cases hcond
      exact (hcatches scope promise hc).symm
    · exact hlookup cond hcond
  settled := h.settled
  isSettled := h.isSettled

/-- The entry of a condition is deleted, which is about to be settled. -/
lemma erase (h : ConditionInv none s) {seq : Seq} {id : ℕ}
    (hseq : ∀ cond, s.blockedConditions.lookup seq = some cond → cond.promise = id) :
    ConditionInv (some id) { s with blockedConditions := s.blockedConditions.erase seq } where
  scopes := h.scopes
  pending id' p hp hnone := by
    rcases h.pending id' p hp hnone with hexempt | hscope | ⟨seq', hlookup⟩
    · cases hexempt
    · exact .inr (.inl hscope)
    · by_cases heq : seq' = seq
      · subst heq
        exact .inl (congrArg some (hseq _ hlookup).symm)
      · refine .inr (.inr ⟨seq', ?_⟩)
        rw [AList.lookup_erase_ne heq]
        exact hlookup
  rejected := h.rejected
  fresh seq' hmem := h.fresh seq' (AList.mem_erase.mp hmem).2
  catches := h.catches
  deletes scope seq' promise hc := by
    obtain ⟨hlt, hlookup⟩ := h.deletes scope seq' promise hc
    refine ⟨hlt, fun cond hcond => hlookup cond ?_⟩
    by_cases heq : seq' = seq
    · subst heq
      rw [AList.lookup_erase] at hcond
      cases hcond
    · rw [AList.lookup_erase_ne heq] at hcond
      exact hcond
  settled := h.settled
  isSettled := h.isSettled

lemma getElem?_set_of_eq_some {α : Type} {l : List α} {i : ℕ} {x : α} (h : l[i]? = some x) (y : α)
    (j : ℕ) : (l.set i y)[j]? = if j = i then some y else l[j]? := by
  obtain ⟨hlt, -⟩ := List.getElem?_eq_some_iff.mp h
  by_cases hj : j = i
  · subst hj
    rw [if_pos rfl, List.getElem?_set_self hlt]
  · rw [if_neg hj, List.getElem?_set_ne (Ne.symm hj)]

/-- A promise is settled, once only. -/
lemma settle {id : ℕ} (h : ConditionInv (some id) s) {settlement : ConditionSettlement}
    (hrejected : settlement = .rejected →
      ∀ p, s.promises[id]? = some p → s.runtime.consideredCancelled p.scope = true) :
    ConditionInv none (s.settle id settlement) := by
  unfold ConditionState.settle
  split
  · rename_i fn scope hid
    have hget := getElem?_set_of_eq_some hid ⟨fn, scope, some settlement⟩
    refine ⟨h.scopes, fun id' p hp hnone => ?_, fun p hp hsettled => ?_, h.fresh, fun c reaction hc => ?_,
      h.deletes, ?_, fun id' hid' => ?_⟩
    · rw [hget] at hp
      split at hp
      · cases hp
        cases hnone
      · rename_i hne
        rcases h.pending id' p hp hnone with hexempt | hrest
        · cases hexempt
          exact absurd rfl hne
        · exact .inr hrest
    · obtain ⟨id', hp⟩ := List.mem_iff_getElem?.mp hp
      rw [hget] at hp
      split at hp
      · cases hp
        cases hsettled
        exact hrejected rfl ⟨fn, scope, none⟩ hid
      · exact h.rejected p (List.mem_of_getElem? hp) hsettled
    · obtain ⟨hcancellable, p, hp, hscope⟩ := h.catches c reaction hc
      rw [hget]
      refine ⟨hcancellable, ?_⟩
      split
      · rename_i heq
        rw [heq, hid] at hp
        cases hp
        exact ⟨_, rfl, hscope⟩
      · exact ⟨p, hp, hscope⟩
    · rw [← List.concat_eq_append]
      refine h.settled.concat fun hmem => ?_
      obtain ⟨p, hp, hne⟩ := h.isSettled id hmem
      rw [hid] at hp
      cases hp
      exact hne rfl
    · rw [hget]
      split
      · exact ⟨_, rfl, by simp⟩
      · rename_i hne
        refine h.isSettled id' ((List.mem_append.mp hid').resolve_right fun hmem => ?_)
        exact hne (List.mem_singleton.mp hmem)
  · rename_i hsettled
    refine { h with pending := fun id' p hp hnone => ?_ }
    rcases h.pending id' p hp hnone with hexempt | hrest
    · cases hexempt
      obtain ⟨fn, scope, settlement'⟩ := p
      cases hnone
      exact absurd hp (hsettled fn scope)
    · exact .inr hrest

lemma nextSeq (h : ConditionInv exempt s) : ConditionInv exempt { s with nextSeq := s.nextSeq + 1 } where
  scopes := h.scopes
  pending := h.pending
  rejected := h.rejected
  fresh seq hmem := lt_trans (h.fresh seq hmem) (Int.lt_succ s.nextSeq)
  catches := h.catches
  deletes scope seq promise hc := by
    obtain ⟨hlt, hlookup⟩ := h.deletes scope seq promise hc
    exact ⟨lt_trans hlt (Int.lt_succ s.nextSeq), hlookup⟩
  settled := h.settled
  isSettled := h.isSettled

lemma conditionInner (h : ConditionInv none s) (fn : σ → Bool) (scope : ScopeId) :
    ConditionInv none (s.conditionInner fn scope) := by
  have hnew := h.newPromise fn scope
  have hp : (s.newPromise fn scope).promises[s.promises.length]? = some ⟨fn, scope, none⟩ := by
    simp [ConditionState.newPromise]
  have hfresh : s.nextSeq ∉ s.blockedConditions := fun hmem => lt_irrefl _ (h.fresh _ hmem)
  have hlt : s.nextSeq < s.nextSeq + 1 := Int.lt_succ s.nextSeq
  have hunused : ∀ c promise, (c, .deleteAndReject s.nextSeq promise) ∉ s.catches :=
    fun c promise hc => lt_irrefl _ (h.deletes c _ promise hc).1
  unfold ConditionState.conditionInner
  dsimp only
  split
  · rename_i hcancelled
    have hcancellable := (Bool.and_eq_true_iff.mp hcancelled).2
    refine (hnew.onCancelRequested scope (.reject s.promises.length) ⟨hcancellable, _, hp, rfl⟩
      (by simp)).ofCancelled fun p hp' => ?_
    have heq := hp.symm.trans hp'
    cases heq
    exact hcancelled
  · have hseq := hnew.nextSeq
    split
    · rename_i hcancellable
      have hcatch := hseq.onCancelRequested scope
        (.deleteAndReject s.nextSeq s.promises.length) ⟨hcancellable, _, hp, rfl⟩ (by
          intro seq promise heq
          cases heq
          refine ⟨hlt, fun cond hcond => ?_⟩
          have hnone := AList.lookup_eq_none.mpr hfresh
          exact absurd (hnone.symm.trans hcond) (by simp))
      split
      · exact hcatch.settle (by simp)
      · refine hcatch.block hp hlt hfresh fun c promise hc => ?_
        rcases List.mem_append.mp hc with hc | hc
        · exact absurd hc (hunused c promise)
        · cases List.mem_singleton.mp hc
          rfl
    · split
      · exact hseq.settle (by simp)
      · exact hseq.block hp hlt hfresh fun c promise hc => absurd hc (hunused c promise)

lemma runtimeStep (h : ConditionInv exempt s) (env : Env V) (input : Input V) {rt : Runtime}
    (hstep : s.runtime.step env input = some rt) : ConditionInv exempt { s with runtime := rt } :=
  h.runtime (h.scopes.step hstep) fun scope => h.scopes.scopeKept_step hstep scope

lemma condition (h : ConditionInv none s) {scope : ScopeId} (hscope : scope < s.runtime.scopes.length)
    (fn : σ → Bool) (timeout : Option Duration) (patched : Bool) :
    ConditionInv none (s.condition env fn timeout patched scope) := by
  unfold ConditionState.condition
  split
  · exact h.conditionInner fn scope
  · rename_i timeout
    split
    · exact h.conditionInner fn scope
    · have hnew := h.runtimeStep env (.newScope true scope) (if_pos hscope)
      have hchild : s.runtime.scopes.length < (s.runtime.newScope true scope).scopes.length := by
        simp [Runtime.newScope]
      have hsleep : (s.runtime.newScope true scope).step env (.sleep s.runtime.scopes.length timeout) =
          some ((s.runtime.newScope true scope).sleep env s.runtime.scopes.length timeout) := if_pos hchild
      have hslept := hnew.runtimeStep env (.sleep s.runtime.scopes.length timeout) hsleep
      have hkept := (Runtime.Frame.step hsleep Runtime.watchScopes_ignoresTimers).scopes trivial
      dsimp only
      split
      · refine hslept.runtimeStep env (.cancel s.runtime.scopes.length) (if_pos ?_)
        rw [hkept.scopes]
        exact hchild
      · exact hslept.conditionInner fn s.runtime.scopes.length

lemma runOp (h : ConditionInv none s) {op : ConditionOp σ V} (hop : s.runOp env op = some s') :
    ConditionInv none s' := by
  cases op with
  | modify f =>
    cases hop
    exact h.of_eq rfl rfl rfl rfl rfl rfl
  | runtime input =>
    obtain ⟨rt, hstep, rfl⟩ := runOp_runtime hop
    exact h.runtimeStep env input hstep
  | condition fn timeout patched scope =>
    obtain ⟨hscope, hop⟩ := Option.ite_none_right_eq_some.mp hop
    cases hop
    exact h.condition hscope fn timeout patched
  | enqueue =>
    cases hop
    exact h.of_eq rfl rfl rfl rfl rfl rfl
  | complete =>
    cases hop
    exact h.of_eq rfl rfl rfl rfl rfl rfl

lemma runOps (h : ConditionInv none s) {ops : List (ConditionOp σ V)} (hops : s.runOps env ops = some s') :
    ConditionInv none s' :=
  Transition.invariant (fun _ _ _ h hop => runOp h hop) h hops

/-- The reaction of a condition to the cancellation of its scope -/
lemma runCatch (h : ConditionInv none s) {index : ℕ} {scope : ScopeId} {reaction : CatchReaction}
    (hcatch : s.catches[index]? = some (scope, reaction)) (hrejected : s.runtime.loop.rejected scope = true) :
    ConditionInv none ({ s with catches := s.catches.eraseIdx index }.runCatch reaction) := by
  have hmem := List.mem_of_getElem? hcatch
  have hsub : ∀ c ∈ s.catches.eraseIdx index, c ∈ s.catches := fun c hc => List.mem_of_mem_eraseIdx hc
  have hrest : ConditionInv none { s with catches := s.catches.eraseIdx index } :=
    { h with
      catches := fun c r hc => h.catches c r (hsub _ hc)
      deletes := fun c seq promise hc => h.deletes c seq promise (hsub _ hc) }
  obtain ⟨hcancellable, p, hp, hscope⟩ := h.catches scope reaction hmem
  have hflag : ∀ p', s.promises[reaction.promise]? = some p' → s.runtime.consideredCancelled p'.scope = true := by
    intro p' hp'
    rw [hp] at hp'
    cases hp'
    rw [hscope]
    exact Bool.and_eq_true_iff.mpr ⟨h.scopes.flag_of_rejected scope hrejected, hcancellable⟩
  cases reaction with
  | reject promise => exact hrest.weaken.settle fun _ => hflag
  | deleteAndReject seq promise =>
    exact (hrest.erase (h.deletes scope seq promise hmem).2).settle fun _ => hflag

end ConditionInv

/-! ### Passes over the blocked conditions -/

/-- The activation is where it was. -/
structure SameActivation (s s' : ConditionState σ) : Prop where
  jobs : s'.jobs = s.jobs
  processed : s'.processed = s.processed
  phase : s'.phase = s.phase

lemma SameActivation.refl (s : ConditionState σ) : SameActivation s s := ⟨rfl, rfl, rfl⟩

lemma SameActivation.trans {s'' : ConditionState σ} (h : SameActivation s s') (h' : SameActivation s' s'') :
    SameActivation s s'' :=
  ⟨h'.jobs.trans h.jobs, h'.processed.trans h.processed, h'.phase.trans h.phase⟩

lemma SameActivation.settle (id : ℕ) (settlement : ConditionSettlement) :
    SameActivation s (s.settle id settlement) := by
  unfold ConditionState.settle
  split <;> exact ⟨rfl, rfl, rfl⟩

lemma settle_erase (id : ℕ) (settlement : ConditionSettlement)
    (blocked : OrderedMap Seq (BlockedCondition σ)) :
    { s.settle id settlement with blockedConditions := blocked } =
      { s with blockedConditions := blocked }.settle id settlement := by
  cases hp : s.promises[id]? with
  | none => simp only [settle, hp]
  | some p =>
    obtain ⟨fn, scope, settled⟩ := p
    cases settled with
    | none => simp only [settle, hp]
    | some settled => simp only [settle, hp]

/-- Settling a promise changes neither what predicates read nor the blocked conditions. -/
lemma settle_frame (s : ConditionState σ) (id : ℕ) (settlement : ConditionSettlement) :
    (s.settle id settlement).vars = s.vars ∧
      (s.settle id settlement).blockedConditions = s.blockedConditions := by
  unfold settle
  split <;> exact ⟨rfl, rfl⟩

/-- Every entry of the list is a blocked condition. -/
def AllBlocked (s : ConditionState σ) (entries : List (Σ _ : Seq, BlockedCondition σ)) : Prop :=
  entries.NodupKeys ∧ ∀ e ∈ entries, s.blockedConditions.lookup e.1 = some e.2

lemma allBlocked_entries (s : ConditionState σ) : s.AllBlocked s.blockedConditions.entries :=
  ⟨s.blockedConditions.nodupKeys, fun _ he => List.mem_dlookup s.blockedConditions.nodupKeys he⟩

variable {n : ℕ} {e : Σ _ : Seq, BlockedCondition σ} {entries : List (Σ _ : Seq, BlockedCondition σ)}

lemma unblock_of_true (h : e.2.fn s.vars = true) :
    unblock (s, n) e = ({ s with blockedConditions := s.blockedConditions.erase e.1 }.settle e.2.promise
      .resolved, n + 1) := by
  obtain ⟨-, hblocked⟩ := s.settle_frame e.2.promise .resolved
  simp only [unblock, h, if_true, hblocked, settle_erase]

lemma unblock_of_false (h : e.2.fn s.vars = false) : unblock (s, n) e = (s, n) := by
  simp [unblock, h]

/-- After one turn, the entries that are still to come are blocked. -/
lemma AllBlocked.unblock (h : s.AllBlocked (e :: entries)) : (unblock (s, n) e).1.AllBlocked entries := by
  obtain ⟨hkeys, hentries⟩ := h
  rw [List.nodupKeys_cons] at hkeys
  cases he : e.2.fn s.vars with
  | false =>
    rw [unblock_of_false he]
    exact ⟨hkeys.2, fun e' he' => hentries e' (List.mem_cons_of_mem _ he')⟩
  | true =>
    rw [unblock_of_true he]
    refine ⟨hkeys.2, fun e' he' => ?_⟩
    have hne : e'.1 ≠ e.1 := by
      intro heq
      exact hkeys.1 (heq ▸ List.mem_keys_of_mem he')
    rw [(settle_frame _ _ _).2, AList.lookup_erase_ne hne]
    exact hentries e' (List.mem_cons_of_mem _ he')

lemma ConditionInv.unblock (h : ConditionInv none s) (he : s.blockedConditions.lookup e.1 = some e.2) :
    ConditionInv none (unblock (s, n) e).1 := by
  cases hfn : e.2.fn s.vars with
  | false =>
    rw [unblock_of_false hfn]
    exact h
  | true =>
    rw [unblock_of_true hfn]
    refine (h.erase fun cond hcond => ?_).settle (by simp)
    rw [he] at hcond
    cases hcond
    rfl

lemma ConditionInv.foldl_unblock (h : ConditionInv none s) (hentries : s.AllBlocked entries) :
    ConditionInv none (entries.foldl ConditionState.unblock (s, n)).1 := by
  induction entries generalizing s n with
  | nil => exact h
  | cons e entries ih =>
    exact ih (h.unblock (hentries.2 e List.mem_cons_self)) hentries.unblock

/-- A pass changes neither what the predicates read nor the activation. -/
lemma foldl_unblock_frame (entries : List (Σ _ : Seq, BlockedCondition σ)) (s : ConditionState σ)
    (n : ℕ) :
    (entries.foldl unblock (s, n)).1.vars = s.vars ∧
      SameActivation s (entries.foldl unblock (s, n)).1 := by
  induction entries generalizing s n with
  | nil => exact ⟨rfl, .refl s⟩
  | cons e entries ih =>
    have hturn : (unblock (s, n) e).1.vars = s.vars ∧ SameActivation s (unblock (s, n) e).1 := by
      cases he : e.2.fn s.vars with
      | false =>
        rw [unblock_of_false he]
        exact ⟨rfl, .refl s⟩
      | true =>
        rw [unblock_of_true he]
        have herased : SameActivation s { s with blockedConditions := s.blockedConditions.erase e.1 } :=
          ⟨rfl, rfl, rfl⟩
        exact ⟨(settle_frame _ _ _).1, herased.trans (.settle _ _)⟩
    obtain ⟨hvars, hsame⟩ := ih (unblock (s, n) e).1 (unblock (s, n) e).2
    exact ⟨hvars.trans hturn.1, hturn.2.trans hsame⟩

/-- Each condition that is unblocked leaves the map. -/
lemma foldl_unblock_length (hentries : s.AllBlocked entries) :
    (entries.foldl unblock (s, n)).1.blockedConditions.entries.length + (entries.foldl unblock (s, n)).2 =
      s.blockedConditions.entries.length + n := by
  induction entries generalizing s n with
  | nil => rfl
  | cons e entries ih =>
    rw [List.foldl_cons, ih hentries.unblock]
    cases he : e.2.fn s.vars with
    | false => rw [unblock_of_false he]
    | true =>
      have hlookup := hentries.2 e List.mem_cons_self
      have hmem : e.1 ∈ s.blockedConditions := by
        rw [← AList.lookup_isSome, hlookup]
        rfl
      have hlength := OrderedMap.length_erase s.blockedConditions hmem
      rw [unblock_of_true he, (settle_frame _ _ _).2]
      dsimp only
      omega

/-- A pass that unblocks nothing has found every predicate false. -/
lemma foldl_unblock_eq (hzero : (entries.foldl unblock (s, n)).2 = n) :
    (entries.foldl unblock (s, n)).1 = s ∧ ∀ e ∈ entries, e.2.fn s.vars = false := by
  have hmono : ∀ (entries : List (Σ _ : Seq, BlockedCondition σ)) (x : ConditionState σ × ℕ),
      x.2 ≤ (entries.foldl unblock x).2 := by
    intro entries
    induction entries with
    | nil => exact fun x => le_refl _
    | cons e entries ih =>
      intro x
      refine le_trans ?_ (ih (unblock x e))
      unfold unblock
      split
      · exact Nat.le_succ _
      · exact le_refl _
  induction entries with
  | nil => exact ⟨rfl, by simp⟩
  | cons e entries ih =>
    rw [List.foldl_cons] at hzero ⊢
    cases he : e.2.fn s.vars with
    | false =>
      rw [unblock_of_false he] at hzero ⊢
      obtain ⟨hsame, hfalse⟩ := ih hzero
      refine ⟨hsame, fun e' he' => ?_⟩
      rcases List.mem_cons.mp he' with rfl | he'
      · exact he
      · exact hfalse e' he'
    | true =>
      have hle := hmono entries (unblock (s, n) e)
      rw [hzero, unblock_of_true he] at hle
      exact absurd hle (Nat.not_succ_le_self n)

lemma unblockPass_eq (h : s.unblockPass.2 = 0) :
    s.unblockPass.1 = s ∧
      ∀ seq cond, s.blockedConditions.lookup seq = some cond → cond.fn s.vars = false := by
  obtain ⟨hsame, hfalse⟩ := foldl_unblock_eq h
  refine ⟨hsame, fun seq cond hlookup => ?_⟩
  exact hfalse ⟨seq, cond⟩ (List.of_mem_dlookup hlookup)

/-! ### `tryUnblockConditions` -/

lemma ConditionInv.unblockPass (h : ConditionInv none s) : ConditionInv none s.unblockPass.1 :=
  h.foldl_unblock s.allBlocked_entries

lemma ConditionInv.tryUnblockConditions (h : ConditionInv none s) :
    ConditionInv none s.tryUnblockConditions.1 :=
  Sweep.loop_invariant (fun _ h => h.unblockPass) _ h

lemma tryUnblockConditions_frame (s : ConditionState σ) :
    s.tryUnblockConditions.1.vars = s.vars ∧ SameActivation s s.tryUnblockConditions.1 := by
  refine Sweep.loop_invariant (I := fun t : ConditionState σ => t.vars = s.vars ∧ SameActivation s t)
    ?_ _ ⟨rfl, .refl s⟩
  rintro t ⟨hvars, hsame⟩
  obtain ⟨hvars', hsame'⟩ := foldl_unblock_frame t.blockedConditions.entries t 0
  exact ⟨hvars'.trans hvars, hsame.trans hsame'⟩

/-- Whatever is still blocked when the isolate returns is false. -/
lemma tryUnblockConditions_blocked (s : ConditionState σ) (seq : Seq) (cond : BlockedCondition σ)
    (h : s.tryUnblockConditions.1.blockedConditions.lookup seq = some cond) : cond.fn s.vars = false := by
  have hsize : ∀ t : ConditionState σ, t.unblockPass.2 ≠ 0 →
      t.unblockPass.1.blockedConditions.entries.length < t.blockedConditions.entries.length := by
    intro t hprogress
    have hlength := foldl_unblock_length (n := 0) t.allBlocked_entries
    unfold unblockPass at hprogress ⊢
    omega
  obtain ⟨t, hzero, hlast⟩ := Sweep.exists_last_pass
    (fun t : ConditionState σ => t.blockedConditions.entries.length) hsize
    (Nat.lt_succ_self s.blockedConditions.entries.length)
  obtain ⟨hsame, hfalse⟩ := unblockPass_eq hzero
  have heq : s.tryUnblockConditions.1 = t := hlast.trans hsame
  have hvars := (tryUnblockConditions_frame s).1
  rw [heq] at h hvars
  rw [← hvars]
  exact hfalse seq cond h

/-- A call that unblocks nothing leaves everything as it was. -/
lemma tryUnblockConditions_eq (h : s.tryUnblockConditions.2 = 0) : s.tryUnblockConditions.1 = s := by
  obtain ⟨hzero, hloop⟩ := Sweep.loop_of_eq_zero h
  exact hloop.trans (unblockPass_eq hzero).1

/-! ### What code and microtasks leave as it is -/

namespace SameActivation

lemma conditionInner (fn : σ → Bool) (scope : ScopeId) : SameActivation s (s.conditionInner fn scope) := by
  unfold ConditionState.conditionInner
  dsimp only
  split
  · exact ⟨rfl, rfl, rfl⟩
  · split
    · split
      · refine SameActivation.trans ?_ (settle _ _)
        exact ⟨rfl, rfl, rfl⟩
      · exact ⟨rfl, rfl, rfl⟩
    · split
      · refine SameActivation.trans ?_ (settle _ _)
        exact ⟨rfl, rfl, rfl⟩
      · exact ⟨rfl, rfl, rfl⟩

lemma condition (fn : σ → Bool) (timeout : Option Duration) (patched : Bool) (scope : ScopeId) :
    SameActivation s (s.condition env fn timeout patched scope) := by
  unfold ConditionState.condition
  split
  · exact conditionInner fn scope
  · split
    · exact conditionInner fn scope
    · dsimp only
      split
      · exact ⟨rfl, rfl, rfl⟩
      · refine SameActivation.trans ?_ (conditionInner fn s.runtime.scopes.length)
        exact ⟨rfl, rfl, rfl⟩

lemma runOp {op : ConditionOp σ V} (h : s.runOp env op = some s') : SameActivation s s' := by
  cases op with
  | modify f =>
    cases h
    exact ⟨rfl, rfl, rfl⟩
  | runtime input =>
    obtain ⟨rt, -, rfl⟩ := runOp_runtime h
    exact ⟨rfl, rfl, rfl⟩
  | condition fn timeout patched scope =>
    obtain ⟨-, h⟩ := Option.ite_none_right_eq_some.mp h
    cases h
    exact condition fn timeout patched scope
  | enqueue =>
    cases h
    exact ⟨rfl, rfl, rfl⟩
  | complete =>
    cases h
    exact ⟨rfl, rfl, rfl⟩

lemma runOps {ops : List (ConditionOp σ V)} (h : s.runOps env ops = some s') : SameActivation s s' := by
  refine Transition.invariant (I := SameActivation s) ?_ (.refl s) h
  intro t op u ht hu
  exact ht.trans (runOp hu)

lemma runCatch (reaction : CatchReaction) : SameActivation s (s.runCatch reaction) := by
  cases reaction with
  | reject promise => exact settle promise .rejected
  | deleteAndReject seq promise =>
    refine SameActivation.trans ?_ (settle promise .rejected)
    exact ⟨rfl, rfl, rfl⟩

end SameActivation

/-! ### Runs -/

/-- The batches after the current one -/
def later : Phase → List (List WorkflowJob)
  | .idle => []
  | .between later _ => later
  | .jobs _ _ later _ => later
  | .drain _ later _ => later
  | .unblock later _ => later

/-- Conditions are unblocked after the batch that was entered last. -/
def lastUnblocks (s : ConditionState σ) : Bool := s.processed.getLast?.any unblocks

/-- The batches in order, the flag of the current one, and what holds after one that unblocks. -/
structure BatchInv (s : ConditionState σ) : Prop where
  batches : s.phase ≠ .idle → jobBatches s.jobs = s.processed ++ later s.phase
  flag : match s.phase with
    | .jobs _ unblock _ _ | .drain unblock _ _ => unblock = s.lastUnblocks
    | _ => True
  quiescent : ∀ later batchIndex, s.phase = .between later batchIndex → s.lastUnblocks = true →
    s.quiet = true ∧ ∀ seq cond, s.blockedConditions.lookup seq = some cond → cond.fn s.vars = false

lemma batchInv_create (vars : σ) : BatchInv (create vars) :=
  ⟨fun h => absurd rfl h, trivial, by simp [create]⟩

/-- Outside the states between two batches, code and microtasks run. -/
lemma BatchInv.of_same (h : BatchInv s) (hsame : SameActivation s s')
    (hphase : ∀ later batchIndex, s.phase ≠ .between later batchIndex) : BatchInv s' where
  batches hidle := by
    rw [hsame.jobs, hsame.processed, hsame.phase]
    exact h.batches (hsame.phase ▸ hidle)
  flag := by
    have hflag := h.flag
    rw [hsame.phase, lastUnblocks, hsame.processed]
    exact hflag
  quiescent later batchIndex hbetween := absurd (hsame.phase ▸ hbetween) (hphase later batchIndex)

lemma ne_between_of_runsMicrotasks (h : s.runsMicrotasks = true) (later : List (List WorkflowJob))
    (batchIndex : ℕ) : s.phase ≠ .between later batchIndex := by
  intro hphase
  rw [runsMicrotasks, hphase] at h
  cases h

/-- Within a batch, jobs are applied and conditions unblocked. -/
lemma BatchInv.moveOn (h : BatchInv s) (hsame : SameActivation s s') {phase : Phase} {unblock : Bool}
    (hlater : later phase = later s.phase) (hidle : s.phase ≠ .idle) (hflag : unblock = s.lastUnblocks)
    (hphase : (∃ todo later batchIndex, phase = .jobs todo unblock later batchIndex) ∨
      ∃ later batchIndex, phase = .drain unblock later batchIndex) :
    BatchInv { s' with phase } where
  batches _ := by
    have hbatches := h.batches hidle
    rw [← hsame.jobs, ← hsame.processed, ← hlater] at hbatches
    exact hbatches
  flag := by
    rw [lastUnblocks, ← hsame.processed] at hflag
    rcases hphase with ⟨todo, later, batchIndex, rfl⟩ | ⟨later, batchIndex, rfl⟩
    · exact hflag
    · exact hflag
  quiescent later batchIndex hbetween := by
    rcases hphase with ⟨_, _, _, rfl⟩ | ⟨_, _, rfl⟩
    · cases hbetween
    · cases hbetween

lemma BatchInv.drained (h : BatchInv s) {unblock : Bool} {later : List (List WorkflowJob)}
    {batchIndex : ℕ} (hphase : s.phase = .drain unblock later batchIndex) :
    BatchInv { s with phase := if unblock then .unblock later batchIndex else .between later batchIndex } := by
  have hbatches := h.batches (by simp [hphase])
  have hflag := h.flag
  rw [hphase] at hbatches hflag
  cases unblock with
  | true => exact ⟨fun _ => hbatches, trivial, by simp⟩
  | false =>
    refine ⟨fun _ => hbatches, trivial, fun _ _ _ hlast => ?_⟩
    exact absurd (hflag.trans hlast) Bool.false_ne_true

/-- The loop ends with a turn that unblocks nothing. -/
lemma BatchInv.unblocked (h : BatchInv s) {later : List (List WorkflowJob)} {batchIndex : ℕ}
    (hphase : s.phase = .unblock later batchIndex) (hquiet : s.quiet = true)
    (hblocked : ∀ seq cond, s.blockedConditions.lookup seq = some cond → cond.fn s.vars = false) :
    BatchInv { s with phase := .between later batchIndex } := by
  have hbatches := h.batches (by simp [hphase])
  rw [hphase] at hbatches
  exact ⟨fun _ => hbatches, trivial, fun _ _ _ _ => ⟨hquiet, hblocked⟩⟩

lemma BatchInv.nextJob (h : BatchInv s) {ops : List (ConditionOp σ V)} {job : WorkflowJob}
    {todo : List WorkflowJob} {unblock : Bool} {later : List (List WorkflowJob)} {batchIndex : ℕ}
    (hphase : s.phase = .jobs (job :: todo) unblock later batchIndex)
    (hnext : s.nextJob env ops job todo unblock later batchIndex = some s') : BatchInv s' := by
  have hflag := h.flag
  have hidle : s.phase ≠ .idle := by simp [hphase]
  rw [hphase] at hflag
  unfold ConditionState.nextJob at hnext
  split at hnext
  · cases hnext
    exact h.moveOn (.refl s) (by rw [hphase]; rfl) hidle hflag (.inr ⟨_, _, rfl⟩)
  · obtain ⟨t, ht, rfl⟩ := Option.map_eq_some_iff.mp hnext
    have hcode := SameActivation.runOps ht
    refine h.moveOn ?_ (by rw [hphase]; rfl) hidle hflag (.inl ⟨_, _, _, rfl⟩)
    split
    · exact hcode.trans (tryUnblockConditions_frame t).2
    · exact hcode

lemma ConditionInv.nextJob (h : ConditionInv none s) {ops : List (ConditionOp σ V)} {job : WorkflowJob}
    {todo : List WorkflowJob} {unblock : Bool} {later : List (List WorkflowJob)} {batchIndex : ℕ}
    (hnext : s.nextJob env ops job todo unblock later batchIndex = some s') : ConditionInv none s' := by
  unfold ConditionState.nextJob at hnext
  split at hnext
  · cases hnext
    exact h.of_eq rfl rfl rfl rfl rfl rfl
  · obtain ⟨t, ht, rfl⟩ := Option.map_eq_some_iff.mp hnext
    have hcode := h.runOps ht
    dsimp only
    split
    · exact hcode.tryUnblockConditions.of_eq rfl rfl rfl rfl rfl rfl
    · exact hcode.of_eq rfl rfl rfl rfl rfl rfl

/-- What a step does to the activation and to the conditions -/
lemma step_inv {input : ConditionInput σ V} (h : BatchInv s) (hs : ConditionInv none s)
    (hstep : s.step env input = some s') : BatchInv s' ∧ ConditionInv none s' := by
  cases input with
  | activate jobs =>
    simp only [step] at hstep
    split at hstep
    · obtain ⟨-, hstep⟩ := Option.ite_none_right_eq_some.mp hstep
      cases hstep
      exact ⟨⟨fun _ => rfl, trivial, by simp [lastUnblocks]⟩, hs.of_eq rfl rfl rfl rfl rfl rfl⟩
    · cases hstep
  | enterBatch =>
    simp only [step] at hstep
    split at hstep
    · rename_i batch later batchIndex hphase
      cases hstep
      have hbatches := h.batches (by simp [hphase])
      rw [hphase] at hbatches
      refine ⟨⟨fun _ => ?_, ?_, by simp⟩, hs.of_eq rfl rfl rfl rfl rfl rfl⟩
      · simpa [ConditionState.later] using hbatches
      · simp [lastUnblocks]
    · cases hstep
  | nextJob ops =>
    simp only [step] at hstep
    split at hstep
    · rename_i hphase
      exact ⟨h.nextJob hphase hstep, hs.nextJob hstep⟩
    · cases hstep
  | jobThrows ops =>
    simp only [step] at hstep
    split at hstep
    · obtain ⟨t, ht, rfl⟩ := Option.map_eq_some_iff.mp hstep
      exact ⟨⟨fun hidle => absurd rfl hidle, trivial, by simp⟩,
        (hs.runOps ht).of_eq rfl rfl rfl rfl rfl rfl⟩
    · cases hstep
  | leaveBatch =>
    simp only [step] at hstep
    split at hstep
    · rename_i hphase
      cases hstep
      have hflag := h.flag
      rw [hphase] at hflag
      exact ⟨h.moveOn (.refl s) (by rw [hphase]; rfl) (by simp [hphase]) hflag (.inr ⟨_, _, rfl⟩),
        hs.of_eq rfl rfl rfl rfl rfl rfl⟩
    · cases hstep
  | reaction resumed =>
    obtain ⟨hruns, hstep⟩ := Option.ite_none_right_eq_some.mp hstep
    obtain ⟨rt, hrt, rfl⟩ := Option.map_eq_some_iff.mp hstep
    have hruntime := hs.runtime (hs.scopes.microtask hrt) (hs.scopes.scopeKept_microtask hrt)
    exact ⟨h.of_same ⟨rfl, rfl, rfl⟩ (ne_between_of_runsMicrotasks hruns),
      hruntime.of_eq rfl rfl rfl rfl rfl rfl⟩
  | continuation ops =>
    obtain ⟨hruns, hstep⟩ := Option.ite_none_right_eq_some.mp hstep
    obtain ⟨hruns, -⟩ := Bool.and_eq_true_iff.mp hruns
    have htaken : ConditionInv none { s with continuations := s.continuations - 1 } :=
      hs.of_eq rfl rfl rfl rfl rfl rfl
    have hsame : SameActivation s { s with continuations := s.continuations - 1 } := ⟨rfl, rfl, rfl⟩
    exact ⟨h.of_same (hsame.trans (.runOps hstep)) (ne_between_of_runsMicrotasks hruns),
      htaken.runOps hstep⟩
  | catchReaction index =>
    simp only [step] at hstep
    split at hstep
    · rename_i scope reaction hcatch
      obtain ⟨hruns, hstep⟩ := Option.ite_none_right_eq_some.mp hstep
      obtain ⟨hruns, hrejected⟩ := Bool.and_eq_true_iff.mp hruns
      cases hstep
      have hsame : SameActivation s { s with catches := s.catches.eraseIdx index } := ⟨rfl, rfl, rfl⟩
      exact ⟨h.of_same (hsame.trans (.runCatch reaction)) (ne_between_of_runsMicrotasks hruns),
        hs.runCatch hcatch hrejected⟩
    · cases hstep
  | drained =>
    simp only [step] at hstep
    split at hstep
    · rename_i unblock later batchIndex hphase
      obtain ⟨-, hstep⟩ := Option.ite_none_right_eq_some.mp hstep
      cases hstep
      exact ⟨h.drained hphase, hs.of_eq rfl rfl rfl rfl rfl rfl⟩
    · cases hstep
  | tryUnblockConditions =>
    simp only [step] at hstep
    split at hstep
    · rename_i later batchIndex hphase
      obtain ⟨hquiet, hstep⟩ := Option.ite_none_right_eq_some.mp hstep
      cases hstep
      obtain ⟨-, hsame⟩ := s.tryUnblockConditions_frame
      split
      · rename_i hzero
        have heq := s.tryUnblockConditions_eq hzero
        have hblocked := s.tryUnblockConditions_blocked
        rw [heq] at hblocked ⊢
        exact ⟨h.unblocked hphase hquiet hblocked, hs.of_eq rfl rfl rfl rfl rfl rfl⟩
      · exact ⟨h.of_same hsame (by simp [hphase]), hs.tryUnblockConditions⟩
    · cases hstep
  | conclude =>
    simp only [step] at hstep
    split at hstep
    · cases hstep
      exact ⟨⟨fun hidle => absurd rfl hidle, trivial, by simp⟩, hs.of_eq rfl rfl rfl rfl rfl rfl⟩
    · cases hstep

/-- A condition in a non-cancellable scope under the cancelled root scope, which a signal makes true; the code
after it calls another one. -/
def resolvedBySignal : List (ConditionInput ℕ Payload) :=
  [.activate [.startWorkflow], .enterBatch,
    .nextJob [.runtime (.cancel rootScope), .runtime (.newScope false rootScope),
      .condition (fun n => n == 1) none false 1],
    .leaveBatch, .reaction 0, .drained, .tryUnblockConditions, .conclude,
    .activate [.signalWorkflow (some "go")], .enterBatch, .nextJob [.modify fun n => n + 1],
    .leaveBatch, .continuation [.condition (fun n => n == 2) none false 1], .drained,
    .tryUnblockConditions]

end ConditionState

end TemporalSdk
