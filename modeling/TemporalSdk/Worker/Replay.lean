import TemporalSdk.Common.Errors
import TemporalSdk.Library.Transition

/-!
# Replaying histories

`Worker.runReplayHistories` pushes histories to a replay worker, one at a time, and yields for each the
next eviction that the worker emits, unless the run of the worker ends before. Evictions that are
emitted while nobody waits for one are buffered.
-/

namespace TemporalSdk

/-- `coresdk.workflow_activation.RemoveFromCache.EvictionReason` -/
inductive EvictionReason
  | unspecified
  | cacheFull
  | cacheMiss
  | nondeterminism
  | langFail
  | langRequested
  | taskNotFound
  | unhandledCommand
  | fatal
  | paginationOrHistoryFetch
deriving DecidableEq

def EvictionReason.name : EvictionReason → String
  | unspecified => "UNSPECIFIED"
  | cacheFull => "CACHE_FULL"
  | cacheMiss => "CACHE_MISS"
  | nondeterminism => "NONDETERMINISM"
  | langFail => "LANG_FAIL"
  | langRequested => "LANG_REQUESTED"
  | taskNotFound => "TASK_NOT_FOUND"
  | unhandledCommand => "UNHANDLED_COMMAND"
  | fatal => "FATAL"
  | paginationOrHistoryFetch => "PAGINATION_OR_HISTORY_FETCH"

structure RemoveFromCache where
  message : String
  reason : Option EvictionReason

inductive ReplayFailure
  | determinismViolationError (message : String)
  | replayError (message : String)
deriving DecidableEq

/-- `evictJob.reason ? EvictionReason[evictJob.reason] : 'absent'`; the reason `unspecified` is `0`. -/
def evictionReasonCode : Option EvictionReason → String
  | none | some .unspecified => "absent"
  | some reason => reason.name

def evictionReasonToReplayError (evictJob : RemoveFromCache) : Option ReplayFailure :=
  match evictJob.reason with
  | some .nondeterminism =>
    some (.determinismViolationError ("Replay failed with a nondeterminism error. This means that the " ++
      "workflow code as written is not compatible with the history that was fed in. Details: " ++
      evictJob.message))
  | some .langFail =>
    some (.replayError ("Replay failed due workflow task failure. Details: " ++ evictJob.message))
  | some .langRequested | some .cacheFull => none
  | reason =>
    some (.replayError ("Replay failed due to internal SDK issue. Code: " ++ evictionReasonCode reason ++
      ", Details: " ++ evictJob.message))

lemma isSome_evictionReasonToReplayError (evictJob : RemoveFromCache) :
    (evictionReasonToReplayError evictJob).isSome ↔
      evictJob.reason ≠ some .cacheFull ∧ evictJob.reason ≠ some .langRequested := by
  obtain ⟨message, reason⟩ := evictJob
  cases reason with
  | none => simp [evictionReasonToReplayError]
  | some reason => cases reason <;> simp [evictionReasonToReplayError]

/-- An activation with, for each of its jobs, what it says about the removal from the cache -/
structure ReplayActivation where
  runId : String
  jobs : List (Option RemoveFromCache)

structure EvictionWithRunID where
  runId : String
  evictJob : RemoveFromCache

/-- What the handler of an activation emits -/
def ReplayActivation.eviction (activation : ReplayActivation) : Option EvictionWithRunID :=
  (activation.jobs.findSome? id).map fun evictJob => ⟨activation.runId, evictJob⟩

/-- In a valid history, the event ids are no strings. -/
inductive EventId
  | string (eventId : String)
  | other
deriving DecidableEq

/-- What is given as a history: a value whose `typeof` is not `object`, `null`, or an object with its
events -/
inductive HistoryValue
  | notObject (type : String)
  | null
  | object (events : Option (List EventId))

structure HistoryAndWorkflowId where
  workflowId : String
  history : HistoryValue

/-- What is thrown by, or to, `runReplayHistories` -/
inductive ReplayThrown
  | js (error : JsError)
  | shutdownError (message : String)
  | combinedWorkerRunError (message : String) (workerError innerError : ReplayThrown)
deriving DecidableEq

namespace ReplayThrown

def undefined : ReplayThrown := .js .undefined

def isShutdownError : ReplayThrown → Bool
  | shutdownError _ => true
  | _ => false

end ReplayThrown

/-- How histories are loaded from JSON, and what the iterable of the histories throws after the last
one, if it throws -/
structure ReplaySource where
  fromProto3JSON : List EventId → Except JsError (Option (List EventId))
  error : Option ReplayThrown

namespace ReplaySource

variable (source : ReplaySource)

def historyFromJSON (events : List EventId) : Except JsError (List EventId) :=
  match source.fromProto3JSON events with
  | .error err => .error err
  | .ok none => .error (.typeError "Invalid history")
  | .ok (some loaded) => .ok loaded

def validateHistory : HistoryValue → Except JsError (List EventId)
  | .notObject type => .error (.typeError ("Expected a non-null history object, got " ++ type))
  | .null => .error (.typeError "Expected a non-null history object, got object")
  | .object none => .error (.typeError "Cannot read properties of undefined (reading '0')")
  | .object (some []) => .error (.typeError
      "Cannot destructure property 'eventId' of 'history.events[0]' as it is undefined.")
  | .object (some (.string eventId :: events)) => source.historyFromJSON (.string eventId :: events)
  | .object (some (.other :: events)) => .ok (.other :: events)

end ReplaySource

structure ReplayResult where
  workflowId : String
  runId : String
  error : Option ReplayFailure

inductive ReplayOutcome
  | returned
  | threw (error : ReplayThrown)
deriving DecidableEq

/-- Where the generator is: before the first history or at a `yield`, at the `next` of the iterable, at
the push of a history, at the race, or at the end of the run of the worker -/
inductive ReplayPhase
  | suspended
  | iterating
  | pushing (workflowId : String)
  | racing (workflowId : String)
  | closing
  | done (outcome : ReplayOutcome)
deriving DecidableEq

/-- The generator and its worker. `rest` are the histories to come, `pushed` those that Core has been
given and `emitted` the evictions so far; `runPromise` is what the run was rejected with; `interrupted`
says that a push was rejected or that a race was lost to the run. -/
structure ReplayRun where
  rest : List HistoryAndWorkflowId
  phase : ReplayPhase
  pushed : List (String × List EventId)
  emitted : List EvictionWithRunID
  unconsumedEvents : List EvictionWithRunID
  runPromise : Option ReplayThrown
  results : List ReplayResult
  innerError : ReplayThrown
  interrupted : Bool

/-- What happens: the consumer pulls, the iterable or the push is settled, the worker handles an
activation, or its run ends, with an error or without -/
inductive ReplayInput
  | pull
  | nextSettled
  | pushSettled
  | pushRejected (message : String)
  | activation (activation : ReplayActivation)
  | runSettled (error : Option ReplayThrown)

namespace ReplayRun

variable (source : ReplaySource) (s : ReplayRun)

def initial (histories : List HistoryAndWorkflowId) : ReplayRun :=
  ⟨histories, .suspended, [], [], [], none, [], .undefined, false⟩

/-- How the outer `finally` ends, once the run was rejected -/
def settle (innerError err : ReplayThrown) : ReplayOutcome :=
  if err.isShutdownError then
    if innerError ≠ .undefined then .threw innerError else .returned
  else if innerError = .undefined then .threw err
  else .threw (.combinedWorkerRunError "Worker run failed with inner error" err innerError)

/-- The loop is left, and the run awaited. -/
def close (innerError : ReplayThrown) : ReplayRun :=
  match s.runPromise with
  | none => { s with phase := .closing, innerError }
  | some err => { s with phase := .done (settle innerError err), innerError }

def yieldResult (workflowId : String) (eviction : EvictionWithRunID) : ReplayRun :=
  let result := ⟨workflowId, eviction.runId, evictionReasonToReplayError eviction.evictJob⟩
  { s with phase := .suspended, results := s.results ++ [result] }

/-- `Promise.race([evictions.next(), runPromise])`: a buffered eviction is first. -/
def race (workflowId : String) : ReplayRun :=
  match s.unconsumedEvents, s.runPromise with
  | eviction :: unconsumedEvents, _ => { s with unconsumedEvents }.yieldResult workflowId eviction
  | [], some err => { s with interrupted := true }.close err
  | [], none => { s with phase := .racing workflowId }

def emit (eviction : EvictionWithRunID) : ReplayRun :=
  let s := { s with emitted := s.emitted ++ [eviction] }
  match s.phase with
  | .racing workflowId => s.yieldResult workflowId eviction
  | _ => { s with unconsumedEvents := s.unconsumedEvents ++ [eviction] }

def settleRun (err : ReplayThrown) : ReplayRun :=
  let s := { s with runPromise := some err }
  match s.phase with
  | .racing _ => { s with interrupted := true }.close err
  | .closing => s.close s.innerError
  | _ => s

/-- The iterable is done, throws, or has a history, which is validated. -/
def iterate : ReplayRun :=
  match s.rest with
  | [] => s.close (source.error.getD .undefined)
  | ⟨workflowId, history⟩ :: rest =>
    let s := { s with rest }
    match source.validateHistory history with
    | .error err => s.close (.js err)
    | .ok validated =>
      { s with phase := .pushing workflowId, pushed := s.pushed ++ [(workflowId, validated)] }

def step : ReplayInput → Option ReplayRun
  | .pull => if s.phase = .suspended then some { s with phase := .iterating } else none
  | .nextSettled => if s.phase = .iterating then some (s.iterate source) else none
  | .pushSettled =>
    match s.phase with
    | .pushing workflowId => some (s.race workflowId)
    | _ => none
  | .pushRejected message =>
    match s.phase with
    | .pushing _ => some ({ s with interrupted := true }.close (.js (.other message)))
    | _ => none
  | .activation activation =>
    match activation.eviction with
    | none => some s
    | some eviction => some (s.emit eviction)
  | .runSettled error =>
    match s.runPromise with
    | none => some (s.settleRun (error.getD (.shutdownError "Worker was shutdown")))
    | some _ => none

/-- Core evicts each workflow that it was given once. -/
def EvictedOnce : ReplayInput → Prop
  | .activation activation => activation.eviction.isSome → s.emitted.length < s.pushed.length
  | _ => True

instance : DecidablePred s.EvictedOnce := fun input => by
  cases input <;> unfold EvictedOnce <;> infer_instance

/-- The steps that Core's part of the contract allows -/
def coreStep (input : ReplayInput) : Option ReplayRun :=
  if s.EvictedOnce input then s.step source input else none

/-- The generator stands still: what can happen does not take it any further. -/
def Complete : Prop := ∀ input t, s.coreStep source input = some t → t.phase = s.phase

end ReplayRun

namespace ReplaySource

variable (source : ReplaySource)

/-- How many histories can be replayed, and what the iterable or the validation throws after them -/
def replayable : List HistoryAndWorkflowId → ℕ × Option ReplayThrown
  | [] => (0, source.error)
  | item :: items =>
    match source.validateHistory item.history with
    | .error err => (0, some (.js err))
    | .ok _ => ((replayable items).1 + 1, (replayable items).2)

/-- What is thrown when the next history is asked for -/
def nextThrows (rest : List HistoryAndWorkflowId) : Option ReplayThrown :=
  match rest with
  | [] => source.error
  | item :: _ =>
    match source.validateHistory item.history with
    | .error err => some (.js err)
    | .ok _ => none

lemma replayable_of_none {items : List HistoryAndWorkflowId} (h : (source.replayable items).2 = none) :
    (source.replayable items).1 = items.length := by
  induction items with
  | nil => rfl
  | cons item items ih =>
    unfold replayable at h ⊢
    cases hvalid : source.validateHistory item.history with
    | error err =>
      rw [hvalid] at h
      cases h
    | ok validated =>
      rw [hvalid] at h
      simp only [List.length_cons, ih h]

end ReplaySource

namespace ReplayResult

/-- The result is that of the history, which was evicted so. -/
structure Matches (result : ReplayResult) (item : HistoryAndWorkflowId) (eviction : EvictionWithRunID) :
    Prop where
  workflowId : result.workflowId = item.workflowId
  runId : result.runId = eviction.runId
  error : result.error.isSome ↔
    eviction.evictJob.reason ≠ some .cacheFull ∧ eviction.evictJob.reason ≠ some .langRequested

end ReplayResult

namespace ReplayRun

/-- How the generator ends after all that can be replayed: `error` is what was thrown then, and `err`
what the run was rejected with. -/
def outcome (error : Option ReplayThrown) (err : ReplayThrown) : ReplayOutcome :=
  match error with
  | none => if err.isShutdownError then .returned else .threw err
  | some error =>
    if err.isShutdownError then .threw error
    else .threw (.combinedWorkerRunError "Worker run failed with inner error" err error)

variable (source : ReplaySource) (items : List HistoryAndWorkflowId) (s : ReplayRun)

/-- Each result is that of the history and of the eviction in its place. Unless a push was rejected or
the run ended when a history was being replayed, there are as many results as histories that can be
replayed, and the generator rethrows what was thrown after them, together with the error of the run if
that failed as well. -/
structure Correct : Prop where
  ordered : ∀ (i : ℕ) (result : ReplayResult), s.results[i]? = some result →
    ∃ item eviction, items[i]? = some item ∧ s.emitted[i]? = some eviction ∧ result.Matches item eviction
  replayed : s.interrupted = false → s.results.length = (source.replayable items).1 ∧
    ((source.replayable items).2 = none → s.results.length = items.length)
  rethrown : s.interrupted = false → ∃ err, s.runPromise = some err ∧
    s.phase = .done (outcome (source.replayable items).2 err)
  interrupted : s.interrupted = true → ∃ error, s.phase = .done (.threw error)

/-- Neither the iterable nor the validation throws `undefined`. -/
def Defined : ReplayInput → Prop
  | .nextSettled => source.nextThrows s.rest ≠ some .undefined
  | _ => True

instance : DecidablePred (s.Defined source) := fun input => by
  cases input <;> unfold Defined <;> infer_instance

/-! ### What the steps keep -/

/-- All that was emitted has been taken, and there is a result for each history so far. -/
structure Between : Prop where
  rest : items.drop s.results.length = s.rest
  replayable : source.replayable items =
    (s.results.length + (source.replayable s.rest).1, (source.replayable s.rest).2)
  pushed : s.pushed.length = s.results.length
  emitted : s.emitted.length = s.results.length
  unconsumed : s.unconsumedEvents = []
  interrupted : s.interrupted = false

/-- Core has been given the history that comes after those with results. -/
structure Pending (workflowId : String) : Prop where
  item : ∃ history, items.drop s.results.length = ⟨workflowId, history⟩ :: s.rest
  replayable : source.replayable items =
    (s.results.length + 1 + (source.replayable s.rest).1, (source.replayable s.rest).2)
  pushed : s.pushed.length = s.results.length + 1
  emitted : s.results.length ≤ s.emitted.length ∧ s.emitted.length ≤ s.results.length + 1
  unconsumed : s.emitted.drop s.results.length = s.unconsumedEvents
  interrupted : s.interrupted = false

/-- The loop was left in order, with what was thrown, or it was interrupted. -/
def Left : Prop :=
  s.interrupted = false ∧ s.results.length = (source.replayable items).1 ∧
      s.innerError = (source.replayable items).2.getD .undefined ∧
      (source.replayable items).2 ≠ some .undefined ∨
    s.interrupted = true ∧ (s.innerError ≠ .undefined ∨ s.runPromise = some s.innerError)

def PhaseInv : Prop :=
  match s.phase with
  | .suspended | .iterating => s.Between source items
  | .pushing workflowId => s.Pending source items workflowId
  | .racing workflowId =>
    s.Pending source items workflowId ∧ s.unconsumedEvents = [] ∧ s.runPromise = none
  | .closing => s.runPromise = none ∧ s.Left source items
  | .done outcome => ∃ err, s.runPromise = some err ∧ outcome = settle s.innerError err ∧ s.Left source items

/-- A result is made from the history and the eviction in its place. -/
def Ordered : Prop :=
  ∀ (i : ℕ) (result : ReplayResult), s.results[i]? = some result →
    ∃ item eviction, items[i]? = some item ∧ s.emitted[i]? = some eviction ∧
      result = ⟨item.workflowId, eviction.runId, evictionReasonToReplayError eviction.evictJob⟩

structure Inv : Prop where
  ordered : s.Ordered items
  phase : s.PhaseInv source items

/-- The iterable or the validation has thrown `undefined`, and the generator behaves as if it had not. -/
structure Swallowed : Prop where
  interrupted : s.interrupted = false
  thrown : (source.replayable items).2 = some .undefined
  innerError : s.innerError = .undefined
  phase : s.phase = .closing ∧ s.runPromise = none ∨
    ∃ err, s.runPromise = some err ∧ s.phase = .done (settle .undefined err)

variable {source : ReplaySource} {items : List HistoryAndWorkflowId} {s t : ReplayRun}

lemma inv_initial : (initial items).Inv source items where
  ordered i result h := by cases h
  phase := ⟨rfl, by simp [initial], rfl, rfl, rfl, rfl⟩

/-- Where the generator is, and how its run ended, is nothing to what was pushed and emitted. -/
lemma Between.withPhase (h : s.Between source items) (phase : ReplayPhase)
    (runPromise : Option ReplayThrown) : { s with phase, runPromise }.Between source items :=
  ⟨h.rest, h.replayable, h.pushed, h.emitted, h.unconsumed, h.interrupted⟩

lemma Pending.withPhase {workflowId : String} (h : s.Pending source items workflowId) (phase : ReplayPhase)
    (runPromise : Option ReplayThrown) : { s with phase, runPromise }.Pending source items workflowId :=
  ⟨h.item, h.replayable, h.pushed, h.emitted, h.unconsumed, h.interrupted⟩

lemma Inv.close {innerError : ReplayThrown} (hordered : s.Ordered items)
    (hleft : { s with innerError }.Left source items) : (s.close innerError).Inv source items := by
  unfold ReplayRun.close
  split
  · rename_i hrun
    exact ⟨hordered, hrun, hleft⟩
  · rename_i err hrun
    exact ⟨hordered, err, hrun, rfl, hleft⟩

/-- What was emitted first after the last result makes the next one. -/
lemma Inv.yieldResult {workflowId : String} {eviction : EvictionWithRunID} (hordered : s.Ordered items)
    (hpending : s.Pending source items workflowId) (hemitted : s.emitted.drop s.results.length = [eviction]) :
    ({ s with unconsumedEvents := [] }.yieldResult workflowId eviction).Inv source items := by
  obtain ⟨history, hitem⟩ := hpending.item
  have hlength : s.emitted.length = s.results.length + 1 := by
    have hdrop := congrArg List.length hemitted
    rw [List.length_drop, List.length_singleton] at hdrop
    omega
  refine ⟨?_, ?_, ?_, ?_, ?_, rfl, hpending.interrupted⟩
  · intro i result hresult
    rcases Nat.lt_or_ge i s.results.length with hi | hi
    · refine hordered i result ?_
      simpa only [ReplayRun.yieldResult, List.getElem?_append_left hi] using hresult
    · simp only [ReplayRun.yieldResult, List.getElem?_append_right hi] at hresult
      rw [List.getElem?_singleton, Option.ite_none_right_eq_some] at hresult
      obtain ⟨hzero, hresult⟩ := hresult
      obtain rfl : i = s.results.length := by omega
      refine ⟨⟨workflowId, history⟩, eviction, ?_, ?_, ?_⟩
      · rw [← List.head?_drop, hitem, List.head?_cons]
      · change s.emitted[s.results.length]? = some eviction
        rw [← List.head?_drop, hemitted, List.head?_cons]
      · exact (Option.some.inj hresult).symm
  · simp only [ReplayRun.yieldResult, List.length_append, List.length_singleton]
    rw [← List.drop_drop, hitem, List.drop_one, List.tail_cons]
  · simpa only [ReplayRun.yieldResult, List.length_append, List.length_singleton] using hpending.replayable
  · simpa only [ReplayRun.yieldResult, List.length_append, List.length_singleton] using hpending.pushed
  · simpa only [ReplayRun.yieldResult, List.length_append, List.length_singleton] using hlength

lemma Inv.race {workflowId : String} (hordered : s.Ordered items)
    (hpending : s.Pending source items workflowId) : (s.race workflowId).Inv source items := by
  unfold ReplayRun.race
  split
  · rename_i eviction unconsumedEvents hunconsumed
    have hdrop := hpending.unconsumed
    rw [hunconsumed] at hdrop
    have hlength := congrArg List.length hdrop
    rw [List.length_drop, List.length_cons] at hlength
    have hbound := hpending.emitted
    obtain rfl : unconsumedEvents = [] := List.eq_nil_of_length_eq_zero (by omega)
    exact Inv.yieldResult hordered hpending hdrop
  · rename_i err _ hrun
    exact Inv.close hordered (Or.inr ⟨rfl, Or.inr hrun⟩)
  · rename_i hunconsumed hrun
    exact ⟨hordered, hpending.withPhase _ _, hunconsumed, hrun⟩

/-- The next history is pushed, or the loop is left with what is thrown, which is not `undefined`. -/
lemma Inv.iterate (hordered : s.Ordered items) (hbetween : s.Between source items)
    (hdefined : source.nextThrows s.rest ≠ some .undefined) : (s.iterate source).Inv source items := by
  have hreplayable := hbetween.replayable
  unfold ReplayRun.iterate
  cases hrest : s.rest with
  | nil =>
    rw [hrest] at hreplayable hdefined
    refine Inv.close hordered (Or.inl ⟨hbetween.interrupted, ?_, ?_, ?_⟩)
    · rw [hreplayable]
      rfl
    · rw [hreplayable]
      rfl
    · rw [hreplayable]
      exact hdefined
  | cons item rest =>
    obtain ⟨workflowId, history⟩ := item
    simp only [hrest, ReplaySource.nextThrows] at hdefined
    simp only [hrest, ReplaySource.replayable] at hreplayable
    dsimp only
    cases hvalid : source.validateHistory history with
    | error err =>
      simp only [hvalid] at hdefined hreplayable
      refine Inv.close hordered (Or.inl ⟨hbetween.interrupted, ?_, ?_, ?_⟩)
      · rw [hreplayable]
        rfl
      · rw [hreplayable]
        rfl
      · rw [hreplayable]
        exact hdefined
    | ok validated =>
      simp only [hvalid] at hreplayable
      have hemitted := hbetween.emitted
      have hpushed := hbetween.pushed
      refine ⟨hordered, ⟨history, ?_⟩, ?_, ?_, ⟨?_, ?_⟩, ?_, hbetween.interrupted⟩
      · exact hbetween.rest.trans hrest
      · rw [hreplayable]
        refine Prod.ext ?_ rfl
        dsimp only
        omega
      · rw [List.length_append, hpushed, List.length_singleton]
      · exact hemitted.ge
      · exact hemitted.le.trans (Nat.le_succ _)
      · rw [hbetween.unconsumed]
        exact List.drop_eq_nil_of_le hemitted.le

lemma Ordered.emit (h : s.Ordered items) (eviction : EvictionWithRunID) :
    { s with emitted := s.emitted ++ [eviction] }.Ordered items := by
  intro i result hresult
  obtain ⟨item, eviction', hitem, hemitted, heq⟩ := h i result hresult
  refine ⟨item, eviction', hitem, ?_, heq⟩
  obtain ⟨hi, -⟩ := List.getElem?_eq_some_iff.mp hemitted
  rw [List.getElem?_append_left hi]
  exact hemitted

/-- The eviction of the history that was pushed last -/
lemma Pending.emit {workflowId : String} (h : s.Pending source items workflowId)
    (eviction : EvictionWithRunID) (honce : s.emitted.length < s.pushed.length) :
    { s with
      emitted := s.emitted ++ [eviction]
      unconsumedEvents := s.unconsumedEvents ++ [eviction] }.Pending source items workflowId := by
  have hpushed := h.pushed
  have hemitted := h.emitted
  refine ⟨h.item, h.replayable, hpushed, ⟨?_, ?_⟩, ?_, h.interrupted⟩
  · rw [List.length_append, List.length_singleton]
    exact hemitted.1.trans (Nat.le_succ _)
  · rw [List.length_append, List.length_singleton]
    dsimp only
    omega
  · rw [List.drop_append_of_le_length hemitted.1, h.unconsumed]

lemma Inv.emit {eviction : EvictionWithRunID} (h : s.Inv source items)
    (honce : s.emitted.length < s.pushed.length) : (s.emit eviction).Inv source items := by
  have hordered := h.ordered.emit eviction
  have hphase := h.phase
  unfold PhaseInv at hphase
  cases hcall : s.phase with
  | suspended =>
    rw [hcall] at hphase
    rw [hphase.emitted, hphase.pushed] at honce
    exact absurd honce (lt_irrefl _)
  | iterating =>
    rw [hcall] at hphase
    rw [hphase.emitted, hphase.pushed] at honce
    exact absurd honce (lt_irrefl _)
  | pushing workflowId =>
    rw [hcall] at hphase
    simp only [ReplayRun.emit, hcall]
    exact ⟨hordered, (hphase.emit eviction honce).withPhase _ _⟩
  | racing workflowId =>
    rw [hcall] at hphase
    obtain ⟨hpending, hunconsumed, -⟩ := hphase
    have hpending := hpending.emit eviction honce
    have hdrop := hpending.unconsumed
    rw [hunconsumed] at hdrop hpending
    have hyield := Inv.yieldResult (s := { s with
      emitted := s.emitted ++ [eviction]
      unconsumedEvents := [] ++ [eviction] }) hordered hpending hdrop
    simp only [ReplayRun.emit, hcall]
    simpa only [hunconsumed, ReplayRun.yieldResult] using hyield
  | closing =>
    rw [hcall] at hphase
    simp only [ReplayRun.emit, hcall]
    exact ⟨hordered, hphase⟩
  | done outcome =>
    rw [hcall] at hphase
    simp only [ReplayRun.emit, hcall]
    exact ⟨hordered, hphase⟩

lemma Inv.settleRun {err : ReplayThrown} (h : s.Inv source items) (hrun : s.runPromise = none) :
    (s.settleRun err).Inv source items := by
  have hphase := h.phase
  unfold PhaseInv at hphase
  cases hcall : s.phase with
  | suspended =>
    rw [hcall] at hphase
    simp only [ReplayRun.settleRun, hcall]
    exact ⟨h.ordered, hphase.withPhase _ _⟩
  | iterating =>
    rw [hcall] at hphase
    simp only [ReplayRun.settleRun, hcall]
    exact ⟨h.ordered, hphase.withPhase _ _⟩
  | pushing workflowId =>
    rw [hcall] at hphase
    simp only [ReplayRun.settleRun, hcall]
    exact ⟨h.ordered, hphase.withPhase _ _⟩
  | racing workflowId =>
    simp only [ReplayRun.settleRun, hcall]
    exact Inv.close h.ordered (Or.inr ⟨rfl, Or.inr rfl⟩)
  | closing =>
    rw [hcall] at hphase
    obtain ⟨-, hleft⟩ := hphase
    simp only [ReplayRun.settleRun, hcall]
    refine Inv.close h.ordered (hleft.imp_right ?_)
    rintro ⟨hinterrupted, hinner | hlost⟩
    · exact ⟨hinterrupted, Or.inl hinner⟩
    · rw [hrun] at hlost
      cases hlost
  | done outcome =>
    rw [hcall] at hphase
    obtain ⟨err', hrun', -⟩ := hphase
    rw [hrun] at hrun'
    cases hrun'

lemma Inv.step {input : ReplayInput} (h : s.Inv source items) (hdefined : s.Defined source input)
    (hstep : s.coreStep source input = some t) : t.Inv source items := by
  obtain ⟨honce, hstep⟩ := Option.ite_none_right_eq_some.mp hstep
  have hphase := h.phase
  unfold PhaseInv at hphase
  cases input with
  | pull =>
    obtain ⟨hcall, heq⟩ := Option.ite_none_right_eq_some.mp hstep
    rw [hcall] at hphase
    cases heq
    exact ⟨h.ordered, hphase.withPhase _ _⟩
  | nextSettled =>
    obtain ⟨hcall, heq⟩ := Option.ite_none_right_eq_some.mp hstep
    rw [hcall] at hphase
    cases heq
    exact Inv.iterate h.ordered hphase hdefined
  | pushSettled =>
    simp only [ReplayRun.step] at hstep
    split at hstep
    · rename_i workflowId hcall
      rw [hcall] at hphase
      cases hstep
      exact Inv.race h.ordered hphase
    · cases hstep
  | pushRejected message =>
    simp only [ReplayRun.step] at hstep
    split at hstep
    · cases hstep
      exact Inv.close h.ordered (Or.inr ⟨rfl, Or.inl (by simp [ReplayThrown.undefined])⟩)
    · cases hstep
  | activation activation =>
    simp only [ReplayRun.step] at hstep
    split at hstep
    · cases hstep
      exact h
    · rename_i eviction heviction
      cases hstep
      exact h.emit (honce (by rw [heviction, Option.isSome_some]))
  | runSettled error =>
    simp only [ReplayRun.step] at hstep
    split at hstep
    · rename_i hrun
      cases hstep
      exact h.settleRun hrun
    · cases hstep

lemma Swallowed.close (hinterrupted : s.interrupted = false)
    (hthrown : (source.replayable items).2 = some .undefined) :
    (s.close .undefined).Swallowed source items := by
  unfold ReplayRun.close
  split
  · rename_i hrun
    exact ⟨hinterrupted, hthrown, rfl, Or.inl ⟨rfl, hrun⟩⟩
  · rename_i err hrun
    exact ⟨hinterrupted, hthrown, rfl, Or.inr ⟨err, hrun, rfl⟩⟩

lemma Inv.swallowed {input : ReplayInput} (h : s.Inv source items) (hdefined : ¬s.Defined source input)
    (hstep : s.coreStep source input = some t) : t.Swallowed source items := by
  obtain ⟨-, hstep⟩ := Option.ite_none_right_eq_some.mp hstep
  have hphase := h.phase
  unfold PhaseInv at hphase
  cases input with
  | nextSettled =>
    obtain ⟨hcall, heq⟩ := Option.ite_none_right_eq_some.mp hstep
    have hthrows : source.nextThrows s.rest = some .undefined := not_not.mp hdefined
    rw [hcall] at hphase
    have hreplayable := hphase.replayable
    cases heq
    unfold ReplayRun.iterate
    cases hrest : s.rest with
    | nil =>
      rw [hrest] at hreplayable hthrows
      have herror : source.error = some .undefined := hthrows
      rw [herror]
      refine Swallowed.close hphase.interrupted ?_
      rw [hreplayable]
      exact herror
    | cons item rest =>
      obtain ⟨workflowId, history⟩ := item
      simp only [hrest, ReplaySource.nextThrows] at hthrows
      simp only [hrest, ReplaySource.replayable] at hreplayable
      dsimp only
      cases hvalid : source.validateHistory history with
      | ok validated =>
        rw [hvalid] at hthrows
        cases hthrows
      | error err =>
        simp only [hvalid, Option.some.injEq] at hthrows hreplayable
        dsimp only
        rw [hthrows]
        refine Swallowed.close hphase.interrupted ?_
        rw [hreplayable, hthrows]
  | pull => exact absurd trivial hdefined
  | pushSettled => exact absurd trivial hdefined
  | pushRejected message => exact absurd trivial hdefined
  | activation activation => exact absurd trivial hdefined
  | runSettled error => exact absurd trivial hdefined

lemma Swallowed.step {input : ReplayInput} (h : s.Swallowed source items)
    (hstep : s.coreStep source input = some t) : t.Swallowed source items := by
  obtain ⟨-, hstep⟩ := Option.ite_none_right_eq_some.mp hstep
  have hphase := h.phase
  have hleft : (s.phase = .closing ∨ ∃ outcome, s.phase = .done outcome) :=
    hphase.imp (fun hclosing => hclosing.1) (fun ⟨err, _, hdone⟩ => ⟨_, hdone⟩)
  cases input with
  | pull =>
    obtain ⟨hcall, -⟩ := Option.ite_none_right_eq_some.mp hstep
    rw [hcall] at hleft
    simp at hleft
  | nextSettled =>
    obtain ⟨hcall, -⟩ := Option.ite_none_right_eq_some.mp hstep
    rw [hcall] at hleft
    simp at hleft
  | pushSettled =>
    rcases hleft with hcall | ⟨outcome, hcall⟩ <;> simp [ReplayRun.step, hcall] at hstep
  | pushRejected message =>
    rcases hleft with hcall | ⟨outcome, hcall⟩ <;> simp [ReplayRun.step, hcall] at hstep
  | activation activation =>
    simp only [ReplayRun.step] at hstep
    split at hstep
    · cases hstep
      exact h
    · cases hstep
      rcases hleft with hcall | ⟨outcome, hcall⟩
      · simp only [ReplayRun.emit, hcall]
        rw [hcall] at hphase
        exact ⟨h.interrupted, h.thrown, h.innerError, hphase⟩
      · simp only [ReplayRun.emit, hcall]
        rw [hcall] at hphase
        exact ⟨h.interrupted, h.thrown, h.innerError, hphase⟩
  | runSettled error =>
    simp only [ReplayRun.step] at hstep
    split at hstep
    · rename_i hrun
      cases hstep
      rcases hphase with ⟨hcall, -⟩ | ⟨err, hrun', -⟩
      · simp only [ReplayRun.settleRun, hcall, h.innerError]
        exact Swallowed.close h.interrupted h.thrown
      · rw [hrun] at hrun'
        cases hrun'
    · cases hstep

/-! ### How the generator ends -/

lemma close_phase_ne (s : ReplayRun) (innerError : ReplayThrown) {phase : ReplayPhase}
    (hclosing : phase ≠ .closing) (hdone : ∀ outcome, phase ≠ .done outcome) :
    (s.close innerError).phase ≠ phase := by
  unfold ReplayRun.close
  split
  · exact hclosing.symm
  · exact (hdone _).symm

/-- The generator has not come to an end as long as something can happen. -/
lemma Inv.done_of_complete (h : s.Inv source items) (hcomplete : s.Complete source) :
    ∃ outcome, s.phase = .done outcome := by
  have hphase := h.phase
  unfold PhaseInv at hphase
  cases hcall : s.phase with
  | suspended =>
    have hnext := hcomplete .pull { s with phase := .iterating }
      (by simp [coreStep, EvictedOnce, ReplayRun.step, hcall])
    rw [hcall] at hnext
    cases hnext
  | iterating =>
    have hnext := hcomplete .nextSettled (s.iterate source) (by simp [coreStep, EvictedOnce, ReplayRun.step, hcall])
    rw [hcall] at hnext
    unfold ReplayRun.iterate at hnext
    split at hnext
    · exact absurd hnext (close_phase_ne _ _ (by simp) (by simp))
    · dsimp only at hnext
      split at hnext
      · exact absurd hnext (close_phase_ne _ _ (by simp) (by simp))
      · cases hnext
  | pushing workflowId =>
    have hnext := hcomplete .pushSettled (s.race workflowId) (by simp [coreStep, EvictedOnce, ReplayRun.step, hcall])
    rw [hcall] at hnext
    unfold ReplayRun.race at hnext
    split at hnext
    · cases hnext
    · exact absurd hnext (close_phase_ne _ _ (by simp) (by simp))
    · cases hnext
  | racing workflowId =>
    rw [hcall] at hphase
    have hnext := hcomplete (.runSettled none) (s.settleRun (.shutdownError "Worker was shutdown"))
      (by simp [coreStep, EvictedOnce, ReplayRun.step, hphase.2.2])
    simp only [ReplayRun.settleRun, hcall] at hnext
    exact absurd hnext (close_phase_ne _ _ (by simp) (by simp))
  | closing =>
    rw [hcall] at hphase
    have hnext := hcomplete (.runSettled none) (s.settleRun (.shutdownError "Worker was shutdown"))
      (by simp [coreStep, EvictedOnce, ReplayRun.step, hphase.1])
    simp only [ReplayRun.settleRun, hcall, ReplayRun.close] at hnext
    cases hnext
  | done outcome => exact ⟨outcome, rfl⟩

lemma settle_eq_outcome {error : Option ReplayThrown} (herror : error ≠ some .undefined) (err : ReplayThrown) :
    settle (error.getD .undefined) err = outcome error err := by
  cases error with
  | none => simp [settle, outcome]
  | some error =>
    have hne : error ≠ .undefined := fun heq => herror (congrArg some heq)
    simp [settle, outcome, hne]

/-- Without the error, the generator does not end as with it. -/
lemma settle_undefined_ne (err : ReplayThrown) : settle .undefined err ≠ outcome (some .undefined) err := by
  unfold settle outcome
  by_cases hshutdown : err.isShutdownError = true
  · simp [hshutdown]
  · simp only [hshutdown, ne_eq, not_true_eq_false, if_false, if_true, Bool.false_eq_true]
    intro heq
    injection heq with heq
    have hsize := congrArg sizeOf heq
    simp only [ReplayThrown.combinedWorkerRunError.sizeOf_spec] at hsize
    omega

/-- An interruption is not swallowed. -/
lemma settle_throws {innerError err : ReplayThrown} (h : innerError ≠ .undefined ∨ err = innerError) :
    ∃ error, settle innerError err = .threw error := by
  unfold settle
  by_cases hinner : innerError = .undefined
  · obtain rfl : err = innerError := h.resolve_left (not_not.mpr hinner)
    subst hinner
    exact ⟨.undefined, rfl⟩
  · by_cases hshutdown : err.isShutdownError = true
    · exact ⟨innerError, by rw [if_pos hshutdown, if_pos hinner]⟩
    · exact ⟨_, by rw [if_neg hshutdown, if_neg hinner]⟩

lemma Inv.correct (h : s.Inv source items) (hcomplete : s.Complete source) : s.Correct source items := by
  obtain ⟨outcome, hcall⟩ := h.done_of_complete hcomplete
  have hphase := h.phase
  unfold PhaseInv at hphase
  rw [hcall] at hphase
  obtain ⟨err, hrun, rfl, hleft⟩ := hphase
  refine ⟨fun i result hresult => ?_, fun hfalse => ?_, fun hfalse => ?_, fun htrue => ?_⟩
  · obtain ⟨item, eviction, hitem, hemitted, rfl⟩ := h.ordered i result hresult
    exact ⟨item, eviction, hitem, hemitted, rfl, rfl, isSome_evictionReasonToReplayError _⟩
  · rcases hleft with ⟨-, hlength, -⟩ | ⟨htrue, -⟩
    · exact ⟨hlength, fun hnone => hlength.trans (source.replayable_of_none hnone)⟩
    · rw [hfalse] at htrue
      cases htrue
  · rcases hleft with ⟨-, -, hinner, hdefined⟩ | ⟨htrue, -⟩
    · refine ⟨err, hrun, ?_⟩
      rw [hcall, hinner, settle_eq_outcome hdefined]
    · rw [hfalse] at htrue
      cases htrue
  · rcases hleft with ⟨hfalse, -⟩ | ⟨-, hinner⟩
    · rw [hfalse] at htrue
      cases htrue
    · rw [hrun, Option.some.injEq] at hinner
      obtain ⟨error, herror⟩ := settle_throws hinner
      exact ⟨error, by rw [hcall, herror]⟩

lemma Swallowed.not_correct (h : s.Swallowed source items) : ¬s.Correct source items := by
  intro hcorrect
  obtain ⟨err, hrun, hdone⟩ := hcorrect.rethrown h.interrupted
  rcases h.phase with ⟨hclosing, -⟩ | ⟨err', hrun', hcall⟩
  · rw [hclosing] at hdone
    cases hdone
  · rw [hrun, Option.some.injEq] at hrun'
    subst hrun'
    rw [hcall, h.thrown, ReplayPhase.done.injEq] at hdone
    exact settle_undefined_ne err hdone

/-- Once nothing is left to happen, the results are those of the histories, and what was thrown is
rethrown, if and only if neither the iterable nor the validation has thrown `undefined`. -/
theorem replayed_iff_defined (source : ReplaySource) (items : List HistoryAndWorkflowId)
    {inputs : List ReplayInput} {s : ReplayRun}
    (h : Transition.run (coreStep source) (initial items) inputs = some s) (hcomplete : s.Complete source) :
    s.Correct source items ↔ Transition.Meets (coreStep source) (Defined source) (initial items) inputs := by
  rcases Transition.meets_or_broken (I := Inv source items) (B := Swallowed source items)
    (fun _ _ _ hs hdefined hstep => hs.step hdefined hstep)
    (fun _ _ _ hs hdefined hstep => hs.swallowed hdefined hstep)
    (fun _ _ _ hs hstep => hs.step hstep) inv_initial h with ⟨hmeets, hinv⟩ | ⟨hnot, hswallowed⟩
  · exact iff_of_true (hinv.correct hcomplete) hmeets
  · exact iff_of_false hswallowed.not_correct hnot

lemma complete_of_done {outcome : ReplayOutcome} (h : s.phase = .done outcome) : s.Complete source := by
  intro input t hstep
  obtain ⟨-, hstep⟩ := Option.ite_none_right_eq_some.mp hstep
  cases input with
  | activation activation =>
    simp only [ReplayRun.step] at hstep
    split at hstep
    · cases hstep
      rfl
    · cases hstep
      simp only [ReplayRun.emit, h]
  | runSettled error =>
    simp only [ReplayRun.step] at hstep
    split at hstep
    · cases hstep
      simp only [ReplayRun.settleRun, h]
    · cases hstep
  | pull => simp [ReplayRun.step, h] at hstep
  | nextSettled => simp [ReplayRun.step, h] at hstep
  | pushSettled => simp [ReplayRun.step, h] at hstep
  | pushRejected message => simp [ReplayRun.step, h] at hstep

/-- An iterable that throws after its histories -/
def brokenIterable (error : ReplayThrown) : ReplaySource := ⟨fun events => .ok (some events), some error⟩

def replayedHistories : List HistoryAndWorkflowId :=
  [⟨"first", .object (some [.string "1"])⟩, ⟨"second", .object (some [.other])⟩]

/-- The second workflow is evicted before its push is settled. -/
def replayInputs : List ReplayInput :=
  [.pull, .nextSettled, .pushSettled, .activation ⟨"run-1", [none, some ⟨"", some .cacheFull⟩]⟩,
    .pull, .nextSettled, .activation ⟨"run-2", [some ⟨"changed", some .nondeterminism⟩]⟩, .pushSettled,
    .pull, .nextSettled, .runSettled none]

theorem replayed_iff_defined_broken :
    ∃ s, Transition.run (coreStep (brokenIterable (.js (.other "disk")))) (initial replayedHistories)
        replayInputs = some s ∧
      s.results.map (·.workflowId) = ["first", "second"] ∧
      s.Correct (brokenIterable (.js (.other "disk"))) replayedHistories := by
  have hrun : Transition.run (coreStep (brokenIterable (.js (.other "disk")))) (initial replayedHistories)
      replayInputs = some _ := rfl
  exact ⟨_, hrun, rfl, (replayed_iff_defined _ _ hrun (complete_of_done rfl)).mpr (by decide)⟩

/-- `undefined` is thrown after two histories: the generator returns. -/
theorem replayed_counterexample :
    ∃ s, Transition.run (coreStep (brokenIterable .undefined)) (initial replayedHistories) replayInputs = some s ∧
      s.Complete (brokenIterable .undefined) ∧ s.phase = .done .returned ∧
      ¬s.Correct (brokenIterable .undefined) replayedHistories := by
  refine ⟨_, rfl, complete_of_done rfl, rfl, fun h => ?_⟩
  obtain ⟨err, hrun, hdone⟩ := h.rethrown rfl
  cases hrun
  cases hdone

end ReplayRun

end TemporalSdk
