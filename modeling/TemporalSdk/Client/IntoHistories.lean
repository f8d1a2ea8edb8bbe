import TemporalSdk.Client.MapAsyncIterable
import TemporalSdk.Library.Transition

/-!
# Histories of listed workflows

`list().intoHistories()` maps the listed workflows to their histories. Each workflow that a
mapper takes from the listing is fetched, so that `pulled` counts the fetches that have begun.
-/

namespace TemporalSdk

/-- What the client uses of a `WorkflowExecutionInfo`. -/
structure ListedWorkflow where
  workflowId : String
  runId : String
deriving DecidableEq

/-- `HistoryAndWorkflowId`, with the fetched history -/
structure FetchedHistory (H : Type) where
  workflowId : String
  history : Option H
deriving DecidableEq

structure MapAsyncOptions where
  concurrency : ℕ
  bufferLimit : Option ℕ

structure IntoHistoriesOptions where
  concurrency : Option ℕ
  bufferLimit : Option ℕ

variable {H : Type}

/-- `fetchHistory` of a handle, where an error gives `undefined` -/
def ListedWorkflow.withHistory (fetchHistory : String → String → Option H) (workflow : ListedWorkflow) :
    FetchedHistory H :=
  ⟨workflow.workflowId, fetchHistory workflow.workflowId workflow.runId⟩

namespace IntoHistoriesOptions

variable (options : IntoHistoriesOptions)

/-- The options that `mapAsyncIterable` is called with. -/
def mapAsyncOptions : MapAsyncOptions := ⟨options.concurrency.getD 5, none⟩

def intoHistories (list : List ListedWorkflow) :
    MapAsyncIterable ListedWorkflow (FetchedHistory H) options.mapAsyncOptions.concurrency :=
  .initial list options.mapAsyncOptions.bufferLimit

/-- In every run, no more fetches are ahead of the consumer than the limit allows. -/
def HonoursLimit (fetchHistory : String → String → Option H) (list : List ListedWorkflow) : Prop :=
  ∀ limit, options.bufferLimit = some limit → ∀ inputs s,
    Transition.run (MapAsyncIterable.step (ListedWorkflow.withHistory fetchHistory))
      (options.intoHistories list) inputs = some s →
    s.pulled ≤ s.received.length + limit + options.mapAsyncOptions.concurrency

/-- All that is listed is within the limit. -/
def ListWithinLimit (list : List ListedWorkflow) : Prop :=
  ∀ limit, options.bufferLimit = some limit → list.length ≤ limit + options.mapAsyncOptions.concurrency

end IntoHistoriesOptions

/-! ### Fetching without the consumer -/

namespace MapAsyncIterable

variable {α β : Type} {concurrency : ℕ} {mapFn : α → β} {s : MapAsyncIterable α β concurrency}
  {mapper : Fin concurrency}

/-- Without a semaphore, a mapper that is about to take an item can take one. -/
structure FreeToPull (mapper : Fin concurrency) (s : MapAsyncIterable α β concurrency) : Prop where
  started : s.generator ≠ .start
  acquiring : s.mappers mapper = .acquiring
  unlimited : s.bufferLimitSemaphore = none

lemma generator_emitResult_ne_start (h : s.generator ≠ .start) (res : β) :
    (s.emitResult res).generator ≠ .start := by
  unfold emitResult
  split
  · simp
  · exact h

lemma emitResult_eq (res : β) : (s.emitResult res).received = s.received ∧ (s.emitResult res).pulled = s.pulled ∧
    (s.emitResult res).remaining = s.remaining ∧
    (s.emitResult res).bufferLimitSemaphore = s.bufferLimitSemaphore := by
  unfold emitResult
  split <;> exact ⟨rfl, rfl, rfl, rfl⟩

/-- A mapper takes the next item and maps it, and is free to take another. -/
lemma FreeToPull.exists_run_pull (h : FreeToPull mapper s) (mapFn : α → β) {item : α} {rest : List α}
    (hremaining : s.remaining = item :: rest) :
    ∃ s', Transition.run (step mapFn) s [.acquire mapper, .next mapper, .source mapper, .mapped mapper] = some s' ∧
      FreeToPull mapper s' ∧ s'.received = s.received ∧ s'.pulled = s.pulled + 1 ∧ s'.remaining = rest := by
  obtain ⟨hstarted, hacquiring, hunlimited⟩ := h
  have hacquire : s.step mapFn (.acquire mapper) = some (s.setMapper mapper .acquired) := by
    have hwaits : s.waitsOnSemaphore mapper = false := by simp [waitsOnSemaphore, hunlimited]
    have hacquired : s.acquireSemaphore mapper = s.setMapper mapper .acquired := by
      simp [acquireSemaphore, hunlimited]
    cases hgenerator : s.generator with
    | start => exact absurd hgenerator hstarted
    | _ => simp [step, hgenerator, hacquiring, hwaits, hacquired]
  have hsource : ((s.setMapper mapper .acquired).setMapper mapper .pulling).sourceNext mapper =
      { s with remaining := rest, pulled := s.pulled + 1 }.setMapper mapper (.mapping item) := by
    simp [sourceNext, setMapper, hremaining]
  have heq := emitResult_eq (s := { s with remaining := rest, pulled := s.pulled + 1 }.setMapper mapper (.mapping item))
    (mapFn item)
  refine ⟨((({ s with remaining := rest, pulled := s.pulled + 1 }.setMapper mapper (.mapping item)).emitResult
    (mapFn item)).setMapper mapper .acquiring), ?_, ⟨?_, setMapper_self _, heq.2.2.2.trans hunlimited⟩,
    heq.1, heq.2.1, heq.2.2.1⟩
  · rw [Transition.run_cons, hacquire, Option.bind_some, Transition.run_cons]
    simp only [step, setMapper_self, Option.bind_some, Transition.run_cons, hsource, Transition.run_nil]
  · exact generator_emitResult_ne_start (s := { s with remaining := rest, pulled := s.pulled + 1 }.setMapper mapper
      (.mapping item)) hstarted (mapFn item)

/-- A single mapper takes everything that the source has, whether or not anyone asks for the results. -/
lemma FreeToPull.exists_run_pull_all (h : FreeToPull mapper s) (mapFn : α → β) :
    ∃ inputs s', Transition.run (step mapFn) s inputs = some s' ∧ s'.received = s.received ∧
      s'.pulled = s.pulled + s.remaining.length := by
  generalize hremaining : s.remaining = remaining
  induction remaining generalizing s with
  | nil => exact ⟨[], s, rfl, rfl, rfl⟩
  | cons item rest ih =>
    obtain ⟨s₁, hrun₁, hfree, hreceived₁, hpulled₁, hremaining₁⟩ := h.exists_run_pull mapFn hremaining
    obtain ⟨inputs, s₂, hrun₂, hreceived₂, hpulled₂⟩ := ih hfree hremaining₁
    refine ⟨[.acquire mapper, .next mapper, .source mapper, .mapped mapper] ++ inputs, s₂, ?_,
      hreceived₂.trans hreceived₁, ?_⟩
    · rw [Transition.run, List.foldlM_append]
      change Transition.run (step mapFn) s _ >>= _ = _
      rw [hrun₁]
      exact hrun₂
    · rw [hpulled₂, hpulled₁, List.length_cons]
      omega

/-- The consumer's first call starts the mappers. -/
lemma freeToPull_awaitResult (source : List α) (mapper : Fin concurrency) :
    FreeToPull mapper (initial source none : MapAsyncIterable α β concurrency).awaitResult where
  started := by simp [awaitResult, initial, EventIterator.next, EventIterator.init]
  acquiring := rfl
  unlimited := rfl

end MapAsyncIterable

/-! ### The limit -/

namespace IntoHistoriesOptions

/-- The limit is honoured only where it is not needed: it is not passed on, and nothing else stops the
mappers before the end of the listing. -/
theorem honoursLimit_iff (options : IntoHistoriesOptions) (fetchHistory : String → String → Option H)
    (list : List ListedWorkflow) (hconcurrency : 1 < options.mapAsyncOptions.concurrency) :
    options.HonoursLimit fetchHistory list ↔ options.ListWithinLimit list := by
  constructor
  · intro h limit hlimit
    let mapper : Fin options.mapAsyncOptions.concurrency := ⟨0, by omega⟩
    obtain ⟨inputs, s, hrun, hreceived, hpulled⟩ :=
      (MapAsyncIterable.freeToPull_awaitResult (β := FetchedHistory H) list mapper).exists_run_pull_all
        (ListedWorkflow.withHistory fetchHistory)
    have hbound := h limit hlimit (.pull :: inputs) s hrun
    rw [hreceived, hpulled] at hbound
    simpa [MapAsyncIterable.awaitResult, MapAsyncIterable.initial, EventIterator.next,
      EventIterator.init] using hbound
  · intro hlength limit hlimit inputs s hrun
    have hinv : MapAsyncIterable.Inv (ListedWorkflow.withHistory fetchHistory) list none s :=
      Transition.invariant (fun _ _ _ hinv hstep => hinv.step hstep)
        (MapAsyncIterable.inv_initial (ListedWorkflow.withHistory fetchHistory) list none) hrun
    have hpulled := hinv.pulled
    have hle := hlength limit hlimit
    omega

/-- Two fetches at a time, and no buffer. -/
def unbuffered : IntoHistoriesOptions := ⟨some 2, some 0⟩

/-- The two that are fetched at a time -/
def twoWorkflows : List ListedWorkflow := [⟨"a", "1"⟩, ⟨"b", "2"⟩]

def fiveWorkflows : List ListedWorkflow := [⟨"a", "1"⟩, ⟨"b", "2"⟩, ⟨"c", "3"⟩, ⟨"d", "4"⟩, ⟨"e", "5"⟩]

def firstMapper : Fin 2 := ⟨0, by decide⟩

def secondMapper : Fin 2 := ⟨1, by decide⟩

/-- The consumer receives one history, and asks for no more. -/
def oneReceived : List (MapInput 2) :=
  [.pull, .acquire firstMapper, .next firstMapper, .source firstMapper, .mapped firstMapper, .resume,
    .acquire firstMapper, .next firstMapper, .source firstMapper, .mapped firstMapper,
    .acquire secondMapper, .next secondMapper, .source secondMapper,
    .acquire firstMapper, .next firstMapper, .source firstMapper, .mapped secondMapper,
    .acquire secondMapper, .next secondMapper, .source secondMapper]

/-- Five histories have been fetched or are being fetched. -/
theorem not_honoursLimit_unbuffered : ¬unbuffered.HonoursLimit (fun _ _ => some ()) fiveWorkflows := by
  intro h
  have hbound := h 0 rfl oneReceived _ rfl
  exact absurd hbound (by decide)

/-- The last length at which the limit is honoured is its sum with the number of fetches. -/
theorem honoursLimit_iff_twoWorkflows :
    unbuffered.HonoursLimit (fun _ _ => some ()) twoWorkflows ∧
      ¬unbuffered.HonoursLimit (fun _ _ => some ()) (⟨"c", "3"⟩ :: twoWorkflows) := by
  have hconcurrency : 1 < unbuffered.mapAsyncOptions.concurrency := by decide
  constructor
  · refine (honoursLimit_iff unbuffered (fun _ _ => some ()) twoWorkflows hconcurrency).mpr fun limit hlimit => ?_
    obtain rfl := Option.some.inj hlimit
    decide
  · intro hhonours
    have hlist := (honoursLimit_iff unbuffered (fun _ _ => some ()) (⟨"c", "3"⟩ :: twoWorkflows) hconcurrency).mp
      hhonours
    exact absurd (hlist 0 rfl) (by decide)

end IntoHistoriesOptions

end TemporalSdk
