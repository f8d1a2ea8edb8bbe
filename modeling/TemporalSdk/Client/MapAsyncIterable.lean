import Mathlib.Algebra.BigOperators.Group.Multiset.Basic
import Mathlib.Algebra.Order.BigOperators.Group.Finset
import Mathlib.Data.Fintype.Card
import Mathlib.Tactic.Abel
import TemporalSdk.Library.EventIterator
import TemporalSdk.Library.Keyed

/-!
# `mapAsyncIterable`

With `concurrency` mappers that share the iterator of the source, the events of their results, and, when
there is a buffer limit, a semaphore. The limit is a whole number: fractions, which the code takes too, are
left out. The source and `mapFn` do not fail, so that `emitterError` stays pending. Everything that is
awaited may take its time, in any order.
-/

namespace TemporalSdk

/-- Where a mapper is: it acquires the semaphore, has acquired it, awaits the source's next item,
awaits `mapFn`, or has returned. -/
inductive MapperState (α : Type)
  | acquiring
  | acquired
  | pulling
  | mapping (item : α)
  | returned
deriving DecidableEq

def MapperState.isReturned {α : Type} : MapperState α → Bool
  | returned => true
  | _ => false

/-- Where the generator is: not started, waiting for a result, about to go on with one, suspended by
`yield`, or at its end. -/
inductive GeneratorState (β : Type)
  | start
  | waiting
  | resumed (res : β)
  | suspended
  | returned
deriving DecidableEq

/-- `remaining` are the items that the source has not given, of which it has given `pulled`, and
`received` what the generator has yielded. -/
structure MapAsyncIterable (α β : Type) (concurrency : ℕ) where
  remaining : List α
  pulled : ℕ
  mappers : Fin concurrency → MapperState α
  bufferLimitSemaphore : Option (EventSemaphore (Fin concurrency))
  emitterEventsIterable : EventIterator β Unit
  aborted : Bool
  generator : GeneratorState β
  received : List β

/-- The consumer's call of `next`; the generator going on with a result; a mapper looking at the
semaphore, calling the source, getting its answer, or getting the answer of `mapFn`; and the reaction of
`Promise.all(mappers)`. -/
inductive MapInput (concurrency : ℕ)
  | pull
  | resume
  | acquire (mapper : Fin concurrency)
  | next (mapper : Fin concurrency)
  | source (mapper : Fin concurrency)
  | mapped (mapper : Fin concurrency)
  | abort

namespace MapAsyncIterable

variable {α β : Type} {concurrency : ℕ}

def initial (source : List α) (bufferLimit : Option ℕ) : MapAsyncIterable α β concurrency where
  remaining := source
  pulled := 0
  mappers := fun _ => .acquiring
  bufferLimitSemaphore := bufferLimit.map fun limit : ℕ => .init ((limit + concurrency : ℕ) : ℤ)
  emitterEventsIterable := .init
  aborted := false
  generator := .start
  received := []

variable (s : MapAsyncIterable α β concurrency)

def setMapper (mapper : Fin concurrency) (state : MapperState α) : MapAsyncIterable α β concurrency :=
  { s with mappers := Function.update s.mappers mapper state }

/-- The generator awaits the next result. An `AbortError` makes it return, as the end does. -/
def awaitResult : MapAsyncIterable α β concurrency :=
  match s.emitterEventsIterable.next () with
  | (.value res, it) => { s with emitterEventsIterable := it, generator := .resumed res }
  | (.aborted, it) | (.done, it) => { s with emitterEventsIterable := it, generator := .returned }
  | (.pending, it) => { s with emitterEventsIterable := it, generator := .waiting }

/-- `bufferLimitSemaphore?.release()` and `yield` -/
def yieldResult (res : β) : MapAsyncIterable α β concurrency :=
  { s with
    bufferLimitSemaphore := s.bufferLimitSemaphore.map EventSemaphore.release
    generator := .suspended
    received := s.received ++ [res] }

/-- `bufferLimitSemaphore?.acquire()`, from one look at the value to the next -/
def acquireSemaphore (mapper : Fin concurrency) : MapAsyncIterable α β concurrency :=
  match s.bufferLimitSemaphore with
  | none => s.setMapper mapper .acquired
  | some semaphore =>
    match semaphore.acquire mapper with
    | (true, semaphore) => { s with bufferLimitSemaphore := some semaphore }.setMapper mapper .acquired
    | (false, semaphore) => { s with bufferLimitSemaphore := some semaphore }

/-- The source answers a mapper's call of `next`. -/
def sourceNext (mapper : Fin concurrency) : MapAsyncIterable α β concurrency :=
  match s.remaining with
  | [] => s.setMapper mapper .returned
  | item :: remaining =>
    { s with remaining, pulled := s.pulled + 1 }.setMapper mapper (.mapping item)

/-- `emitter.emit('result', res)` -/
def emitResult (res : β) : MapAsyncIterable α β concurrency :=
  match s.emitterEventsIterable.emit res with
  | (some (), it) => { s with emitterEventsIterable := it, generator := .resumed res }
  | (none, it) => { s with emitterEventsIterable := it }

/-- `controller.abort()` -/
def abortAll : MapAsyncIterable α β concurrency :=
  let s := { s with
    aborted := true
    bufferLimitSemaphore := s.bufferLimitSemaphore.map EventSemaphore.abort }
  match s.emitterEventsIterable.abort with
  | (some (), it) => { s with emitterEventsIterable := it, generator := .returned }
  | (none, it) => { s with emitterEventsIterable := it }

/-- The mapper waits for a release of the semaphore. -/
def waitsOnSemaphore (mapper : Fin concurrency) : Bool :=
  s.bufferLimitSemaphore.any fun semaphore => mapper ∈ semaphore.waiting

/-- The mappers are started by the consumer's first call. -/
def step (mapFn : α → β) (s : MapAsyncIterable α β concurrency) :
    MapInput concurrency → Option (MapAsyncIterable α β concurrency)
  | .pull =>
    match s.generator with
    | .start | .suspended => some s.awaitResult
    | _ => none
  | .resume =>
    match s.generator with
    | .resumed res => some (s.yieldResult res)
    | _ => none
  | .acquire mapper =>
    match s.generator, s.mappers mapper with
    | .start, _ => none
    | _, .acquiring => if s.waitsOnSemaphore mapper then none else some (s.acquireSemaphore mapper)
    | _, _ => none
  | .next mapper =>
    match s.mappers mapper with
    | .acquired => some (s.setMapper mapper .pulling)
    | _ => none
  | .source mapper =>
    match s.mappers mapper with
    | .pulling => some (s.sourceNext mapper)
    | _ => none
  | .mapped mapper =>
    match s.mappers mapper with
    | .mapping item => some ((s.emitResult (mapFn item)).setMapper mapper .acquiring)
    | _ => none
  | .abort =>
    if (∀ mapper, (s.mappers mapper).isReturned = true) ∧ s.aborted = false then some s.abortAll else none

/-- Nothing is lost or duplicated, no more than the limit allows is under way, and while the
generator waits, a mapper that has not returned does not wait on the semaphore, and something can
happen. -/
structure Maps (mapFn : α → β) (source : List α) (bufferLimit : Option ℕ)
    (s : MapAsyncIterable α β concurrency) : Prop where
  complete : s.generator = .returned → s.received.Perm (source.map mapFn)
  partially : s.received.Subperm (source.map mapFn)
  limited : ∀ limit, bufferLimit = some limit → s.pulled ≤ s.received.length + limit + concurrency
  nonneg : ∀ semaphore, s.bufferLimitSemaphore = some semaphore → 0 ≤ semaphore.value
  noDeadlock : s.generator = .waiting → (∃ mapper, s.mappers mapper ≠ .returned) →
    ∃ mapper, s.mappers mapper ≠ .returned ∧ s.waitsOnSemaphore mapper = false
  progress : s.generator = .waiting → ∃ input, input ≠ .pull ∧ (s.step mapFn input).isSome = true

end MapAsyncIterable

/-! ### Permits and items -/

namespace MapperState

variable {α β : Type}

/-- A mapper that has acquired the semaphore has a permit until its result is emitted, and keeps it when
it returns. -/
def permits : MapperState α → ℕ
  | acquiring => 0
  | acquired | pulling | mapping _ | returned => 1

/-- The result that the mapper is going to emit. -/
def results (mapFn : α → β) : MapperState α → Multiset β
  | mapping item => {mapFn item}
  | acquiring | acquired | pulling | returned => 0

lemma isReturned_iff {state : MapperState α} : state.isReturned = true ↔ state = .returned := by
  cases state <;> simp [isReturned]

lemma permits_le_one (state : MapperState α) : state.permits ≤ 1 := by
  cases state <;> simp [permits]

lemma card_results_le (mapFn : α → β) (state : MapperState α) : (state.results mapFn).card ≤ state.permits := by
  cases state <;> simp [permits, results]

end MapperState

def GeneratorState.results {β : Type} : GeneratorState β → List β
  | resumed res => [res]
  | start | waiting | suspended | returned => []

namespace MapAsyncIterable

variable {α β : Type} {concurrency : ℕ} {mapFn : α → β} {source : List α} {bufferLimit : Option ℕ}
  {s s' : MapAsyncIterable α β concurrency} {mapper : Fin concurrency}

@[simp] lemma setMapper_self (state : MapperState α) : (s.setMapper mapper state).mappers mapper = state :=
  Function.update_self ..

lemma setMapper_of_ne {mapper' : Fin concurrency} (h : mapper' ≠ mapper) (state : MapperState α) :
    (s.setMapper mapper state).mappers mapper' = s.mappers mapper' :=
  Function.update_of_ne h _ _

/-- The results that have been emitted and not been yielded. -/
def emitted (s : MapAsyncIterable α β concurrency) : List β :=
  s.generator.results ++ s.emitterEventsIterable.unconsumedEvents

/-- A permit is free, or with a mapper, or with a result on its way; an item is with the source or with a
mapper, or its result is on its way or has been received. The mappers that wait are
those that have not acquired, and the generator returns after the abort only. -/
structure Inv (mapFn : α → β) (source : List α) (bufferLimit : Option ℕ)
    (s : MapAsyncIterable α β concurrency) : Prop where
  events : s.emitterEventsIterable.Wf
  semaphore : ∀ semaphore, s.bufferLimitSemaphore = some semaphore → semaphore.Wf ∧
    ∀ mapper ∈ semaphore.woken ++ semaphore.waiting, s.mappers mapper = .acquiring
  permits : ∀ limit, bufferLimit = some limit → ∃ semaphore, s.bufferLimitSemaphore = some semaphore ∧
    semaphore.value + (∑ mapper, (s.mappers mapper).permits : ℕ) + s.emitted.length = limit + concurrency
  unlimited : bufferLimit = none → s.bufferLimitSemaphore = none
  items : (s.received : Multiset β) + s.emitted + ∑ mapper, (s.mappers mapper).results mapFn +
    (s.remaining.map mapFn : List β) = (source.map mapFn : List β)
  pulled : s.pulled + s.remaining.length = source.length
  waiting : s.generator = .waiting → s.emitterEventsIterable.unconsumedPromises = [()]
  idle : s.generator ≠ .waiting → s.emitterEventsIterable.unconsumedPromises = []
  exhausted : ∀ mapper, s.mappers mapper = .returned → s.remaining = []
  aborted : s.aborted = true → ∀ mapper, s.mappers mapper = .returned
  finished : s.emitterEventsIterable.finished = s.aborted
  returned : s.generator = .returned → s.aborted = true ∧ s.emitterEventsIterable.unconsumedEvents = []

lemma inv_initial (mapFn : α → β) (source : List α) (bufferLimit : Option ℕ) :
    Inv mapFn source bufferLimit (initial source bufferLimit : MapAsyncIterable α β concurrency) where
  events := EventIterator.wf_init
  semaphore semaphore h := by
    obtain ⟨limit, -, rfl⟩ := Option.map_eq_some_iff.mp h
    exact ⟨EventSemaphore.wf_init (Int.natCast_nonneg _), fun mapper hmapper => by cases hmapper⟩
  permits limit h := by
    subst h
    exact ⟨_, rfl, by simp [initial, emitted, GeneratorState.results, EventIterator.init, EventSemaphore.init,
      MapperState.permits]⟩
  unlimited h := by rw [h]; rfl
  items := by simp [initial, emitted, GeneratorState.results, EventIterator.init, MapperState.results]
  pulled := Nat.zero_add _
  waiting h := by cases h
  idle _ := rfl
  exhausted mapper h := by cases h
  aborted h := by cases h
  finished := rfl
  returned h := by cases h

/-- Before the abort nothing has ended. -/
lemma Inv.not_aborted (h : Inv mapFn source bufferLimit s) (hmapper : s.mappers mapper ≠ .returned) :
    s.aborted = false := by
  cases haborted : s.aborted with
  | false => rfl
  | true => exact absurd (h.aborted haborted mapper) hmapper

/-- Nothing is on its way to a generator that waits. -/
lemma Inv.emitted_eq_nil (h : Inv mapFn source bufferLimit s) (hgenerator : s.generator = .waiting) :
    s.emitted = [] := by
  have hevents := (h.events.1 (by rw [h.waiting hgenerator]; exact List.cons_ne_nil _ _)).1
  rw [emitted, hgenerator, hevents]
  rfl

/-- The generator is the only one who waits for a result. -/
lemma Inv.generator_waiting (h : Inv mapFn source bufferLimit s) {callers : List Unit}
    (hcallers : s.emitterEventsIterable.unconsumedPromises = () :: callers) :
    s.generator = .waiting ∧ callers = [] := by
  have hwaiting : s.generator = .waiting := by
    by_contra hidle
    rw [h.idle hidle] at hcallers
    cases hcallers
  refine ⟨hwaiting, ?_⟩
  rw [h.waiting hwaiting] at hcallers
  cases hcallers
  rfl

lemma Inv.exhausted_setMapper (h : Inv mapFn source bufferLimit s) {state : MapperState α}
    (hstate : state = .returned → s.remaining = []) (mapper' : Fin concurrency)
    (hmapper' : (s.setMapper mapper state).mappers mapper' = .returned) : s.remaining = [] := by
  by_cases hsame : mapper' = mapper
  · subst hsame
    rw [setMapper_self] at hmapper'
    exact hstate hmapper'
  · rw [setMapper_of_ne hsame] at hmapper'
    exact h.exhausted mapper' hmapper'

/-- Who waits on the semaphore is not disturbed by a mapper that goes on. -/
lemma Inv.semaphore_setMapper (h : Inv mapFn source bufferLimit s) {state : MapperState α}
    (hstate : s.mappers mapper ≠ .acquiring ∨ state = .acquiring) (semaphore : EventSemaphore (Fin concurrency))
    (hsemaphore : s.bufferLimitSemaphore = some semaphore) :
    semaphore.Wf ∧ ∀ mapper' ∈ semaphore.woken ++ semaphore.waiting,
      (s.setMapper mapper state).mappers mapper' = .acquiring := by
  obtain ⟨hwf, hmappers⟩ := h.semaphore semaphore hsemaphore
  refine ⟨hwf, fun mapper' hmapper' => ?_⟩
  have hacquiring := hmappers mapper' hmapper'
  by_cases hsame : mapper' = mapper
  · subst hsame
    rw [setMapper_self]
    exact hstate.resolve_left fun hne => hne hacquiring
  · rw [setMapper_of_ne hsame]
    exact hacquiring

/-- A mapper goes on and keeps its permit and its item. -/
lemma Inv.setMapper (h : Inv mapFn source bufferLimit s) {state : MapperState α}
    (hpermits : state.permits = (s.mappers mapper).permits)
    (hresults : state.results mapFn = (s.mappers mapper).results mapFn)
    (hacquiring : s.mappers mapper ≠ .acquiring) (hreturned : s.mappers mapper ≠ .returned)
    (hexhausted : state = .returned → s.remaining = []) :
    Inv mapFn source bufferLimit (s.setMapper mapper state) :=
  { h with
    semaphore := h.semaphore_setMapper (Or.inl hacquiring)
    permits := fun limit hlimit => by
      obtain ⟨semaphore, hsemaphore, hsum⟩ := h.permits limit hlimit
      refine ⟨semaphore, hsemaphore, ?_⟩
      have hupdate := Keyed.sum_update MapperState.permits s.mappers mapper state
      rw [hpermits, Nat.add_right_cancel_iff] at hupdate
      rw [← hsum]
      exact congrArg (fun permits : ℕ => semaphore.value + (permits : ℤ) + s.emitted.length) hupdate
    items := by
      have hupdate := Keyed.sum_update (MapperState.results mapFn) s.mappers mapper state
      rw [hresults, add_right_cancel_iff] at hupdate
      rw [← h.items]
      exact congrArg (fun results => (s.received : Multiset β) + s.emitted + results +
        (s.remaining.map mapFn : List β)) hupdate
    exhausted := h.exhausted_setMapper hexhausted
    aborted := fun haborted => absurd (h.aborted haborted mapper) hreturned }

/-- The source answers with its next item, or that there is none. -/
lemma Inv.sourceNext (h : Inv mapFn source bufferLimit s) (hpulling : s.mappers mapper = .pulling) :
    Inv mapFn source bufferLimit (s.sourceNext mapper) := by
  have hreturned : s.mappers mapper ≠ .returned := by simp [hpulling]
  have hacquiring : s.mappers mapper ≠ .acquiring := by simp [hpulling]
  unfold MapAsyncIterable.sourceNext
  cases hremaining : s.remaining with
  | nil =>
    exact h.setMapper (by rw [hpulling]; rfl) (by rw [hpulling]; rfl) hacquiring hreturned
      fun _ => hremaining
  | cons item remaining =>
    have hresults := Keyed.sum_update (MapperState.results mapFn) s.mappers mapper (.mapping item)
    rw [hpulling, MapperState.results, MapperState.results, add_zero] at hresults
    have hpermits := Keyed.sum_update MapperState.permits s.mappers mapper (.mapping item)
    rw [hpulling, MapperState.permits, MapperState.permits, Nat.add_right_cancel_iff] at hpermits
    -- the item leaves the source: no mapper has seen the end of it
    have hopen (mapper') : (s.setMapper mapper (.mapping item)).mappers mapper' ≠ .returned := by
      intro hmapper'
      have hempty := h.exhausted_setMapper (fun hstate => by cases hstate) mapper' hmapper'
      rw [hremaining] at hempty
      cases hempty
    exact { h with
      semaphore := h.semaphore_setMapper (Or.inl hacquiring)
      permits := fun limit hlimit => by
        obtain ⟨semaphore, hsemaphore, hsum⟩ := h.permits limit hlimit
        refine ⟨semaphore, hsemaphore, ?_⟩
        rw [← hsum]
        exact congrArg (fun permits : ℕ => semaphore.value + (permits : ℤ) + s.emitted.length) hpermits
      items := by
        have hitems := h.items
        rw [hremaining, List.map_cons, ← Multiset.cons_coe, ← Multiset.singleton_add] at hitems
        rw [← hitems]
        show (s.received : Multiset β) + s.emitted +
          ∑ x, MapperState.results mapFn (Function.update s.mappers mapper (.mapping item) x) +
            (remaining.map mapFn : List β) = _
        rw [hresults]
        abel
      pulled := by
        have hpulled := h.pulled
        rw [hremaining, List.length_cons] at hpulled
        show s.pulled + 1 + remaining.length = source.length
        omega
      exhausted := fun mapper' hmapper' => absurd hmapper' (hopen mapper')
      aborted := fun haborted => absurd (h.aborted haborted mapper) hreturned }

/-- Who waits on the semaphore, and who has been woken, may change while the permits stay. -/
lemma Inv.setSemaphore (h : Inv mapFn source bufferLimit s)
    {semaphore semaphore' : EventSemaphore (Fin concurrency)}
    (hsemaphore : s.bufferLimitSemaphore = some semaphore) (hwf : semaphore'.Wf)
    (hvalue : semaphore'.value = semaphore.value)
    (hmappers : ∀ mapper ∈ semaphore'.woken ++ semaphore'.waiting, s.mappers mapper = .acquiring) :
    Inv mapFn source bufferLimit { s with bufferLimitSemaphore := some semaphore' } :=
  { h with
    semaphore := fun _ hsome => by
      cases hsome
      exact ⟨hwf, hmappers⟩
    permits := fun limit hlimit => by
      obtain ⟨_, hsome, hsum⟩ := h.permits limit hlimit
      cases hsemaphore.symm.trans hsome
      refine ⟨semaphore', rfl, ?_⟩
      rw [← hvalue] at hsum
      exact hsum
    unlimited := fun hnone => absurd (hsemaphore.symm.trans (h.unlimited hnone)) (Option.some_ne_none _) }

/-- A mapper looks at the semaphore. -/
lemma Inv.acquireSemaphore (h : Inv mapFn source bufferLimit s) (hacquiring : s.mappers mapper = .acquiring)
    (hwaits : s.waitsOnSemaphore mapper = false) :
    Inv mapFn source bufferLimit (s.acquireSemaphore mapper) := by
  have hreturned : s.mappers mapper ≠ .returned := by simp [hacquiring]
  have hresults : ∑ x, MapperState.results mapFn ((s.setMapper mapper .acquired).mappers x) =
      ∑ x, MapperState.results mapFn (s.mappers x) := by
    have hupdate := Keyed.sum_update (MapperState.results mapFn) s.mappers mapper .acquired
    rw [hacquiring, MapperState.results, MapperState.results, add_right_cancel_iff] at hupdate
    exact hupdate
  have hitems : (s.received : Multiset β) + s.emitted +
      ∑ x, MapperState.results mapFn ((s.setMapper mapper .acquired).mappers x) +
        (s.remaining.map mapFn : List β) = (source.map mapFn : List β) := by
    rw [hresults]
    exact h.items
  have hexhausted : ∀ mapper', (s.setMapper mapper .acquired).mappers mapper' = .returned → s.remaining = [] :=
    h.exhausted_setMapper fun hstate => by cases hstate
  unfold MapAsyncIterable.acquireSemaphore
  cases hsemaphore : s.bufferLimitSemaphore with
  | none =>
    exact { h with
      semaphore := fun semaphore hsome => absurd (hsemaphore.symm.trans hsome) (Option.some_ne_none _).symm
      permits := fun limit hlimit => by
        obtain ⟨semaphore, hsome, -⟩ := h.permits limit hlimit
        exact absurd (hsemaphore.symm.trans hsome) (Option.some_ne_none _).symm
      items := hitems
      exhausted := hexhausted
      aborted := fun haborted => absurd (h.aborted haborted mapper) hreturned }
  | some semaphore =>
    obtain ⟨hwf, hmappers⟩ := h.semaphore semaphore hsemaphore
    have hnotWaiting : mapper ∉ semaphore.waiting := by
      simpa [waitsOnSemaphore, hsemaphore] using hwaits
    have hwf' := hwf.acquire hnotWaiting
    dsimp only
    rcases EventSemaphore.acquire_cases hwf mapper with
      ⟨hpos, hacquire⟩ | ⟨hzero, hwaiting, it, hit, hpromises, hacquire⟩ | ⟨hzero, it, hit, hpromises, hacquire⟩
    · rw [hacquire] at hwf' ⊢
      exact { h with
        semaphore := fun _ hsome => by
          cases hsome
          refine ⟨hwf', fun mapper' hmapper' => ?_⟩
          have hne : mapper' ≠ mapper := by
            rintro rfl
            rcases List.mem_append.mp hmapper' with hwoken | hwaiting
            · exact (List.nodup_append.mp hwf.callers).1.not_mem_erase hwoken
            · exact hnotWaiting hwaiting
          rw [setMapper_of_ne hne]
          refine hmappers mapper' ?_
          exact (List.Sublist.append_right List.erase_sublist _).subset hmapper'
        permits := fun limit hlimit => by
          obtain ⟨_, hsome, hsum⟩ := h.permits limit hlimit
          cases hsemaphore.symm.trans hsome
          refine ⟨_, rfl, ?_⟩
          have hupdate := Keyed.sum_update MapperState.permits s.mappers mapper .acquired
          rw [hacquiring, MapperState.permits, MapperState.permits, Nat.add_zero] at hupdate
          rw [← hsum]
          show semaphore.value - 1 +
            ((∑ x, (Function.update s.mappers mapper .acquired x).permits : ℕ) : ℤ) + s.emitted.length = _
          rw [hupdate]
          push_cast
          ring
        unlimited := fun hnone => absurd (hsemaphore.symm.trans (h.unlimited hnone)) (Option.some_ne_none _)
        items := hitems
        exhausted := hexhausted
        aborted := fun haborted => absurd (h.aborted haborted mapper) hreturned }
    · rw [hacquire] at hwf' ⊢
      refine h.setSemaphore hsemaphore hwf' rfl fun mapper' hmapper' => ?_
      rcases List.mem_append.mp hmapper' with hwoken | hwaiting'
      · rcases List.mem_cons.mp hwoken with rfl | hwoken
        · exact hacquiring
        · exact hmappers mapper' (List.mem_append_left _ (List.mem_of_mem_erase hwoken))
      · have hempty : mapper' ∈ it.unconsumedPromises := hwaiting'
        rw [hpromises] at hempty
        cases hempty
    · rw [hacquire] at hwf' ⊢
      refine h.setSemaphore hsemaphore hwf' rfl fun mapper' hmapper' => ?_
      rcases List.mem_append.mp hmapper' with hwoken | hwaiting'
      · exact hmappers mapper' (List.mem_append_left _ (List.mem_of_mem_erase hwoken))
      · have hmem : mapper' ∈ it.unconsumedPromises := hwaiting'
        rw [hpromises] at hmem
        rcases List.mem_append.mp hmem with hold | hlast
        · exact hmappers mapper' (List.mem_append_right _ hold)
        · rw [List.mem_singleton] at hlast
          subst hlast
          exact hacquiring

/-- The generator releases the semaphore and yields. -/
lemma Inv.yieldResult (h : Inv mapFn source bufferLimit s) {res : β} (hres : s.generator = .resumed res) :
    Inv mapFn source bufferLimit (s.yieldResult res) := by
  have hemitted : s.emitted = res :: (s.yieldResult res).emitted := by
    simp [emitted, MapAsyncIterable.yieldResult, hres, GeneratorState.results]
  exact { h with
    semaphore := fun semaphore hsemaphore => by
      obtain ⟨semaphore', hsome, rfl⟩ := Option.map_eq_some_iff.mp hsemaphore
      obtain ⟨hwf, hmappers⟩ := h.semaphore semaphore' hsome
      refine ⟨hwf.release, fun mapper hmapper => hmappers mapper ?_⟩
      obtain ⟨it, -, ⟨caller, callers, hwaiting, hit, hrelease⟩ | ⟨hwaiting, hit, hrelease⟩⟩ :=
        EventSemaphore.release_cases hwf
      · rw [hrelease] at hmapper
        have hmapper' : mapper ∈ caller :: semaphore'.woken ++ it.unconsumedPromises := hmapper
        rw [hit] at hmapper'
        rw [hwaiting]
        exact List.perm_middle.symm.subset hmapper'
      · rw [hrelease] at hmapper
        have hmapper' : mapper ∈ semaphore'.woken ++ it.unconsumedPromises := hmapper
        rw [hit] at hmapper'
        rw [hwaiting]
        exact hmapper'
    permits := fun limit hlimit => by
      obtain ⟨semaphore, hsemaphore, hsum⟩ := h.permits limit hlimit
      refine ⟨semaphore.release, by rw [MapAsyncIterable.yieldResult, hsemaphore]; rfl, ?_⟩
      have hvalue : semaphore.release.value = semaphore.value + 1 := by
        obtain ⟨it, -, ⟨caller, callers, -, -, hrelease⟩ | ⟨-, -, hrelease⟩⟩ :=
          EventSemaphore.release_cases (h.semaphore semaphore hsemaphore).1 <;> rw [hrelease]
      rw [hemitted, List.length_cons] at hsum
      rw [hvalue, ← hsum]
      show _ + ((∑ x, (s.mappers x).permits : ℕ) : ℤ) + _ = _
      push_cast
      ring
    unlimited := fun hnone => Option.map_eq_none_iff.mpr (h.unlimited hnone)
    items := by
      have hitems := h.items
      rw [hemitted, ← Multiset.cons_coe, ← Multiset.singleton_add] at hitems
      show ((s.received ++ [res] : List β) : Multiset β) + (s.yieldResult res).emitted +
        ∑ x, (s.mappers x).results mapFn + (s.remaining.map mapFn : List β) = _
      rw [← hitems, ← Multiset.coe_add, Multiset.coe_singleton]
      abel
    waiting := fun hwaiting => by cases hwaiting
    idle := fun _ => h.idle (by simp [hres])
    returned := fun hreturned => by cases hreturned }

/-- The generator awaits the next result, or returns when there is none and the mappers have returned. -/
lemma Inv.awaitResult (h : Inv mapFn source bufferLimit s)
    (hgenerator : s.generator = .start ∨ s.generator = .suspended) :
    Inv mapFn source bufferLimit s.awaitResult := by
  have hempty : s.emitterEventsIterable.unconsumedPromises = [] :=
    h.idle (by rcases hgenerator with hstart | hsuspended <;> simp [*])
  have hresults : s.generator.results = [] := by
    rcases hgenerator with hstart | hsuspended
    · rw [hstart]
      rfl
    · rw [hsuspended]
      rfl
  have hemitted : s.emitted = s.emitterEventsIterable.unconsumedEvents := by
    rw [emitted, hresults, List.nil_append]
  have hwf := h.events.next ()
  have hitems := h.items
  have hpermits := h.permits
  rw [hemitted] at hitems hpermits
  unfold MapAsyncIterable.awaitResult
  rcases EventIterator.next_cases h.events () with
    ⟨res, events, hevents, hnext⟩ | ⟨hevents, hfinished, hnext | hnext⟩ | ⟨hevents, hfinished, hnext⟩
  · rw [hnext] at hwf ⊢
    rw [hevents] at hitems hpermits
    exact { h with
      events := hwf
      permits := hpermits
      items := hitems
      waiting := fun hwaiting => by cases hwaiting
      idle := fun _ => hempty
      returned := fun hreturned => by cases hreturned }
  · rw [hnext] at hwf ⊢
    exact { h with
      events := hwf
      permits := hpermits
      items := hitems
      waiting := fun hwaiting => by cases hwaiting
      idle := fun _ => hempty
      returned := fun _ => ⟨h.finished ▸ hfinished, hevents⟩ }
  · rw [hnext] at hwf ⊢
    exact { h with
      events := hwf
      permits := hpermits
      items := hitems
      waiting := fun hwaiting => by cases hwaiting
      idle := fun _ => hempty
      returned := fun _ => ⟨h.finished ▸ hfinished, hevents⟩ }
  · rw [hnext] at hwf ⊢
    exact { h with
      events := hwf
      permits := hpermits
      items := hitems
      waiting := fun _ => by
        show s.emitterEventsIterable.unconsumedPromises ++ [()] = [()]
        rw [hempty]
        rfl
      idle := fun hne => absurd rfl hne
      returned := fun hreturned => by cases hreturned }

/-- A mapper emits its result, which the generator goes on with if it waits. -/
lemma Inv.emitResult (h : Inv mapFn source bufferLimit s) {item : α} (hmapping : s.mappers mapper = .mapping item) :
    Inv mapFn source bufferLimit ((s.emitResult (mapFn item)).setMapper mapper .acquiring) := by
  have hreturned : s.mappers mapper ≠ .returned := by simp [hmapping]
  have haborted := h.not_aborted hreturned
  have hpermits := Keyed.sum_update MapperState.permits s.mappers mapper .acquiring
  rw [hmapping, MapperState.permits, MapperState.permits, Nat.add_zero] at hpermits
  have hresults := Keyed.sum_update (MapperState.results mapFn) s.mappers mapper .acquiring
  rw [hmapping, MapperState.results, MapperState.results, add_zero] at hresults
  have hexhausted : ∀ mapper', (s.setMapper mapper .acquiring).mappers mapper' = .returned → s.remaining = [] :=
    h.exhausted_setMapper fun hstate => by cases hstate
  have hwf := h.events.emit (mapFn item)
  have hitems := h.items
  rw [← hresults] at hitems
  unfold MapAsyncIterable.emitResult
  rcases EventIterator.emit_cases (h.finished.trans haborted) (mapFn item) with
    ⟨⟨⟩, callers, hcallers, hemit⟩ | ⟨hcallers, hemit⟩
  · obtain ⟨hwaiting, hnobody⟩ := h.generator_waiting hcallers
    have hempty := h.emitted_eq_nil hwaiting
    have hevents : s.emitterEventsIterable.unconsumedEvents = [] := (List.append_eq_nil_iff.mp hempty).2
    rw [hemit] at hwf ⊢
    rw [hempty] at hitems
    exact { h with
      events := hwf
      semaphore := h.semaphore_setMapper (Or.inr rfl)
      permits := fun limit hlimit => by
        obtain ⟨semaphore, hsome, hsum⟩ := h.permits limit hlimit
        refine ⟨semaphore, hsome, ?_⟩
        rw [hempty, List.length_nil] at hsum
        show semaphore.value + ((∑ x, (Function.update s.mappers mapper .acquiring x).permits : ℕ) : ℤ) +
          ((mapFn item :: s.emitterEventsIterable.unconsumedEvents).length : ℤ) = _
        rw [hevents, List.length_singleton]
        omega
      items := by
        show (s.received : Multiset β) + ((mapFn item :: s.emitterEventsIterable.unconsumedEvents : List β)) +
          ∑ x, MapperState.results mapFn (Function.update s.mappers mapper .acquiring x) +
            (s.remaining.map mapFn : List β) = _
        rw [hevents, ← hitems, Multiset.coe_singleton, Multiset.coe_nil]
        abel
      waiting := fun hwaiting => by cases hwaiting
      idle := fun _ => hnobody
      exhausted := hexhausted
      aborted := fun haborted => absurd (h.aborted haborted mapper) hreturned
      returned := fun hreturned => by cases hreturned }
  · rw [hemit] at hwf ⊢
    exact { h with
      events := hwf
      semaphore := h.semaphore_setMapper (Or.inr rfl)
      permits := fun limit hlimit => by
        obtain ⟨semaphore, hsome, hsum⟩ := h.permits limit hlimit
        refine ⟨semaphore, hsome, ?_⟩
        rw [emitted, List.length_append] at hsum
        show semaphore.value + ((∑ x, (Function.update s.mappers mapper .acquiring x).permits : ℕ) : ℤ) +
          ((s.generator.results ++ (s.emitterEventsIterable.unconsumedEvents ++ [mapFn item])).length : ℤ) = _
        rw [List.length_append, List.length_append, List.length_singleton]
        omega
      items := by
        show (s.received : Multiset β) +
          (s.generator.results ++ (s.emitterEventsIterable.unconsumedEvents ++ [mapFn item]) : List β) +
            ∑ x, MapperState.results mapFn (Function.update s.mappers mapper .acquiring x) +
              (s.remaining.map mapFn : List β) = _
        rw [← hitems, emitted, ← List.append_assoc, ← Multiset.coe_add _ [mapFn item], Multiset.coe_singleton]
        abel
      waiting := fun hwaiting => by
        rw [h.waiting hwaiting] at hcallers
        cases hcallers
      idle := fun _ => hcallers
      exhausted := hexhausted
      aborted := fun haborted => absurd (h.aborted haborted mapper) hreturned
      returned := fun hgenerator => absurd (h.aborted (h.returned hgenerator).1 mapper) hreturned }

/-- All mappers have returned, and the controller is aborted. -/
lemma Inv.abortAll (h : Inv mapFn source bufferLimit s) (hmappers : ∀ mapper, s.mappers mapper = .returned)
    (haborted : s.aborted = false) : Inv mapFn source bufferLimit s.abortAll := by
  have hnobody : ∀ semaphore, s.bufferLimitSemaphore = some semaphore →
      semaphore.woken ++ semaphore.waiting = [] := by
    intro semaphore hsemaphore
    refine List.eq_nil_iff_forall_not_mem.mpr fun mapper hmapper => ?_
    have hacquiring := (h.semaphore semaphore hsemaphore).2 mapper hmapper
    rw [hmappers mapper] at hacquiring
    cases hacquiring
  have hsemaphore : ∀ semaphore, s.bufferLimitSemaphore.map EventSemaphore.abort = some semaphore →
      semaphore.Wf ∧ ∀ mapper ∈ semaphore.woken ++ semaphore.waiting, s.mappers mapper = .acquiring := by
    intro semaphore hsome
    obtain ⟨semaphore', hsome', rfl⟩ := Option.map_eq_some_iff.mp hsome
    have hempty := List.append_eq_nil_iff.mp (hnobody semaphore' hsome')
    obtain ⟨hwf, hwaiting⟩ := (h.semaphore semaphore' hsome').1.abort hempty.2
    refine ⟨hwf, fun mapper hmapper => ?_⟩
    rw [hwaiting, List.append_nil] at hmapper
    have hwoken : mapper ∈ semaphore'.woken := hmapper
    rw [hempty.1] at hwoken
    cases hwoken
  have hpermits : ∀ limit, bufferLimit = some limit → ∃ semaphore,
      s.bufferLimitSemaphore.map EventSemaphore.abort = some semaphore ∧
        semaphore.value + (∑ mapper, (s.mappers mapper).permits : ℕ) + s.emitted.length =
          limit + concurrency := by
    intro limit hlimit
    obtain ⟨semaphore, hsome, hsum⟩ := h.permits limit hlimit
    exact ⟨semaphore.abort, by rw [hsome]; rfl, hsum⟩
  have hunlimited (hnone : bufferLimit = none) : s.bufferLimitSemaphore.map EventSemaphore.abort = none :=
    Option.map_eq_none_iff.mpr (h.unlimited hnone)
  have hwf := h.events.abort
  unfold MapAsyncIterable.abortAll
  dsimp only
  rcases EventIterator.abort_cases (h.finished.trans haborted) with
    ⟨⟨⟩, callers, hcallers, habort⟩ | ⟨hcallers, habort⟩
  · obtain ⟨hwaiting, -⟩ := h.generator_waiting hcallers
    have hemitted : s.emitted = s.emitterEventsIterable.unconsumedEvents := by
      rw [emitted, hwaiting]
      rfl
    have hitems := h.items
    rw [hemitted] at hitems hpermits
    rw [habort] at hwf ⊢
    exact { h with
      events := hwf
      semaphore := hsemaphore
      permits := hpermits
      unlimited := hunlimited
      items := hitems
      waiting := fun hwaiting => by cases hwaiting
      idle := fun _ => rfl
      aborted := fun _ => hmappers
      finished := rfl
      returned := fun _ => ⟨rfl, hemitted.symm.trans (h.emitted_eq_nil hwaiting)⟩ }
  · rw [habort] at hwf ⊢
    exact { h with
      events := hwf
      semaphore := hsemaphore
      permits := hpermits
      unlimited := hunlimited
      waiting := fun hwaiting => by
        rw [h.waiting hwaiting] at hcallers
        cases hcallers
      idle := fun _ => hcallers
      aborted := fun _ => hmappers
      finished := rfl
      returned := fun hreturned => ⟨rfl, (h.returned hreturned).2⟩ }

lemma Inv.step (h : Inv mapFn source bufferLimit s) {input : MapInput concurrency}
    (hstep : s.step mapFn input = some s') : Inv mapFn source bufferLimit s' := by
  cases input with
  | pull =>
    simp only [MapAsyncIterable.step] at hstep
    split at hstep
    · rename_i hstart
      cases hstep
      exact h.awaitResult (Or.inl hstart)
    · rename_i hsuspended
      cases hstep
      exact h.awaitResult (Or.inr hsuspended)
    · cases hstep
  | resume =>
    simp only [MapAsyncIterable.step] at hstep
    split at hstep
    · rename_i res hres
      cases hstep
      exact h.yieldResult hres
    · cases hstep
  | acquire mapper =>
    simp only [MapAsyncIterable.step] at hstep
    split at hstep
    · cases hstep
    · rename_i hacquiring _
      split at hstep
      · cases hstep
      · rename_i hwaits
        cases hstep
        exact h.acquireSemaphore hacquiring (Bool.eq_false_iff.mpr hwaits)
    · cases hstep
  | next mapper =>
    simp only [MapAsyncIterable.step] at hstep
    split at hstep
    · rename_i hacquired
      cases hstep
      exact h.setMapper (by rw [hacquired]; rfl) (by rw [hacquired]; rfl) (by simp [hacquired])
        (by simp [hacquired]) fun hreturned => by cases hreturned
    · cases hstep
  | source mapper =>
    simp only [MapAsyncIterable.step] at hstep
    split at hstep
    · rename_i hpulling
      cases hstep
      exact h.sourceNext hpulling
    · cases hstep
  | mapped mapper =>
    simp only [MapAsyncIterable.step] at hstep
    split at hstep
    · rename_i item hmapping
      cases hstep
      exact h.emitResult hmapping
    · cases hstep
  | abort =>
    simp only [MapAsyncIterable.step] at hstep
    split at hstep
    · rename_i hready
      cases hstep
      exact h.abortAll (fun mapper => MapperState.isReturned_iff.mp (hready.1 mapper)) hready.2
    · cases hstep

/-! ### What the invariant gives -/

/-- What has been pulled and not received is with a mapper or on its way. -/
lemma Inv.pulled_eq (h : Inv mapFn source bufferLimit s) :
    s.pulled = s.received.length + s.emitted.length +
      ∑ mapper, ((s.mappers mapper).results mapFn).card := by
  have hitems := congrArg Multiset.card h.items
  have hpulled := h.pulled
  rw [Multiset.card_add, Multiset.card_add, Multiset.card_add, Multiset.coe_card, Multiset.coe_card,
    Multiset.coe_card, Multiset.coe_card, List.length_map, List.length_map, Multiset.card_sum] at hitems
  omega

/-- While the generator waits, not all the permits that are left can be wanting. -/
lemma Inv.noDeadlock (h : Inv mapFn source bufferLimit s) (hgenerator : s.generator = .waiting)
    (hmapper : s.mappers mapper ≠ .returned) :
    ∃ mapper, s.mappers mapper ≠ .returned ∧ s.waitsOnSemaphore mapper = false := by
  by_contra hall
  push Not at hall
  have hwaits : ∀ mapper, s.mappers mapper ≠ .returned → s.waitsOnSemaphore mapper = true := fun mapper' h' =>
    Bool.eq_true_of_not_eq_false (hall mapper' h')
  obtain ⟨semaphore, hsemaphore, hwaiting⟩ := (Option.any_eq_true _ _).mp (hwaits mapper hmapper)
  obtain ⟨hwf, hmappers⟩ := h.semaphore semaphore hsemaphore
  have hvalue : semaphore.value = 0 := by
    refine le_antisymm (not_lt.mp fun hpos => ?_) hwf.nonneg
    have hne : semaphore.waiting ≠ [] := List.ne_nil_of_mem (of_decide_eq_true hwaiting)
    obtain ⟨caller, hcaller, hnotWaiting⟩ := hwf.exists_woken hne hpos
    have hacquiring := hmappers caller (List.mem_append_left _ hcaller)
    have hcallerWaits := hwaits caller (by simp [hacquiring])
    simp only [waitsOnSemaphore, hsemaphore, Option.any_some, decide_eq_true_eq] at hcallerWaits
    exact hnotWaiting hcallerWaits
  cases hlimit : bufferLimit with
  | none => exact absurd (hsemaphore.symm.trans (h.unlimited hlimit)) (Option.some_ne_none _)
  | some limit =>
    obtain ⟨semaphore', hsome, hsum⟩ := h.permits limit hlimit
    cases hsemaphore.symm.trans hsome
    have hpermits : ∑ x, (s.mappers x).permits < ∑ _x : Fin concurrency, 1 := by
      refine Finset.sum_lt_sum (fun x _ => MapperState.permits_le_one _) ⟨mapper, Finset.mem_univ _, ?_⟩
      have hacquiring := hmappers mapper (List.mem_append_right _ (of_decide_eq_true hwaiting))
      rw [hacquiring]
      exact Nat.zero_lt_one
    have hcard : ∑ _x : Fin concurrency, 1 = concurrency := by simp
    rw [hcard] at hpermits
    rw [hvalue, h.emitted_eq_nil hgenerator, List.length_nil] at hsum
    omega

lemma Inv.progress (h : Inv mapFn source bufferLimit s) (hgenerator : s.generator = .waiting) :
    ∃ input, input ≠ .pull ∧ (s.step mapFn input).isSome = true := by
  by_cases hall : ∀ mapper, s.mappers mapper = .returned
  · refine ⟨.abort, by simp, ?_⟩
    have haborted : s.aborted = false := by
      rw [← h.finished]
      exact (h.events.1 (by rw [h.waiting hgenerator]; exact List.cons_ne_nil _ _)).2
    have hready : (∀ mapper, (s.mappers mapper).isReturned = true) ∧ s.aborted = false :=
      ⟨fun mapper => MapperState.isReturned_iff.mpr (hall mapper), haborted⟩
    rw [MapAsyncIterable.step, if_pos hready]
    rfl
  · push Not at hall
    obtain ⟨mapper, hmapper⟩ := hall
    obtain ⟨mapper, hreturned, hwaits⟩ := h.noDeadlock hgenerator hmapper
    cases hstate : s.mappers mapper with
    | acquiring => exact ⟨.acquire mapper, by simp, by simp [MapAsyncIterable.step, hgenerator, hstate, hwaits]⟩
    | acquired => exact ⟨.next mapper, by simp, by simp [MapAsyncIterable.step, hstate]⟩
    | pulling => exact ⟨.source mapper, by simp, by simp [MapAsyncIterable.step, hstate]⟩
    | mapping item => exact ⟨.mapped mapper, by simp, by simp [MapAsyncIterable.step, hstate]⟩
    | returned => exact absurd hstate hreturned

lemma Inv.maps (h : Inv mapFn source bufferLimit s) (hconcurrency : 2 ≤ concurrency) :
    Maps mapFn source bufferLimit s where
  complete hgenerator := by
    obtain ⟨haborted, hevents⟩ := h.returned hgenerator
    have hmappers := h.aborted haborted
    have hremaining := h.exhausted ⟨0, by omega⟩ (hmappers _)
    have hemitted : s.emitted = [] := by
      rw [emitted, hgenerator, hevents]
      rfl
    have hitems := h.items
    rw [hremaining, hemitted] at hitems
    simp only [hmappers, MapperState.results, Finset.sum_const_zero, List.map_nil, Multiset.coe_nil,
      add_zero] at hitems
    exact Multiset.coe_eq_coe.mp hitems
  partially := by
    refine Multiset.coe_le.mp ?_
    rw [← h.items, add_assoc, add_assoc]
    exact Multiset.le_add_right _ _
  limited limit hlimit := by
    obtain ⟨semaphore, hsemaphore, hsum⟩ := h.permits limit hlimit
    have hnonneg := (h.semaphore semaphore hsemaphore).1.nonneg
    have hresults : ∑ mapper, ((s.mappers mapper).results mapFn).card ≤
        ∑ mapper, (s.mappers mapper).permits :=
      Finset.sum_le_sum fun mapper _ => MapperState.card_results_le mapFn _
    rw [h.pulled_eq]
    omega
  nonneg semaphore hsemaphore := (h.semaphore semaphore hsemaphore).1.nonneg
  noDeadlock hgenerator := fun ⟨_, hmapper⟩ => h.noDeadlock hgenerator hmapper
  progress := h.progress

/-- With at least two mappers, in every reachable state nothing has been lost or duplicated, no more
than the limit allows is under way, and a generator that waits does not wait for ever. -/
theorem maps_of_run (mapFn : α → β) (source : List α) (bufferLimit : Option ℕ) (hconcurrency : 2 ≤ concurrency)
    (inputs : List (MapInput concurrency)) (s : MapAsyncIterable α β concurrency)
    (hrun : Transition.run (step mapFn) (initial source bufferLimit) inputs = some s) :
    Maps mapFn source bufferLimit s :=
  (Transition.invariant (fun _ _ _ h hstep => h.step hstep) (inv_initial mapFn source bufferLimit) hrun).maps
    hconcurrency

/-- Three items without a buffer: the second result comes first, and a mapper waits on the semaphore. -/
def threeItems : List (MapInput 2) :=
  [.pull, .acquire 0, .next 0, .acquire 1, .next 1, .source 0, .source 1, .mapped 1, .resume, .mapped 0,
    .acquire 1, .acquire 0, .next 1, .pull, .resume, .source 1, .acquire 0, .next 0, .source 0, .pull,
    .mapped 1, .resume, .pull, .acquire 1, .next 1, .source 1, .abort]

theorem maps_of_run_threeItems :
    ∃ s : MapAsyncIterable ℕ ℕ 2, Transition.run (step (· * 10)) (initial [1, 2, 3] (some 0)) threeItems = some s ∧
      s.generator = .returned ∧ s.received = [20, 10, 30] ∧ Maps (· * 10) [1, 2, 3] (some 0) s :=
  ⟨_, rfl, rfl, rfl, maps_of_run (· * 10) [1, 2, 3] (some 0) (by decide) threeItems _ rfl⟩

end MapAsyncIterable

end TemporalSdk
