import Mathlib.Data.List.Nodup
import Mathlib.Data.List.Infix
import Mathlib.Tactic.Common

/-!
# Event iterators, and semaphores that wait on them

An asynchronous iterator over the events of an emitter keeps the events that nobody waits for; its
callers wait when there are none. When it is aborted, a caller that waits is rejected, or else the first
call after the events that have been kept.

A counting semaphore is built on such an iterator: who finds no permit waits for an event of
release, and then looks again.
-/

/-- The events of type `α` that nobody has waited for, and the callers that wait, with the state of
the iterator: an abort that no caller has been told of, and whether it has ended. -/
structure EventIterator (α κ : Type*) where
  unconsumedEvents : List α
  unconsumedPromises : List κ
  error : Bool
  finished : Bool

namespace EventIterator

variable {α κ : Type*}

/-- What becomes of the promise of a call of `next`. -/
inductive Next (α : Type*)
  | value (event : α)
  | aborted
  | done
  | pending

def init : EventIterator α κ := ⟨[], [], false, false⟩

variable (it : EventIterator α κ)

def next (caller : κ) : Next α × EventIterator α κ :=
  match it.unconsumedEvents with
  | event :: events => (.value event, { it with unconsumedEvents := events })
  | [] =>
    if it.error then (.aborted, { it with error := false })
    else if it.finished then (.done, it)
    else (.pending, { it with unconsumedPromises := it.unconsumedPromises ++ [caller] })

/-- An event fulfils the promise of the first caller that waits, which is given back. -/
def emit (event : α) : Option κ × EventIterator α κ :=
  if it.finished then (none, it)
  else
    match it.unconsumedPromises with
    | caller :: callers => (some caller, { it with unconsumedPromises := callers })
    | [] => (none, { it with unconsumedEvents := it.unconsumedEvents ++ [event] })

/-- The abort rejects the promise of the first caller that waits, which is given back, and ends the
iteration of the others. -/
def abort : Option κ × EventIterator α κ :=
  if it.finished then (none, it)
  else
    match it.unconsumedPromises with
    | caller :: _ => (some caller, { it with unconsumedPromises := [], finished := true })
    | [] => (none, { it with error := true, finished := true })

/-- Nobody waits while events are kept or after the end. -/
def Wf : Prop :=
  (it.unconsumedPromises ≠ [] → it.unconsumedEvents = [] ∧ it.finished = false) ∧
    (it.finished = false → it.error = false)

variable {it}

lemma wf_init : Wf (init : EventIterator α κ) := ⟨fun h => absurd rfl h, fun _ => rfl⟩

/-- A call of `next` takes the first event, or hears of the abort or of the end when there is no event
left, or waits. -/
lemma next_cases (h : Wf it) (caller : κ) :
    (∃ event events, it.unconsumedEvents = event :: events ∧
        it.next caller = (.value event, { it with unconsumedEvents := events })) ∨
      (it.unconsumedEvents = [] ∧ it.finished = true ∧
        (it.next caller = (.aborted, { it with error := false }) ∨ it.next caller = (.done, it))) ∨
      (it.unconsumedEvents = [] ∧ it.finished = false ∧ it.next caller =
        (.pending, { it with unconsumedPromises := it.unconsumedPromises ++ [caller] })) := by
  unfold next
  cases hevents : it.unconsumedEvents with
  | cons event events => exact Or.inl ⟨event, events, rfl, rfl⟩
  | nil =>
    refine Or.inr ?_
    cases hfinished : it.finished with
    | false =>
      rw [h.2 hfinished]
      exact Or.inr ⟨rfl, rfl, rfl⟩
    | true =>
      refine Or.inl ⟨rfl, rfl, ?_⟩
      cases it.error with
      | false => exact Or.inr rfl
      | true => exact Or.inl rfl

lemma Wf.next (h : Wf it) (caller : κ) : Wf (it.next caller).2 := by
  rcases next_cases h caller with
    ⟨event, events, hevents, hnext⟩ | ⟨-, hfinished, hnext | hnext⟩ | ⟨hevents, hfinished, hnext⟩
  · rw [hnext]
    refine ⟨fun hwaits => ?_, h.2⟩
    have hempty := (h.1 hwaits).1
    rw [hevents] at hempty
    cases hempty
  · rw [hnext]
    exact ⟨h.1, fun _ => rfl⟩
  · rw [hnext]
    exact h
  · rw [hnext]
    exact ⟨fun _ => ⟨hevents, hfinished⟩, h.2⟩

/-- Before the end an event goes to the first caller that waits, or is kept. -/
lemma emit_cases (hfinished : it.finished = false) (event : α) :
    (∃ caller callers, it.unconsumedPromises = caller :: callers ∧
        it.emit event = (some caller, { it with unconsumedPromises := callers })) ∨
      (it.unconsumedPromises = [] ∧
        it.emit event = (none, { it with unconsumedEvents := it.unconsumedEvents ++ [event] })) := by
  unfold emit
  rw [hfinished]
  cases it.unconsumedPromises with
  | nil => exact Or.inr ⟨rfl, rfl⟩
  | cons caller callers => exact Or.inl ⟨caller, callers, rfl, rfl⟩

lemma Wf.emit (h : Wf it) (event : α) : Wf (it.emit event).2 := by
  cases hfinished : it.finished with
  | true =>
    rw [EventIterator.emit, hfinished]
    exact h
  | false =>
    rcases emit_cases hfinished event with ⟨caller, callers, hcallers, hemit⟩ | ⟨hcallers, hemit⟩
    · rw [hemit]
      have hevents := (h.1 (by rw [hcallers]; exact List.cons_ne_nil _ _)).1
      exact ⟨fun _ => ⟨hevents, hfinished⟩, h.2⟩
    · rw [hemit]
      exact ⟨fun hwaits => absurd hcallers hwaits, h.2⟩

lemma abort_cases (hfinished : it.finished = false) :
    (∃ caller callers, it.unconsumedPromises = caller :: callers ∧
        it.abort = (some caller, { it with unconsumedPromises := [], finished := true })) ∨
      (it.unconsumedPromises = [] ∧ it.abort = (none, { it with error := true, finished := true })) := by
  unfold abort
  rw [hfinished]
  cases it.unconsumedPromises with
  | nil => exact Or.inr ⟨rfl, rfl⟩
  | cons caller callers => exact Or.inl ⟨caller, callers, rfl, rfl⟩

lemma Wf.abort (h : Wf it) : Wf it.abort.2 := by
  cases hfinished : it.finished with
  | true =>
    rw [EventIterator.abort, hfinished]
    exact h
  | false =>
    rcases abort_cases hfinished with ⟨caller, callers, -, habort⟩ | ⟨hcallers, habort⟩
    · rw [habort]
      exact ⟨fun hwaits => absurd rfl hwaits, fun h => by cases h⟩
    · rw [habort]
      exact ⟨fun hwaits => absurd hcallers hwaits, fun h => by cases h⟩

end EventIterator

/-! ### Semaphores -/

/-- `woken` are the callers whose wait for a release has ended, and who have not looked again. -/
structure EventSemaphore (κ : Type*) where
  value : ℤ
  releaseEvents : EventIterator Unit κ
  woken : List κ

namespace EventSemaphore

variable {κ : Type*} [DecidableEq κ]

def init (value : ℤ) : EventSemaphore κ := ⟨value, .init, []⟩

variable (s : EventSemaphore κ)

def waiting : List κ := s.releaseEvents.unconsumedPromises

/-- A caller looks at the value: it takes a permit, or awaits a release. -/
def acquire (caller : κ) : Bool × EventSemaphore κ :=
  let s := { s with woken := s.woken.erase caller }
  if 0 < s.value then (true, { s with value := s.value - 1 })
  else
    match s.releaseEvents.next caller with
    | (.pending, releaseEvents) => (false, { s with releaseEvents })
    | (_, releaseEvents) => (false, { s with releaseEvents, woken := caller :: s.woken })

def release : EventSemaphore κ :=
  let s := { s with value := s.value + 1 }
  match s.releaseEvents.emit () with
  | (some caller, releaseEvents) => { s with releaseEvents, woken := caller :: s.woken }
  | (none, releaseEvents) => { s with releaseEvents }

def abort : EventSemaphore κ := { s with releaseEvents := s.releaseEvents.abort.2 }

/-- The value is not negative, and while somebody waits each permit has a caller that will look for
one: no release is lost. -/
structure Wf (s : EventSemaphore κ) : Prop where
  events : s.releaseEvents.Wf
  nonneg : 0 ≤ s.value
  callers : (s.woken ++ s.waiting).Nodup
  noLost : s.waiting ≠ [] → s.value ≤ s.woken.length

variable {s}

omit [DecidableEq κ] in
lemma wf_init {value : ℤ} (h : 0 ≤ value) : Wf (init value : EventSemaphore κ) :=
  ⟨EventIterator.wf_init, h, List.nodup_nil, fun hwaits => absurd rfl hwaits⟩

/-- A caller takes a permit, or looks again, or waits while there is no permit. -/
lemma acquire_cases (h : Wf s) (caller : κ) :
    (0 < s.value ∧
        s.acquire caller = (true, { s with value := s.value - 1, woken := s.woken.erase caller })) ∨
      (s.value = 0 ∧ s.waiting = [] ∧ ∃ it, it.Wf ∧ it.unconsumedPromises = [] ∧
        s.acquire caller =
          (false, { s with releaseEvents := it, woken := caller :: s.woken.erase caller })) ∨
      (s.value = 0 ∧ ∃ it, it.Wf ∧ it.unconsumedPromises = s.waiting ++ [caller] ∧
        s.acquire caller = (false, { s with releaseEvents := it, woken := s.woken.erase caller })) := by
  unfold acquire
  dsimp only
  split
  · rename_i hpos
    exact Or.inl ⟨hpos, rfl⟩
  · rename_i hpos
    have hzero : s.value = 0 := Int.le_antisymm (Int.not_lt.mp hpos) h.nonneg
    have hwf := h.events.next caller
    rcases EventIterator.next_cases h.events caller with
      ⟨event, events, hevents, hnext⟩ | ⟨-, hfinished, hnext⟩ | ⟨-, -, hnext⟩
    · have hwaiting : s.releaseEvents.unconsumedPromises = [] := by
        by_contra hne
        rw [(h.events.1 hne).1] at hevents
        cases hevents
      rw [hnext] at hwf ⊢
      exact Or.inr (Or.inl ⟨hzero, hwaiting, _, hwf, hwaiting, rfl⟩)
    · have hwaiting : s.releaseEvents.unconsumedPromises = [] := by
        by_contra hne
        rw [(h.events.1 hne).2] at hfinished
        cases hfinished
      rcases hnext with hnext | hnext
      · rw [hnext] at hwf ⊢
        exact Or.inr (Or.inl ⟨hzero, hwaiting, _, hwf, hwaiting, rfl⟩)
      · rw [hnext] at hwf ⊢
        exact Or.inr (Or.inl ⟨hzero, hwaiting, _, hwf, hwaiting, rfl⟩)
    · rw [hnext] at hwf ⊢
      exact Or.inr (Or.inr ⟨hzero, _, hwf, rfl, rfl⟩)

/-- A caller that waits does not look. -/
lemma Wf.acquire (h : Wf s) {caller : κ} (hcaller : caller ∉ s.waiting) : Wf (s.acquire caller).2 := by
  have hnodup : (s.woken.erase caller ++ s.waiting).Nodup :=
    h.callers.sublist (List.Sublist.append_right List.erase_sublist _)
  have hnotMem : caller ∉ s.woken.erase caller :=
    (List.nodup_append.mp h.callers).1.not_mem_erase
  rcases acquire_cases h caller with
    ⟨hpos, hacquire⟩ | ⟨hzero, hwaiting, it, hwf, hit, hacquire⟩ | ⟨hzero, it, hwf, hit, hacquire⟩
  · rw [hacquire]
    refine ⟨h.events, Int.sub_nonneg_of_le hpos, hnodup, fun hwaits => ?_⟩
    have hle := h.noLost hwaits
    have hlength : s.woken.length ≤ (s.woken.erase caller).length + 1 := by
      rw [List.length_erase]
      split <;> omega
    show s.value - 1 ≤ ((s.woken.erase caller).length : ℤ)
    omega
  · rw [hacquire]
    refine ⟨hwf, h.nonneg, ?_, fun hwaits => absurd hit hwaits⟩
    show (caller :: s.woken.erase caller ++ it.unconsumedPromises).Nodup
    rw [hit, List.append_nil]
    exact List.nodup_cons.mpr ⟨hnotMem, (List.nodup_append.mp hnodup).1⟩
  · rw [hacquire]
    refine ⟨hwf, h.nonneg, ?_, fun _ => ?_⟩
    · show (s.woken.erase caller ++ it.unconsumedPromises).Nodup
      rw [hit, ← List.append_assoc]
      refine List.nodup_append.mpr ⟨hnodup, List.nodup_singleton _, fun a ha b hb => ?_⟩
      rw [List.mem_singleton] at hb
      subst hb
      rintro rfl
      rcases List.mem_append.mp ha with hwoken | hwaiting
      · exact hnotMem hwoken
      · exact hcaller hwaiting
    · show s.value ≤ ((s.woken.erase caller).length : ℤ)
      rw [hzero]
      exact Int.natCast_nonneg _

omit [DecidableEq κ] in
/-- A release wakes the first caller that waits. -/
lemma release_cases (h : Wf s) :
    ∃ it, it.Wf ∧
      ((∃ caller callers, s.waiting = caller :: callers ∧ it.unconsumedPromises = callers ∧
          s.release = { value := s.value + 1, releaseEvents := it, woken := caller :: s.woken }) ∨
        s.waiting = [] ∧ it.unconsumedPromises = [] ∧
          s.release = { value := s.value + 1, releaseEvents := it, woken := s.woken }) := by
  have hwf := h.events.emit ()
  unfold release
  dsimp only
  cases hfinished : s.releaseEvents.finished with
  | true =>
    have hwaiting : s.releaseEvents.unconsumedPromises = [] := by
      by_contra hne
      rw [(h.events.1 hne).2] at hfinished
      cases hfinished
    have hemit : s.releaseEvents.emit () = (none, s.releaseEvents) := by
      rw [EventIterator.emit, hfinished]
      rfl
    rw [hemit]
    exact ⟨_, h.events, Or.inr ⟨hwaiting, hwaiting, rfl⟩⟩
  | false =>
    rcases EventIterator.emit_cases hfinished () with ⟨caller, callers, hcallers, hemit⟩ | ⟨hcallers, hemit⟩
    · rw [hemit] at hwf ⊢
      exact ⟨_, hwf, Or.inl ⟨caller, callers, hcallers, rfl, rfl⟩⟩
    · rw [hemit] at hwf ⊢
      exact ⟨_, hwf, Or.inr ⟨hcallers, hcallers, rfl⟩⟩

omit [DecidableEq κ] in
lemma Wf.release (h : Wf s) : Wf s.release := by
  obtain ⟨it, hwf, ⟨caller, callers, hwaiting, hit, hrelease⟩ | ⟨hwaiting, hit, hrelease⟩⟩ := release_cases h
  · rw [hrelease]
    refine ⟨hwf, Int.add_nonneg h.nonneg (by decide), ?_, fun _ => ?_⟩
    · have hnodup := h.callers
      rw [hwaiting] at hnodup
      show (caller :: s.woken ++ it.unconsumedPromises).Nodup
      rw [hit]
      exact List.nodup_middle.mp hnodup
    · have hle := h.noLost (by rw [hwaiting]; exact List.cons_ne_nil _ _)
      show s.value + 1 ≤ ((caller :: s.woken).length : ℤ)
      rw [List.length_cons]
      omega
  · rw [hrelease]
    refine ⟨hwf, Int.add_nonneg h.nonneg (by decide), ?_, fun hwaits => absurd hit hwaits⟩
    have hnodup := h.callers
    rw [hwaiting] at hnodup
    show (s.woken ++ it.unconsumedPromises).Nodup
    rw [hit]
    exact hnodup

omit [DecidableEq κ] in
/-- Nobody waits when the events are aborted. -/
lemma Wf.abort (h : Wf s) (hwaiting : s.waiting = []) : Wf s.abort ∧ s.abort.waiting = [] := by
  have hempty : s.abort.waiting = [] := by
    unfold waiting EventSemaphore.abort EventIterator.abort
    split
    · exact hwaiting
    · split
      · rfl
      · exact hwaiting
  refine ⟨⟨h.events.abort, h.nonneg, ?_, fun hwaits => absurd hempty hwaits⟩, hempty⟩
  rw [hempty]
  have hnodup := h.callers
  rw [hwaiting] at hnodup
  exact hnodup

omit [DecidableEq κ] in
/-- While somebody waits and there is a permit, a caller has been woken. -/
lemma Wf.exists_woken (h : Wf s) (hwaits : s.waiting ≠ []) (hpos : 0 < s.value) :
    ∃ caller ∈ s.woken, caller ∉ s.waiting := by
  have hlength : 0 < s.woken.length := by
    have hle := h.noLost hwaits
    omega
  obtain ⟨caller, hcaller⟩ := List.exists_mem_of_length_pos hlength
  exact ⟨caller, hcaller, fun hmem => (List.nodup_append.mp h.callers).2.2 caller hcaller caller hmem rfl⟩

end EventSemaphore
