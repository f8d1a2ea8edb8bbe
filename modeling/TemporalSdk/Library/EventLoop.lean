import Mathlib.Algebra.BigOperators.Group.Multiset.Basic
import Mathlib.Data.List.Basic
import Mathlib.Tactic.Abel

/-!
# Promises that can be rejected, and the microtask queue

A table of promises, each pending or rejected, with the reactions registered on it. A
reaction of a pending promise waits for its rejection; one of a rejected promise is queued
at once. Microtasks run first in, first out. The reactions themselves are data of any type.
-/

/-- A promise that is only ever rejected. -/
structure Deferred (ρ : Type*) where
  rejected : Bool
  reactions : List ρ

structure EventLoop (ρ : Type*) where
  promises : List (Deferred ρ)
  microtasks : List ρ

namespace EventLoop

variable {ρ : Type*} (l : EventLoop ρ)

def promise (p : ℕ) : Deferred ρ := l.promises.getD p ⟨false, []⟩

/-- Has promise `p` been rejected? -/
def rejected (p : ℕ) : Bool := (l.promise p).rejected

/-- The reactions that wait for the rejection of promise `p`. -/
def reactions (p : ℕ) : List ρ := (l.promise p).reactions

/-- A new pending promise, with the next free number. -/
def newPromise : EventLoop ρ :=
  { l with promises := l.promises ++ [⟨false, []⟩] }

def enqueue (r : ρ) : EventLoop ρ :=
  { l with microtasks := l.microtasks ++ [r] }

def setPromise (p : ℕ) (d : Deferred ρ) : EventLoop ρ :=
  { l with promises := l.promises.set p d }

/-- `promise.catch(reaction)` -/
def register (p : ℕ) (r : ρ) : EventLoop ρ :=
  if l.rejected p then l.enqueue r
  else l.setPromise p ⟨false, l.reactions p ++ [r]⟩

/-- Rejecting a pending promise queues its reactions; a settled promise stays as it is. -/
def reject (p : ℕ) : EventLoop ρ :=
  if l.rejected p then l
  else { l.setPromise p ⟨true, []⟩ with microtasks := l.microtasks ++ l.reactions p }

/-- Takes the first microtask from the queue. -/
def next : Option (ρ × EventLoop ρ) :=
  match l.microtasks with
  | [] => none
  | r :: rest => some (r, { l with microtasks := rest })

/-- Reactions that have been registered and have not run. -/
def pending : Multiset ρ :=
  (l.promises.map fun d => (d.reactions : Multiset ρ)).sum + (l.microtasks : Multiset ρ)

/-! ### The table of promises -/

lemma promise_setPromise {p : ℕ} (hp : p < l.promises.length) (d : Deferred ρ) (q : ℕ) :
    (l.setPromise p d).promise q = if q = p then d else l.promise q := by
  simp only [promise, setPromise, List.getD_eq_getElem?_getD, List.getElem?_set]
  by_cases h : q = p
  · subst h
    simp [hp]
  · simp [h, Ne.symm h]

lemma setPromise_of_length_le {p : ℕ} (hp : l.promises.length ≤ p) (d : Deferred ρ) :
    l.setPromise p d = l := by
  simp [setPromise, List.set_eq_of_length_le hp]

lemma promise_of_length_le {p : ℕ} (hp : l.promises.length ≤ p) : l.promise p = ⟨false, []⟩ := by
  simp [promise, List.getElem?_eq_none hp]

@[simp] lemma promise_newPromise (p : ℕ) : l.newPromise.promise p = l.promise p := by
  simp only [promise, newPromise, List.getD_eq_getElem?_getD, List.getElem?_append]
  split
  · rfl
  · rename_i hp
    rw [List.getElem?_eq_none (Nat.not_lt.mp hp)]
    cases p - l.promises.length <;> rfl

@[simp] lemma promise_enqueue (r : ρ) (p : ℕ) : (l.enqueue r).promise p = l.promise p := rfl

@[simp] lemma length_newPromise : l.newPromise.promises.length = l.promises.length + 1 := by
  simp [newPromise]

@[simp] lemma length_enqueue (r : ρ) : (l.enqueue r).promises.length = l.promises.length := rfl

@[simp] lemma length_setPromise (p : ℕ) (d : Deferred ρ) :
    (l.setPromise p d).promises.length = l.promises.length := by
  simp [setPromise]

@[simp] lemma length_register (p : ℕ) (r : ρ) :
    (l.register p r).promises.length = l.promises.length := by
  unfold register
  split <;> simp

@[simp] lemma length_reject (p : ℕ) : (l.reject p).promises.length = l.promises.length := by
  unfold reject
  split <;> simp

/-! ### Which promises are rejected -/

@[simp] lemma rejected_newPromise (p : ℕ) : l.newPromise.rejected p = l.rejected p := by
  simp [rejected]

@[simp] lemma rejected_enqueue (r : ρ) (p : ℕ) : (l.enqueue r).rejected p = l.rejected p := rfl

lemma rejected_of_length_le {p : ℕ} (hp : l.promises.length ≤ p) : l.rejected p = false := by
  rw [rejected, promise_of_length_le l hp]

@[simp] lemma rejected_register (p : ℕ) (r : ρ) (q : ℕ) :
    (l.register p r).rejected q = l.rejected q := by
  unfold register
  split
  · rfl
  · rename_i h
    rcases Nat.lt_or_ge p l.promises.length with hp | hp
    · by_cases hq : q = p
      · subst hq
        simpa [rejected, promise_setPromise l hp] using h
      · simp [rejected, promise_setPromise l hp, hq]
    · rw [setPromise_of_length_le l hp]

lemma promise_reject {p : ℕ} (hp : p < l.promises.length) (h : l.rejected p = false) (q : ℕ) :
    (l.reject p).promise q = if q = p then ⟨true, []⟩ else l.promise q := by
  unfold reject
  rw [h]
  exact promise_setPromise l hp _ q

lemma rejected_reject {p : ℕ} (hp : p < l.promises.length) (q : ℕ) :
    (l.reject p).rejected q = true ↔ q = p ∨ l.rejected q = true := by
  by_cases h : l.rejected p = true
  · have hself : l.reject p = l := by simp [reject, h]
    rw [hself]
    constructor
    · exact Or.inr
    · rintro (rfl | hq)
      · exact h
      · exact hq
  · rw [rejected, promise_reject l hp (by simpa using h)]
    by_cases hq : q = p <;> simp [hq, rejected]

lemma rejected_reject_of_rejected (p : ℕ) {q : ℕ} (h : l.rejected q = true) :
    (l.reject p).rejected q = true := by
  rcases Nat.lt_or_ge p l.promises.length with hp | hp
  · exact (rejected_reject l hp q).mpr (Or.inr h)
  · have hpending := rejected_of_length_le l hp
    have hself : (l.reject p).promises = l.promises := by
      simp only [reject, hpending, Bool.false_eq_true, if_false, setPromise_of_length_le l hp]
    rw [rejected, promise, hself]
    exact h

/-! ### No reaction is lost or runs twice -/

lemma sum_reactions_set {ps : List (Deferred ρ)} {p : ℕ} (d : Deferred ρ) (hp : p < ps.length) :
    ((ps.set p d).map fun d => (d.reactions : Multiset ρ)).sum +
        ((ps.getD p ⟨false, []⟩).reactions : Multiset ρ) =
      (ps.map fun d => (d.reactions : Multiset ρ)).sum + (d.reactions : Multiset ρ) := by
  induction ps generalizing p with
  | nil => simp at hp
  | cons x ps ih =>
    cases p with
    | zero =>
      simp only [List.set_cons_zero, List.map_cons, List.sum_cons, List.getD_cons_zero]
      abel
    | succ p =>
      have hsum := ih (Nat.lt_of_succ_lt_succ hp)
      simp only [List.set_cons_succ, List.map_cons, List.sum_cons, List.getD_cons_succ, add_assoc]
      rw [hsum]

@[simp] lemma pending_newPromise : l.newPromise.pending = l.pending := by
  simp [pending, newPromise]

@[simp] lemma pending_enqueue (r : ρ) : (l.enqueue r).pending = r ::ₘ l.pending := by
  simp only [pending, enqueue, ← Multiset.coe_add, ← Multiset.singleton_add, ← Multiset.coe_singleton]
  abel

lemma pending_setPromise {p : ℕ} (hp : p < l.promises.length) (d : Deferred ρ) :
    (l.setPromise p d).pending + (l.reactions p : Multiset ρ) =
      l.pending + (d.reactions : Multiset ρ) := by
  have hsum := sum_reactions_set d hp
  simp only [pending, setPromise, reactions, promise]
  rw [add_right_comm, hsum]
  abel

lemma pending_register {p : ℕ} (hp : p < l.promises.length) (r : ρ) :
    (l.register p r).pending = r ::ₘ l.pending := by
  unfold register
  split
  · exact pending_enqueue l r
  · have hsum := pending_setPromise l hp ⟨false, l.reactions p ++ [r]⟩
    refine add_right_cancel (b := (l.reactions p : Multiset ρ)) (hsum.trans ?_)
    simp only [← Multiset.coe_add, ← Multiset.coe_singleton, ← Multiset.singleton_add]
    abel

@[simp] lemma pending_reject (p : ℕ) : (l.reject p).pending = l.pending := by
  unfold reject
  split
  · rfl
  · rcases Nat.lt_or_ge p l.promises.length with hp | hp
    · have hsum := pending_setPromise l hp ⟨true, []⟩
      simp only [Multiset.coe_nil, add_zero] at hsum
      rw [← hsum]
      simp only [pending, setPromise, ← Multiset.coe_add]
      abel
    · simp [pending, setPromise_of_length_le l hp, reactions, promise_of_length_le l hp]

lemma next_eq_some {r : ρ} {l' : EventLoop ρ} (h : l.next = some (r, l')) :
    l.microtasks = r :: l'.microtasks ∧ l'.promises = l.promises := by
  unfold next at h
  split at h
  · cases h
  · rename_i rest hm
    cases h
    exact ⟨hm, rfl⟩

lemma pending_next {r : ρ} {l' : EventLoop ρ} (h : l.next = some (r, l')) :
    l.pending = r ::ₘ l'.pending := by
  obtain ⟨hm, hp⟩ := next_eq_some l h
  simp only [pending, hm, hp, ← Multiset.cons_coe, Multiset.add_cons]

/-! ### Which reactions wait, and which are queued -/

lemma mem_reactions_register {p q : ℕ} {r r' : ρ} (h : r ∈ (l.register q r').reactions p) :
    r ∈ l.reactions p ∨ (r = r' ∧ p = q) := by
  unfold register at h
  split at h
  · exact Or.inl h
  · rcases Nat.lt_or_ge q l.promises.length with hq | hq
    · rw [reactions, promise_setPromise l hq] at h
      split at h
      · rename_i hpq
        subst hpq
        rcases List.mem_append.mp h with h | h
        · exact Or.inl h
        · exact Or.inr ⟨List.mem_singleton.mp h, rfl⟩
      · exact Or.inl h
    · rw [setPromise_of_length_le l hq] at h
      exact Or.inl h

lemma mem_microtasks_register {q : ℕ} {r r' : ρ} (h : r ∈ (l.register q r').microtasks) :
    r ∈ l.microtasks ∨ (r = r' ∧ l.rejected q = true) := by
  unfold register at h
  split at h
  · rename_i hq
    rcases List.mem_append.mp h with h | h
    · exact Or.inl h
    · exact Or.inr ⟨List.mem_singleton.mp h, hq⟩
  · exact Or.inl h

lemma mem_reactions_reject {p q : ℕ} {r : ρ} (h : r ∈ (l.reject q).reactions p) :
    r ∈ l.reactions p := by
  unfold reject at h
  split at h
  · exact h
  · rcases Nat.lt_or_ge q l.promises.length with hq | hq
    · have hp : (l.setPromise q ⟨true, []⟩).promise p = if p = q then ⟨true, []⟩ else l.promise p :=
        promise_setPromise l hq _ p
      change r ∈ ((l.setPromise q ⟨true, []⟩).promise p).reactions at h
      rw [hp] at h
      split at h
      · cases h
      · exact h
    · rw [setPromise_of_length_le l hq] at h
      exact h

lemma mem_microtasks_reject {q : ℕ} {r : ρ} (h : r ∈ (l.reject q).microtasks) :
    r ∈ l.microtasks ∨ r ∈ l.reactions q := by
  unfold reject at h
  split at h
  · exact Or.inl h
  · exact List.mem_append.mp h

/-! ### Where a registered reaction is -/

/-- The reaction is registered on promise `p` and has not run: it waits while the promise
is pending, and is queued once the promise is rejected. -/
def Armed (l : EventLoop ρ) (p : ℕ) (r : ρ) : Prop :=
  (l.rejected p = false ∧ r ∈ l.reactions p) ∨ (l.rejected p = true ∧ r ∈ l.microtasks)

variable {l} {p : ℕ} {r : ρ}

lemma armed_register (hp : p < l.promises.length) : (l.register p r).Armed p r := by
  unfold Armed
  rw [rejected_register]
  by_cases h : l.rejected p
  · simp [register, h, enqueue]
  · simp [register, h, reactions, promise_setPromise l hp]

lemma Armed.newPromise (h : l.Armed p r) : l.newPromise.Armed p r := by
  simp only [Armed, reactions, rejected_newPromise, promise_newPromise]
  exact h

lemma Armed.enqueue (h : l.Armed p r) (r' : ρ) : (l.enqueue r').Armed p r := by
  rcases h with h | ⟨h, hm⟩
  · exact Or.inl h
  · exact Or.inr ⟨h, List.mem_append_left _ hm⟩

lemma Armed.register (h : l.Armed p r) (q : ℕ) (r' : ρ) : (l.register q r').Armed p r := by
  by_cases hrej : l.rejected q
  · simpa [EventLoop.register, hrej] using h.enqueue r'
  · have hreg : l.register q r' = l.setPromise q ⟨false, l.reactions q ++ [r']⟩ := by
      simp [EventLoop.register, hrej]
    rcases Nat.lt_or_ge q l.promises.length with hq | hq
    · rcases h with ⟨h, hr⟩ | ⟨h, hm⟩
      · refine Or.inl ⟨by rwa [rejected_register], ?_⟩
        rw [hreg, reactions, promise_setPromise l hq]
        split
        · rename_i hpq
          subst hpq
          exact List.mem_append_left _ hr
        · exact hr
      · refine Or.inr ⟨by rwa [rejected_register], ?_⟩
        rw [hreg]
        exact hm
    · rwa [hreg, setPromise_of_length_le l hq]

lemma Armed.reject (h : l.Armed p r) {q : ℕ} (hq : q < l.promises.length) :
    (l.reject q).Armed p r := by
  by_cases hrej : l.rejected q = true
  · simpa [EventLoop.reject, hrej] using h
  · have hrej' : l.rejected q = false := by simpa using hrej
    have hm' : (l.reject q).microtasks = l.microtasks ++ l.reactions q := by
      simp [EventLoop.reject, hrej']
    rcases h with ⟨h, hm⟩ | ⟨h, hm⟩
    · by_cases hpq : p = q
      · subst hpq
        refine Or.inr ⟨(rejected_reject l hq p).mpr (Or.inl rfl), ?_⟩
        rw [hm']
        exact List.mem_append_right _ hm
      · refine Or.inl ⟨?_, ?_⟩
        · rw [rejected, promise_reject l hq hrej', if_neg hpq]
          exact h
        · rw [reactions, promise_reject l hq hrej', if_neg hpq]
          exact hm
    · refine Or.inr ⟨(rejected_reject l hq p).mpr (Or.inr h), ?_⟩
      rw [hm']
      exact List.mem_append_left _ hm

/-- Running a microtask disarms that reaction only. -/
lemma Armed.next (h : l.Armed p r) {r' : ρ} {l' : EventLoop ρ} (hn : l.next = some (r', l')) :
    r = r' ∨ l'.Armed p r := by
  obtain ⟨hm, hps⟩ := next_eq_some l hn
  have hrej : l'.rejected p = l.rejected p := by simp [rejected, promise, hps]
  have hrea : l'.reactions p = l.reactions p := by simp [reactions, promise, hps]
  rcases h with h | ⟨h, hr⟩
  · exact Or.inr (Or.inl (by rwa [hrej, hrea]))
  · rw [hm, List.mem_cons] at hr
    rcases hr with rfl | hr
    · exact Or.inl rfl
    · exact Or.inr (Or.inr ⟨by rwa [hrej], hr⟩)

/-- Once the queue is empty, what is still registered waits for a pending promise. -/
lemma Armed.pending_of_quiescent (h : l.Armed p r) (hq : l.microtasks = []) :
    l.rejected p = false := by
  rcases h with h | ⟨-, h⟩
  · exact h.1
  · simp [hq] at h

end EventLoop
