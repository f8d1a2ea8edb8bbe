import Mathlib.Data.List.Sort
import Mathlib.Tactic.Common

/-!
# Priority queues

A priority queue is known by its operations and by the elements that it holds. Elements that are taken out one
after the other come in the order of their keys, and before those that are left.
-/

/-- The operations of a priority queue of type `Q`. Which of several least elements is popped is not said. -/
structure PriorityQueue (Q : Type*) {α β : Type*} [LinearOrder β] (key : α → β) where
  empty : Q
  add : α → Q → Q
  pop : Q → Option (α × Q)
  elements : Q → List α
  elements_empty : elements empty = []
  elements_add : ∀ x q, (elements (add x q)).Perm (x :: elements q)
  pop_eq_none : ∀ q, pop q = none → elements q = []
  elements_pop : ∀ q x q', pop q = some (x, q') → (elements q).Perm (x :: elements q')
  pop_le : ∀ q x q', pop q = some (x, q') → ∀ y ∈ elements q', key x ≤ key y

namespace PriorityQueue

variable {Q α β : Type*} [LinearOrder β] {key : α → β} (queue : PriorityQueue Q key)

/-- Take up to `n` elements out. -/
def take : ℕ → Q → List α × Q
  | 0, q => ([], q)
  | n + 1, q =>
    match queue.pop q with
    | none => ([], q)
    | some (x, q') => (x :: (take n q').1, (take n q').2)

def size (q : Q) : ℕ := (queue.elements q).length

variable {queue}

lemma take_of_pop_eq_none {q : Q} (h : queue.pop q = none) (n : ℕ) : queue.take n q = ([], q) := by
  cases n with
  | zero => rfl
  | succ n => rw [take, h]

lemma take_succ_of_pop {q q' : Q} {x : α} (h : queue.pop q = some (x, q')) (n : ℕ) :
    queue.take (n + 1) q = (x :: (queue.take n q').1, (queue.take n q').2) := by rw [take, h]

variable (queue)

/-- No element is lost or added. -/
theorem elements_take (n : ℕ) (q : Q) :
    (queue.elements q).Perm ((queue.take n q).1 ++ queue.elements (queue.take n q).2) := by
  induction n generalizing q with
  | zero => exact .refl _
  | succ n ih =>
    cases hpop : queue.pop q with
    | none =>
      rw [take_of_pop_eq_none hpop]
      exact .refl _
    | some popped =>
      rw [take_succ_of_pop hpop]
      exact (queue.elements_pop _ _ _ hpop).trans ((ih popped.2).cons popped.1)

/-- The elements come in order, -/
theorem pairwise_take (n : ℕ) (q : Q) : (queue.take n q).1.Pairwise fun x y => key x ≤ key y := by
  induction n generalizing q with
  | zero => exact .nil
  | succ n ih =>
    cases hpop : queue.pop q with
    | none =>
      rw [take_of_pop_eq_none hpop]
      exact .nil
    | some popped =>
      rw [take_succ_of_pop hpop]
      refine .cons (fun y hy => ?_) (ih popped.2)
      exact queue.pop_le _ _ _ hpop y ((queue.elements_take n popped.2).mem_iff.mpr (List.mem_append_left _ hy))

/-- and before those that are left. -/
theorem take_le (n : ℕ) (q : Q) :
    ∀ x ∈ (queue.take n q).1, ∀ y ∈ queue.elements (queue.take n q).2, key x ≤ key y := by
  induction n generalizing q with
  | zero => exact fun _ hx => by cases hx
  | succ n ih =>
    cases hpop : queue.pop q with
    | none =>
      rw [take_of_pop_eq_none hpop]
      exact fun _ hx => by cases hx
    | some popped =>
      rw [take_succ_of_pop hpop]
      intro x hx y hy
      rcases List.mem_cons.mp hx with rfl | hx
      · exact queue.pop_le _ _ _ hpop y ((queue.elements_take n popped.2).mem_iff.mpr (List.mem_append_right _ hy))
      · exact ih popped.2 x hx y hy

variable {queue}

lemma elements_take_of_size_le {n : ℕ} {q : Q} (h : queue.size q ≤ n) :
    queue.elements (queue.take n q).2 = [] := by
  induction n generalizing q with
  | zero => exact List.length_eq_zero_iff.mp (Nat.le_zero.mp h)
  | succ n ih =>
    cases hpop : queue.pop q with
    | none =>
      rw [take_of_pop_eq_none hpop]
      exact queue.pop_eq_none q hpop
    | some popped =>
      rw [take_succ_of_pop hpop]
      apply ih
      have hlength := (queue.elements_pop _ _ _ hpop).length_eq
      rw [List.length_cons] at hlength
      unfold size at h ⊢
      omega

/-- Lists in the order of the keys are a priority queue. -/
def sorted (key : α → β) : PriorityQueue {l : List α // l.Pairwise fun x y => key x ≤ key y} key :=
  have : Std.Total fun x y => key x ≤ key y := ⟨fun x y => le_total (key x) (key y)⟩
  have : IsTrans α fun x y => key x ≤ key y := ⟨fun _ _ _ => le_trans⟩
  { empty := ⟨[], .nil⟩
    add x q := ⟨q.1.orderedInsert (fun x y => key x ≤ key y) x, q.2.orderedInsert x q.1⟩
    pop q :=
      match q with
      | ⟨[], _⟩ => none
      | ⟨x :: l, h⟩ => some (x, ⟨l, h.of_cons⟩)
    elements := Subtype.val
    elements_empty := rfl
    elements_add x q := List.perm_orderedInsert _ x q.1
    pop_eq_none := fun
      | ⟨[], _⟩, _ => rfl
    elements_pop := fun
      | ⟨_ :: _, _⟩, _, _, rfl => .refl _
    pop_le := fun
      | ⟨_ :: _, h⟩, _, _, rfl => (List.pairwise_cons.mp h).1 }

end PriorityQueue
