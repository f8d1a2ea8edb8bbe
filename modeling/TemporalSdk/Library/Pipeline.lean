import Mathlib.Data.List.Forall2
import Mathlib.Tactic.Common

/-!
# Pipelines of fallible stages

A value is fed through a list of stages, each of which can fail. A pipeline keeps what its
stages keep, and a pipeline of inverse stages in the opposite order undoes it. A stage that is run
over a list keeps of the list what it keeps of each element, and is undone where it is undone on
each element.
-/

namespace Pipeline

variable {ε α : Type*}

lemma bind_eq_ok {β : Type*} {x : Except ε α} {f : α → Except ε β} {b : β} :
    x.bind f = .ok b ↔ ∃ a, x = .ok a ∧ f a = .ok b := by
  cases x with
  | error err => simp [Except.bind]
  | ok a => simp [Except.bind]

/-- Feed a value through every stage, first stage first. -/
def feed (stages : List (α → Except ε α)) (x : α) : Except ε α :=
  stages.foldlM (fun x stage => stage x) x

lemma feed_cons (stage : α → Except ε α) (stages : List (α → Except ε α)) (x : α) :
    feed (stage :: stages) x = (stage x).bind (feed stages) := rfl

lemma feed_append (xs ys : List (α → Except ε α)) (x : α) :
    feed (xs ++ ys) x = (feed xs x).bind (feed ys) := by
  unfold feed
  rw [List.foldlM_append]
  rfl

/-- Stages that succeed on the values with a property and keep it make a pipeline that does. -/
theorem feed_invariant {P : α → Prop} {stages : List (α → Except ε α)}
    (h : ∀ stage ∈ stages, ∀ x, P x → ∃ y, stage x = .ok y ∧ P y) {x : α} (hx : P x) :
    ∃ y, feed stages x = .ok y ∧ P y := by
  induction stages generalizing x with
  | nil => exact ⟨x, rfl, hx⟩
  | cons stage stages ih =>
    obtain ⟨y, hy, hPy⟩ := h stage (by simp) x hx
    obtain ⟨z, hz, hPz⟩ := ih (fun s hs => h s (by simp [hs])) hPy
    refine ⟨z, ?_, hPz⟩
    rw [feed_cons, hy]
    exact hz

/-- If the second stage of each pair undoes the first, the second stages in the opposite order
undo the first ones. -/
theorem feed_undo {κ : Type*} (forward backward : κ → α → Except ε α) {keys : List κ}
    (h : ∀ k ∈ keys, ∀ x, ∃ y, forward k x = .ok y ∧ backward k y = .ok x) (x : α) :
    ∃ y, feed (keys.map forward) x = .ok y ∧ feed (keys.reverse.map backward) y = .ok x := by
  induction keys generalizing x with
  | nil => exact ⟨x, rfl, rfl⟩
  | cons k keys ih =>
    obtain ⟨y, hy, hback⟩ := h k (by simp) x
    obtain ⟨z, hz, hundo⟩ := ih (fun k' hk' => h k' (by simp [hk'])) y
    refine ⟨z, ?_, ?_⟩
    · rw [List.map_cons, feed_cons, hy]
      exact hz
    · rw [List.reverse_cons, List.map_append, feed_append, hundo]
      exact (congrArg (fun r => Except.bind r (feed [])) hback)

section Lists

variable {β γ : Type*} {f : α → Except ε β} {xs : List α}

theorem exists_mapM {R : α → β → Prop} (h : ∀ x ∈ xs, ∃ y, f x = .ok y ∧ R x y) :
    ∃ ys, xs.mapM f = .ok ys ∧ List.Forall₂ R xs ys := by
  induction xs with
  | nil => exact ⟨[], rfl, List.Forall₂.nil⟩
  | cons x xs ih =>
    obtain ⟨y, hy, hR⟩ := h x (by simp)
    obtain ⟨ys, hys, hRs⟩ := ih (fun x' hx' => h x' (by simp [hx']))
    refine ⟨y :: ys, ?_, List.Forall₂.cons hR hRs⟩
    rw [List.mapM_cons, hy, hys]
    rfl

/-- A list that goes through has gone through element by element. -/
theorem exists_of_mapM_ok {ys : List β} (h : xs.mapM f = .ok ys) {x : α} (hx : x ∈ xs) :
    ∃ y ∈ ys, f x = .ok y := by
  induction xs generalizing ys with
  | nil => cases hx
  | cons x' xs ih =>
    rw [List.mapM_cons] at h
    cases hx' : f x' with
    | error e =>
      rw [hx'] at h
      cases h
    | ok y =>
      cases hxs : xs.mapM f with
      | error e =>
        rw [hx', hxs] at h
        cases h
      | ok ys' =>
        rw [hx', hxs] at h
        obtain rfl := Except.ok.inj h
        rcases List.mem_cons.mp hx with rfl | hmem
        · exact ⟨y, by simp, hx'⟩
        · obtain ⟨y', hy', hfy⟩ := ih hxs hmem
          exact ⟨y', by simp [hy'], hfy⟩

/-- A list that does not go through stops at one of its elements. -/
theorem exists_of_mapM_error {e : ε} (h : xs.mapM f = .error e) : ∃ x ∈ xs, f x = .error e := by
  induction xs with
  | nil => cases h
  | cons x xs ih =>
    rw [List.mapM_cons] at h
    cases hx : f x with
    | error e' =>
      rw [hx] at h
      obtain rfl := Except.error.inj h
      exact ⟨x, by simp, hx⟩
    | ok y =>
      cases hxs : xs.mapM f with
      | error e' =>
        rw [hx, hxs] at h
        obtain rfl := Except.error.inj h
        obtain ⟨x', hx', he⟩ := ih hxs
        exact ⟨x', by simp [hx'], he⟩
      | ok ys =>
        rw [hx, hxs] at h
        cases h

/-- If each result means what its element means, so do the lists. -/
theorem mapM_keeps {m : α → γ} {m' : β → γ} (h : ∀ x ∈ xs, ∃ y, f x = .ok y ∧ m' y = m x) :
    ∃ ys, xs.mapM f = .ok ys ∧ ys.map m' = xs.map m := by
  obtain ⟨ys, hys, hm⟩ := exists_mapM h
  refine ⟨ys, hys, ?_⟩
  clear hys h
  induction hm with
  | nil => rfl
  | cons hm _ ih => rw [List.map_cons, List.map_cons, hm, ih]

/-- If each result is taken back to its element, so are the lists. -/
theorem mapM_undo {g : β → Except ε α} (h : ∀ x ∈ xs, ∃ y, f x = .ok y ∧ g y = .ok x) :
    ∃ ys, xs.mapM f = .ok ys ∧ ys.mapM g = .ok xs := by
  obtain ⟨ys, hys, hg⟩ := exists_mapM h
  refine ⟨ys, hys, ?_⟩
  clear hys h
  induction hg with
  | nil => rfl
  | cons hg _ ih =>
    rw [List.mapM_cons, hg, ih]
    rfl

end Lists

end Pipeline
