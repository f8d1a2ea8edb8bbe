import Mathlib.Data.List.Basic
import Mathlib.Tactic.Common

/-!
# Programs with finalizers

What a program has done and how it ended. A finalizer runs however its body has ended, and an error of the
finalizer takes the place of one of the body.
-/

structure Completion (φ ε α : Type*) where
  effects : List φ
  result : Except ε α

namespace Completion

variable {φ ε α : Type*}

def perform (effect : φ) (result : Except ε α) : Completion φ ε α := ⟨[effect], result⟩

def skip : Completion φ ε Unit := ⟨[], .ok ()⟩

def andThen (first : Completion φ ε Unit) (next : Completion φ ε α) : Completion φ ε α :=
  match first.result with
  | .ok _ => ⟨first.effects ++ next.effects, next.result⟩
  | .error e => ⟨first.effects, .error e⟩

def tryFinally (body : Completion φ ε α) (finalizer : Completion φ ε Unit) : Completion φ ε α where
  effects := body.effects ++ finalizer.effects
  result :=
    match finalizer.result with
    | .ok _ => body.result
    | .error e => .error e

variable {first finalizer : Completion φ ε Unit} {next body : Completion φ ε α}

lemma andThen_of_ok (h : first.result = .ok ()) :
    first.andThen next = ⟨first.effects ++ next.effects, next.result⟩ := by
  simp only [andThen, h]

lemma andThen_of_error {e : ε} (h : first.result = .error e) :
    first.andThen next = ⟨first.effects, .error e⟩ := by
  simp only [andThen, h]

/-- An effect of the second program stands behind a first one that has not failed. -/
lemma mem_andThen {effect : φ} :
    effect ∈ (first.andThen next).effects ↔
      effect ∈ first.effects ∨ (first.result = .ok () ∧ effect ∈ next.effects) := by
  cases h : first.result with
  | ok value => simp [andThen_of_ok h]
  | error e => simp [andThen_of_error h]

lemma andThen_eq_ok {value : α} :
    (first.andThen next).result = .ok value ↔ first.result = .ok () ∧ next.result = .ok value := by
  cases h : first.result with
  | ok value => simp [andThen_of_ok h]
  | error e => simp [andThen_of_error h]

lemma andThen_eq_error {e : ε} :
    (first.andThen next).result = .error e ↔
      first.result = .error e ∨ (first.result = .ok () ∧ next.result = .error e) := by
  cases h : first.result with
  | ok value => simp [andThen_of_ok h]
  | error e => simp [andThen_of_error h]

/-- The error of the finalizer is the one that is left. -/
lemma tryFinally_eq_error {e : ε} :
    (tryFinally body finalizer).result = .error e ↔
      finalizer.result = .error e ∨ (finalizer.result = .ok () ∧ body.result = .error e) := by
  cases h : finalizer.result with
  | ok value => simp [tryFinally, h]
  | error e => simp [tryFinally, h]

lemma tryFinally_eq_ok {value : α} :
    (tryFinally body finalizer).result = .ok value ↔
      finalizer.result = .ok () ∧ body.result = .ok value := by
  cases h : finalizer.result with
  | ok value => simp [tryFinally, h]
  | error e => simp [tryFinally, h]

end Completion
