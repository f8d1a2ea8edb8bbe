import Mathlib.Data.List.Basic
import Mathlib.Order.Basic
import Mathlib.Tactic.Common

/-!
# Runs of partial step functions

A system is a step function `σ → ι → Option σ`: `none` means that the environment does
not offer this input in this state. A run feeds a list of inputs, in order. This file has
the induction rules for runs: what every step keeps, also of the inputs that led to the state, and
what the steps that meet a condition keep.
-/

namespace Transition

variable {σ ι : Type*} {step : σ → ι → Option σ} {s t : σ} {inputs : List ι}

/-- The state after a list of inputs, when each of them is offered. -/
def run (step : σ → ι → Option σ) (s : σ) (inputs : List ι) : Option σ :=
  inputs.foldlM step s

@[simp] lemma run_nil : run step s [] = some s := rfl

lemma run_cons (i : ι) : run step s (i :: inputs) = (step s i).bind (run step · inputs) := rfl

lemma run_cons_eq_some {i : ι} :
    run step s (i :: inputs) = some t ↔ ∃ u, step s i = some u ∧ run step u inputs = some t := by
  rw [run_cons, Option.bind_eq_some_iff]

/-- What holds at the start and is kept by every step holds at the end of every run. -/
theorem invariant {I : σ → Prop} (hstep : ∀ s i t, I s → step s i = some t → I t)
    (hs : I s) (h : run step s inputs = some t) : I t := by
  induction inputs generalizing s with
  | nil =>
    cases h
    exact hs
  | cons i inputs ih =>
    obtain ⟨u, hu, ht⟩ := run_cons_eq_some.mp h
    exact ih (hstep s i u hs hu) ht

/-- What holds of the state and the inputs that led to it, before any input and after each step, holds at the end of
every run. -/
theorem invariant_of_inputs {I : List ι → σ → Prop}
    (hstep : ∀ before s i t, I before s → step s i = some t → I (before ++ [i]) t)
    (hs : I [] s) (h : run step s inputs = some t) : I inputs t := by
  have hrun : ∀ inputs before s, I before s → run step s inputs = some t → I (before ++ inputs) t := by
    intro inputs
    induction inputs with
    | nil =>
      intro before s hs h
      cases h
      rwa [List.append_nil]
    | cons i inputs ih =>
      intro before s hs h
      obtain ⟨u, hu, ht⟩ := run_cons_eq_some.mp h
      have hrest := ih (before ++ [i]) u (hstep before s i u hs hu) ht
      rwa [List.append_assoc] at hrest
  exact hrun inputs [] s hs h

/-- Every input of the run is fed in a state in which it meets the condition. -/
def Meets (step : σ → ι → Option σ) (C : σ → ι → Prop) : σ → List ι → Prop
  | _, [] => True
  | s, i :: inputs => C s i ∧ ∀ t, step s i = some t → Meets step C t inputs

variable {C : σ → ι → Prop}

instance decidableMeets [∀ s i, Decidable (C s i)] : ∀ s inputs, Decidable (Meets step C s inputs)
  | _, [] => .isTrue trivial
  | s, i :: inputs =>
    match hstep : step s i with
    | none => decidable_of_iff (C s i) (by simp [Meets, hstep])
    | some t =>
      have : Decidable (Meets step C t inputs) := decidableMeets t inputs
      decidable_of_iff (C s i ∧ Meets step C t inputs) (by simp [Meets, hstep])

theorem invariant_of_meets {I : σ → Prop}
    (hstep : ∀ s i t, I s → C s i → step s i = some t → I t)
    (hs : I s) (hC : Meets step C s inputs) (h : run step s inputs = some t) : I t := by
  induction inputs generalizing s with
  | nil =>
    cases h
    exact hs
  | cons i inputs ih =>
    obtain ⟨u, hu, ht⟩ := run_cons_eq_some.mp h
    exact ih (hstep s i u hs hC.1 hu) (hC.2 u hu) ht

/-- If the steps that meet the condition keep `I`, and one that does not leads from `I` into
`B`, which no step leaves, then a run ends in `I` or in `B` according to the condition. -/
theorem meets_or_broken {I B : σ → Prop}
    (hgood : ∀ s i t, I s → C s i → step s i = some t → I t)
    (hbad : ∀ s i t, I s → ¬C s i → step s i = some t → B t)
    (hstuck : ∀ s i t, B s → step s i = some t → B t)
    (hs : I s) (h : run step s inputs = some t) :
    (Meets step C s inputs ∧ I t) ∨ (¬Meets step C s inputs ∧ B t) := by
  induction inputs generalizing s with
  | nil =>
    cases h
    exact Or.inl ⟨trivial, hs⟩
  | cons i inputs ih =>
    obtain ⟨u, hu, ht⟩ := run_cons_eq_some.mp h
    by_cases hC : C s i
    · have hmeets : Meets step C s (i :: inputs) ↔ Meets step C u inputs := by
        simp only [Meets, hC, true_and, hu, Option.some.injEq, forall_eq']
      rw [hmeets]
      exact ih (hgood s i u hs hC hu) ht
    · exact Or.inr ⟨fun hm => hC hm.1, invariant hstuck (hbad s i u hs hC hu) ht⟩

/-- The property holds in the state reached after each initial part of the inputs. -/
def Throughout (step : σ → ι → Option σ) (P : σ → Prop) (s : σ) (inputs : List ι) : Prop :=
  ∀ xs, xs <+: inputs → ∀ t, run step s xs = some t → P t

lemma throughout_cons {P : σ → Prop} {i : ι} {u : σ} (hu : step s i = some u) :
    Throughout step P s (i :: inputs) ↔ P s ∧ Throughout step P u inputs := by
  constructor
  · intro h
    refine ⟨h [] (List.nil_prefix) s rfl, fun xs hxs t ht => ?_⟩
    refine h (i :: xs) (List.cons_prefix_cons.mpr ⟨rfl, hxs⟩) t ?_
    rw [run_cons, hu]
    exact ht
  · rintro ⟨hP, h⟩ xs hxs t ht
    cases xs with
    | nil =>
      cases ht
      exact hP
    | cons j xs =>
      obtain ⟨rfl, hxs'⟩ := List.cons_prefix_cons.mp hxs
      obtain ⟨v, hv, ht'⟩ := run_cons_eq_some.mp ht
      rw [hu] at hv
      cases hv
      exact h xs hxs' t ht'

/-- When `I` gives the property and is kept by the steps that meet the condition, the property holds
throughout the runs that meet it. -/
theorem throughout_of_meets {I P : σ → Prop} (hP : ∀ s, I s → P s)
    (hstep : ∀ s i t, I s → C s i → step s i = some t → I t)
    (hs : I s) (hC : Meets step C s inputs) : Throughout step P s inputs := by
  induction inputs generalizing s with
  | nil =>
    intro xs hxs t ht
    rw [List.prefix_nil] at hxs
    subst hxs
    cases ht
    exact hP s hs
  | cons i inputs ih =>
    cases hu : step s i with
    | some u =>
      rw [throughout_cons hu]
      exact ⟨hP s hs, ih (hstep s i u hs hC.1 hu) (hC.2 u hu)⟩
    | none =>
      intro xs hxs t ht
      cases xs with
      | nil =>
        cases ht
        exact hP s hs
      | cons j xs =>
        obtain ⟨rfl, -⟩ := List.cons_prefix_cons.mp hxs
        rw [run_cons, hu] at ht
        cases ht

/-- When `I` gives the property, is kept by the steps that meet the condition, and a step
that does not meet it ends outside the property, the two are the same for whole runs. -/
theorem throughout_iff_meets {I P : σ → Prop} (hP : ∀ s, I s → P s)
    (hgood : ∀ s i t, I s → C s i → step s i = some t → I t)
    (hbad : ∀ s i t, I s → ¬C s i → step s i = some t → ¬P t)
    (hs : I s) (h : run step s inputs = some t) :
    Throughout step P s inputs ↔ Meets step C s inputs := by
  induction inputs generalizing s with
  | nil =>
    simp only [Meets, iff_true]
    intro xs hxs u hu
    rw [List.prefix_nil] at hxs
    subst hxs
    cases hu
    exact hP s hs
  | cons i inputs ih =>
    obtain ⟨u, hu, ht⟩ := run_cons_eq_some.mp h
    rw [throughout_cons hu]
    simp only [Meets, hu, Option.some.injEq, forall_eq']
    by_cases hC : C s i
    · simp only [hC, true_and, hP s hs, ih (hgood s i u hs hC hu) ht]
    · simp only [hC, false_and, iff_false]
      rintro ⟨-, hu'⟩
      exact hbad s i u hs hC hu (hu' [] List.nil_prefix u rfl)

/-- Conditions that are the same for the steps from states in which `I` holds, which all steps keep, are met by
the same runs. -/
theorem meets_congr {I : σ → Prop} {D : σ → ι → Prop} (hstep : ∀ s i t, I s → step s i = some t → I t)
    (hiff : ∀ s i t, I s → step s i = some t → (C s i ↔ D s i)) (hs : I s) (h : run step s inputs = some t) :
    Meets step C s inputs ↔ Meets step D s inputs := by
  induction inputs generalizing s with
  | nil => exact Iff.rfl
  | cons i inputs ih =>
    obtain ⟨u, hu, ht⟩ := run_cons_eq_some.mp h
    simp only [Meets, hu, Option.some.injEq, forall_eq']
    rw [hiff s i u hs hu, ih (hstep s i u hs hu) ht]

end Transition
