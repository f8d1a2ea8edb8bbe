import TemporalSdk.Library.Transition

/-!
# Simulation

A system is simulated by another one when each of its steps is one of the other's runs, which may be empty: each of
its runs is then a run of the other.
-/

namespace Transition

variable {σ τ ι κ : Type*} {step : σ → ι → Option σ} {spec : τ → κ → Option τ} {s s' : σ} {u u' : τ}

lemma run_append {inputs inputs' : List ι} (h : run step s inputs = some s') :
    run step s (inputs ++ inputs') = run step s' inputs' := by
  rw [run, List.foldlM_append]
  exact congrArg (Option.bind · _) h

/-- The states of the two systems that belong together -/
def Simulates (spec : τ → κ → Option τ) (step : σ → ι → Option σ) (R : σ → τ → Prop) : Prop :=
  ∀ s i s' u, R s u → step s i = some s' → ∃ js u', run spec u js = some u' ∧ R s' u'

theorem Simulates.run {R : σ → τ → Prop} {inputs : List ι} (h : Simulates spec step R) (hs : R s u)
    (hrun : Transition.run step s inputs = some s') :
    ∃ js u', Transition.run spec u js = some u' ∧ R s' u' := by
  induction inputs generalizing s u with
  | nil =>
    cases hrun
    exact ⟨[], u, rfl, hs⟩
  | cons i inputs ih =>
    obtain ⟨t, ht, hrest⟩ := run_cons_eq_some.mp hrun
    obtain ⟨js, v, hv, hR⟩ := h s i t u hs ht
    obtain ⟨js', w, hw, hR'⟩ := ih hR hrest
    exact ⟨js ++ js', w, (run_append hv).trans hw, hR'⟩

end Transition
