import Mathlib.Algebra.BigOperators.Group.Finset.Basic
import Mathlib.Data.Set.Card
import Mathlib.Logic.Function.Basic
import Mathlib.Tactic.Ring
import TemporalSdk.Library.Transition

/-!
# Families of independent systems

One copy of a system for each key; an input names the key whose copy takes it.
-/

namespace Keyed

variable {κ σ ι : Type*} [DecidableEq κ]

def step (step : σ → ι → Option σ) (s : κ → σ) (i : κ × ι) : Option (κ → σ) :=
  (step (s i.1) i.2).map (Function.update s i.1)

/-- The inputs for one key, in order. -/
def inputsOf (k : κ) (inputs : List (κ × ι)) : List ι :=
  inputs.filterMap fun i => if i.1 = k then some i.2 else none

variable {f : σ → ι → Option σ} {s t : κ → σ} {inputs : List (κ × ι)}

lemma step_eq_some {i : κ × ι} :
    step f s i = some t ↔ ∃ u, f (s i.1) i.2 = some u ∧ Function.update s i.1 u = t := by
  rw [step, Option.map_eq_some_iff]

/-- A run of the family is a run of each copy on its own inputs. -/
theorem run_component (h : Transition.run (step f) s inputs = some t) (k : κ) :
    Transition.run f (s k) (inputsOf k inputs) = some (t k) := by
  induction inputs generalizing s with
  | nil =>
    cases h
    rfl
  | cons i inputs ih =>
    obtain ⟨u, hu, ht⟩ := Transition.run_cons_eq_some.mp h
    obtain ⟨v, hv, rfl⟩ := step_eq_some.mp hu
    have hrun := ih ht
    by_cases hk : i.1 = k
    · subst hk
      rw [Function.update_self] at hrun
      have hinputs : inputsOf i.1 (i :: inputs) = i.2 :: inputsOf i.1 inputs := by
        simp [inputsOf]
      rw [hinputs]
      exact Transition.run_cons_eq_some.mpr ⟨v, hv, hrun⟩
    · rw [Function.update_of_ne (Ne.symm hk)] at hrun
      have hinputs : inputsOf k (i :: inputs) = inputsOf k inputs := by
        simp [inputsOf, hk]
      rw [hinputs]
      exact hrun

/-- A measure summed over all keys, when one copy makes a step. -/
lemma sum_update {M : Type*} [AddCommMonoid M] [Fintype κ] (f : σ → M) (s : κ → σ) (k : κ) (u : σ) :
    ∑ x, f (Function.update s k u x) + f (s k) = ∑ x, f (s x) + f u := by
  have hrest : ∑ x ∈ Finset.univ.erase k, f (Function.update s k u x) =
      ∑ x ∈ Finset.univ.erase k, f (s x) := by
    refine Finset.sum_congr rfl fun x hx => ?_
    rw [Function.update_of_ne (Finset.ne_of_mem_erase hx)]
  rw [← Finset.add_sum_erase _ _ (Finset.mem_univ k), ← Finset.add_sum_erase _ _ (Finset.mem_univ k),
    hrest, Function.update_self, add_comm (f u), add_assoc, add_comm (f u), ← add_assoc,
    add_comm _ (f (s k))]

/-- A measure summed over the keys in use, when one copy makes a step. -/
lemma sum_insert_update {M : Type*} [AddCommGroup M] (f : σ → M) (s : κ → σ) (keys : Finset κ) (k : κ)
    (u : σ) (h : k ∉ keys → f (s k) = 0) :
    ∑ x ∈ insert k keys, f (Function.update s k u x) = ∑ x ∈ keys, f (s x) - f (s k) + f u := by
  have hrest : ∑ x ∈ keys.erase k, f (Function.update s k u x) = ∑ x ∈ keys.erase k, f (s x) := by
    refine Finset.sum_congr rfl fun x hx => ?_
    rw [Function.update_of_ne (Finset.ne_of_mem_erase hx)]
  have herase : ∑ x ∈ keys.erase k, f (s x) = ∑ x ∈ keys, f (s x) - f (s k) := by
    by_cases hk : k ∈ keys
    · exact Finset.sum_erase_eq_sub hk
    · rw [Finset.erase_eq_of_notMem hk, h hk, sub_zero]
  have hkeys : insert k (keys.erase k) = insert k keys := by
    rw [← Finset.erase_insert_eq_erase, Finset.insert_erase (Finset.mem_insert_self k keys)]
  rw [← hkeys, Finset.sum_insert (Finset.notMem_erase k keys), hrest, herase,
    Function.update_self, add_comm]

/-- The number of copies with a property, when one copy makes a step. -/
lemma ncard_update (p : σ → Bool) (s : κ → σ) (k : κ) (u : σ) (h : Set.Finite {x | p (s x) = true}) :
    Set.Finite {x | p (Function.update s k u x) = true} ∧
      (Set.ncard {x | p (Function.update s k u x) = true} : ℤ) =
        Set.ncard {x | p (s x) = true} - (p (s k)).toInt + (p u).toInt := by
  have hrest : {x | p (Function.update s k u x) = true} \ {k} = {x | p (s x) = true} \ {k} := by
    ext x
    by_cases hx : x = k
    · simp [hx]
    · simp [hx]
  have hfinite : Set.Finite {x | p (Function.update s k u x) = true} := by
    refine Set.Finite.subset (h.union (Set.finite_singleton k)) ?_
    intro x hx
    by_cases hxk : x = k
    · exact Or.inr hxk
    · rw [Set.mem_ofPred_eq, Function.update_of_ne hxk] at hx
      exact Or.inl hx
  have hcount {A : Set κ} (hA : A.Finite) {b : Bool} (hb : k ∈ A ↔ b = true) :
      (A.ncard : ℤ) = (A \ {k}).ncard + b.toInt := by
    cases b with
    | true => rw [← Set.ncard_sdiff_singleton_add_one (hb.mpr rfl) hA, Nat.cast_add, Nat.cast_one, Bool.toInt_true]
    | false =>
      have hk : k ∉ A := fun hk => Bool.false_ne_true (hb.mp hk)
      rw [Set.sdiff_singleton_eq_self hk, Bool.toInt_false, add_zero]
  have hbefore := hcount h (b := p (s k)) Iff.rfl
  have hafter := hcount hfinite (b := p u) (by rw [Set.mem_ofPred_eq, Function.update_self])
  rw [hrest] at hafter
  exact ⟨hfinite, by rw [hafter, hbefore]; ring⟩

/-- The number of entries with a property of what their keys have, when one key gets something
else. -/
lemma countP_update {α β : Type*} {l : List (κ × α)} (hnodup : (l.map Prod.fst).Nodup) {k : κ} {a : α}
    (hmem : (k, a) ∈ l) (f : κ → β) (b : β) (p : α → β → Bool) :
    (l.countP fun e => p e.2 (Function.update f k b e.1)) + (p a (f k)).toNat =
      (l.countP fun e => p e.2 (f e.1)) + (p a b).toNat := by
  obtain ⟨before, after, rfl⟩ := List.append_of_mem hmem
  rw [List.map_append, List.map_cons] at hnodup
  have hother : ∀ e ∈ before ++ after, e.1 ≠ k := by
    intro e he heq
    have hnotMem := (List.nodup_middle.mp hnodup).notMem
    rw [← List.map_append] at hnotMem
    exact hnotMem (List.mem_map.mpr ⟨e, he, heq⟩)
  have hsame (es : List (κ × α)) (hes : ∀ e ∈ es, e ∈ before ++ after) :
      (es.countP fun e => p e.2 (Function.update f k b e.1)) = es.countP fun e => p e.2 (f e.1) := by
    refine List.countP_congr fun e he => ?_
    rw [Function.update_of_ne (hother e (hes e he))]
  rw [List.countP_append, List.countP_append, List.countP_cons, List.countP_cons,
    hsame before fun e he => List.mem_append_left _ he,
    hsame after fun e he => List.mem_append_right _ he, Function.update_self]
  cases p a (f k) <;> cases p a b <;> simp <;> omega

end Keyed
