import Mathlib.Order.Basic
import Mathlib.Tactic.Common

/-!
# Passes that are repeated until one makes no progress

A pass over a state says how much it has done. It is repeated, and the counts are added up, until a
pass has done nothing. A measure that each pass with progress lowers bounds the number of passes.
-/

namespace Sweep

variable {σ : Type*} (pass : σ → σ × ℕ)

/-- At most so many passes -/
def loop : ℕ → σ → σ × ℕ
  | 0, s => (s, 0)
  | fuel + 1, s =>
    let r := pass s
    if r.2 = 0 then r
    else
      let t := loop fuel r.1
      (t.1, r.2 + t.2)

variable {pass} {s : σ}

/-- What every pass keeps holds at the end. -/
theorem loop_invariant {I : σ → Prop} (hpass : ∀ s, I s → I (pass s).1) (fuel : ℕ) (hs : I s) :
    I (loop pass fuel s).1 := by
  induction fuel generalizing s with
  | zero => exact hs
  | succ fuel ih =>
    simp only [loop]
    split
    · exact hpass s hs
    · exact ih (hpass s hs)

/-- With enough passes, the last one has made no progress. -/
theorem exists_last_pass (size : σ → ℕ) (hsize : ∀ s, (pass s).2 ≠ 0 → size (pass s).1 < size s)
    {fuel : ℕ} (hfuel : size s < fuel) :
    ∃ r, (pass r).2 = 0 ∧ (loop pass fuel s).1 = (pass r).1 := by
  induction fuel generalizing s with
  | zero => exact absurd hfuel (Nat.not_lt_zero _)
  | succ fuel ih =>
    simp only [loop]
    split
    · rename_i hzero
      exact ⟨s, hzero, rfl⟩
    · rename_i hprogress
      have hlt : size (pass s).1 < fuel :=
        Nat.lt_of_lt_of_le (hsize s hprogress) (Nat.le_of_lt_succ hfuel)
      exact ih hlt

/-- When nothing has been done, there was only the first pass. -/
theorem loop_of_eq_zero {fuel : ℕ} (h : (loop pass (fuel + 1) s).2 = 0) :
    (pass s).2 = 0 ∧ (loop pass (fuel + 1) s).1 = (pass s).1 := by
  simp only [loop] at h ⊢
  split
  · rename_i hzero
    exact ⟨hzero, rfl⟩
  · rename_i hprogress
    rw [if_neg hprogress] at h
    exact absurd (Nat.eq_zero_of_add_eq_zero_right h) hprogress

/-! ### Passes that may fail -/

/-- The state after the first pass that is done, if it takes at most so many passes and none of them
fails -/
def untilDone (pass : σ → Option σ) (done : σ → σ → Bool) : ℕ → σ → Option σ
  | 0, _ => none
  | fuel + 1, s =>
    match pass s with
    | none => none
    | some t => if done s t then some t else untilDone pass done fuel t

/-- Where passes do not fail and a measure goes down with each one that is not done, one is done, whatever
number of passes above the measure is allowed. -/
theorem untilDone_eq (done : σ → σ → Bool) {next : σ → σ} {I : σ → Prop} (size : σ → ℕ)
    (hnext : ∀ s, I s → done s (next s) = false → I (next s) ∧ size (next s) < size s) (hs : I s) :
    ∃ r, I r ∧ done r (next r) = true ∧
      ∀ pass fuel, (∀ s, I s → pass s = some (next s)) → size s < fuel →
        untilDone pass done fuel s = some (next r) := by
  induction hn : size s using Nat.strongRecOn generalizing s with
  | ind n ih =>
    subst hn
    cases hdone : done s (next s) with
    | true =>
      refine ⟨s, hs, hdone, fun pass fuel hpass hfuel => ?_⟩
      obtain ⟨fuel, rfl⟩ := Nat.exists_eq_add_of_lt hfuel
      simp only [untilDone, hpass s hs, hdone, if_true]
    | false =>
      obtain ⟨hI, hsize⟩ := hnext s hs hdone
      obtain ⟨r, hr, hrdone, hrun⟩ := ih _ hsize hI rfl
      refine ⟨r, hr, hrdone, fun pass fuel hpass hfuel => ?_⟩
      cases fuel with
      | zero => exact absurd hfuel (Nat.not_lt_zero _)
      | succ fuel =>
        simp only [untilDone, hpass s hs, hdone, Bool.false_eq_true, if_false]
        exact hrun pass fuel hpass (by omega)

/-- The two loops agree where their passes do and `count` adds up what a pass has done. -/
theorem loop_of_untilDone {τ : Type*} {pass : σ → σ × ℕ} {pass' : τ → Option τ} {count : τ → ℕ}
    {R : σ → τ → Prop}
    (hpass : ∀ s t u, R s t → pass' t = some u → R (pass s).1 u ∧ count u = count t + (pass s).2)
    {fuel : ℕ} {s : σ} {t u : τ} (hR : R s t)
    (h : untilDone pass' (fun t u => count t == count u) fuel t = some u) :
    R (loop pass fuel s).1 u ∧ count u = count t + (loop pass fuel s).2 := by
  induction fuel generalizing s t with
  | zero => cases h
  | succ fuel ih =>
    simp only [untilDone] at h
    split at h
    · cases h
    · rename_i v hv
      obtain ⟨hR', hcount⟩ := hpass s t v hR hv
      simp only [loop]
      by_cases hzero : (pass s).2 = 0
      · have hdone : (count t == count v) = true := by simp [hcount, hzero]
        rw [if_pos hdone] at h
        cases h
        rw [if_pos hzero]
        exact ⟨hR', hcount⟩
      · have hdone : ¬(count t == count v) = true := by simp [hcount, hzero]
        rw [if_neg hdone] at h
        obtain ⟨hrest, hsum⟩ := ih hR' h
        rw [if_neg hzero]
        exact ⟨hrest, by omega⟩

end Sweep
