import Mathlib.Data.List.Basic
import Mathlib.Tactic.Common

/-!
# Merged streams

A subscription to the merge of several streams: it fails with the first stream that fails and
completes when all of them have completed, and it signals nothing after that.
-/

/-- The streams that have not completed, and whether the merge has failed, completed or been
unsubscribed from. -/
structure Merge (ι : Type*) where
  live : List ι
  ended : Bool

namespace Merge

variable {ι : Type*} [DecidableEq ι] (m : Merge ι) (i : ι)

def subscribe (streams : List ι) : Merge ι := ⟨streams, streams.isEmpty⟩

def unsubscribe : Merge ι := { m with ended := true }

/-- A stream completes. Does the merge complete? -/
def complete : Merge ι × Bool :=
  if m.ended || !m.live.contains i then (m, false)
  else
    let live := m.live.erase i
    (⟨live, live.isEmpty⟩, live.isEmpty)

/-- A stream fails. Does the merge fail? -/
def fail : Merge ι × Bool :=
  if m.ended || !m.live.contains i then (m, false) else (m.unsubscribe, true)

lemma complete_of_ended (h : m.ended = true) : m.complete i = (m, false) := by
  simp [complete, h]

lemma fail_of_ended (h : m.ended = true) : m.fail i = (m, false) := by
  simp [fail, h]

/-- A merge that completes had not ended, and has. -/
lemma complete_eq_true (h : (m.complete i).2 = true) :
    m.ended = false ∧ (m.complete i).1.ended = true ∧ ∀ j ∈ m.live, j = i := by
  unfold complete at h ⊢
  split at h
  · cases h
  · rename_i hlive
    have hended : m.ended = false := by
      cases hm : m.ended with
      | false => rfl
      | true => simp [hm] at hlive
    have hempty : m.live.erase i = [] := by simpa using h
    refine ⟨hended, ?_, ?_⟩
    · rw [if_neg hlive]
      exact h
    · intro j hj
      by_contra hne
      have hmem : j ∈ m.live.erase i := (List.mem_erase_of_ne hne).mpr hj
      rw [hempty] at hmem
      cases hmem

/-- A merge that does not complete ends no more than it had, and keeps the other streams. -/
lemma complete_eq_false (h : (m.complete i).2 = false) :
    (m.complete i).1.ended = m.ended ∧ ∀ j, j ≠ i → j ∈ m.live → j ∈ (m.complete i).1.live := by
  unfold complete at h ⊢
  split
  · exact ⟨rfl, fun j _ hj => hj⟩
  · rename_i hlive
    rw [if_neg hlive] at h
    have hended : m.ended = false := by
      cases hm : m.ended with
      | false => rfl
      | true => simp [hm] at hlive
    refine ⟨?_, ?_⟩
    · rw [hended]
      exact h
    · intro j hne hj
      exact (List.mem_erase_of_ne hne).mpr hj

lemma fail_eq_true (h : (m.fail i).2 = true) : m.ended = false ∧ (m.fail i).1.ended = true := by
  unfold fail at h ⊢
  split at h
  · cases h
  · rename_i hlive
    refine ⟨?_, ?_⟩
    · cases hm : m.ended with
      | false => rfl
      | true => simp [hm] at hlive
    · rw [if_neg hlive]
      rfl

end Merge
