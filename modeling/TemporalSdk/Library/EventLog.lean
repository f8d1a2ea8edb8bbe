import Mathlib.Data.List.Induction
import Mathlib.Tactic.Common

/-!
# Logs in which every event is allowed by the events before it

A property of a whole run that speaks about the order of events is a relation `allowed`
between what has been logged so far and the next event.
-/

namespace EventLog

variable {ε : Type*} {allowed : List ε → ε → Prop}

/-- Each event of the log is allowed after the events that precede it. -/
def Admissible (allowed : List ε → ε → Prop) (log : List ε) : Prop :=
  ∀ before e after, log = before ++ e :: after → allowed before e

@[simp] lemma admissible_nil : Admissible allowed [] := by
  intro before e after h
  simp at h

lemma admissible_concat {log : List ε} {e : ε} :
    Admissible allowed (log ++ [e]) ↔ Admissible allowed log ∧ allowed log e := by
  constructor
  · intro h
    refine ⟨fun before e' after he => ?_, h log e [] rfl⟩
    exact h before e' (after ++ [e]) (by simp [he])
  · rintro ⟨hlog, he⟩ before e' after h
    rcases List.eq_nil_or_concat after with rfl | ⟨after, e'', rfl⟩
    · obtain ⟨rfl, heq⟩ := List.append_inj' h rfl
      cases heq
      exact he
    · have h' : log ++ [e] = (before ++ e' :: after) ++ [e''] := by simpa using h
      obtain ⟨rfl, -⟩ := List.append_inj' h' rfl
      exact hlog before e' after rfl

lemma Admissible.of_append {xs ys : List ε} (h : Admissible allowed (xs ++ ys)) :
    Admissible allowed xs := by
  intro before e after he
  exact h before e (after ++ ys) (by simp [he])

/-- Events about which the relation says nothing may be added anywhere. -/
lemma Admissible.append_of_forall {xs ys : List ε} (h : Admissible allowed xs)
    (hys : ∀ e ∈ ys, ∀ before, allowed before e) : Admissible allowed (xs ++ ys) := by
  induction ys using List.reverseRecOn with
  | nil => simpa using h
  | append_singleton ys e ih =>
    rw [← List.append_assoc]
    refine admissible_concat.mpr ⟨ih fun e' he' => hys e' (by simp [he']), hys e (by simp) _⟩

end EventLog
