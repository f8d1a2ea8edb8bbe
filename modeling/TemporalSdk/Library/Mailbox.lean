import Mathlib.Data.List.Perm.Basic
import Mathlib.Tactic.Common

/-!
# Mailboxes with an order for each key

Messages arrive, wait, and are handed over. The three lists are in order of time. No message
is lost or handed over twice, and those of one key are handed over in the order in which they
arrived.
-/

namespace Mailbox

variable {α κ : Type*} [DecidableEq κ]

structure Fifo (key : α → κ) (handed waiting arrived : List α) : Prop where
  perm : (handed ++ waiting).Perm arrived
  order : ∀ k, (handed ++ waiting).filter (key · = k) = arrived.filter (key · = k)

variable {key : α → κ} {handed waiting before after arrived : List α} {x : α}

lemma Fifo.nil : Fifo key [] [] [] := ⟨List.Perm.refl _, fun _ => rfl⟩

/-- A message arrives and waits. -/
lemma Fifo.enqueue (h : Fifo key handed waiting arrived) (x : α) :
    Fifo key handed (waiting ++ [x]) (arrived ++ [x]) where
  perm := by
    rw [← List.append_assoc]
    exact h.perm.append_right [x]
  order k := by
    rw [← List.append_assoc, List.filter_append, h.order k, ← List.filter_append]

/-- The first message of its key that waits is handed over. -/
lemma Fifo.take (h : Fifo key handed (before ++ x :: after) arrived)
    (hx : ∀ y ∈ before, key y ≠ key x) : Fifo key (handed ++ [x]) (before ++ after) arrived where
  perm := by
    refine List.Perm.trans ?_ h.perm
    rw [List.append_assoc]
    refine List.Perm.append_left handed ?_
    simpa using (List.perm_middle (a := x)).symm
  order k := by
    rw [← h.order k]
    simp only [List.filter_append, List.append_assoc]
    congr 1
    by_cases hk : key x = k
    · have hbefore : before.filter (key · = k) = [] := by
        rw [List.filter_eq_nil_iff]
        intro y hy
        simpa [hk] using hx y hy
      simp [hbefore, hk]
    · simp [hk]

/-- A message that nothing of its key waits before is handed over as it arrives. -/
lemma Fifo.handOver (h : Fifo key handed waiting arrived) (hx : ∀ y ∈ waiting, key y ≠ key x) :
    Fifo key (handed ++ [x]) waiting (arrived ++ [x]) := by
  simpa using (h.enqueue x).take hx

end Mailbox
