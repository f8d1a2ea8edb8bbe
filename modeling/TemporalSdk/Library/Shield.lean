import Mathlib.Logic.Relation
import Mathlib.Tactic.Common

/-!
# Shielded propagation in a tree

A relation `parent a s` makes `a` the parent of `s`. Marks are put on some nodes and are
passed down. With shields, a mark comes through only if every node strictly in between is
open. Without them it reaches every descendant.
-/

namespace Shield

open Relation

variable {α : Type*} (parent : α → α → Prop) («open» : α → Prop) (marked : α → Prop)

/-- Everything strictly between `a` and its descendant `s` is open. -/
def Through (a s : α) : Prop :=
  a = s ∨ (TransGen parent a s ∧ ∀ b, TransGen parent a b → TransGen parent b s → «open» b)

/-- A mark reaches `s` when the nodes that are not open shield what is below them. -/
def ReachesShielded (s : α) : Prop := ∃ a, marked a ∧ Through parent «open» a s

/-- A mark reaches `s` when nothing is shielded. -/
def Reaches (s : α) : Prop := ∃ a, marked a ∧ ReflTransGen parent a s

variable {parent «open» marked}

lemma Through.reflTransGen {a s : α} (h : Through parent «open» a s) : ReflTransGen parent a s := by
  rcases h with rfl | ⟨h, -⟩
  · exact ReflTransGen.refl
  · exact h.to_reflTransGen

lemma ReachesShielded.reaches {s : α} (h : ReachesShielded parent «open» marked s) :
    Reaches parent marked s := by
  obtain ⟨a, ha, hthrough⟩ := h
  exact ⟨a, ha, hthrough.reflTransGen⟩

/-- Marks pass from a parent to its children. -/
lemma Reaches.child {a s : α} (h : Reaches parent marked a) (hs : parent a s) :
    Reaches parent marked s := by
  obtain ⟨b, hb, hpath⟩ := h
  exact ⟨b, hb, hpath.tail hs⟩

lemma Reaches.of_marked {a : α} (h : marked a) : Reaches parent marked a :=
  ⟨a, h, ReflTransGen.refl⟩

lemma Reaches.mono {parent' : α → α → Prop} {marked' : α → Prop} {s : α}
    (h : Reaches parent marked s) (hp : ∀ a b, parent a b → parent' a b)
    (hm : ∀ a, marked a → marked' a) : Reaches parent' marked' s := by
  obtain ⟨a, ha, hpath⟩ := h
  exact ⟨a, hm a ha, ReflTransGen.mono hp _ _ hpath⟩

/-- What holds of the marked nodes and passes from parents to children holds wherever a mark
reaches. -/
lemma Reaches.closed {P : α → Prop} (hmarked : ∀ a, marked a → P a)
    (hchild : ∀ a s, parent a s → P a → P s) {s : α} (h : Reaches parent marked s) : P s := by
  obtain ⟨a, ha, hpath⟩ := h
  induction hpath with
  | refl => exact hmarked a ha
  | tail _ hs ih => exact hchild _ _ hs ih

end Shield
