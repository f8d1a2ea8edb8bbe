import Mathlib.Data.List.AList
import Mathlib.Tactic.Common

/-!
# Maps that keep the order of insertion

`AList` with the update of a JavaScript `Map`: a new key goes to the end, a present key
keeps its place.
-/

abbrev OrderedMap (κ : Type*) (α : Type*) := AList (fun _ : κ => α)

namespace OrderedMap

variable {κ α : Type*} [DecidableEq κ] (m : OrderedMap κ α)

def set (k : κ) (v : α) : OrderedMap κ α :=
  if h : k ∈ m then m.replace k v
  else ⟨m.entries ++ [⟨k, v⟩], by
    have hkeys : (m.entries ++ [(⟨k, v⟩ : Σ _ : κ, α)]).keys = m.keys ++ [k] := by
      simp [AList.keys, List.keys]
    rw [List.NodupKeys, hkeys, ← List.concat_eq_append]
    exact m.keys_nodup.concat h⟩

lemma mem_set {k k' : κ} {v : α} : k' ∈ set m k v ↔ k' = k ∨ k' ∈ m := by
  unfold set
  split
  · rename_i h
    rw [AList.mem_replace]
    constructor
    · exact Or.inr
    · rintro (rfl | h')
      · exact h
      · exact h'
  · rw [AList.mem_mk, AList.mem_keys, AList.keys]
    simp [List.keys, or_comm]

lemma dlookup_kreplace (k k' : κ) (v : α) {l : List (Σ _ : κ, α)} (h : k ∈ l.keys) :
    (l.kreplace k v).dlookup k' = if k' = k then some v else l.dlookup k' := by
  induction l with
  | nil => simp [List.keys] at h
  | cons x l ih =>
    obtain ⟨a, b⟩ := x
    by_cases hx : k = a
    · subst hx
      rw [List.kreplace, List.lookmap_cons_some _ _ (b := ⟨k, v⟩) (by simp)]
      by_cases hk : k' = k
      · subst hk
        simp
      · rw [List.dlookup_cons_ne _ _ hk, List.dlookup_cons_ne _ _ hk, if_neg hk]
    · rw [List.kreplace, List.lookmap_cons_none _ _ (by simp [hx])]
      by_cases hk : k' = a
      · subst hk
        simp [Ne.symm hx]
      · rw [List.dlookup_cons_ne _ _ hk, List.dlookup_cons_ne _ _ hk]
        exact ih (by simpa [List.keys, hx] using h)

lemma lookup_set (k k' : κ) (v : α) :
    (set m k v).lookup k' = if k' = k then some v else m.lookup k' := by
  unfold set
  split
  · rename_i h
    have hk : k ∈ m.entries.keys := h
    exact dlookup_kreplace k k' v hk
  · rename_i h
    simp only [AList.lookup, List.dlookup_append]
    by_cases hk : k' = k
    · subst hk
      have hnone : m.entries.dlookup k' = none := List.dlookup_eq_none.mpr h
      simp [hnone, List.dlookup_cons_eq]
    · rw [List.dlookup_cons_ne _ _ hk]
      simp [hk]

lemma length_erase {k : κ} (h : k ∈ m) : (m.erase k).entries.length + 1 = m.entries.length := by
  have hkeys : ∀ m : OrderedMap κ α, m.entries.length = m.keys.length := by
    intro m
    simp [AList.keys, List.keys]
  rw [hkeys, hkeys, AList.keys_erase, List.length_erase_add_one h]

lemma erase_of_notMem {m : OrderedMap κ α} {k : κ} (h : k ∉ m) : m.erase k = m :=
  AList.ext (List.kerase_of_notMem_keys h)

lemma kerase_eq_filter (k : κ) {l : List (Σ _ : κ, α)} (h : l.NodupKeys) :
    l.kerase k = l.filter (·.1 ≠ k) := by
  induction l with
  | nil => rfl
  | cons e l ih =>
    have hl := (List.nodupKeys_cons.mp h).2
    by_cases hk : k = e.1
    · have hnotMem : k ∉ l.keys := hk ▸ (List.nodupKeys_cons.mp h).1
      rw [List.kerase_cons_eq hk, List.filter_cons_of_neg (by simp [hk]), ← ih hl,
        List.kerase_of_notMem_keys hnotMem]
    · rw [List.kerase_cons_ne hk, List.filter_cons_of_pos (by simp [Ne.symm hk]), ih hl]

lemma entries_erase (k : κ) : (m.erase k).entries = m.entries.filter (·.1 ≠ k) :=
  kerase_eq_filter k m.nodupKeys

/-- Nothing is taken from the map of a family that has nothing under the key. -/
lemma update_erase_of_notMem {β : Type*} [DecidableEq β] {f : β → OrderedMap κ α} {b : β} {k : κ}
    (h : k ∉ f b) : Function.update f b ((f b).erase k) = f := by
  rw [erase_of_notMem h, Function.update_eq_self]

/-- All entries of the source, as `Object.assign` copies them -/
def assign (target source : OrderedMap κ α) : OrderedMap κ α :=
  source.entries.foldl (fun target e => set target e.1 e.2) target

lemma lookup_foldl_set (k : κ) {l : List (Σ _ : κ, α)} (h : l.NodupKeys) :
    (l.foldl (fun target e => set target e.1 e.2) m).lookup k = (l.dlookup k).or (m.lookup k) := by
  induction l generalizing m with
  | nil => rfl
  | cons e l ih =>
    obtain ⟨a, b⟩ := e
    rw [List.nodupKeys_cons] at h
    rw [List.foldl_cons, ih (set m a b) h.2, lookup_set]
    by_cases hk : k = a
    · subst hk
      have hnone : l.dlookup k = none := List.dlookup_eq_none.mpr h.1
      simp [hnone]
    · rw [List.dlookup_cons_ne _ _ hk, if_neg hk]

lemma lookup_assign (source : OrderedMap κ α) (k : κ) :
    (assign m source).lookup k = (source.lookup k).or (m.lookup k) :=
  lookup_foldl_set m k source.nodupKeys

def eraseAll (keys : List κ) : OrderedMap κ α := keys.foldl (fun m k => m.erase k) m

lemma lookup_eraseAll (keys : List κ) (k : κ) :
    (eraseAll m keys).lookup k = if k ∈ keys then none else m.lookup k := by
  induction keys generalizing m with
  | nil => simp [eraseAll]
  | cons a keys ih =>
    have hcons : eraseAll m (a :: keys) = eraseAll (m.erase a) keys := rfl
    rw [hcons, ih]
    by_cases hk : k = a
    · subst hk
      simp
    · simp [hk]

end OrderedMap
