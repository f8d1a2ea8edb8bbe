import Mathlib.Data.List.Nodup
import Mathlib.Data.List.ReduceOption
import Mathlib.Tactic.Common

/-!
# Maps that are changed while they are iterated over

The records of a map in the order of insertion. A deletion leaves a gap, so that an iteration, which goes
by positions and reads the records again at each one, neither skips nor repeats what follows.
-/

structure LiveMap (κ α : Type*) where
  records : List (Option (κ × α))
  nodupKeys : (records.reduceOption.map Prod.fst).Nodup

namespace LiveMap

variable {κ α τ : Type*}

def entries (m : LiveMap κ α) : List (κ × α) := m.records.reduceOption

/-- No other entry has the key of an entry. -/
lemma ne_of_split {m : LiveMap κ α} {e : κ × α} {before after : List (κ × α)}
    (h : m.entries = before ++ e :: after) : ∀ e' ∈ before ++ after, e'.1 ≠ e.1 := by
  have hnodup := m.nodupKeys
  rw [entries] at h
  rw [h, List.map_append, List.map_cons] at hnodup
  have hnotMem : e.1 ∉ before.map Prod.fst ++ after.map Prod.fst :=
    (List.nodup_middle.mp hnodup).notMem
  intro e' he' heq
  rw [← List.map_append] at hnotMem
  exact hnotMem (heq ▸ List.mem_map_of_mem he')

variable [DecidableEq κ]

lemma reduceOption_filter (k : κ) (records : List (Option (κ × α))) :
    (records.map fun r => r.filter (·.1 ≠ k)).reduceOption =
      records.reduceOption.filter (·.1 ≠ k) := by
  induction records with
  | nil => rfl
  | cons r records ih =>
    cases r with
    | none => simpa using ih
    | some e =>
      rw [List.map_cons, List.reduceOption_cons_of_some]
      by_cases he : e.1 = k
      · rw [Option.filter_some_neg (by simp [he]), List.reduceOption_cons_of_none, ih,
          List.filter_cons_of_neg (by simp [he])]
      · rw [Option.filter_some_pos (by simp [he]), List.reduceOption_cons_of_some, ih,
          List.filter_cons_of_pos (by simp [he])]

def delete (m : LiveMap κ α) (k : κ) : LiveMap κ α where
  records := m.records.map fun r => r.filter (·.1 ≠ k)
  nodupKeys := by
    rw [reduceOption_filter]
    exact m.nodupKeys.sublist (List.filter_sublist.map _)

/-- The loop over the entries of the map that the state holds, from a position on. Nothing is returned
when it takes more steps than allowed. -/
def iterate (map : τ → LiveMap κ α) (body : τ → κ × α → τ) : ℕ → ℕ → τ → Option τ
  | 0, _, _ => none
  | fuel + 1, position, t =>
    match (map t).records[position]? with
    | none => some t
    | some none => iterate map body fuel (position + 1) t
    | some (some e) => iterate map body fuel (position + 1) (body t e)

lemma entries_delete (m : LiveMap κ α) (k : κ) : (m.delete k).entries = m.entries.filter (·.1 ≠ k) :=
  reduceOption_filter k m.records

lemma length_delete (m : LiveMap κ α) (k : κ) : (m.delete k).records.length = m.records.length :=
  List.length_map _

/-- An entry is taken out of the others. -/
lemma perm_delete {m : LiveMap κ α} {e : κ × α} (he : e ∈ m.entries) :
    (e :: (m.delete e.1).entries).Perm m.entries := by
  obtain ⟨before, after, h⟩ := List.append_of_mem he
  have hothers : (before ++ after).filter (·.1 ≠ e.1) = before ++ after :=
    List.filter_eq_self.mpr fun e' he' => decide_eq_true (ne_of_split h e' he')
  have hentries : (m.delete e.1).entries = before ++ after := by
    rw [entries_delete, h, List.filter_append, List.filter_cons_of_neg (by simp), ← List.filter_append,
      hothers]
  rw [hentries, h]
  exact List.perm_middle.symm

/-- The records after that of a deleted entry stay. -/
lemma drop_delete {m : LiveMap κ α} {e : κ × α} {position : ℕ}
    (he : m.records[position]? = some (some e)) :
    (m.delete e.1).records.drop (position + 1) = m.records.drop (position + 1) := by
  obtain ⟨hposition, hget⟩ := List.getElem?_eq_some_iff.mp he
  have hentries : m.entries = (m.records.take position).reduceOption ++
      e :: (m.records.drop (position + 1)).reduceOption := by
    rw [← List.reduceOption_cons_of_some, ← List.reduceOption_append, ← hget, List.getElem_cons_drop,
      List.take_append_drop, entries]
  have hother : ∀ r ∈ m.records.drop (position + 1), r.filter (·.1 ≠ e.1) = r := by
    intro r hr
    cases r with
    | none => rfl
    | some e' =>
      have he' : e' ∈ (m.records.drop (position + 1)).reduceOption := List.reduceOption_mem_iff.mpr hr
      have hne := ne_of_split hentries e' (List.mem_append_right _ he')
      exact Option.filter_some_pos (decide_eq_true hne)
  rw [delete, ← List.map_drop]
  exact (List.map_congr_left hother).trans (List.map_id' _)

variable {map : τ → LiveMap κ α} {body : τ → κ × α → τ}

/-- What is left of an iteration whose body deletes at most the entry it is at -/
lemma iterate_eq (hbody : ∀ t e, map (body t e) = map t ∨ map (body t e) = (map t).delete e.1)
    {fuel position : ℕ} {t : τ} (hfuel : (map t).records.length - position < fuel) :
    iterate map body fuel position t =
      some (((map t).records.drop position).reduceOption.foldl body t) := by
  induction fuel generalizing position t with
  | zero => exact absurd hfuel (Nat.not_lt_zero _)
  | succ fuel ih =>
    simp only [iterate]
    split
    · rename_i hend
      have hlength := List.getElem?_eq_none_iff.mp hend
      rw [List.drop_eq_nil_of_le hlength]
      rfl
    · rename_i hgap
      obtain ⟨hposition, hget⟩ := List.getElem?_eq_some_iff.mp hgap
      rw [ih (by omega), List.drop_eq_getElem_cons hposition, hget, List.reduceOption_cons_of_none]
    · rename_i e he
      obtain ⟨hposition, hget⟩ := List.getElem?_eq_some_iff.mp he
      have hrest : (map (body t e)).records.length = (map t).records.length ∧
          (map (body t e)).records.drop (position + 1) = (map t).records.drop (position + 1) := by
        rcases hbody t e with hsame | hdelete
        · rw [hsame]
          exact ⟨rfl, rfl⟩
        · rw [hdelete]
          exact ⟨length_delete _ _, drop_delete he⟩
      rw [ih (by omega), hrest.2, List.drop_eq_getElem_cons hposition, hget,
        List.reduceOption_cons_of_some, List.foldl_cons]

end LiveMap
