import Mathlib.Data.List.Basic
import Mathlib.Data.List.Nodup
import Mathlib.Order.Lattice
import Mathlib.Tactic.Common

/-!
# Numbered requests and their answers

A table gives out increasing numbers. A request can be stored under its number, to be found
again when an answer with that number comes in. The invariants of the table are fields, so
that an answer can only ever reach the one who made the request with its number, and once.
-/

/-- A number that has been given out, to whom, and whether the request was stored. -/
structure Request (ν ι : Type*) where
  number : ν
  issuer : ι
  stored : Bool

/-- `pending` has the requests that wait for their answers and `answered` those that have one, in the
order of the answers. -/
structure RequestTable (ν ι : Type*) [LinearOrder ν] where
  next : ν
  issued : List (Request ν ι)
  pending : ν → Option ι
  answered : List (ν × ι)
  increasing : (issued.map Request.number).Pairwise (· < ·)
  issued_lt : ∀ r ∈ issued, r.number < next
  issuers_nodup : (issued.map Request.issuer).Nodup
  answered_nodup : (answered.map Prod.fst).Nodup
  answered_issued : ∀ a ∈ answered, ⟨a.1, a.2, true⟩ ∈ issued
  pending_iff : ∀ q i, pending q = some i ↔ ⟨q, i, true⟩ ∈ issued ∧ q ∉ answered.map Prod.fst

namespace RequestTable

variable {ν ι : Type*} [LinearOrder ν]

/-- No number has been given out, and `next` is the first. -/
def empty (next : ν) : RequestTable ν ι where
  next := next
  issued := []
  pending _ := none
  answered := []
  increasing := List.Pairwise.nil
  issued_lt _ h := absurd h List.not_mem_nil
  issuers_nodup := List.nodup_nil
  answered_nodup := List.nodup_nil
  answered_issued _ h := absurd h List.not_mem_nil
  pending_iff _ _ := by simp

variable (t : RequestTable ν ι)

/-! ### To whom a number belongs -/

lemma eq_of_number_eq {r r' : Request ν ι} (hr : r ∈ t.issued) (hr' : r' ∈ t.issued)
    (h : r.number = r'.number) : r = r' :=
  List.inj_on_of_nodup_map t.increasing.nodup hr hr' h

lemma eq_of_issuer_eq {r r' : Request ν ι} (hr : r ∈ t.issued) (hr' : r' ∈ t.issued)
    (h : r.issuer = r'.issuer) : r = r' :=
  List.inj_on_of_nodup_map t.issuers_nodup hr hr' h

lemma issued_of_pending {q : ν} {i : ι} (h : t.pending q = some i) : ⟨q, i, true⟩ ∈ t.issued :=
  ((t.pending_iff q i).mp h).1

/-- Nobody gets two answers. -/
theorem answered_issuers_nodup : (t.answered.map Prod.snd).Nodup := by
  refine (List.nodup_map_iff_inj_on (List.Nodup.of_map Prod.fst t.answered_nodup)).mpr ?_
  intro a ha a' ha' h
  have hrequest : (⟨a.1, a.2, true⟩ : Request ν ι) = ⟨a'.1, a'.2, true⟩ :=
    t.eq_of_issuer_eq (t.answered_issued a ha) (t.answered_issued a' ha') h
  injection hrequest with hnumber
  exact Prod.ext hnumber h

/-! ### Giving out a number -/

/-- The number `next` is given out to `i`, who may store the request; `next'` comes next. -/
def issue (i : ι) (stored : Bool) (next' : ν) (hi : i ∉ t.issued.map Request.issuer)
    (hnext : t.next < next') : RequestTable ν ι where
  next := next'
  issued := t.issued ++ [⟨t.next, i, stored⟩]
  pending q := if stored = true ∧ q = t.next then some i else t.pending q
  answered := t.answered
  increasing := by
    rw [List.map_append, List.pairwise_append]
    refine ⟨t.increasing, List.pairwise_singleton _ _, ?_⟩
    intro q hq q' hq'
    obtain ⟨r, hr, rfl⟩ := List.mem_map.mp hq
    rw [List.mem_singleton.mp hq']
    exact t.issued_lt r hr
  issued_lt r hr := by
    rcases List.mem_append.mp hr with hr | hr
    · exact (t.issued_lt r hr).trans hnext
    · rw [List.mem_singleton.mp hr]
      exact hnext
  issuers_nodup := by
    rw [List.map_append, List.map_singleton, ← List.concat_eq_append]
    exact t.issuers_nodup.concat hi
  answered_nodup := t.answered_nodup
  answered_issued a ha := List.mem_append_left _ (t.answered_issued a ha)
  pending_iff q j := by
    have hfresh : t.next ∉ t.answered.map Prod.fst := by
      intro h
      obtain ⟨a, ha, hq⟩ := List.mem_map.mp h
      exact (t.issued_lt _ (t.answered_issued a ha)).ne hq
    have hnew : ∀ j, ⟨t.next, j, true⟩ ∉ t.issued := fun j h => (t.issued_lt _ h).ne rfl
    rw [List.mem_append, List.mem_singleton, Request.mk.injEq]
    by_cases h : stored = true ∧ q = t.next
    · obtain ⟨rfl, rfl⟩ := h
      simp only [and_self, if_true, Option.some.injEq, hnew j, false_or, true_and, and_true, hfresh,
        not_false_eq_true, eq_comm]
    · rw [if_neg h, t.pending_iff]
      constructor
      · exact fun ⟨hissued, hq⟩ => ⟨Or.inl hissued, hq⟩
      · rintro ⟨hissued | ⟨hq, -, hs⟩, hanswered⟩
        · exact ⟨hissued, hanswered⟩
        · exact absurd ⟨hs.symm, hq⟩ h

/-! ### An answer -/

/-- The answer with the number `q` comes in: the request that waits for it is taken. -/
def answer (q : ν) : RequestTable ν ι where
  next := t.next
  issued := t.issued
  pending q' := if q' = q then none else t.pending q'
  answered := t.answered ++ ((t.pending q).map (Prod.mk q)).toList
  increasing := t.increasing
  issued_lt := t.issued_lt
  issuers_nodup := t.issuers_nodup
  answered_nodup := by
    cases hq : t.pending q with
    | none => simpa using t.answered_nodup
    | some i =>
      rw [Option.map_some, Option.toList_some, List.map_append, List.map_singleton,
        ← List.concat_eq_append]
      exact t.answered_nodup.concat ((t.pending_iff q i).mp hq).2
  answered_issued a ha := by
    rcases List.mem_append.mp ha with ha | ha
    · exact t.answered_issued a ha
    · cases hq : t.pending q with
      | none => simp [hq] at ha
      | some i =>
        simp only [hq, Option.map_some, Option.toList_some, List.mem_singleton] at ha
        subst ha
        exact t.issued_of_pending hq
  pending_iff q' i := by
    have hanswered : q' ∈ (t.answered ++ ((t.pending q).map (Prod.mk q)).toList).map Prod.fst ↔
        q' ∈ t.answered.map Prod.fst ∨ (q' = q ∧ t.pending q ≠ none) := by
      cases hq : t.pending q <;> simp [or_comm, eq_comm]
    rw [hanswered]
    by_cases h : q' = q
    · subst h
      simp only [if_true, reduceCtorEq, false_iff, true_and, not_and, not_or, not_not]
      intro hissued hnot
      cases hq : t.pending q' with
      | none =>
        rw [(t.pending_iff q' i).mpr ⟨hissued, hnot⟩] at hq
        cases hq
      | some j => simp
    · simp only [h, if_false, false_and, or_false, t.pending_iff]

end RequestTable
