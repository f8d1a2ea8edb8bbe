import Mathlib.Data.Fin.Tuple.Basic
import Mathlib.Data.Finite.Prod
import Mathlib.Data.Fintype.Pi
import Mathlib.Data.Nat.ModEq
import Mathlib.Dynamics.PeriodicPts.Lemmas

/-!
# Multiply-with-carry generators

The state is a queue of words below the base `b` and a carry below the multiplier `a`. A step multiplies
the oldest word, adds the carry, and splits the sum into a new word and a new carry. Steps can be undone,
so the generator returns to every state it has been in.
-/

namespace MultiplyWithCarry

/-- The words with the oldest one first -/
@[ext] structure State (a b r : ℕ) where
  words : Fin (r + 1) → Fin b
  carry : Fin a
deriving DecidableEq

variable {a b r : ℕ}

namespace State

def total (s : State a b r) : ℕ := a * s.words 0 + s.carry

lemma total_lt (s : State a b r) : s.total < a * b := by
  have hword : a * (s.words 0 + 1) ≤ a * b := Nat.mul_le_mul_left a (s.words 0).isLt
  have hcarry := s.carry.isLt
  rw [Nat.mul_add] at hword
  rw [total]
  omega

lemma base_pos (s : State a b r) : 0 < b := Nat.lt_of_le_of_lt (Nat.zero_le _) (s.words 0).isLt

/-- The word that a step puts at the end of the queue -/
def word (s : State a b r) : Fin b := ⟨s.total % b, Nat.mod_lt _ s.base_pos⟩

def next (s : State a b r) : State a b r where
  words := Fin.snoc (Fin.tail s.words) s.word
  carry := ⟨s.total / b, Nat.div_lt_of_lt_mul (Nat.mul_comm a b ▸ s.total_lt)⟩

lemma words_last (s : State a b r) : s.next.words (Fin.last r) = s.word :=
  Fin.snoc_last (α := fun _ => Fin b) s.word (Fin.tail s.words)

lemma words_castSucc (s : State a b r) (j : Fin r) : s.next.words j.castSucc = s.words j.succ :=
  Fin.snoc_castSucc (α := fun _ => Fin b) s.word (Fin.tail s.words) j

/-! ### Steps can be undone -/

/-- What the word that has gone was multiplied to -/
def undone (s : State a b r) : ℕ := s.carry * b + s.words (Fin.last r)

lemma undone_lt (s : State a b r) : s.undone < a * b := by
  have hcarry : (s.carry + 1) * b ≤ a * b := Nat.mul_le_mul_right b s.carry.isLt
  have hword := (s.words (Fin.last r)).isLt
  rw [Nat.add_mul] at hcarry
  rw [undone]
  omega

lemma multiplier_pos (s : State a b r) : 0 < a := Nat.lt_of_le_of_lt (Nat.zero_le _) s.carry.isLt

def prev (s : State a b r) : State a b r where
  words := Fin.cons ⟨s.undone / a, Nat.div_lt_of_lt_mul s.undone_lt⟩ (Fin.init s.words)
  carry := ⟨s.undone % a, Nat.mod_lt _ s.multiplier_pos⟩

lemma undone_next (s : State a b r) : s.next.undone = s.total := by
  rw [undone, words_last]
  exact Nat.div_add_mod' s.total b

lemma prev_next (s : State a b r) : s.next.prev = s := by
  have hcarry := s.carry.isLt
  ext i
  · refine Fin.cases ?_ (fun j => ?_) i
    · change s.next.undone / a = s.words 0
      rw [undone_next, total, Nat.mul_add_div s.multiplier_pos, Nat.div_eq_of_lt hcarry, Nat.add_zero]
    · change ((Fin.init (Fin.snoc (Fin.tail s.words) s.word : Fin (r + 1) → Fin b)) j : ℕ) = s.words j.succ
      rw [Fin.init_snoc]
      rfl
  · change s.next.undone % a = s.carry
    rw [undone_next, total, Nat.mul_add_mod, Nat.mod_eq_of_lt hcarry]

lemma next_injective : Function.Injective (next : State a b r → State a b r) :=
  Function.LeftInverse.injective prev_next

instance : Finite (State a b r) :=
  Finite.of_injective (fun s : State a b r => (s.words, s.carry)) fun s s' h => by
    cases s
    cases s'
    simpa using h

/-- The generator comes back. -/
lemma exists_return (s : State a b r) : ∃ n > 0, next^[n] s = s :=
  Function.mem_periodicPts.mp (next_injective.mem_periodicPts s)

/-! ### States that a step does not change -/

lemma next_eq_self {s : State a b r} (hnext : s.next = s) :
    (∀ i, s.words i = s.words 0) ∧ (s.words 0 : ℕ) * (a - 1) = s.carry * (b - 1) := by
  have hshift (j : Fin r) : s.words j.succ = s.words j.castSucc := by
    rw [← words_castSucc, hnext]
  have hsame (i : Fin (r + 1)) : s.words i = s.words 0 := by
    induction i using Fin.induction with
    | zero => rfl
    | succ j ih => rw [hshift, ih]
  refine ⟨hsame, ?_⟩
  have htotal := undone_next s
  rw [hnext, undone, total, hsame, Nat.mul_comm a] at htotal
  rw [Nat.mul_sub_one, Nat.mul_sub_one]
  omega

/-- With a coprime multiplier and base only the smallest and the largest state stay as they are. -/
lemma carry_of_next_eq_self (hcoprime : Nat.Coprime (a - 1) (b - 1)) {s : State a b r} (hnext : s.next = s) :
    (s.carry : ℕ) = 0 ∨ (s.carry : ℕ) = a - 1 := by
  obtain ⟨-, hproduct⟩ := next_eq_self hnext
  have hcarry := s.carry.isLt
  have hdvd : a - 1 ∣ s.carry := by
    refine hcoprime.dvd_of_dvd_mul_right ?_
    rw [← hproduct]
    exact Nat.dvd_mul_left _ _
  rcases Nat.eq_zero_or_pos (s.carry : ℕ) with hzero | hpos
  · exact Or.inl hzero
  · have hle := Nat.le_of_dvd hpos hdvd
    exact Or.inr (by omega)

/-! ### Words determine the state -/

lemma words_next (s : State a b r) {j : ℕ} (hj : j < r) :
    s.next.words ⟨j, by omega⟩ = s.words ⟨j + 1, by omega⟩ := words_castSucc s ⟨j, hj⟩

/-- A word of the queue is the one that came in some steps ago. -/
lemma words_iterate (s : State a b r) {k : ℕ} (hk : k ≤ r) (n : ℕ) :
    (next^[n + 1 + k] s).words ⟨r - k, by omega⟩ = (next^[n] s).word := by
  induction k with
  | zero =>
    rw [Nat.add_zero, Function.iterate_succ_apply', ← words_last]
    rfl
  | succ k ih =>
    rw [← Nat.add_assoc, Function.iterate_succ_apply', words_next _ (by omega), ← ih (by omega)]
    congr 2
    omega

/-- **The words of as many steps as the queue is long, and one more, determine the state.** -/
lemma eq_of_words (hle : a ≤ b) {s s' : State a b r}
    (hwords : ∀ n < r + 2, (next^[n] s).word = (next^[n] s').word) : s = s' := by
  have hqueue (i : Fin (r + 1)) : (next^[r + 1] s).words i = (next^[r + 1] s').words i := by
    have hi := i.isLt
    have hword (s : State a b r) : (next^[r + 1] s).words i = (next^[i] s).word := by
      have hiterate := words_iterate s (show r - i ≤ r by omega) i
      rw [show i + 1 + (r - i) = r + 1 by omega] at hiterate
      rw [← hiterate]
      congr 1
      exact Fin.ext (by change (i : ℕ) = r - (r - i); omega)
    rw [hword s, hword s', hwords i (by omega)]
  have hcarry : (next^[r + 1] s).carry = (next^[r + 1] s').carry := by
    have hlast := congrArg Fin.val (hwords (r + 1) (by omega))
    have hmod : (next^[r + 1] s).total ≡ (next^[r + 1] s').total [MOD b] := hlast
    rw [total, total, hqueue 0] at hmod
    have hlt := (next^[r + 1] s).carry.isLt
    have hlt' := (next^[r + 1] s').carry.isLt
    have hcancel := Nat.ModEq.add_left_cancel' _ hmod
    exact Fin.ext (hcancel.eq_of_lt_of_lt (by omega) (by omega))
  exact next_injective.iterate (r + 1) (State.ext (funext hqueue) hcarry)

end State

end MultiplyWithCarry
