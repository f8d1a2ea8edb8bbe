import Mathlib.Algebra.Group.Nat.Defs
import Mathlib.Data.List.Basic
import Mathlib.Data.Nat.Init
import Mathlib.Tactic.Common

/-!
# Numbers written with a fixed number of digits

The digits of a number in a base up to 16, with zeroes in front.
-/

namespace PaddedDigits

/-- The digits of `n`, padded to the length `p` -/
def padded (b p n : ℕ) : List Char := (Nat.toDigits b n).leftpad p '0'

variable {b p n m : ℕ}

lemma padded_succ (hb : 1 < b) (hp : 0 < p) (n : ℕ) :
    padded b (p + 1) n = padded b p (n / b) ++ [Nat.digitChar (n % b)] := by
  unfold padded List.leftpad
  by_cases hn : n < b
  · have hp' : p - 1 + 1 = p := by omega
    rw [Nat.toDigits_of_lt_base hn, Nat.div_eq_of_lt hn, Nat.mod_eq_of_lt hn, Nat.toDigits_zero]
    simp only [List.length_singleton, Nat.add_sub_cancel]
    rw [← List.replicate_succ', hp']
  · rw [Nat.toDigits_of_base_le hb (Nat.le_of_not_lt hn), List.length_append, List.length_singleton,
      Nat.add_sub_add_right, List.append_assoc]

lemma length_padded (hb : 1 < b) (hp : 0 < p) (hn : n < b ^ p) : (padded b p n).length = p := by
  rw [padded, List.length_leftpad]
  exact Nat.max_eq_left ((Nat.length_toDigits_le_iff hb hp).mpr hn)

lemma div_lt_pow (hn : n < b ^ (p + 1)) : n / b < b ^ p :=
  Nat.div_lt_of_lt_mul (by rwa [Nat.pow_succ'] at hn)

/-- Every digit on its own -/
lemma padded_eq_map (hb : 1 < b) (hp : 0 < p) (hn : n < b ^ p) :
    padded b p n = (List.range p).reverse.map fun i => Nat.digitChar (n / b ^ i % b) := by
  induction p, hp using Nat.le_induction generalizing n with
  | base =>
    rw [Nat.pow_one] at hn
    simp [padded, List.leftpad, Nat.toDigits_of_lt_base hn, Nat.mod_eq_of_lt hn]
  | succ p hp ih =>
    rw [padded_succ hb hp, ih (div_lt_pow hn), List.range_succ_eq_map, List.reverse_cons, List.map_append]
    simp [Nat.div_div_eq_div_mul, Nat.pow_succ']

lemma digitChar_inj {d e : ℕ} (hd : d < 16) (he : e < 16) (h : d.digitChar = e.digitChar) : d = e := by
  have hall : ∀ d < 16, ∀ e < 16, d.digitChar = e.digitChar → d = e := by decide
  exact hall d hd e he h

/-- Numbers that fit are told apart by their digits. -/
lemma padded_inj (hb : 1 < b) (hb' : b ≤ 16) (hp : 0 < p) (hn : n < b ^ p) (hm : m < b ^ p) :
    padded b p n = padded b p m ↔ n = m := by
  refine ⟨fun h => ?_, fun h => h ▸ rfl⟩
  induction p, hp using Nat.le_induction generalizing n m with
  | base =>
    rw [Nat.pow_one] at hn hm
    simp only [padded, List.leftpad, Nat.toDigits_of_lt_base hn, Nat.toDigits_of_lt_base hm,
      List.length_singleton] at h
    exact digitChar_inj (by omega) (by omega) (by simpa using h)
  | succ p hp ih =>
    rw [padded_succ hb hp, padded_succ hb hp] at h
    obtain ⟨hdiv, hmod⟩ := List.append_inj' h rfl
    have hn' := Nat.mod_lt n (Nat.lt_trans Nat.zero_lt_one hb)
    have hm' := Nat.mod_lt m (Nat.lt_trans Nat.zero_lt_one hb)
    have hlast : n % b = m % b := digitChar_inj (by omega) (by omega) (by simpa using hmod)
    have hrest : n / b = m / b := ih (div_lt_pow hn) (div_lt_pow hm) hdiv
    rw [← Nat.div_add_mod n b, ← Nat.div_add_mod m b, hrest, hlast]

end PaddedDigits
