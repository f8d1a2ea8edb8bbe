import Mathlib.Data.Int.Log
import Mathlib.Data.Rat.Floor
import Mathlib.Tactic.Linarith
import Mathlib.Tactic.NormNum
import Mathlib.Tactic.Positivity

/-!
# Doubles

The value of a finite double is a rational, and an operation rounds its exact value to 53 bits, to the
even one of two neighbours that are as close. Magnitudes at which doubles overflow or lose bits to
underflow are not covered.
-/

namespace Double

/-- The nearest integer, and the even one in the middle of two -/
def roundEven (q : ℚ) : ℤ :=
  if q - ⌊q⌋ < 1 / 2 then ⌊q⌋
  else if 1 / 2 < q - ⌊q⌋ then ⌊q⌋ + 1
  else if ⌊q⌋ % 2 = 0 then ⌊q⌋
  else ⌊q⌋ + 1

/-- The exponent of the last one of 53 bits -/
def exponent (x : ℚ) : ℤ := Int.log 2 |x| - 52

def round (x : ℚ) : ℚ := if x = 0 then 0 else roundEven (x / 2 ^ exponent x) * 2 ^ exponent x

lemma roundEven_of_close {q : ℚ} {m : ℤ} (hlow : (m : ℚ) ≤ q) (hhigh : q - m < 1 / 2) : roundEven q = m := by
  have hfloor : ⌊q⌋ = m := Int.floor_eq_iff.mpr ⟨hlow, by linarith⟩
  rw [roundEven, hfloor, if_pos hhigh]

lemma roundEven_intCast (m : ℤ) : roundEven m = m :=
  roundEven_of_close le_rfl (by rw [sub_self]; norm_num)

/-- A number of at most 53 bits is not rounded. -/
lemma round_exact {m : ℤ} (hm : |m| < 2 ^ 53) (k : ℤ) : round (m * 2 ^ k) = m * 2 ^ k := by
  unfold round
  split
  · rename_i hzero
    exact hzero.symm
  rename_i hx
  have hm0 : m ≠ 0 := by
    rintro rfl
    exact hx (by rw [Int.cast_zero, zero_mul])
  have htwo : (0 : ℚ) < 2 ^ k := zpow_pos two_pos k
  have habs : |(m : ℚ) * 2 ^ k| = |m| * 2 ^ k := by rw [abs_mul, abs_of_pos htwo, Int.cast_abs]
  have hpos : 0 < |(m : ℚ) * 2 ^ k| := abs_pos.mpr hx
  have hlog : exponent (m * 2 ^ k) ≤ k := by
    have hbound : |(m : ℚ) * 2 ^ k| < ((2 : ℕ) : ℚ) ^ (k + 53) := by
      have hcast : ((|m| : ℤ) : ℚ) < 2 ^ 53 := by exact_mod_cast hm
      rw [habs, Nat.cast_ofNat, zpow_add₀ (by norm_num), mul_comm]
      exact mul_lt_mul_of_pos_left (by exact_mod_cast hcast) htwo
    have hlt := (Int.lt_zpow_iff_log_lt one_lt_two hpos).mp hbound
    unfold exponent
    omega
  obtain ⟨n, hn⟩ := Int.eq_ofNat_of_zero_le (sub_nonneg.mpr hlog)
  have hquotient : (m : ℚ) * 2 ^ k / 2 ^ exponent (m * 2 ^ k) = ((m * 2 ^ n : ℤ) : ℚ) := by
    rw [mul_div_assoc, ← zpow_sub₀ (by norm_num), hn, zpow_natCast]
    push_cast
    rfl
  rw [hquotient, roundEven_intCast, ← hquotient, div_mul_cancel₀ _ (zpow_pos two_pos _).ne']

/-- A number just above one of 53 bits is rounded to it. -/
lemma round_of_close {x : ℚ} {m k : ℤ} (hm : 2 ^ 52 ≤ m ∧ m < 2 ^ 53) (hlow : (m : ℚ) * 2 ^ k ≤ x)
    (hhigh : x < (m + 1 / 2) * 2 ^ k) : round x = m * 2 ^ k := by
  have htwo : (0 : ℚ) < 2 ^ k := zpow_pos two_pos k
  have hm52 : (2 : ℚ) ^ 52 ≤ m := by exact_mod_cast hm.1
  have hm53 : (m : ℚ) + 1 ≤ 2 ^ 53 := by exact_mod_cast hm.2
  have hpos : 0 < x := lt_of_lt_of_le (mul_pos (lt_of_lt_of_le (by positivity) hm52) htwo) hlow
  have hexponent : exponent x = k := by
    have hle : k + 52 ≤ Int.log 2 x := by
      refine (Int.zpow_le_iff_le_log one_lt_two hpos).mp (le_trans ?_ hlow)
      rw [Nat.cast_ofNat, zpow_add₀ (by norm_num), mul_comm]
      exact mul_le_mul_of_nonneg_right (by exact_mod_cast hm52) htwo.le
    have hlt : Int.log 2 x < k + 53 := by
      refine (Int.lt_zpow_iff_log_lt one_lt_two hpos).mp (lt_of_lt_of_le hhigh ?_)
      rw [Nat.cast_ofNat, zpow_add₀ (by norm_num), mul_comm ((2 : ℚ) ^ k)]
      refine mul_le_mul_of_nonneg_right ?_ htwo.le
      have hcast : ((2 : ℚ) ^ (53 : ℤ)) = 2 ^ 53 := by norm_num
      rw [hcast]
      linarith
    rw [exponent, abs_of_pos hpos]
    omega
  rw [round, if_neg hpos.ne', hexponent]
  rw [roundEven_of_close ((le_div_iff₀ htwo).mpr hlow)]
  rw [sub_lt_iff_lt_add, div_lt_iff₀ htwo, add_comm]
  exact hhigh

end Double
