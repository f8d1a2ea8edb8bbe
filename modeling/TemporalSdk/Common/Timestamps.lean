import Mathlib.Tactic.Linarith
import Mathlib.Tactic.NormNum
import TemporalSdk.Common.Time

/-!
# Timestamps and milliseconds

Which timestamps a number of milliseconds gives back, and which numbers a timestamp gives back.
-/

namespace TemporalSdk

/-- Seconds and nanoseconds, in nanoseconds -/
def Timestamp.nanoseconds (ts : Timestamp) : ℚ := ts.seconds * 1000000000 + ts.nanos

/-- A whole number of milliseconds that is not negative -/
structure Timestamp.WholeMillis (ts : Timestamp) : Prop where
  seconds_nonneg : 0 ≤ ts.seconds
  seconds_lt : ts.seconds < 2 ^ 63
  nanos : ∃ k : ℕ, k < 1000 ∧ ts.nanos = k * 1000000

/-- The timestamp in milliseconds -/
def Timestamp.millis (ts : Timestamp) : ℚ := ts.nanoseconds / 1000000

/-- A number has the milliseconds of the timestamp exactly. -/
def Timestamp.Exact (ts : Timestamp) : Prop := tsToMs ts = .finite ts.millis

instance (ts : Timestamp) : Decidable ts.Exact :=
  inferInstanceAs (Decidable (tsToMs ts = .finite ts.millis))

namespace Timestamp

variable {ts : Timestamp}

lemma WholeMillis.exists_millis (hts : ts.WholeMillis) :
    ∃ k : ℕ, k < 1000 ∧ ts.nanos = k * 1000000 ∧
      ts.millis = ((ts.seconds * 1000 + k : ℤ) : ℚ) := by
  obtain ⟨k, hk, hnanos⟩ := hts.nanos
  refine ⟨k, hk, hnanos, ?_⟩
  unfold millis nanoseconds
  rw [hnanos]
  push_cast
  ring

/-- Converting a timestamp to a number and back gives it back. -/
lemma msNumberToTs_millis (hts : ts.WholeMillis) : msNumberToTs (.finite ts.millis) = .ok ts := by
  obtain ⟨k, hk, hnanos, hmillis⟩ := hts.exists_millis
  have hseconds := hts.seconds_nonneg
  have hlt := hts.seconds_lt
  have hdiv : ts.millis / 1000 = ts.seconds + (k : ℚ) / 1000 := by
    rw [hmillis]
    push_cast
    ring
  have hk0 : (0 : ℚ) ≤ (k : ℚ) / 1000 := by positivity
  have hk1 : (k : ℚ) / 1000 < 1 := by
    rw [div_lt_one (by norm_num)]
    exact_mod_cast hk
  have hfloor : (ts.millis / 1000).floor = ts.seconds := by
    rw [hdiv]
    change ⌊(ts.seconds : ℚ) + k / 1000⌋ = ts.seconds
    rw [Int.floor_eq_iff]
    constructor <;> linarith
  have hnonneg : 0 ≤ ts.millis / 1000 := by
    rw [hdiv]
    have : (0 : ℚ) ≤ ts.seconds := by exact_mod_cast hseconds
    linarith
  have hlong : longFromNumber ts.seconds = ts.seconds := by
    unfold longFromNumber
    omega
  have hremainder : jsRemainder ts.millis 1000 = k := by
    unfold jsRemainder
    simp only
    rw [if_pos hnonneg, hfloor, hmillis]
    push_cast
    ring
  rw [msNumberToTs, hfloor, hlong, hremainder, ← hnanos]

lemma msNumberToTs_tsToMs (hts : ts.WholeMillis) (hexact : ts.Exact) :
    msNumberToTs (tsToMs ts) = .ok ts := by
  rw [hexact]
  exact msNumberToTs_millis hts

lemma msToTs_tsToMs (parseMs : String → Option JsNumber) (hts : ts.WholeMillis) (hexact : ts.Exact) :
    msToTs parseMs (.number (tsToMs ts)) = .ok ts :=
  msNumberToTs_tsToMs hts hexact

/-- Numbers below `2 ^ 53` are exact. -/
lemma WholeMillis.exact (hts : ts.WholeMillis) (hlt : ts.millis < 2 ^ 53) : ts.Exact := by
  obtain ⟨k, hk, hnanos, hmillis⟩ := hts.exists_millis
  have hseconds := hts.seconds_nonneg
  have htotal : ts.seconds * 1000 + k < 2 ^ 53 := by
    rw [hmillis] at hlt
    exact_mod_cast hlt
  have hfloor : (ts.nanos / 1000000).floor = k := by
    rw [hnanos, mul_div_cancel_right₀ _ (by norm_num)]
    exact Rat.floor_intCast k
  have hwrap : ∀ n : ℤ, 0 ≤ n → n < 2 ^ 53 → longWrap n = n := by
    intro n h0 h1
    unfold longWrap
    rw [Int.bmod_eq_of_le] <;> omega
  have hproduct : longWrap (ts.seconds * 1000) = ts.seconds * 1000 := hwrap _ (by omega) (by omega)
  have hsum : longWrap (ts.seconds * 1000 + k) = ts.seconds * 1000 + k := hwrap _ (by omega) htotal
  have hexact : longToNumber (ts.seconds * 1000 + k) = ts.seconds * 1000 + k :=
    longToNumber_eq (by omega)
  rw [Exact, tsToMs, hfloor, hproduct, hsum, hexact, hmillis]

end Timestamp

/-! ### Whole numbers of milliseconds -/

/-- `Number.isSafeInteger`: the whole numbers that a JavaScript number tells apart -/
def IsSafeInteger (m : ℤ) : Prop := |m| ≤ 2 ^ 53 - 1

instance (m : ℤ) : Decidable (IsSafeInteger m) := inferInstanceAs (Decidable (|m| ≤ 2 ^ 53 - 1))

/-- The proto form of a timestamp: its nanoseconds count forward from its seconds. -/
def Timestamp.Canonical (ts : Timestamp) : Prop := 0 ≤ ts.nanos ∧ ts.nanos < 1000000000

/-- A number of milliseconds becomes a canonical timestamp, from which the number is read back. -/
def MillisRoundTrip (m : ℤ) : Prop :=
  ∃ ts, msNumberToTs (.finite m) = .ok ts ∧ tsToMs ts = .finite m ∧ ts.Canonical

lemma floor_div_1000 (m : ℤ) : ((m : ℚ) / 1000).floor = m / 1000 :=
  Rat.floor_intCast_div_natCast m 1000

/-- The remainder of a whole number takes the sign of the number. -/
lemma jsRemainder_intCast (m : ℤ) : jsRemainder m 1000 = (m.tmod 1000 : ℤ) := by
  unfold jsRemainder
  simp only
  by_cases hm : 0 ≤ m
  · have hq : (0 : ℚ) ≤ m / 1000 := by positivity
    have hmod : m.tmod 1000 = m - 1000 * (m / 1000) := by
      rw [Int.tmod_eq_emod_of_nonneg hm]
      omega
    rw [if_pos hq, floor_div_1000, hmod]
    push_cast
    ring
  · have hq : ¬(0 : ℚ) ≤ m / 1000 := by
      rw [not_le]
      exact div_neg_of_neg_of_pos (by exact_mod_cast not_le.mp hm) (by norm_num)
    have hneg : -((m : ℚ) / 1000) = ((-m : ℤ) : ℚ) / 1000 := by
      push_cast
      ring
    have hmod : m.tmod 1000 = m + 1000 * (-m / 1000) := by
      have h := Int.tmod_eq_emod_of_nonneg (a := -m) (b := 1000) (by omega)
      rw [Int.neg_tmod] at h
      omega
    rw [if_neg hq, hneg, floor_div_1000, hmod]
    push_cast
    ring

lemma longFromNumber_eq {n : ℤ} (hlo : -2 ^ 63 ≤ n) (hhi : n < 2 ^ 63) : longFromNumber n = n := by
  unfold longFromNumber
  omega

lemma longWrap_eq {n : ℤ} (hlo : -2 ^ 63 ≤ n) (hhi : n < 2 ^ 63) : longWrap n = n := by
  unfold longWrap
  rw [Int.bmod_eq_of_le] <;> omega

/-- The seconds are rounded down, and the nanoseconds have the sign of the number. -/
lemma msNumberToTs_intCast {m : ℤ} (hm : IsSafeInteger m) :
    msNumberToTs (.finite m) = .ok ⟨m / 1000, (m.tmod 1000 : ℤ) * 1000000⟩ := by
  obtain ⟨hlo, hhi⟩ := abs_le.mp hm
  rw [msNumberToTs, floor_div_1000, jsRemainder_intCast, longFromNumber_eq (by omega) (by omega)]

lemma tsToMs_intCast {m : ℤ} (hm : IsSafeInteger m) :
    tsToMs ⟨m / 1000, (m.tmod 1000 : ℤ) * 1000000⟩ =
      .finite (longToNumber (m / 1000 * 1000 + m.tmod 1000)) := by
  obtain ⟨hlo, hhi⟩ := abs_le.mp hm
  have hlt : m.tmod 1000 < 1000 := Int.tmod_lt_of_pos m (by norm_num)
  have hgt : -1000 < m.tmod 1000 := Int.lt_tmod_of_pos m (by norm_num)
  have hfloor : ((m.tmod 1000 : ℤ) * 1000000 / 1000000 : ℚ).floor = m.tmod 1000 := by
    rw [mul_div_cancel_right₀ _ (by norm_num)]
    exact Rat.floor_intCast _
  rw [tsToMs, hfloor, longWrap_eq (n := m / 1000 * 1000) (by omega) (by omega),
    longWrap_eq (by omega) (by omega)]

/-- The sign of the remainder agrees with the seconds only where the number is not negative, or a
whole number of seconds; any other number is read back one second early. -/
lemma ediv_add_tmod (m : ℤ) :
    m / 1000 * 1000 + m.tmod 1000 = if 0 ≤ m ∨ m % 1000 = 0 then m else m - 1000 := by
  by_cases hm : 0 ≤ m
  · rw [if_pos (.inl hm), Int.tmod_eq_emod_of_nonneg hm]
    omega
  · have h := Int.tmod_eq_emod_of_nonneg (a := -m) (b := 1000) (by omega)
    rw [Int.neg_tmod] at h
    split_ifs with hcond <;> omega

lemma millisRoundTrip_of_forward {m : ℤ} (hm : IsSafeInteger m) (hcond : 0 ≤ m ∨ m % 1000 = 0) :
    MillisRoundTrip m := by
  have hrange := abs_le.mp hm
  have hsum := ediv_add_tmod m
  rw [if_pos hcond] at hsum
  have hlo : (0 : ℚ) ≤ (m.tmod 1000 : ℤ) := by exact_mod_cast (by omega : 0 ≤ m.tmod 1000)
  have hhi : ((m.tmod 1000 : ℤ) : ℚ) < 1000 := by
    exact_mod_cast Int.tmod_lt_of_pos m (by norm_num)
  refine ⟨_, msNumberToTs_intCast hm, ?_, ?_, ?_⟩
  · rw [tsToMs_intCast hm, hsum, longToNumber_eq (by omega)]
  · simp only
    linarith
  · simp only
    linarith

/-- `tsToMs(msNumberToTs(m)) = m` with `0 <= nanos < 10^9` holds exactly for the numbers that are not
negative and those of whole seconds: the nanoseconds of any other number are negative. -/
theorem millisRoundTrip_iff {m : ℤ} (hm : IsSafeInteger m) :
    MillisRoundTrip m ↔ 0 ≤ m ∨ m % 1000 = 0 := by
  constructor
  · rintro ⟨ts, hts, -, hnonneg, -⟩
    rw [msNumberToTs_intCast hm] at hts
    obtain rfl := Except.ok.inj hts
    have hmod : 0 ≤ m.tmod 1000 := by
      by_contra hlt
      have : ((m.tmod 1000 : ℤ) : ℚ) < 0 := by exact_mod_cast not_le.mp hlt
      simp only at hnonneg
      linarith
    by_contra hcond
    have hsum := ediv_add_tmod m
    rw [if_neg hcond] at hsum
    omega
  · exact millisRoundTrip_of_forward hm

/-- One millisecond before 1970, the seconds are -1 and the nanoseconds are -1000000. -/
theorem not_forall_millisRoundTrip : ¬∀ m : ℤ, IsSafeInteger m → MillisRoundTrip m := by
  intro hall
  obtain ⟨ts, hts, hback, -⟩ := hall (-1) (by decide)
  obtain rfl := Except.ok.inj hts
  exact absurd hback (by decide +kernel)

theorem millisRoundTrip_iff_neg_1500 :
    IsSafeInteger (-1500) ∧ (MillisRoundTrip (-1500) ↔ 0 ≤ (-1500 : ℤ) ∨ (-1500 : ℤ) % 1000 = 0) :=
  ⟨by decide, millisRoundTrip_iff (by decide)⟩

end TemporalSdk
