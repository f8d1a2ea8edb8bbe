import Mathlib.Data.Fin.VecNotation
import Mathlib.Tactic.NormNum.GCD
import TemporalSdk.Library.Double
import TemporalSdk.Library.MultiplyWithCarry

/-!
# Alea

The generator behind `Math.random` computes with doubles. None of the operations of `next` ever rounds, so
it is a multiply-with-carry generator on integers; only the mash that the seed goes through does.
-/

namespace TemporalSdk

open MultiplyWithCarry (State)

/-! ### Conversions -/

def truncate (x : ℚ) : ℤ := if 0 ≤ x then ⌊x⌋ else ⌈x⌉

/-- `x >>> 0` -/
def toUint32 (x : ℚ) : ℕ := (truncate x % 2 ^ 32).toNat

/-- `x | 0` -/
def toInt32 (x : ℚ) : ℤ := Int.bmod (truncate x) (2 ^ 32)

/-- The literal that is written for 2^-32 -/
def inverse32 : ℚ := Double.round 2.3283064365386963e-10

namespace Mash

/-- One turn of the loop over the data -/
def turn (n datum : ℚ) : ℚ :=
  let n := Double.round (n + datum)
  let h := Double.round (Double.round 0.02519603282416938 * n)
  let n : ℚ := toUint32 h
  let h := Double.round (h - n)
  let h := Double.round (h * n)
  let n : ℚ := toUint32 h
  let h := Double.round (h - n)
  Double.round (n + Double.round (h * 0x100000000))

/-- The value, and the `n` that is kept for the next one -/
def mash (n : ℚ) (data : List ℚ) : ℚ × ℚ :=
  let n := data.foldl turn n
  (Double.round (toUint32 n * inverse32), n)

end Mash

structure Alea where
  c : ℚ
  s0 : ℚ
  s1 : ℚ
  s2 : ℚ
deriving DecidableEq, Repr

namespace Alea

/-- `s -= mash(seed)`, and one is added to what is negative. -/
def subtract (s m : ℚ) : ℚ :=
  let s := Double.round (s - m)
  if s < 0 then Double.round (s + 1) else s

/-- `constructor(seed)`; the mash goes on from each value to the next one. -/
def create (seed : List ℚ) : Alea :=
  let s0 := Mash.mash 0xefc8249d [32]
  let s1 := Mash.mash s0.2 [32]
  let s2 := Mash.mash s1.2 [32]
  let m0 := Mash.mash s2.2 seed
  let m1 := Mash.mash m0.2 seed
  let m2 := Mash.mash m1.2 seed
  { c := 1, s0 := subtract s0.1 m0.1, s1 := subtract s1.1 m1.1, s2 := subtract s2.1 m2.1 }

/-- `next()`: the value and the generator after it -/
def next (xg : Alea) : ℚ × Alea :=
  let t := Double.round (Double.round (2091639 * xg.s0) + Double.round (xg.c * inverse32))
  let c : ℚ := toInt32 t
  let s2 := Double.round (t - c)
  (s2, { c := c, s0 := xg.s1, s1 := xg.s2, s2 := s2 })

/-- The generator after some calls -/
def after (xg : Alea) (n : ℕ) : Alea := (fun xg : Alea => xg.next.2)^[n] xg

/-- The value that the call with number `n` returns -/
def output (xg : Alea) (n : ℕ) : ℚ := (xg.after n).next.1

/-! ### Values of 32 bits behind the point -/

/-- The double with these bits behind the point -/
def fraction (k : ℤ) : ℚ := k * 2 ^ (-32 : ℤ)

lemma fraction_add (j k : ℤ) : fraction (j + k) = fraction j + fraction k := by
  simp only [fraction, Int.cast_add, add_mul]

lemma fraction_sub (j k : ℤ) : fraction (j - k) = fraction j - fraction k := by
  simp only [fraction, Int.cast_sub, sub_mul]

lemma fraction_whole (k : ℤ) : fraction (k * 2 ^ 32) = k := by
  rw [fraction, Int.cast_mul, mul_assoc]
  norm_num

lemma fraction_lt {j k : ℤ} (h : j < k) : fraction j < fraction k := by
  have hcast : (j : ℚ) < k := by exact_mod_cast h
  exact mul_lt_mul_of_pos_right hcast (zpow_pos two_pos _)

lemma fraction_le {j k : ℤ} (h : j ≤ k) : fraction j ≤ fraction k := by
  have hcast : (j : ℚ) ≤ k := by exact_mod_cast h
  exact mul_le_mul_of_nonneg_right hcast (zpow_pos two_pos _).le

lemma fraction_zero : fraction 0 = 0 := by rw [fraction, Int.cast_zero, zero_mul]

/-- Up to 53 bits nothing is rounded. -/
lemma round_fraction {k : ℤ} (hk : |k| < 2 ^ 53) : Double.round (fraction k) = fraction k :=
  Double.round_exact hk (-32)

lemma inverse32_eq : inverse32 = fraction 1 := by
  have hclose := Double.round_of_close (x := 2.3283064365386963e-10) (m := 2 ^ 52) (k := -84) (by norm_num)
    (by norm_num) (by norm_num)
  rw [inverse32, hclose, fraction]
  norm_num

lemma floor_fraction {c w : ℤ} (hw : 0 ≤ w ∧ w < 2 ^ 32) : ⌊fraction (c * 2 ^ 32 + w)⌋ = c := by
  have hone : fraction (2 ^ 32) = 1 := by
    have hwhole := fraction_whole 1
    rwa [one_mul, Int.cast_one] at hwhole
  rw [Int.floor_eq_iff, fraction_add, fraction_whole]
  have hlow := fraction_le hw.1
  have hhigh := fraction_lt hw.2
  rw [fraction_zero] at hlow
  rw [hone] at hhigh
  exact ⟨by linarith, by linarith⟩

lemma fraction_nonneg {k : ℤ} (hk : 0 ≤ k) : 0 ≤ fraction k := fraction_zero ▸ fraction_le hk

lemma round_fraction_natCast {k : ℕ} (hk : k < 2 ^ 53) : Double.round (fraction k) = fraction k :=
  round_fraction (by rw [Nat.abs_cast]; exact_mod_cast hk)

/-! ### The integer generator -/

/-- The generator on integers with its three words and the carry -/
abbrev Words := State 2091639 (2 ^ 32) 2

structure Represents (xg : Alea) (s : Words) : Prop where
  c : xg.c = (s.carry : ℕ)
  s0 : xg.s0 = fraction (s.words 0 : ℕ)
  s1 : xg.s1 = fraction (s.words 1 : ℕ)
  s2 : xg.s2 = fraction (s.words 2 : ℕ)

/-- One call: the value is the new word, and nothing is rounded on the way to it. -/
lemma Represents.next {xg : Alea} {s : Words} (h : Represents xg s) :
    xg.next.1 = fraction (s.word : ℕ) ∧ Represents xg.next.2 s.next := by
  have hword := (s.words 0).isLt
  have hcarry := s.carry.isLt
  have htotal := s.total_lt
  have hproduct : Double.round (2091639 * xg.s0) = fraction (2091639 * s.words 0 : ℕ) := by
    have hexact : (2091639 : ℚ) * fraction (s.words 0 : ℕ) = fraction (2091639 * s.words 0 : ℕ) := by
      simp only [fraction]
      push_cast
      ring
    rw [h.s0, hexact, round_fraction_natCast (by omega)]
  have hsmall : Double.round (xg.c * inverse32) = fraction (s.carry : ℕ) := by
    have hexact : ((s.carry : ℕ) : ℚ) * fraction 1 = fraction (s.carry : ℕ) := by
      simp only [fraction]
      push_cast
      ring
    rw [h.c, inverse32_eq, hexact, round_fraction_natCast (by omega)]
  have ht : Double.round (fraction (2091639 * s.words 0 : ℕ) + fraction (s.carry : ℕ)) = fraction (s.total : ℕ) := by
    rw [← fraction_add, ← Nat.cast_add]
    exact round_fraction_natCast (by rw [State.total] at htotal; omega)
  have hsplit : (s.total : ℤ) = ((s.total / 2 ^ 32 : ℕ) : ℤ) * 2 ^ 32 + ((s.total % 2 ^ 32 : ℕ) : ℤ) := by
    have hdiv := Nat.div_add_mod' s.total (2 ^ 32)
    exact_mod_cast hdiv.symm
  have hfloor : ⌊fraction (s.total : ℕ)⌋ = ((s.total / 2 ^ 32 : ℕ) : ℤ) := by
    rw [hsplit]
    exact floor_fraction (by omega)
  have hc : toInt32 (fraction (s.total : ℕ)) = ((s.total / 2 ^ 32 : ℕ) : ℤ) := by
    have hlt : s.total / 2 ^ 32 < 2091639 := s.next.carry.isLt
    rw [toInt32, truncate, if_pos (fraction_nonneg (Int.natCast_nonneg _)), hfloor]
    exact Int.bmod_eq_of_le (by omega) (by omega)
  have hs2 : Double.round (fraction (s.total : ℕ) - ((s.total / 2 ^ 32 : ℕ) : ℤ)) =
      fraction ((s.total % 2 ^ 32 : ℕ) : ℤ) := by
    have hmod : s.total % 2 ^ 32 < 2 ^ 32 := Nat.mod_lt _ (by norm_num)
    rw [hsplit, fraction_add, fraction_whole, add_sub_cancel_left]
    exact round_fraction_natCast (by omega)
  unfold Alea.next
  simp only [hproduct, hsmall, ht, hc, hs2]
  refine ⟨rfl, rfl, ?_, ?_, ?_⟩
  · exact h.s1
  · exact h.s2
  · rfl

/-! ### Seeds -/

lemma toUint32_lt (x : ℚ) : toUint32 x < 2 ^ 32 := by
  have hnonneg := Int.emod_nonneg (truncate x) (show (2 ^ 32 : ℤ) ≠ 0 by norm_num)
  have hlt := Int.emod_lt_of_pos (truncate x) (show (0 : ℤ) < 2 ^ 32 by norm_num)
  unfold toUint32
  omega

/-- Whatever was mashed, the value has 32 bits behind the point. -/
lemma mash_fraction (n : ℚ) (data : List ℚ) : ∃ k < 2 ^ 32, (Mash.mash n data).1 = fraction (k : ℕ) := by
  have hlt := toUint32_lt (data.foldl Mash.turn n)
  refine ⟨toUint32 (data.foldl Mash.turn n), hlt, ?_⟩
  have hexact : (toUint32 (data.foldl Mash.turn n) : ℚ) * fraction 1 =
      fraction (toUint32 (data.foldl Mash.turn n) : ℕ) := by
    simp only [fraction]
    push_cast
    ring
  change Double.round (toUint32 (data.foldl Mash.turn n) * inverse32) = _
  rw [inverse32_eq, hexact, round_fraction_natCast (by omega)]

lemma subtract_fraction {j k : ℕ} (hj : j < 2 ^ 32) (hk : k < 2 ^ 32) :
    ∃ w < 2 ^ 32, subtract (fraction j) (fraction k) = fraction (w : ℕ) := by
  have hround : Double.round (fraction j - fraction k) = fraction ((j : ℤ) - k) := by
    rw [← fraction_sub]
    exact round_fraction (by rw [abs_lt]; omega)
  rw [subtract, hround]
  by_cases hlt : j < k
  · have hneg : fraction ((j : ℤ) - k) < 0 := by
      rw [← fraction_zero]
      exact fraction_lt (by omega)
    have hone : fraction ((j : ℤ) - k) + 1 = fraction ((j + 2 ^ 32 - k : ℕ) : ℤ) := by
      have hwhole := fraction_whole 1
      rw [one_mul, Int.cast_one] at hwhole
      rw [← hwhole, ← fraction_add]
      congr 1
      omega
    rw [if_pos hneg, hone]
    exact ⟨j + 2 ^ 32 - k, by omega, round_fraction_natCast (by omega)⟩
  · have hnonneg : ¬fraction ((j : ℤ) - k) < 0 := not_lt.mpr (fraction_nonneg (by omega))
    rw [if_neg hnonneg]
    refine ⟨j - k, by omega, ?_⟩
    congr 1
    omega

/-- Every seed gives a generator with the carry 1. -/
lemma represents_create (seed : List ℚ) : ∃ s : Words, Represents (create seed) s ∧ (s.carry : ℕ) = 1 := by
  obtain ⟨j0, hj0, hs0⟩ := mash_fraction 0xefc8249d [32]
  obtain ⟨j1, hj1, hs1⟩ := mash_fraction (Mash.mash 0xefc8249d [32]).2 [32]
  let mashed := Mash.mash (Mash.mash 0xefc8249d [32]).2 [32]
  obtain ⟨j2, hj2, hs2⟩ := mash_fraction mashed.2 [32]
  let ready := Mash.mash mashed.2 [32]
  obtain ⟨k0, hk0, hm0⟩ := mash_fraction ready.2 seed
  obtain ⟨k1, hk1, hm1⟩ := mash_fraction (Mash.mash ready.2 seed).2 seed
  obtain ⟨k2, hk2, hm2⟩ := mash_fraction (Mash.mash (Mash.mash ready.2 seed).2 seed).2 seed
  obtain ⟨w0, hw0, hword0⟩ := subtract_fraction hj0 hk0
  obtain ⟨w1, hw1, hword1⟩ := subtract_fraction hj1 hk1
  obtain ⟨w2, hw2, hword2⟩ := subtract_fraction hj2 hk2
  refine ⟨⟨![⟨w0, hw0⟩, ⟨w1, hw1⟩, ⟨w2, hw2⟩], ⟨1, by norm_num⟩⟩, ⟨?_, ?_, ?_, ?_⟩, rfl⟩
  · exact Nat.cast_one.symm
  · exact (congrArg₂ subtract hs0 hm0).trans hword0
  · exact (congrArg₂ subtract hs1 hm1).trans hword1
  · exact (congrArg₂ subtract hs2 hm2).trans hword2

/-! ### Runs -/

lemma Represents.after {xg : Alea} {s : Words} (h : Represents xg s) (n : ℕ) :
    Represents (xg.after n) (State.next^[n] s) := by
  induction n with
  | zero => exact h
  | succ n ih =>
    rw [Alea.after, Function.iterate_succ_apply', Function.iterate_succ_apply']
    exact ih.next.2

lemma Represents.output {xg : Alea} {s : Words} (h : Represents xg s) (n : ℕ) :
    xg.output n = fraction ((State.next^[n] s).word : ℕ) :=
  (h.after n).next.1

lemma fraction_injective : Function.Injective fraction := fun j k h => by
  rcases lt_trichotomy j k with hlt | rfl | hlt
  · exact absurd h (fraction_lt hlt).ne
  · rfl
  · exact absurd h (fraction_lt hlt).ne'

/-- A generator and its integers say the same. -/
lemma Represents.unique {xg : Alea} {s s' : Words} (h : Represents xg s) (h' : Represents xg s') : s = s' := by
  have hword {w w' : Fin (2 ^ 32)} (heq : fraction (w : ℕ) = fraction (w' : ℕ)) : w = w' :=
    Fin.ext (Int.ofNat_inj.mp (fraction_injective heq))
  refine State.ext (funext fun i => ?_) ?_
  · match i with
    | 0 => exact hword (h.s0.symm.trans h'.s0)
    | 1 => exact hword (h.s1.symm.trans h'.s1)
    | 2 => exact hword (h.s2.symm.trans h'.s2)
  · have hcarry : ((s.carry : ℕ) : ℚ) = (s'.carry : ℕ) := h.c.symm.trans h'.c
    exact Fin.ext (Nat.cast_injective hcarry)

lemma Represents.determined {xg xg' : Alea} {s : Words} (h : Represents xg s) (h' : Represents xg' s) :
    xg = xg' := by
  cases xg
  cases xg'
  simp only [Alea.mk.injEq]
  exact ⟨h.c.trans h'.c.symm, h.s0.trans h'.s0.symm, h.s1.trans h'.s1.symm, h.s2.trans h'.s2.symm⟩

/-- The word that `(Math.random() * 0x100000000) >>> 0` makes of a value -/
def wordOf (value : ℚ) : ℕ := toUint32 (Double.round (value * 0x100000000))

lemma wordOf_fraction {k : ℕ} (hk : k < 2 ^ 32) : wordOf (fraction k) = k := by
  have hwhole : fraction k * 0x100000000 = ((k : ℤ) : ℚ) * 2 ^ (0 : ℤ) := by
    rw [← fraction_whole k]
    simp only [fraction]
    push_cast
    ring
  have hround : Double.round (fraction k * 0x100000000) = (k : ℤ) := by
    rw [hwhole, Double.round_exact (by rw [Nat.abs_cast]; exact_mod_cast (by omega : k < 2 ^ 53)), zpow_zero,
      mul_one]
  rw [wordOf, hround, toUint32, truncate, if_pos (by positivity), Int.floor_intCast]
  omega

/-- **The generator is exact**: from any seed on, the values of the calls are the words of a
multiply-with-carry generator on integers, as fractions of 2^32. They are at least 0 and below 1, and the
word that is drawn from one is the word that it stands for. -/
theorem output_exact (seed : List ℚ) :
    ∃ s : Words, (s.carry : ℕ) = 1 ∧ ∀ n, (create seed).output n = (((State.next^[n] s).word : ℕ) : ℚ) / 2 ^ 32 ∧
      0 ≤ (create seed).output n ∧ (create seed).output n < 1 ∧
      wordOf ((create seed).output n) = (State.next^[n] s).word := by
  obtain ⟨s, hrepresents, hcarry⟩ := represents_create seed
  refine ⟨s, hcarry, fun n => ?_⟩
  have hword := (State.next^[n] s).word.isLt
  have houtput := hrepresents.output n
  have hdiv : fraction ((State.next^[n] s).word : ℕ) = (((State.next^[n] s).word : ℕ) : ℚ) / 2 ^ 32 := by
    rw [fraction, Int.cast_natCast, div_eq_mul_inv, zpow_neg]
    norm_num
  have hone : fraction ((2 ^ 32 : ℕ) : ℤ) = 1 := by
    rw [fraction]
    norm_num
  refine ⟨houtput.trans hdiv, ?_, ?_, ?_⟩
  · rw [houtput]
    exact fraction_nonneg (Int.natCast_nonneg _)
  · rw [houtput, ← hone]
    exact fraction_lt (by exact_mod_cast hword)
  · rw [houtput, wordOf_fraction hword]

/-- **The values come round**: from some period on they are the ones from the start, and the generator
itself is never left unchanged by a call. -/
theorem output_periodic (seed : List ℚ) :
    (∃ period > 0, ∀ n, (create seed).output (n + period) = (create seed).output n) ∧
      ∀ n, (create seed).after (n + 1) ≠ (create seed).after n := by
  obtain ⟨s, hrepresents, hcarry⟩ := represents_create seed
  constructor
  · obtain ⟨period, hpos, hreturn⟩ := s.exists_return
    refine ⟨period, hpos, fun n => ?_⟩
    rw [hrepresents.output, hrepresents.output, Function.iterate_add_apply, hreturn]
  · intro n hsame
    have hcoprime : Nat.Coprime (2091639 - 1) (2 ^ 32 - 1) := by norm_num
    have hiterate : State.next^[n] s.next = State.next^[n] s := by
      rw [← Function.iterate_succ_apply]
      exact (hrepresents.after (n + 1)).unique (hsame ▸ hrepresents.after n)
    have hfixed : s.next = s := State.next_injective.iterate n hiterate
    rcases State.carry_of_next_eq_self hcoprime hfixed with hzero | hlast
    · omega
    · omega

/-- **Four values in a row determine the generator**: two runs, from whatever seeds and after however many
calls, give the same four values exactly when the generators are the same from there on. -/
theorem after_eq_iff (seed seed' : List ℚ) (i j : ℕ) :
    (create seed).after i = (create seed').after j ↔
      ∀ k < 4, (create seed).output (i + k) = (create seed').output (j + k) := by
  obtain ⟨s, hrepresents, -⟩ := represents_create seed
  obtain ⟨s', hrepresents', -⟩ := represents_create seed'
  have hlater (xg : Alea) (i k : ℕ) : xg.output (i + k) = (xg.after i).output k := by
    rw [Alea.output, Alea.output, Alea.after, Nat.add_comm, Function.iterate_add_apply]
    rfl
  constructor
  · intro hsame k _
    rw [hlater, hlater, hsame]
  · intro houtput
    have hwords : ∀ k < 4, (State.next^[k] (State.next^[i] s)).word = (State.next^[k] (State.next^[j] s')).word := by
      intro k hk
      have hvalue := houtput k hk
      rw [hlater, hlater, (hrepresents.after i).output, (hrepresents'.after j).output] at hvalue
      exact Fin.ext (Int.ofNat_inj.mp (fraction_injective hvalue))
    have hstate := State.eq_of_words (by norm_num) hwords
    exact (hrepresents.after i).determined (hstate ▸ hrepresents'.after j)

end Alea

end TemporalSdk
