import Mathlib.Data.Finset.SDiff
import Mathlib.Order.Interval.Finset.Nat
import Mathlib.Tactic.IntervalCases
import TemporalSdk.Library.DataView
import TemporalSdk.Library.PaddedDigits

/-!
# uuid4

A buffer of 16 bytes is filled with four words of the generator, two of its bytes are patched, and its
numbers are written as hexadecimal text.
-/

namespace TemporalSdk

open PaddedDigits

/-- The hexadecimal text representation of number `n`, padded with zeroes to be of length `p` -/
def ho (n p : ℕ) : List Char := padded 16 p n

/-- The buffer with random values, the version in byte 6 and the variant in byte 8 -/
def uuid4View (r₀ r₁ r₂ r₃ : BitVec 32) : Option DataView := do
  let view := DataView.create 16
  let view ← view.setUint32 0 r₀
  let view ← view.setUint32 4 r₁
  let view ← view.setUint32 8 r₂
  let view ← view.setUint32 12 r₃
  let view ← view.setUint8 6 ((← view.getUint8 6) &&& 0xf ||| 0x40)
  view.setUint8 8 ((← view.getUint8 8) &&& 0x3f ||| 0x80)

/-- The canonical textual form of the array data -/
def canonicalText (view : DataView) : Option (List Char) := do
  return ho (← view.getUint32 0).toNat 8 ++ '-' :: ho (← view.getUint16 4).toNat 4 ++
    '-' :: ho (← view.getUint16 6).toNat 4 ++ '-' :: ho (← view.getUint16 8).toNat 4 ++
    '-' :: ho (← view.getUint32 10).toNat 8 ++ ho (← view.getUint16 14).toNat 4

/-- The words are what `(Math.random() * 0x100000000) >>> 0` is in the order of the calls. -/
def uuid4 (r₀ r₁ r₂ r₃ : BitVec 32) : Option String :=
  ((uuid4View r₀ r₁ r₂ r₃).bind canonicalText).map String.ofList

/-! ### The form of the text -/

def hexDigits : List Char := "0123456789abcdef".toList

def dashPositions : List ℕ := [8, 13, 18, 23]

/-- A version 4 UUID in lower case. The variant is in the two upper bits of the digit at 19. -/
structure IsUuid4 (text : List Char) : Prop where
  length : text.length = 36
  dashes : ∀ i ∈ dashPositions, text[i]? = some '-'
  digits : ∀ i < 36, i ∉ dashPositions → ∃ c ∈ hexDigits, text[i]? = some c
  version : text[14]? = some '4'
  variant : ∃ n, text[19]? = some (Nat.digitChar n) ∧ n / 4 = 0b10

/-! ### The random bits -/

/-- The bits of the four words, the first one first -/
def drawn (r₀ r₁ r₂ r₃ : BitVec 32) : BitVec 128 := r₀ ++ r₁ ++ r₂ ++ r₃

/-- Four bits of the version and two of the variant -/
def stampedPositions : Finset ℕ := {48, 49, 50, 51, 64, 65}

def randomPositions : Finset ℕ := Finset.range 128 \ stampedPositions

variable {r₀ r₁ r₂ r₃ r₀' r₁' r₂' r₃' : BitVec 32}

def uuid4Bytes (r₀ r₁ r₂ r₃ : BitVec 32) : List (BitVec 8) :=
  [r₀.extractLsb' 24 8, r₀.extractLsb' 16 8, r₀.extractLsb' 8 8, r₀.extractLsb' 0 8,
    r₁.extractLsb' 24 8, r₁.extractLsb' 16 8, r₁.extractLsb' 8 8 &&& 0xf ||| 0x40, r₁.extractLsb' 0 8,
    r₂.extractLsb' 24 8 &&& 0x3f ||| 0x80, r₂.extractLsb' 16 8, r₂.extractLsb' 8 8, r₂.extractLsb' 0 8,
    r₃.extractLsb' 24 8, r₃.extractLsb' 16 8, r₃.extractLsb' 8 8, r₃.extractLsb' 0 8]

lemma uuid4View_eq (r₀ r₁ r₂ r₃ : BitVec 32) :
    uuid4View r₀ r₁ r₂ r₃ = some ⟨uuid4Bytes r₀ r₁ r₂ r₃⟩ := by
  simp [uuid4View, uuid4Bytes, DataView.setUint32, DataView.setUint8, DataView.getUint8,
    DataView.create, List.replicate]

lemma uuid4_eq (r₀ r₁ r₂ r₃ : BitVec 32) :
    uuid4 r₀ r₁ r₂ r₃ = (canonicalText ⟨uuid4Bytes r₀ r₁ r₂ r₃⟩).map String.ofList := by
  rw [uuid4, uuid4View_eq, Option.bind_some]

lemma canonicalText_eq (b₀ b₁ b₂ b₃ b₄ b₅ b₆ b₇ b₈ b₉ b₁₀ b₁₁ b₁₂ b₁₃ b₁₄ b₁₅ : BitVec 8) :
    canonicalText ⟨[b₀, b₁, b₂, b₃, b₄, b₅, b₆, b₇, b₈, b₉, b₁₀, b₁₁, b₁₂, b₁₃, b₁₄, b₁₅]⟩ =
      some (ho ((b₀ ++ b₁) ++ (b₂ ++ b₃)).toNat 8 ++ '-' :: ho (b₄ ++ b₅).toNat 4 ++
        '-' :: ho (b₆ ++ b₇).toNat 4 ++ '-' :: ho (b₈ ++ b₉).toNat 4 ++
        '-' :: ho ((b₁₀ ++ b₁₁) ++ (b₁₂ ++ b₁₃)).toNat 8 ++ ho (b₁₄ ++ b₁₅).toNat 4) := by
  simp only [canonicalText, DataView.getUint32, DataView.getUint16, DataView.getUint8,
    List.getElem?_cons_zero, List.getElem?_cons_succ, Nat.reduceAdd, Option.pure_def,
    Option.bind_eq_bind, Option.bind_some]

/-- One digit of `n` -/
def hexDigit (n i : ℕ) : Char := Nat.digitChar (n / 16 ^ i % 16)

lemma hexDigit_mem (n i : ℕ) : hexDigit n i ∈ hexDigits := by
  have hall : ∀ d < 16, Nat.digitChar d ∈ hexDigits := by decide
  exact hall _ (Nat.mod_lt _ (by decide))

lemma ho_uint16 (x : BitVec 16) :
    ho x.toNat 4 = [hexDigit x.toNat 3, hexDigit x.toNat 2, hexDigit x.toNat 1, hexDigit x.toNat 0] :=
  padded_eq_map (by decide) (by decide) x.isLt

lemma ho_uint32 (x : BitVec 32) :
    ho x.toNat 8 = [hexDigit x.toNat 7, hexDigit x.toNat 6, hexDigit x.toNat 5, hexDigit x.toNat 4,
      hexDigit x.toNat 3, hexDigit x.toNat 2, hexDigit x.toNat 1, hexDigit x.toNat 0] :=
  padded_eq_map (by decide) (by decide) x.isLt

/-- The first digit of two bytes is the upper half of the first byte. -/
lemma hexDigit_append (a b : BitVec 8) : hexDigit (a ++ b).toNat 3 = Nat.digitChar (a.toNat / 16) := by
  have ha := a.isLt
  have hb := b.isLt
  have happend : (a ++ b).toNat = a.toNat * 256 + b.toNat := by
    rw [BitVec.toNat_append, Nat.shiftLeft_eq, Nat.mul_comm, Nat.two_pow_add_eq_or_of_lt hb]
  have hdigit : (a.toNat * 256 + b.toNat) / 16 ^ 3 % 16 = a.toNat / 16 := by omega
  rw [hexDigit, happend, hdigit]

lemma canonicalText_isUuid4 (a c : BitVec 32) (d e f g : BitVec 16)
    (hversion : hexDigit e.toNat 3 = '4') (hvariant : ∃ n, hexDigit f.toNat 3 = Nat.digitChar n ∧ n / 4 = 0b10) :
    IsUuid4 (ho a.toNat 8 ++ '-' :: ho d.toNat 4 ++ '-' :: ho e.toNat 4 ++ '-' :: ho f.toNat 4 ++
      '-' :: ho c.toNat 8 ++ ho g.toNat 4) := by
  simp only [ho_uint16, ho_uint32]
  constructor
  · rfl
  · simp [dashPositions]
  · intro i hi hdash
    interval_cases i
    all_goals first
      | exact ⟨_, hexDigit_mem _ _, rfl⟩
      | exact absurd (by decide) hdash
  · exact congrArg some hversion
  · obtain ⟨n, hn, h⟩ := hvariant
    exact ⟨n, congrArg some hn, h⟩

/-- The patched byte 6 and byte 8 -/
lemma version_toNat : ∀ b : BitVec 8, (b &&& 0xf ||| 0x40).toNat / 16 = 4 := by decide

lemma variant_toNat : ∀ b : BitVec 8, (b &&& 0x3f ||| 0x80).toNat / 16 / 4 = 0b10 := by decide

lemma uuid4_isUuid4 (r₀ r₁ r₂ r₃ : BitVec 32) :
    ∃ text, uuid4 r₀ r₁ r₂ r₃ = some (String.ofList text) ∧ IsUuid4 text := by
  rw [uuid4_eq, uuid4Bytes, canonicalText_eq]
  refine ⟨_, rfl, canonicalText_isUuid4 _ _ _ _ _ _ ?_ ?_⟩
  · rw [hexDigit_append, version_toNat]
    rfl
  · exact ⟨_, hexDigit_append _ _, variant_toNat _⟩

/-! ### Two texts -/

lemma ho_inj_uint16 {x y : BitVec 16} : ho x.toNat 4 = ho y.toNat 4 ↔ x = y :=
  (padded_inj (b := 16) (by decide) (by decide) (by decide) x.isLt y.isLt).trans BitVec.toNat_inj

lemma ho_inj_uint32 {x y : BitVec 32} : ho x.toNat 8 = ho y.toNat 8 ↔ x = y :=
  (padded_inj (b := 16) (by decide) (by decide) (by decide) x.isLt y.isLt).trans BitVec.toNat_inj

lemma length_ho_uint16 (x : BitVec 16) : (ho x.toNat 4).length = 4 :=
  length_padded (by decide) (by decide) x.isLt

lemma length_ho_uint32 (x : BitVec 32) : (ho x.toNat 8).length = 8 :=
  length_padded (by decide) (by decide) x.isLt

/-- The six numbers can be read back from the text. -/
lemma text_inj {a c a' c' : BitVec 32} {d e f g d' e' f' g' : BitVec 16} :
    ho a.toNat 8 ++ '-' :: ho d.toNat 4 ++ '-' :: ho e.toNat 4 ++ '-' :: ho f.toNat 4 ++
        '-' :: ho c.toNat 8 ++ ho g.toNat 4 =
      ho a'.toNat 8 ++ '-' :: ho d'.toNat 4 ++ '-' :: ho e'.toNat 4 ++ '-' :: ho f'.toNat 4 ++
        '-' :: ho c'.toNat 8 ++ ho g'.toNat 4 ↔
      a = a' ∧ d = d' ∧ e = e' ∧ f = f' ∧ c = c' ∧ g = g' := by
  constructor
  · intro h
    obtain ⟨h, hg⟩ := List.append_inj' h (by simp only [length_ho_uint16])
    obtain ⟨h, hc⟩ := List.append_inj' h (by simp only [List.length_cons, length_ho_uint32])
    obtain ⟨h, hf⟩ := List.append_inj' h (by simp only [List.length_cons, length_ho_uint16])
    obtain ⟨h, he⟩ := List.append_inj' h (by simp only [List.length_cons, length_ho_uint16])
    obtain ⟨ha, hd⟩ := List.append_inj' h (by simp only [List.length_cons, length_ho_uint16])
    exact ⟨ho_inj_uint32.mp ha, ho_inj_uint16.mp (List.tail_eq_of_cons_eq hd),
      ho_inj_uint16.mp (List.tail_eq_of_cons_eq he), ho_inj_uint16.mp (List.tail_eq_of_cons_eq hf),
      ho_inj_uint32.mp (List.tail_eq_of_cons_eq hc), ho_inj_uint16.mp hg⟩
  · rintro ⟨rfl, rfl, rfl, rfl, rfl, rfl⟩
    rfl

lemma canonicalText_inj {b₀ b₁ b₂ b₃ b₄ b₅ b₆ b₇ b₈ b₉ b₁₀ b₁₁ b₁₂ b₁₃ b₁₄ b₁₅ : BitVec 8}
    {c₀ c₁ c₂ c₃ c₄ c₅ c₆ c₇ c₈ c₉ c₁₀ c₁₁ c₁₂ c₁₃ c₁₄ c₁₅ : BitVec 8} :
    canonicalText ⟨[b₀, b₁, b₂, b₃, b₄, b₅, b₆, b₇, b₈, b₉, b₁₀, b₁₁, b₁₂, b₁₃, b₁₄, b₁₅]⟩ =
        canonicalText ⟨[c₀, c₁, c₂, c₃, c₄, c₅, c₆, c₇, c₈, c₉, c₁₀, c₁₁, c₁₂, c₁₃, c₁₄, c₁₅]⟩ ↔
      [b₀, b₁, b₂, b₃, b₄, b₅, b₆, b₇, b₈, b₉, b₁₀, b₁₁, b₁₂, b₁₃, b₁₄, b₁₅] =
        [c₀, c₁, c₂, c₃, c₄, c₅, c₆, c₇, c₈, c₉, c₁₀, c₁₁, c₁₂, c₁₃, c₁₄, c₁₅] := by
  rw [canonicalText_eq, canonicalText_eq, Option.some_inj, text_inj]
  refine (and_congr DataView.uint32_inj (and_congr DataView.uint16_inj (and_congr DataView.uint16_inj
    (and_congr DataView.uint16_inj (and_congr DataView.uint32_inj DataView.uint16_inj))))).trans ?_
  simp only [List.cons.injEq, and_true, and_assoc]

lemma uuid4_eq_iff : uuid4 r₀ r₁ r₂ r₃ = uuid4 r₀' r₁' r₂' r₃' ↔
    uuid4Bytes r₀ r₁ r₂ r₃ = uuid4Bytes r₀' r₁' r₂' r₃' := by
  have hofList : Function.Injective (Option.map String.ofList) :=
    Option.map_injective fun _ _ => String.ofList_injective
  rw [uuid4_eq, uuid4_eq, hofList.eq_iff]
  exact canonicalText_inj

/-- The version and the variant at their positions -/
def stamp : BitVec 128 := 0x00000000000040008000000000000000

lemma getMsbD_drawn (r₀ r₁ r₂ r₃ : BitVec 32) (k : ℕ) :
    (drawn r₀ r₁ r₂ r₃).getMsbD k =
      if 96 ≤ k then r₃.getMsbD (k - 96) else if 64 ≤ k then r₂.getMsbD (k - 64)
      else if 32 ≤ k then r₁.getMsbD (k - 32) else r₀.getMsbD k := by
  have hthree := BitVec.getMsbD_append (x := r₀ ++ r₁ ++ r₂) (y := r₃) (i := k)
  have htwo := BitVec.getMsbD_append (x := r₀ ++ r₁) (y := r₂) (i := k)
  have hone := BitVec.getMsbD_append (x := r₀) (y := r₁) (i := k)
  rw [hone] at htwo
  rw [htwo] at hthree
  exact hthree

/-- Every other bit is the one that has been drawn. -/
lemma bit_uuid4Bytes (r₀ r₁ r₂ r₃ : BitVec 32) {k : ℕ} (hk : k < 128) :
    DataView.bit ⟨uuid4Bytes r₀ r₁ r₂ r₃⟩ k =
      if k ∈ stampedPositions then stamp.getMsbD k else (drawn r₀ r₁ r₂ r₃).getMsbD k := by
  obtain ⟨i, j, hi, hj, rfl⟩ : ∃ i j, i < 16 ∧ j < 8 ∧ k = 8 * i + j :=
    ⟨k / 8, k % 8, by omega, by omega, by omega⟩
  have hdiv : (8 * i + j) / 8 = i := by omega
  have hmod : (8 * i + j) % 8 = j := by omega
  have hstamped : 8 * i + j ∈ stampedPositions ↔ i = 6 ∧ j < 4 ∨ i = 8 ∧ j < 2 := by
    simp only [stampedPositions, Finset.mem_insert, Finset.mem_singleton]
    omega
  rw [DataView.bit, hdiv, hmod]
  simp only [hstamped]
  by_cases h6 : i = 6
  · subst h6
    interval_cases j
    all_goals simp [uuid4Bytes, getMsbD_drawn, stamp]
  by_cases h8 : i = 8
  · subst h8
    interval_cases j
    all_goals simp [uuid4Bytes, getMsbD_drawn, stamp]
  simp only [h6, h8, false_and, false_or, if_false]
  interval_cases i
  case «6» => exact absurd rfl h6
  case «8» => exact absurd rfl h8
  all_goals
    simp (disch := omega) only [uuid4Bytes, List.getElem?_cons_succ, List.getElem?_cons_zero,
      Option.getD_some, DataView.getMsbD_byte, getMsbD_drawn, if_pos, if_neg] <;>
    exact congrArg _ (by omega)

lemma uuid4Bytes_eq_iff : uuid4Bytes r₀ r₁ r₂ r₃ = uuid4Bytes r₀' r₁' r₂' r₃' ↔
    ∀ k ∈ randomPositions, (drawn r₀ r₁ r₂ r₃).getMsbD k = (drawn r₀' r₁' r₂' r₃').getMsbD k := by
  have hview := DataView.eq_iff_bit ⟨uuid4Bytes r₀ r₁ r₂ r₃⟩ ⟨uuid4Bytes r₀' r₁' r₂' r₃'⟩ rfl
  rw [DataView.mk.injEq] at hview
  rw [hview]
  constructor
  · intro h k hk
    obtain ⟨hk, hstamped⟩ := Finset.mem_sdiff.mp hk
    have hk := Finset.mem_range.mp hk
    simpa only [bit_uuid4Bytes _ _ _ _ hk, if_neg hstamped] using h k hk
  · intro h k hk
    rw [bit_uuid4Bytes _ _ _ _ hk, bit_uuid4Bytes _ _ _ _ hk]
    split
    · rfl
    · rename_i hstamped
      exact h k (Finset.mem_sdiff.mpr ⟨Finset.mem_range.mpr hk, hstamped⟩)

/-- The text of `uuid4` is always that of a version 4 UUID, and it says all about the 122 random bits and
nothing else about the words. -/
theorem uuid4_wellFormed_lossless :
    (∀ r₀ r₁ r₂ r₃, ∃ text, uuid4 r₀ r₁ r₂ r₃ = some (String.ofList text) ∧ IsUuid4 text) ∧
    (∀ r₀ r₁ r₂ r₃ r₀' r₁' r₂' r₃', uuid4 r₀ r₁ r₂ r₃ = uuid4 r₀' r₁' r₂' r₃' ↔
      ∀ k ∈ randomPositions, (drawn r₀ r₁ r₂ r₃).getMsbD k = (drawn r₀' r₁' r₂' r₃').getMsbD k) ∧
    randomPositions.card = 122 :=
  ⟨uuid4_isUuid4, fun _ _ _ _ _ _ _ _ => uuid4_eq_iff.trans uuid4Bytes_eq_iff, by decide⟩

end TemporalSdk
