import Mathlib.Data.Nat.Init
import Mathlib.Tactic.Common

/-!
# Bytes that are read and written at any offset

Numbers of 8, 16 and 32 bits in the bytes of a buffer, the most significant byte first. Nothing is read
or written outside the buffer.
-/

structure DataView where
  bytes : List (BitVec 8)

namespace DataView

def create (length : ℕ) : DataView := ⟨List.replicate length 0⟩

variable (view : DataView)

def getUint8 (offset : ℕ) : Option (BitVec 8) := view.bytes[offset]?

def getUint16 (offset : ℕ) : Option (BitVec 16) := do
  return (← view.getUint8 offset) ++ (← view.getUint8 (offset + 1))

def getUint32 (offset : ℕ) : Option (BitVec 32) := do
  return (← view.getUint16 offset) ++ (← view.getUint16 (offset + 2))

def setUint8 (offset : ℕ) (value : BitVec 8) : Option DataView :=
  if offset < view.bytes.length then some ⟨view.bytes.set offset value⟩ else none

def setUint32 (offset : ℕ) (value : BitVec 32) : Option DataView := do
  let view ← view.setUint8 offset (value.extractLsb' 24 8)
  let view ← view.setUint8 (offset + 1) (value.extractLsb' 16 8)
  let view ← view.setUint8 (offset + 2) (value.extractLsb' 8 8)
  view.setUint8 (offset + 3) (value.extractLsb' 0 8)

/-- Both parts of a number can be read back from it. -/
lemma append_inj {v w : ℕ} {a a' : BitVec v} {b b' : BitVec w} : a ++ b = a' ++ b' ↔ a = a' ∧ b = b' := by
  constructor
  · intro h
    have hleft := congrArg (BitVec.extractLsb' w v) h
    have hright := congrArg (BitVec.extractLsb' 0 w) h
    rw [BitVec.extractLsb'_append_eq_left, BitVec.extractLsb'_append_eq_left] at hleft
    rw [BitVec.extractLsb'_append_eq_right, BitVec.extractLsb'_append_eq_right] at hright
    exact ⟨hleft, hright⟩
  · rintro ⟨rfl, rfl⟩
    rfl

lemma uint16_inj {a a' b b' : BitVec 8} :
    ((a ++ b : BitVec 16) = (a' ++ b' : BitVec 16)) ↔ a = a' ∧ b = b' := append_inj

lemma uint32_inj {a a' b b' c c' d d' : BitVec 8} :
    (((a ++ b) ++ (c ++ d) : BitVec 32) = ((a' ++ b') ++ (c' ++ d') : BitVec 32)) ↔
      (a = a' ∧ b = b') ∧ c = c' ∧ d = d' :=
  append_inj.trans (and_congr append_inj append_inj)

/-- A byte of a number has bits of the number. -/
lemma getMsbD_byte {value : BitVec 32} {offset j : ℕ} (hoffset : offset ≤ 24) (hj : j < 8) :
    (value.extractLsb' offset 8).getMsbD j = value.getMsbD (24 - offset + j) := by
  have hindex : 32 - (offset + 8 - j) = 24 - offset + j := by omega
  have hle : offset + 8 - j ≤ 32 := by omega
  simp [hindex, hle, hj]

/-- The bits of all bytes, the most significant bit of the first byte first -/
def bit (view : DataView) (k : ℕ) : Bool := ((view.bytes[k / 8]?).getD 0).getMsbD (k % 8)

/-- Buffers of one length are told apart by their bits. -/
lemma eq_iff_bit (view view' : DataView) (hlength : view.bytes.length = view'.bytes.length) :
    view = view' ↔ ∀ k < 8 * view.bytes.length, view.bit k = view'.bit k := by
  refine ⟨fun h _ _ => h ▸ rfl, fun h => ?_⟩
  obtain ⟨bytes⟩ := view
  obtain ⟨bytes'⟩ := view'
  congr
  refine List.ext_getElem hlength fun i hi hi' => ?_
  refine BitVec.eq_of_getMsbD_eq fun j hj => ?_
  have hbit := h (8 * i + j) (by simp only; omega)
  have hdiv : (8 * i + j) / 8 = i := by omega
  have hmod : (8 * i + j) % 8 = j := by omega
  simpa only [bit, hdiv, hmod, List.getElem?_eq_getElem hi, List.getElem?_eq_getElem hi',
    Option.getD_some] using hbit

end DataView
