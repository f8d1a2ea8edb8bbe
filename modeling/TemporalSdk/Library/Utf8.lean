import Mathlib.Data.List.Basic
import Mathlib.Tactic.Common

/-!
# UTF-8 and UTF-16

Code points below `0x110000` as bytes and as 16-bit units. Surrogates are points like any others for the
bytes; of the shorter and longer forms of a point only the shortest one is read.
-/

namespace Utf8

/-! ### Points and bytes -/

def encodePoint (p : ℕ) : List UInt8 :=
  if p < 0x80 then [UInt8.ofNat p]
  else if p < 0x800 then [UInt8.ofNat (0xc0 + p / 64), UInt8.ofNat (0x80 + p % 64)]
  else if p < 0x10000 then
    [UInt8.ofNat (0xe0 + p / 4096), UInt8.ofNat (0x80 + p / 64 % 64), UInt8.ofNat (0x80 + p % 64)]
  else
    [UInt8.ofNat (0xf0 + p / 262144), UInt8.ofNat (0x80 + p / 4096 % 64), UInt8.ofNat (0x80 + p / 64 % 64),
      UInt8.ofNat (0x80 + p % 64)]

def isTail (b : UInt8) : Bool := b.toNat / 64 == 2

/-- Reads continuation bytes, six bits each, after the bits `p`. -/
def readTails : ℕ → ℕ → List UInt8 → Option (ℕ × List UInt8)
  | 0, p, bytes => some (p, bytes)
  | n + 1, p, b :: bytes => if isTail b then readTails n (p * 64 + b.toNat % 64) bytes else none
  | _ + 1, _, [] => none

/-- A point at the start of the bytes, in its shortest form, and what follows it -/
def readPoint : List UInt8 → Option (ℕ × List UInt8)
  | [] => none
  | b :: bytes =>
    let n := b.toNat
    if n < 0x80 then some (n, bytes)
    else if n < 0xc0 then none
    else if n < 0xe0 then (readTails 1 (n % 32) bytes).filter fun r => 0x80 ≤ r.1
    else if n < 0xf0 then (readTails 2 (n % 16) bytes).filter fun r => 0x800 ≤ r.1
    else if n < 0xf8 then (readTails 3 (n % 8) bytes).filter fun r => 0x10000 ≤ r.1 ∧ r.1 < 0x110000
    else none

lemma toNat_ofNat {x : ℕ} (hx : x < 256) : (UInt8.ofNat x).toNat = x := by
  rw [UInt8.toNat_ofNat', Nat.mod_eq_of_lt (by simpa using hx)]

lemma isTail_ofNat {x : ℕ} (hx : x < 64) : isTail (UInt8.ofNat (0x80 + x)) = true := by
  rw [isTail, toNat_ofNat (by omega)]
  simp only [beq_iff_eq]
  omega

lemma readTails_cons {n p x : ℕ} (hx : x < 64) (bytes : List UInt8) :
    readTails (n + 1) p (UInt8.ofNat (0x80 + x) :: bytes) = readTails n (p * 64 + x) bytes := by
  have hvalue : (0x80 + x) % 64 = x := by omega
  rw [readTails, if_pos (isTail_ofNat hx), toNat_ofNat (by omega), hvalue]

/-- A point is read back from its bytes. -/
lemma readPoint_encodePoint {p : ℕ} (hp : p < 0x110000) (bytes : List UInt8) :
    readPoint (encodePoint p ++ bytes) = some (p, bytes) := by
  unfold encodePoint
  split
  · rename_i h
    simp only [List.cons_append, List.nil_append, readPoint, toNat_ofNat (show p < 256 by omega), if_pos h]
  split
  · have hpoint : (0xc0 + p / 64) % 32 * 64 + p % 64 = p := by omega
    simp only [List.cons_append, List.nil_append, readPoint, toNat_ofNat (show 0xc0 + p / 64 < 256 by omega)]
    rw [if_neg (by omega), if_neg (by omega), if_pos (by omega), readTails_cons (by omega), hpoint, readTails]
    exact Option.filter_some_pos (by simp; omega)
  split
  · have hpoint : ((0xe0 + p / 4096) % 16 * 64 + p / 64 % 64) * 64 + p % 64 = p := by omega
    simp only [List.cons_append, List.nil_append, readPoint, toNat_ofNat (show 0xe0 + p / 4096 < 256 by omega)]
    rw [if_neg (by omega), if_neg (by omega), if_neg (by omega), if_pos (by omega), readTails_cons (by omega),
      readTails_cons (by omega), hpoint, readTails]
    exact Option.filter_some_pos (by simp; omega)
  · have hpoint : (((0xf0 + p / 262144) % 8 * 64 + p / 4096 % 64) * 64 + p / 64 % 64) * 64 + p % 64 = p := by
      omega
    simp only [List.cons_append, List.nil_append, readPoint,
      toNat_ofNat (show 0xf0 + p / 262144 < 256 by omega)]
    rw [if_neg (by omega), if_neg (by omega), if_neg (by omega), if_neg (by omega), if_pos (by omega),
      readTails_cons (by omega), readTails_cons (by omega), readTails_cons (by omega), hpoint, readTails]
    exact Option.filter_some_pos (by simp; omega)

/-! ### Texts -/

lemma readTails_length {n p : ℕ} {bytes : List UInt8} {r : ℕ × List UInt8}
    (hread : readTails n p bytes = some r) : r.2.length + n = bytes.length := by
  induction n generalizing p bytes with
  | zero =>
    obtain rfl : (p, bytes) = r := by simpa [readTails] using hread
    rfl
  | succ n ih =>
    match bytes, hread with
    | b :: bytes, hread =>
      rw [readTails] at hread
      split at hread
      · have htail := ih hread
        rw [List.length_cons]
        omega
      · cases hread

/-- Reading takes at least one byte. -/
lemma readPoint_length {bytes : List UInt8} {r : ℕ × List UInt8} (hread : readPoint bytes = some r) :
    r.2.length < bytes.length := by
  match bytes, hread with
  | b :: bytes, hread =>
    simp only [readPoint] at hread
    have hfilter {n p : ℕ} {q : ℕ × List UInt8 → Bool} (h : (readTails n p bytes).filter q = some r) :
        r.2.length < (b :: bytes).length := by
      have htail := readTails_length (Option.eq_some_of_filter_eq_some h)
      rw [List.length_cons]
      omega
    split at hread
    · obtain rfl : (b.toNat, bytes) = r := by simpa using hread
      simp
    · split at hread
      · cases hread
      · split at hread
        · exact hfilter hread
        · split at hread
          · exact hfilter hread
          · split at hread
            · exact hfilter hread
            · cases hread

/-- The points of the bytes, with the replacement character for each byte that no point starts with -/
def decode : List UInt8 → List ℕ
  | [] => []
  | b :: bytes =>
    match _hread : readPoint (b :: bytes) with
    | some r => r.1 :: decode r.2
    | none => 0xfffd :: decode bytes
termination_by bytes => bytes.length
decreasing_by
  · exact readPoint_length _hread
  · simp

def encode (ps : List ℕ) : List UInt8 := ps.flatMap encodePoint

lemma decode_of_readPoint {bytes rest : List UInt8} {p : ℕ} (hread : readPoint bytes = some (p, rest)) :
    decode bytes = p :: decode rest := by
  cases bytes with
  | nil => simp [readPoint] at hread
  | cons b bytes =>
    rw [decode]
    split
    · rename_i r hr
      obtain rfl : r = (p, rest) := by simpa [hr] using hread
      rfl
    · rename_i hr
      rw [hr] at hread
      cases hread

lemma decode_of_unreadable {b : UInt8} {bytes : List UInt8} (hread : readPoint (b :: bytes) = none) :
    decode (b :: bytes) = 0xfffd :: decode bytes := by
  rw [decode]
  split
  · rename_i r hr
    rw [hr] at hread
    cases hread
  · rfl

/-- **Round trip**: the points of a text come back from its bytes, whatever follows them. -/
lemma decode_encode {ps : List ℕ} (hps : ∀ p ∈ ps, p < 0x110000) (bytes : List UInt8) :
    decode (encode ps ++ bytes) = ps ++ decode bytes := by
  induction ps with
  | nil => rfl
  | cons p ps ih =>
    have hrest := ih fun q hq => hps q (List.mem_cons_of_mem p hq)
    rw [encode, List.flatMap_cons, List.append_assoc]
    rw [decode_of_readPoint (readPoint_encodePoint (hps p List.mem_cons_self) _)]
    rw [← encode, hrest, List.cons_append]

/-! ### 16-bit units -/

/-- The units of a point: a pair of surrogates from `0x10000` on -/
def utf16 (p : ℕ) : List UInt16 :=
  if p < 0x10000 then [UInt16.ofNat p]
  else [UInt16.ofNat (0xd800 + (p - 0x10000) / 1024), UInt16.ofNat (0xdc00 + (p - 0x10000) % 1024)]

end Utf8
