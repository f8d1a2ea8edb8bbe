import TemporalSdk.Common.Encoding

/-!
# TextDecoder of the workflow sandbox

The decoder reads a sequence of bytes by falling through the cases of its lead, and goes back behind the
lead when the sequence turns out to be invalid. Units are collected in a buffer that all decoders share.
-/

namespace TemporalSdk

namespace TextDecoder

/-! ### decode -/

/-- `inputAs8[index] & 0xff`, which is 0 behind the end -/
def byteAt (input : List UInt8) (index : ℕ) : ℕ := (input.getD index 0).toNat

structure State where
  index : ℕ
  pos : ℕ
  nextEnd : ℕ
  /-- The second half of a pair that is divided between blocks; `none` is -1. -/
  tmp : Option UInt16
  tmpBufferU16 : List UInt16
deriving DecidableEq, Repr

/-- The variables that a case of the switch leaves to the next one -/
structure Sequence where
  index : ℕ
  cp0 : ℕ
  codePoint : ℕ
  minBits : ℕ

/-- `case 15`; `none` when it breaks -/
def case15 (input : List UInt8) (index cp0 : ℕ) : Option Sequence :=
  let cp1 := byteAt input (index + 1)
  if cp1 >>> 6 ≠ 0b10 ∨ 0b11110111 < cp0 then none
  else some
    { index := index + 1
      cp0 := 0x100
      codePoint := ((cp0 &&& 0b111) <<< 6) ||| (cp1 &&& 0b00111111)
      minBits := 5 }

def case14 (input : List UInt8) (seq : Sequence) : Sequence :=
  let cp1 := byteAt input (seq.index + 1)
  { index := seq.index + 1
    cp0 := (seq.cp0 + 0x100) &&& 0x300
    codePoint := (seq.codePoint <<< 6) ||| (((seq.cp0 &&& 0b1111) <<< 6) ||| (cp1 &&& 0b00111111))
    minBits := if cp1 >>> 6 = 0b10 then seq.minBits + 4 else 24 }

/-- The last byte, in `case 12`: the index it stands at and the code point, or the index to go back to -/
def lastByte (input : List UInt8) (seq : Sequence) : Except ℕ (ℕ × ℕ) :=
  let index := seq.index + 1
  let cp1 := byteAt input index
  let codePoint := (seq.codePoint <<< 6) ||| (((seq.cp0 &&& 0b11111) <<< 6) ||| (cp1 &&& 0b00111111))
  let minBits := seq.minBits + 7
  if index < input.length ∧ cp1 >>> 6 = 0b10 ∧ codePoint >>> minBits ≠ 0 ∧ codePoint < 0x110000 then
    .ok (index, codePoint)
  else .error (index - (seq.cp0 >>> 8) - 1)

/-- `index <= lenMinus32 ? 32 : len - index` -/
def endOf (input : List UInt8) (index : ℕ) : ℕ :=
  if index + 32 ≤ input.length then 32 else input.length - index

/-- A unit goes into the buffer, and the increments of the loop follow. -/
def State.store (state : State) (index unit : ℕ) : State :=
  { state with
    index := index + 1
    pos := state.pos + 1
    tmpBufferU16 := state.tmpBufferU16.set state.pos (UInt16.ofNat unit) }

def case12 (input : List UInt8) (state : State) (seq : Sequence) : State :=
  match lastByte input seq with
  | .ok (index, codePoint) =>
    if 0x10000 ≤ codePoint then
      let high := ((codePoint - 0x10000) >>> 10) + 0xd800
      let low := ((codePoint - 0x10000) &&& 0x3ff) + 0xdc00
      if state.pos < 31 then
        let state :=
          { state with
            pos := state.pos + 1
            tmp := none
            nextEnd := endOf input index
            tmpBufferU16 := state.tmpBufferU16.set state.pos (UInt16.ofNat high) }
        state.store index low
      else State.store { state with tmp := some (UInt16.ofNat low), nextEnd := endOf input index } index high
    else State.store { state with nextEnd := endOf input index } index codePoint
  | .error index => State.store { state with nextEnd := endOf input index } index 0xfffd

/-- One turn of the inner loop. At its start `codePoint` and `minBits` are 0. -/
def turn (input : List UInt8) (state : State) : State :=
  let cp0 := byteAt input state.index
  if cp0 >>> 4 = 15 then
    match case15 input state.index cp0 with
    | some seq => case12 input state (case14 input seq)
    | none => state.store state.index 0xfffd
  else if cp0 >>> 4 = 14 then case12 input state (case14 input ⟨state.index, cp0, 0, 0⟩)
  else if cp0 >>> 4 = 13 ∨ cp0 >>> 4 = 12 then case12 input state ⟨state.index, cp0, 0, 0⟩
  else if 8 ≤ cp0 >>> 4 ∧ cp0 >>> 4 ≤ 11 then state.store state.index 0xfffd
  else state.store state.index cp0

def fillBlock (input : List UInt8) : ℕ → State → Option State
  | 0, state => if state.pos < state.nextEnd then none else some state
  | n + 1, state => if state.pos < state.nextEnd then fillBlock input n (turn input state) else some state

/-- Between two blocks, the second half of a divided pair becomes the first unit of the next block. -/
def State.carry (state : State) : State :=
  { state with
    tmpBufferU16 := state.tmpBufferU16.set 0 (state.tmp.getD 0xffff)
    pos := if state.tmp.isSome then 1 else 0
    tmp := none }

/-- What a block adds to `tmpStr`: all 32 units, cut behind those it has filled -/
def State.append (state : State) (tmpStr : JsString) : JsString :=
  let full := tmpStr ++ state.tmpBufferU16
  if state.pos < 32 then full.take (full.length - (32 - state.pos)) else full

def blocks (input : List UInt8) : ℕ → State → JsString → JsString → Option JsString
  | 0, state, resultingString, _ => if state.index < input.length then none else some resultingString
  | n + 1, state, resultingString, tmpStr =>
    if state.index < input.length then
      match fillBlock input 32 { state with nextEnd := endOf input state.index } with
      | none => none
      | some state =>
        let tmpStr := state.append tmpStr
        if state.index < input.length then
          if tmpStr.length < resultingString.length then blocks input n state.carry resultingString tmpStr
          else blocks input n state.carry (resultingString ++ tmpStr) []
        else blocks input n state (resultingString ++ (tmpStr ++ state.tmp.toList)) []
    else some resultingString

/-- `TextDecoder.prototype.decode`, on a buffer that holds what the decoder before has left in it -/
def decode (tmpBufferU16 : List UInt16) (input : List UInt8) : Option JsString :=
  blocks input (2 * input.length + 1) ⟨0, 0, 0, none, tmpBufferU16⟩ [] []

/-- The string of the points of the bytes -/
def textOf (input : List UInt8) : JsString := (Utf8.decode input).flatMap Utf8.utf16

/-! ### Sequences of bytes -/

lemma byteAt_drop {input bytes : List UInt8} {index : ℕ} {b : UInt8} (hdrop : input.drop index = b :: bytes) :
    byteAt input index = b.toNat := by
  have hget : input[index]? = some b := by rw [← List.head?_drop, hdrop, List.head?_cons]
  rw [byteAt, List.getD_eq_getElem?_getD, hget, Option.getD_some]

lemma byteAt_lt (input : List UInt8) (index : ℕ) : byteAt input index < 256 := UInt8.toNat_lt _

lemma byteAt_end {input : List UInt8} {index : ℕ} (hle : input.length ≤ index) : byteAt input index = 0 := by
  rw [byteAt, List.getD_eq_getElem?_getD, List.getElem?_eq_none hle]
  rfl

lemma lt_of_tail {input : List UInt8} {index : ℕ} (htail : byteAt input index >>> 6 = 0b10) :
    index < input.length := by
  by_contra hle
  rw [byteAt_end (Nat.le_of_not_lt hle)] at htail
  cases htail

/-- Continuation bytes are read where the decoder looks for them. -/
lemma readTails_drop (input : List UInt8) (n p index : ℕ) :
    Utf8.readTails (n + 1) p (input.drop index) =
      if byteAt input index >>> 6 = 0b10 then
        Utf8.readTails n (p * 64 + byteAt input index % 64) (input.drop (index + 1))
      else none := by
  have hshift : byteAt input index >>> 6 = byteAt input index / 64 := Nat.shiftRight_eq_div_pow _ 6
  cases hdrop : input.drop index with
  | nil =>
    have hend := byteAt_end (List.drop_eq_nil_iff.mp hdrop)
    rw [Utf8.readTails, hend, if_neg (by decide)]
  | cons b bytes =>
    have hrest : input.drop (index + 1) = bytes := by
      rw [← List.drop_drop, hdrop, List.drop_one, List.tail_cons]
    rw [Utf8.readTails, hshift, byteAt_drop hdrop, hrest, Utf8.isTail]
    simp only [beq_iff_eq]

lemma sixBits (a t : ℕ) : (a <<< 6) ||| (t &&& 0b00111111) = a * 64 + t % 64 := by
  have hlt : t % 64 < 2 ^ 6 := Nat.mod_lt t (by norm_num)
  rw [TextEncoder.and_63, TextEncoder.shift_or a 6 hlt]
  rfl

/-- The bits of a byte come either first or behind those that are there. -/
lemma addBits {p lead q : ℕ} (h : p = 0 ∧ lead = q ∨ p = q ∧ lead = 0) (t : ℕ) :
    (p <<< 6) ||| ((lead <<< 6) ||| (t &&& 0b00111111)) = q * 64 + t % 64 := by
  rcases h with ⟨rfl, rfl⟩ | ⟨rfl, rfl⟩
  · rw [Nat.zero_shiftLeft, Nat.zero_or, sixBits]
  · rw [Nat.zero_shiftLeft, Nat.zero_or, sixBits]

lemma shiftRight_ne_zero (a k : ℕ) : a >>> k ≠ 0 ↔ 2 ^ k ≤ a := by
  have hpos : 0 < 2 ^ k := Nat.two_pow_pos k
  rw [Nat.shiftRight_eq_div_pow, Ne, Nat.div_eq_zero_iff]
  omega

/-- What the last byte makes of the bits `q` before it -/
lemma lastByte_eq (input : List UInt8) {index cp0 p q minBits : ℕ}
    (hq : p = 0 ∧ cp0 &&& 0b11111 = q ∨ p = q ∧ cp0 &&& 0b11111 = 0) :
    lastByte input ⟨index, cp0, p, minBits⟩ =
      if byteAt input (index + 1) >>> 6 = 0b10 ∧
          2 ^ (minBits + 7) ≤ q * 64 + byteAt input (index + 1) % 64 ∧
          q * 64 + byteAt input (index + 1) % 64 < 0x110000 then
        .ok (index + 1, q * 64 + byteAt input (index + 1) % 64)
      else .error (index + 1 - (cp0 >>> 8) - 1) := by
  have hlt := @lt_of_tail input (index + 1)
  rw [lastByte]
  simp only [addBits hq, shiftRight_ne_zero]
  congr 1
  apply propext
  constructor
  · rintro ⟨-, htail, hmin, hmax⟩
    exact ⟨htail, hmin, hmax⟩
  · rintro ⟨htail, hmin, hmax⟩
    exact ⟨hlt htail, htail, hmin, hmax⟩

/-- The decoder and the readings of `Utf8` agree on a sequence that starts at `index`. -/
def Agrees (input : List UInt8) (index : ℕ) (read : Except ℕ (ℕ × ℕ)) : Prop :=
  match read with
  | .ok (last, p) =>
    index ≤ last ∧ last < input.length ∧ p < 0x110000 ∧
      Utf8.readPoint (input.drop index) = some (p, input.drop (last + 1))
  | .error back => back = index ∧ Utf8.readPoint (input.drop index) = none

lemma readPoint_drop {input : List UInt8} {index : ℕ} (hlt : index < input.length) :
    Utf8.readPoint (input.drop index) =
      Utf8.readPoint (UInt8.ofNat (byteAt input index) :: input.drop (index + 1)) := by
  have hbyte : UInt8.ofNat (byteAt input index) = input.get ⟨index, hlt⟩ := by
    rw [byteAt_drop (List.drop_eq_getElem_cons hlt)]
    exact UInt8.ofNat_toNat
  rw [hbyte]
  exact congrArg Utf8.readPoint (List.drop_eq_getElem_cons hlt)

/-- The readings of `Utf8` by the byte at the index -/
lemma readPoint_byteAt {input : List UInt8} {index : ℕ} (hlt : index < input.length) :
    Utf8.readPoint (input.drop index) =
      let n := byteAt input index
      let bytes := input.drop (index + 1)
      if n < 0x80 then some (n, bytes)
      else if n < 0xc0 then none
      else if n < 0xe0 then (Utf8.readTails 1 (n % 32) bytes).filter fun r => 0x80 ≤ r.1
      else if n < 0xf0 then (Utf8.readTails 2 (n % 16) bytes).filter fun r => 0x800 ≤ r.1
      else if n < 0xf8 then
        (Utf8.readTails 3 (n % 8) bytes).filter fun r => 0x10000 ≤ r.1 ∧ r.1 < 0x110000
      else none := by
  have hbyte : (UInt8.ofNat (byteAt input index)).toNat = byteAt input index :=
    Utf8.toNat_ofNat (byteAt_lt input index)
  rw [readPoint_drop hlt, Utf8.readPoint, hbyte]

/-- The last byte decides as the reading does when both have found the same bits and the same bound. -/
lemma agrees_filter {input : List UInt8} {index last v back m : ℕ} {q : ℕ × List UInt8 → Bool}
    (hread : Utf8.readPoint (input.drop index) =
      (if byteAt input last >>> 6 = 0b10 then some (v, input.drop (last + 1)) else none).filter q)
    (hq : q (v, input.drop (last + 1)) = true ↔ 2 ^ m ≤ v ∧ v < 0x110000) (hle : index ≤ last)
    (hback : back = index) :
    Agrees input index
      (if byteAt input last >>> 6 = 0b10 ∧ 2 ^ m ≤ v ∧ v < 0x110000 then .ok (last, v) else .error back) := by
  by_cases htail : byteAt input last >>> 6 = 0b10
  · rw [if_pos htail] at hread
    by_cases hvalid : 2 ^ m ≤ v ∧ v < 0x110000
    · rw [if_pos ⟨htail, hvalid⟩]
      exact ⟨hle, lt_of_tail htail, hvalid.2, hread.trans (Option.filter_some_pos (hq.mpr hvalid))⟩
    · rw [if_neg fun h => hvalid h.2]
      exact ⟨hback, hread.trans (Option.filter_some_neg (Bool.eq_false_iff.mpr fun h => hvalid (hq.mp h)))⟩
  · rw [if_neg htail] at hread
    rw [if_neg fun h => htail h.1]
    exact ⟨hback, hread⟩

lemma agrees_two {input : List UInt8} {index : ℕ} (hlt : index < input.length)
    (hlead : 0xc0 ≤ byteAt input index ∧ byteAt input index < 0xe0) :
    Agrees input index (lastByte input ⟨index, byteAt input index, 0, 0⟩) := by
  have hbits : byteAt input index &&& 0b11111 = byteAt input index % 32 :=
    Nat.and_two_pow_sub_one_eq_mod _ 5
  have hback : byteAt input index >>> 8 = 0 := by
    rw [Nat.shiftRight_eq_div_pow]
    omega
  have hread := readPoint_byteAt hlt
  dsimp only at hread
  rw [if_neg (by omega), if_neg (by omega), if_pos (by omega), readTails_drop] at hread
  rw [lastByte_eq input (Or.inl ⟨rfl, hbits⟩), hback]
  refine agrees_filter hread ?_ (Nat.le_succ _) (by omega)
  rw [decide_eq_true_iff]
  dsimp only
  omega

lemma agrees_three {input : List UInt8} {index : ℕ} (hlt : index < input.length)
    (hlead : 0xe0 ≤ byteAt input index ∧ byteAt input index < 0xf0) :
    Agrees input index (lastByte input (case14 input ⟨index, byteAt input index, 0, 0⟩)) := by
  have hbits : byteAt input index &&& 0b1111 = byteAt input index % 16 :=
    Nat.and_two_pow_sub_one_eq_mod _ 4
  have hsize : (byteAt input index + 0x100) &&& 0x300 = 0x100 := by
    have hall : ∀ n < 16, (0xe0 + n + 0x100) &&& 0x300 = 0x100 := by decide
    have hn := hall (byteAt input index - 0xe0) (by omega)
    rwa [show 0xe0 + (byteAt input index - 0xe0) = byteAt input index by omega] at hn
  have hread := readPoint_byteAt hlt
  dsimp only at hread
  rw [if_neg (by omega), if_neg (by omega), if_neg (by omega), if_pos (by omega), readTails_drop] at hread
  rw [case14, hsize]
  dsimp only
  rw [addBits (Or.inl ⟨rfl, hbits⟩), lastByte_eq input (Or.inr ⟨rfl, rfl⟩)]
  by_cases htail : byteAt input (index + 1) >>> 6 = 0b10
  · rw [if_pos htail, readTails_drop] at hread
    rw [if_pos htail]
    refine agrees_filter hread ?_ (by omega) (by omega)
    rw [decide_eq_true_iff]
    dsimp only
    omega
  · -- 24 bits are more than any point has
    rw [if_neg htail] at hread
    rw [if_neg htail, if_neg (by omega)]
    exact ⟨by omega, hread⟩

lemma agrees_four {input : List UInt8} {index : ℕ} (hlt : index < input.length)
    (hlead : 0xf0 ≤ byteAt input index) :
    match case15 input index (byteAt input index) with
    | some seq => Agrees input index (lastByte input (case14 input seq))
    | none => Utf8.readPoint (input.drop index) = none := by
  have hbits : byteAt input index &&& 0b111 = byteAt input index % 8 :=
    Nat.and_two_pow_sub_one_eq_mod _ 3
  have hread := readPoint_byteAt hlt
  dsimp only at hread
  rw [if_neg (by omega), if_neg (by omega), if_neg (by omega), if_neg (by omega)] at hread
  rw [case15]
  by_cases hbreak : byteAt input (index + 1) >>> 6 ≠ 0b10 ∨ 0b11110111 < byteAt input index
  · rw [if_pos hbreak]
    dsimp only
    rw [hread]
    split
    · rw [readTails_drop, if_neg (by omega)]
      rfl
    · rfl
  · have htail : byteAt input (index + 1) >>> 6 = 0b10 := by omega
    rw [if_pos (by omega), readTails_drop, if_pos htail, readTails_drop] at hread
    rw [if_neg hbreak, hbits, sixBits]
    dsimp only
    rw [case14]
    dsimp only
    have hlead' : 0x100 &&& 0b1111 = 0 := rfl
    have hsize : (0x100 + 0x100) &&& 0x300 = 0x200 := rfl
    rw [hsize, addBits (Or.inr ⟨rfl, hlead'⟩), lastByte_eq input (Or.inr ⟨rfl, rfl⟩)]
    by_cases htail' : byteAt input (index + 1 + 1) >>> 6 = 0b10
    · rw [if_pos htail', readTails_drop] at hread
      rw [if_pos htail']
      refine agrees_filter hread ?_ (by omega) (by omega)
      rw [decide_eq_true_iff]
      dsimp only
      omega
    · rw [if_neg htail'] at hread
      rw [if_neg htail', if_neg (by omega)]
      exact ⟨by omega, hread⟩

/-! ### The inner loop -/

/-- The units that a block has collected, with the one it carries -/
def State.pending (state : State) : JsString := state.tmpBufferU16.take state.pos ++ state.tmp.toList

/-- What holds at each turn: a block stays within the buffer and within the bytes, and it carries a unit
only when it is full. -/
structure Filling (input : List UInt8) (state : State) : Prop where
  buffer : state.tmpBufferU16.length = 32
  pos : state.pos ≤ 32
  nextEnd : state.nextEnd ≤ 32
  bytes : state.nextEnd + state.index ≤ input.length + state.pos
  tmp : state.tmp = none ∨ state.pos = 32

/-- A turn takes bytes and stores the units of what it reads in them. -/
structure Advances (input : List UInt8) (state state' : State) : Prop where
  filling : Filling input state'
  index : state.index < state'.index
  pos : state.pos < state'.pos
  units : state'.pending ++ textOf (input.drop state'.index) = state.pending ++ textOf (input.drop state.index)

lemma endOf_le (input : List UInt8) (index : ℕ) : endOf input index ≤ 32 := by
  unfold endOf
  split
  · exact Nat.le_refl 32
  · omega

lemma endOf_bytes {input : List UInt8} {index : ℕ} (hlt : index < input.length) :
    0 < endOf input index ∧ endOf input index + index ≤ input.length := by
  unfold endOf
  split <;> omega

lemma take_set_succ {buffer : List UInt16} {pos : ℕ} (hpos : pos < buffer.length) (unit : UInt16) :
    (buffer.set pos unit).take (pos + 1) = buffer.take pos ++ [unit] := by
  rw [List.take_add_one, List.take_set_of_le (Nat.le_refl pos), List.getElem?_set_self hpos]
  rfl

lemma textOf_point {input : List UInt8} {index p last : ℕ}
    (hread : Utf8.readPoint (input.drop index) = some (p, input.drop (last + 1))) :
    textOf (input.drop index) = Utf8.utf16 p ++ textOf (input.drop (last + 1)) := by
  rw [textOf, Utf8.decode_of_readPoint hread, List.flatMap_cons]
  rfl

lemma textOf_unreadable {input : List UInt8} {index : ℕ} (hlt : index < input.length)
    (hread : Utf8.readPoint (input.drop index) = none) :
    textOf (input.drop index) = UInt16.ofNat 0xfffd :: textOf (input.drop (index + 1)) := by
  have hdrop := List.drop_eq_getElem_cons hlt
  rw [hdrop] at hread ⊢
  rw [textOf, Utf8.decode_of_unreadable hread, List.flatMap_cons]
  rfl

/-- A turn that stores one unit -/
lemma Filling.store {input : List UInt8} {state : State} (hfilling : Filling input state)
    (hpos : state.pos < state.nextEnd) {last unit nextEnd : ℕ} (hle : state.index ≤ last)
    (hnextEnd : nextEnd ≤ 32) (hbytes : nextEnd + last ≤ input.length + state.pos)
    (htext : textOf (input.drop state.index) = UInt16.ofNat unit :: textOf (input.drop (last + 1))) :
    Advances input state (State.store { state with nextEnd := nextEnd } last unit) := by
  have hroom : state.pos < state.tmpBufferU16.length := by
    have hend := hfilling.nextEnd
    rw [hfilling.buffer]
    omega
  have htmp : state.tmp = none := hfilling.tmp.resolve_right fun h => by
    have hend := hfilling.nextEnd
    omega
  refine ⟨⟨?_, ?_, hnextEnd, ?_, Or.inl htmp⟩, Nat.lt_succ_of_le hle, Nat.lt_succ_self _, ?_⟩
  · exact (List.length_set ..).trans hfilling.buffer
  · exact hfilling.buffer ▸ hroom
  · change nextEnd + (last + 1) ≤ input.length + (state.pos + 1)
    omega
  · change (state.tmpBufferU16.set state.pos (UInt16.ofNat unit)).take (state.pos + 1) ++ state.tmp.toList ++
      textOf (input.drop (last + 1)) = _
    rw [State.pending, take_set_succ hroom, htmp, htext, Option.toList_none, List.append_nil, List.append_nil,
      List.append_assoc]
    rfl

/-- A turn that stores both halves of a pair -/
lemma Filling.storePair {input : List UInt8} {state : State} (hfilling : Filling input state)
    (hroom : state.pos < 31) {last high low nextEnd : ℕ}
    (hle : state.index ≤ last) (hnextEnd : nextEnd ≤ 32) (hbytes : nextEnd + last ≤ input.length)
    (htext : textOf (input.drop state.index) =
      [UInt16.ofNat high, UInt16.ofNat low] ++ textOf (input.drop (last + 1))) :
    Advances input state (State.store
      { state with
        pos := state.pos + 1
        tmp := none
        nextEnd := nextEnd
        tmpBufferU16 := state.tmpBufferU16.set state.pos (UInt16.ofNat high) } last low) := by
  have hbuffer := hfilling.buffer
  have htmp : state.tmp = none := hfilling.tmp.resolve_right (by omega)
  have hlow : state.pos + 1 < (state.tmpBufferU16.set state.pos (UInt16.ofNat high)).length := by
    rw [List.length_set]
    omega
  refine ⟨⟨?_, ?_, hnextEnd, ?_, Or.inl rfl⟩, Nat.lt_succ_of_le hle, Nat.lt_succ_of_lt (Nat.lt_succ_self _), ?_⟩
  · exact ((List.length_set ..).trans (List.length_set ..)).trans hbuffer
  · change state.pos + 1 + 1 ≤ 32
    omega
  · change nextEnd + (last + 1) ≤ input.length + (state.pos + 1 + 1)
    omega
  · change ((state.tmpBufferU16.set state.pos (UInt16.ofNat high)).set (state.pos + 1)
      (UInt16.ofNat low)).take (state.pos + 1 + 1) ++ [] ++ textOf (input.drop (last + 1)) = _
    rw [State.pending, take_set_succ hlow, take_set_succ (by omega), htmp, htext]
    simp only [Option.toList_none, List.append_nil, List.append_assoc, List.cons_append, List.nil_append]

/-- A turn that stores the first half of a pair at the end of the buffer and keeps the second one -/
lemma Filling.storeHalf {input : List UInt8} {state : State} (hfilling : Filling input state)
    (hroom : ¬state.pos < 31) (hpos : state.pos < state.nextEnd) {last high low nextEnd : ℕ}
    (hle : state.index ≤ last) (hnextEnd : nextEnd ≤ 32) (hbytes : nextEnd + last ≤ input.length)
    (htext : textOf (input.drop state.index) =
      [UInt16.ofNat high, UInt16.ofNat low] ++ textOf (input.drop (last + 1))) :
    Advances input state (State.store
      { state with tmp := some (UInt16.ofNat low), nextEnd := nextEnd } last high) := by
  have hbuffer := hfilling.buffer
  have hend := hfilling.nextEnd
  have hfull : state.pos = 31 := by omega
  have htmp : state.tmp = none := hfilling.tmp.resolve_right (by omega)
  refine ⟨⟨?_, ?_, hnextEnd, ?_, Or.inr ?_⟩, Nat.lt_succ_of_le hle, Nat.lt_succ_self _, ?_⟩
  · exact (List.length_set ..).trans hbuffer
  · change state.pos + 1 ≤ 32
    omega
  · change nextEnd + (last + 1) ≤ input.length + (state.pos + 1)
    omega
  · change state.pos + 1 = 32
    omega
  · change (state.tmpBufferU16.set state.pos (UInt16.ofNat high)).take (state.pos + 1) ++
      [UInt16.ofNat low] ++ textOf (input.drop (last + 1)) = _
    rw [State.pending, take_set_succ (by omega), htmp, htext]
    simp only [Option.toList_none, List.append_nil, List.append_assoc, List.cons_append, List.nil_append]

/-- A turn on a sequence that ends in `case 12` -/
lemma Filling.case12 {input : List UInt8} {state : State} (hfilling : Filling input state)
    (hpos : state.pos < state.nextEnd) {seq : Sequence}
    (hagrees : Agrees input state.index (lastByte input seq)) :
    Advances input state (case12 input state seq) := by
  have hend := hfilling.nextEnd
  have hbytes := hfilling.bytes
  unfold TextDecoder.case12
  cases hlast : lastByte input seq with
  | error back =>
    rw [hlast] at hagrees
    obtain ⟨rfl, hread⟩ := hagrees
    have hlt : state.index < input.length := by omega
    have hblock := endOf_bytes hlt
    exact hfilling.store hpos (Nat.le_refl _) (endOf_le input _) (by omega) (textOf_unreadable hlt hread)
  | ok read =>
    obtain ⟨last, p⟩ := read
    rw [hlast] at hagrees
    obtain ⟨hle, hlt, hp, hread⟩ := hagrees
    have hblock := endOf_bytes hlt
    have htext := textOf_point hread
    dsimp only
    by_cases hpair : 0x10000 ≤ p
    · have hand : (p - 0x10000) &&& 0x3ff = (p - 0x10000) % 1024 := Nat.and_two_pow_sub_one_eq_mod _ 10
      have hshift : (p - 0x10000) >>> 10 = (p - 0x10000) / 1024 := Nat.shiftRight_eq_div_pow _ 10
      rw [Utf8.utf16, if_neg (by omega), Nat.add_comm 0xd800, Nat.add_comm 0xdc00, ← hshift, ← hand] at htext
      rw [if_pos hpair]
      by_cases hroom : state.pos < 31
      · rw [if_pos hroom]
        exact hfilling.storePair hroom hle (endOf_le input _) hblock.2 htext
      · rw [if_neg hroom]
        exact hfilling.storeHalf hroom hpos hle (endOf_le input _) hblock.2 htext
    · rw [Utf8.utf16, if_pos (by omega)] at htext
      rw [if_neg hpair]
      exact hfilling.store hpos hle (endOf_le input _) (by omega) htext

lemma Filling.turn {input : List UInt8} {state : State} (hfilling : Filling input state)
    (hpos : state.pos < state.nextEnd) : Advances input state (turn input state) := by
  have hend := hfilling.nextEnd
  have hbytes := hfilling.bytes
  have hlt : state.index < input.length := by omega
  have hbyte := byteAt_lt input state.index
  have hshift : byteAt input state.index >>> 4 = byteAt input state.index / 16 :=
    Nat.shiftRight_eq_div_pow _ 4
  have hstore (hread : Utf8.readPoint (input.drop state.index) = none) :
      Advances input state (state.store state.index 0xfffd) :=
    hfilling.store hpos (Nat.le_refl _) hend (by omega) (textOf_unreadable hlt hread)
  have hread := readPoint_byteAt hlt
  dsimp only at hread
  unfold TextDecoder.turn
  dsimp only
  split
  · have hfour := agrees_four hlt (by omega)
    cases hcase : case15 input state.index (byteAt input state.index) with
    | some seq =>
      rw [hcase] at hfour
      exact hfilling.case12 hpos hfour
    | none =>
      rw [hcase] at hfour
      exact hstore hfour
  split
  · exact hfilling.case12 hpos (agrees_three hlt (by omega))
  split
  · exact hfilling.case12 hpos (agrees_two hlt (by omega))
  split
  · rw [if_neg (by omega), if_pos (by omega)] at hread
    exact hstore hread
  · rw [if_pos (by omega)] at hread
    have htext := textOf_point hread
    rw [Utf8.utf16, if_pos (by omega)] at htext
    exact hfilling.store hpos (Nat.le_refl _) hend (by omega) htext

/-- A run of the inner loop: it ends with the block full or the bytes used up, and has lost nothing. -/
lemma Filling.fillBlock {input : List UInt8} {n : ℕ} {state : State} (hfilling : Filling input state)
    (hn : 32 ≤ state.pos + n) :
    ∃ state', fillBlock input n state = some state' ∧ Filling input state' ∧ state'.nextEnd ≤ state'.pos ∧
      (state.index < state'.index ∨ state' = state) ∧
      state'.pending ++ textOf (input.drop state'.index) =
        state.pending ++ textOf (input.drop state.index) := by
  induction n generalizing state with
  | zero =>
    have hend := hfilling.nextEnd
    have hfull : ¬state.pos < state.nextEnd := by omega
    exact ⟨state, by rw [TextDecoder.fillBlock, if_neg hfull], hfilling, Nat.le_of_not_lt hfull, Or.inr rfl,
      rfl⟩
  | succ n ih =>
    rw [TextDecoder.fillBlock]
    by_cases hpos : state.pos < state.nextEnd
    · have hturn := hfilling.turn hpos
      have hafter := hturn.pos
      obtain ⟨state', hfill, hfilling', hfull, hindex, hunits⟩ := ih hturn.filling (by omega)
      have hlt : state.index < state'.index := by
        rcases hindex with hlt | rfl
        · exact hturn.index.trans hlt
        · exact hturn.index
      exact ⟨state', by rw [if_pos hpos, hfill], hfilling', hfull, Or.inl hlt, hunits.trans hturn.units⟩
    · exact ⟨state, by rw [if_neg hpos], hfilling, Nat.le_of_not_lt hpos, Or.inr rfl, rfl⟩

/-! ### Blocks -/

/-- Of the 32 units of the buffer, those that the block has filled are added. -/
lemma append_eq {input : List UInt8} {state : State} (hfilling : Filling input state) (tmpStr : JsString) :
    state.append tmpStr = tmpStr ++ state.tmpBufferU16.take state.pos := by
  have hbuffer := hfilling.buffer
  have hpos := hfilling.pos
  unfold State.append
  dsimp only
  split
  · have hcut : (tmpStr ++ state.tmpBufferU16).length - (32 - state.pos) = tmpStr.length + state.pos := by
      rw [List.length_append]
      omega
    rw [hcut, List.take_length_add_append]
  · rw [List.take_of_length_le (by omega)]

/-- What the loop over the blocks starts each block with -/
structure BlockStart (input : List UInt8) (state : State) : Prop where
  buffer : state.tmpBufferU16.length = 32
  tmp : state.tmp = none
  pos : state.pos ≤ 1

lemma BlockStart.filling {input : List UInt8} {state : State} (hstart : BlockStart input state)
    (hlt : state.index < input.length) :
    Filling input { state with nextEnd := endOf input state.index } := by
  have hpos := hstart.pos
  have hblock := endOf_bytes hlt
  refine ⟨hstart.buffer, ?_, endOf_le input _, ?_, Or.inl hstart.tmp⟩
  · change state.pos ≤ 32
    omega
  · change endOf input state.index + state.index ≤ input.length + state.pos
    omega

/-- The unit that a block carries is the first one of the next block. -/
lemma Filling.carry {input : List UInt8} {state : State} (hfilling : Filling input state) :
    BlockStart input state.carry ∧ state.carry.pending = state.tmp.toList := by
  have hbuffer := hfilling.buffer
  refine ⟨⟨(List.length_set ..).trans hbuffer, rfl, ?_⟩, ?_⟩
  · change (if state.tmp.isSome then 1 else 0) ≤ 1
    split <;> omega
  · cases htmp : state.tmp with
    | none => simp [State.pending, State.carry, htmp]
    | some unit =>
      have hcons : (state.tmpBufferU16.set 0 unit).take (0 + 1) = state.tmpBufferU16.take 0 ++ [unit] :=
        take_set_succ (by omega) unit
      change (state.tmpBufferU16.set 0 (state.tmp.getD 0xffff)).take (if state.tmp.isSome then 1 else 0) ++
        [] = _
      rw [htmp, Option.getD_some, Option.isSome_some, if_pos rfl, List.append_nil, hcons]
      rfl

lemma blocks_end {input : List UInt8} {state : State} (hend : ¬state.index < input.length) (n : ℕ)
    (resultingString tmpStr : JsString) :
    blocks input n state resultingString tmpStr = some resultingString := by
  cases n <;> rw [blocks, if_neg hend]

/-- The loop over the blocks ends, and the text of the remaining bytes follows what there is. -/
lemma blocks_eq {input : List UInt8} {n : ℕ} {state : State} (hstart : BlockStart input state)
    (hlt : state.index < input.length) (hn : 2 * (input.length - state.index) + state.pos ≤ n)
    (resultingString tmpStr : JsString) :
    blocks input n state resultingString tmpStr =
      some (resultingString ++ tmpStr ++ (state.pending ++ textOf (input.drop state.index))) := by
  induction n generalizing state resultingString tmpStr with
  | zero => omega
  | succ n ih =>
    have hblock := endOf_bytes hlt
    obtain ⟨filled, hfill, hfilling, hfull, hindex, hunits⟩ := (hstart.filling hlt).fillBlock (n := 32)
      (Nat.le_add_left _ _)
    obtain ⟨hnext, hpending⟩ := hfilling.carry
    change filled.pending ++ textOf (input.drop filled.index) =
      state.pending ++ textOf (input.drop state.index) at hunits
    rw [blocks, if_pos hlt, hfill]
    dsimp only
    rw [append_eq hfilling, ← hunits]
    by_cases hmore : filled.index < input.length
    · -- a block that takes no byte only gives out the unit it was carried
      have hmeasure : 2 * (input.length - filled.index) + filled.carry.pos ≤ n := by
        have hpos := hnext.pos
        have hstartPos := hstart.pos
        rcases hindex with hlt' | rfl
        · change state.index < filled.index at hlt'
          omega
        · have hcarry : (State.carry { state with nextEnd := endOf input state.index }).pos = 0 := by
            change (if state.tmp.isSome then 1 else 0) = 0
            rw [hstart.tmp]
            rfl
          rw [hcarry]
          change endOf input state.index ≤ state.pos at hfull
          change 2 * (input.length - state.index) + 0 ≤ n
          omega
      have hrest := ih hnext hmore hmeasure
      rw [hpending] at hrest
      rw [if_pos hmore, State.pending]
      split
      · rw [hrest]
        simp only [List.append_assoc]
        rfl
      · rw [hrest]
        simp only [List.append_assoc, List.append_nil]
        rfl
    · have hnil : textOf (input.drop filled.index) = [] := by
        rw [List.drop_eq_nil_of_le (Nat.le_of_not_lt hmore), textOf, Utf8.decode]
        rfl
      rw [if_neg hmore, blocks_end hmore, hnil, State.pending]
      simp only [List.append_assoc, List.append_nil]

lemma blocks_start {tmpBufferU16 : List UInt16} (hbuffer : tmpBufferU16.length = 32) (input : List UInt8) :
    blocks input (2 * input.length + 1) ⟨0, 0, 0, none, tmpBufferU16⟩ [] [] = some (textOf input) := by
  cases input with
  | nil => simp [blocks, textOf, Utf8.decode]
  | cons b bytes =>
    have hstart : BlockStart (b :: bytes) ⟨0, 0, 0, none, tmpBufferU16⟩ := ⟨hbuffer, rfl, Nat.zero_le 1⟩
    exact blocks_eq hstart (Nat.succ_pos _) (Nat.le_succ _) [] []

/-- **The decoder**: whatever the buffer holds from before, the result is the string of the points of the
bytes; where the blocks end does not show. -/
theorem decode_eq {tmpBufferU16 : List UInt16} (hbuffer : tmpBufferU16.length = 32) (input : List UInt8) :
    decode tmpBufferU16 input = some (textOf input) := by
  rw [decode, blocks_start hbuffer]

theorem decode_eq_dividedPair :
    decode (List.replicate 32 0) (List.replicate 31 65 ++ [0xf0, 0x9f, 0x98, 0x80, 66]) =
      some (textOf (List.replicate 31 65 ++ [0xf0, 0x9f, 0x98, 0x80, 66])) :=
  decode_eq (by decide) _

end TextDecoder

/-! ### Round trip -/

section RoundTrip

open TextEncoder (isHighSurrogate isLowSurrogate pairPoint encodedPoints Dangling)

lemma utf16_unit (unit : UInt16) : Utf8.utf16 unit.toNat = [unit] := by
  have hlt : unit.toNat < 0x10000 := unit.toNat_lt
  rw [Utf8.utf16, if_pos hlt, UInt16.ofNat_toNat]

lemma utf16_pair {high low : UInt16} (hhigh : isHighSurrogate high = true) (hlow : isLowSurrogate low = true) :
    Utf8.utf16 (pairPoint high low) = [high, low] := by
  have hhigh' : 0xd800 ≤ high.toNat ∧ high.toNat ≤ 0xdbff := of_decide_eq_true hhigh
  have hlow' : 0xdc00 ≤ low.toNat ∧ low.toNat ≤ 0xdfff := of_decide_eq_true hlow
  have hfirst : 0xd800 + (pairPoint high low - 0x10000) / 1024 = high.toNat := by
    rw [pairPoint]
    omega
  have hsecond : 0xdc00 + (pairPoint high low - 0x10000) % 1024 = low.toNat := by
    rw [pairPoint]
    omega
  rw [Utf8.utf16, if_neg (by rw [pairPoint]; omega), hfirst, hsecond, UInt16.ofNat_toNat, UInt16.ofNat_toNat]

lemma pairPoint_lt {high low : UInt16} (hhigh : isHighSurrogate high = true)
    (hlow : isLowSurrogate low = true) : pairPoint high low < 0x110000 := by
  have hhigh' : 0xd800 ≤ high.toNat ∧ high.toNat ≤ 0xdbff := of_decide_eq_true hhigh
  have hlow' : 0xdc00 ≤ low.toNat ∧ low.toNat ≤ 0xdfff := of_decide_eq_true hlow
  rw [pairPoint]
  omega

lemma encodedPoints_lt (s : JsString) : ∀ p ∈ encodedPoints s, p < 0x110000 := by
  induction s using TextEncoder.encodedPoints.induct with
  | case1 => simp [encodedPoints]
  | case2 unit hhigh low rest ih =>
    rw [TextEncoder.encodedPoints_high hhigh, List.forall_mem_cons]
    refine ⟨?_, ih⟩
    split
    · rename_i hlow
      exact pairPoint_lt hhigh hlow
    · omega
  | case3 unit hhigh =>
    rw [TextEncoder.encodedPoints_dangling hhigh, List.forall_mem_singleton]
    omega
  | case4 unit rest hhigh ih =>
    have hlt : unit.toNat < 0x10000 := unit.toNat_lt
    rw [TextEncoder.encodedPoints_single (eq_false_of_ne_true hhigh), List.forall_mem_cons]
    refine ⟨?_, ih⟩
    split <;> omega

/-- The string with the replacement character for each unit that is not part of a text -/
def scrub (s : JsString) : JsString := (encodedPoints s).flatMap Utf8.utf16

lemma wellFormed_high {unit low : UInt16} {rest : JsString} (hhigh : isHighSurrogate unit = true) :
    JsString.wellFormed (unit :: low :: rest) = (isLowSurrogate low && JsString.wellFormed rest) := by
  have hbounds : 0xd800 ≤ unit.toNat ∧ unit.toNat ≤ 0xdbff := of_decide_eq_true hhigh
  rw [JsString.wellFormed, if_pos ⟨UInt16.le_iff_toNat_le.mpr hbounds.1, UInt16.le_iff_toNat_le.mpr hbounds.2⟩]
  rfl

lemma wellFormed_single {unit : UInt16} {rest : JsString} (hhigh : isHighSurrogate unit = false) :
    JsString.wellFormed (unit :: rest) = (!isLowSurrogate unit && JsString.wellFormed rest) := by
  have hbounds : ¬(0xd800 ≤ unit.toNat ∧ unit.toNat ≤ 0xdbff) := of_decide_eq_false hhigh
  have hnot : ¬(0xd800 ≤ unit ∧ unit ≤ 0xdbff) := fun h =>
    hbounds ⟨UInt16.le_iff_toNat_le.mp h.1, UInt16.le_iff_toNat_le.mp h.2⟩
  have hlow : isLowSurrogate unit = decide (0xdc00 ≤ unit ∧ unit ≤ 0xdfff) := rfl
  rw [hlow]
  cases rest <;> simp only [JsString.wellFormed, if_neg hnot]

lemma utf16_replacement : Utf8.utf16 0xfffd = [0xfffd] := rfl

lemma ne_replacement {unit : UInt16} (h : isHighSurrogate unit = true ∨ isLowSurrogate unit = true) :
    (0xfffd : UInt16) ≠ unit := by
  rintro rfl
  revert h
  decide

lemma scrub_eq_iff (s : JsString) : scrub s = s ↔ s.wellFormed = true := by
  induction s using TextEncoder.encodedPoints.induct with
  | case1 => simp [scrub, encodedPoints, JsString.wellFormed]
  | case2 unit hhigh low rest ih =>
    rw [wellFormed_high hhigh, scrub, TextEncoder.encodedPoints_high hhigh, List.flatMap_cons, Bool.and_eq_true,
      ← ih]
    cases hlow : isLowSurrogate low with
    | true =>
      rw [if_pos rfl, utf16_pair hhigh hlow]
      simp [scrub]
    | false =>
      rw [if_neg Bool.false_ne_true, utf16_replacement, List.singleton_append, List.cons.injEq]
      simp [ne_replacement (Or.inl hhigh)]
  | case3 unit hhigh =>
    rw [scrub, TextEncoder.encodedPoints_dangling hhigh, List.flatMap_singleton, utf16_replacement]
    have hill : JsString.wellFormed [unit] = false := by
      have hbounds : 0xd800 ≤ unit.toNat ∧ unit.toNat ≤ 0xdbff := of_decide_eq_true hhigh
      rw [JsString.wellFormed,
        if_pos ⟨UInt16.le_iff_toNat_le.mpr hbounds.1, UInt16.le_iff_toNat_le.mpr hbounds.2⟩]
    simp [hill, ne_replacement (Or.inl hhigh)]
  | case4 unit rest hhigh ih =>
    have hhigh' := eq_false_of_ne_true hhigh
    rw [wellFormed_single hhigh', scrub, TextEncoder.encodedPoints_single hhigh', List.flatMap_cons,
      Bool.and_eq_true, ← ih]
    cases hlow : isLowSurrogate unit with
    | true =>
      rw [if_pos rfl, utf16_replacement, List.singleton_append, List.cons.injEq]
      simp [ne_replacement (Or.inr hlow)]
    | false =>
      rw [if_neg Bool.false_ne_true, utf16_unit]
      simp [scrub]

lemma decode_encodedPoints (s : JsString) :
    TextDecoder.textOf (Utf8.encode (encodedPoints s)) = scrub s := by
  have hdecode := Utf8.decode_encode (encodedPoints_lt s) []
  rw [List.append_nil, Utf8.decode, List.append_nil] at hdecode
  rw [TextDecoder.textOf, hdecode]
  rfl

/-- The last character, cut off before its last byte, is read as two replacement characters. -/
lemma decode_cutOff {s : JsString} (hdangling : Dangling s) :
    TextDecoder.textOf (Utf8.encode (encodedPoints s)).dropLast ≠ s := by
  obtain ⟨⟨high, hlast, hhigh⟩, ps, hps⟩ := hdangling
  have hlt : ∀ p ∈ ps, p < 0x110000 := fun p hp =>
    encodedPoints_lt s p (hps ▸ List.mem_append_left _ hp)
  have hbytes : (Utf8.encode (encodedPoints s)).dropLast = Utf8.encode ps ++ [0xef, 0xbf] := by
    have htail : Utf8.encode [0xfffd] = [0xef, 0xbf, 0xbd] := by decide
    rw [hps, Utf8.encode, List.flatMap_append, ← Utf8.encode, ← Utf8.encode, htail,
      List.dropLast_append_of_ne_nil (by simp)]
    rfl
  have htail : Utf8.decode [0xef, 0xbf] = [0xfffd, 0xfffd] := by
    rw [Utf8.decode_of_unreadable (by decide), Utf8.decode_of_unreadable (by decide), Utf8.decode]
  intro heq
  rw [hbytes, TextDecoder.textOf, Utf8.decode_encode hlt, htail, List.flatMap_append] at heq
  rw [← heq, List.getLast?_append] at hlast
  have hreplacement : (0xfffd : UInt16) = high := by simpa [Utf8.utf16] using hlast
  exact ne_replacement (Or.inl hhigh) hreplacement

lemma not_wellFormed {s : JsString} (hdangling : Dangling s) : ¬s.wellFormed = true := by
  obtain ⟨⟨high, hlast, hhigh⟩, ps, hps⟩ := hdangling
  rw [← scrub_eq_iff]
  intro hscrub
  rw [scrub, hps, List.flatMap_append, List.flatMap_singleton, utf16_replacement] at hscrub
  rw [← hscrub, List.getLast?_append] at hlast
  have hreplacement : (0xfffd : UInt16) = high := by simpa using hlast
  exact ne_replacement (Or.inl hhigh) hreplacement

lemma decode_encode_of_wellFormed {tmpBufferU16 : List UInt16} (hbuffer : tmpBufferU16.length = 32)
    {s : JsString} (hs : s.wellFormed = true) :
    (TextEncoder.encode s).bind (TextDecoder.decode tmpBufferU16) = some s := by
  obtain ⟨result, hencode, hresult⟩ := TextEncoder.encode_cases s
  obtain rfl := hresult.resolve_right fun h => not_wellFormed h.1 hs
  rw [hencode, Option.bind_some, TextDecoder.decode, TextDecoder.blocks_start hbuffer, decode_encodedPoints,
    (scrub_eq_iff s).mpr hs]

/-- **Round trip**: the decoder gives a string back from the bytes of the encoder if and only if every
surrogate in it is one of a pair. -/
theorem decode_encode_iff {tmpBufferU16 : List UInt16} (hbuffer : tmpBufferU16.length = 32) (s : JsString) :
    (TextEncoder.encode s).bind (TextDecoder.decode tmpBufferU16) = some s ↔ s.wellFormed = true := by
  refine ⟨fun hround => ?_, decode_encode_of_wellFormed hbuffer⟩
  obtain ⟨result, hencode, hresult⟩ := TextEncoder.encode_cases s
  rw [hencode, Option.bind_some, TextDecoder.decode, TextDecoder.blocks_start hbuffer, Option.some_inj] at hround
  rcases hresult with rfl | ⟨hdangling, rfl⟩
  · rwa [decode_encodedPoints, scrub_eq_iff] at hround
  · exact absurd hround (decode_cutOff hdangling)

theorem decode_encode_emoji :
    (TextEncoder.encode [0x20ac, 0xd83d, 0xde00]).bind (TextDecoder.decode (List.replicate 32 0)) =
      some [0x20ac, 0xd83d, 0xde00] :=
  (decode_encode_iff (by decide) _).mpr (by decide)

/-- The texts of the sandbox: JSON as the language has it, bytes as its own encoder and decoder have them -/
def sandboxText (text : JsText) (tmpBufferU16 : List UInt16) : JsText :=
  { text with
    encode := fun s => (TextEncoder.encode s).getD []
    decode := fun bytes => (TextDecoder.decode tmpBufferU16 bytes).getD [] }

/-- What the payload converters rely on holds of the encoder and the decoder of the sandbox. -/
lemma documented_sandboxText {text : JsText} (htext : text.Documented) {tmpBufferU16 : List UInt16}
    (hbuffer : tmpBufferU16.length = 32) : (sandboxText text tmpBufferU16).Documented where
  parse_print := htext.parse_print
  parse_nil := htext.parse_nil
  print_wellFormed := htext.print_wellFormed
  decode_encode s hs := by
    obtain ⟨bytes, hencode, hdecode⟩ := Option.bind_eq_some_iff.mp (decode_encode_of_wellFormed hbuffer hs)
    change (TextDecoder.decode tmpBufferU16 ((TextEncoder.encode s).getD [])).getD [] = s
    rw [hencode, Option.getD_some, hdecode, Option.getD_some]

/-- JSON of the list of one string without escapes; of other texts only the empty one is no JSON. -/
def listText : JsText :=
  { asciiText with
    print := fun
      | .array [.string s] =>
        let written := JsString.ofAscii "[\"" ++ s ++ JsString.ofAscii "\"]"
        if written.wellFormed && s.all (fun unit => 32 ≤ unit && unit != 0x22 && unit != 0x5c) then written
        else JsString.ofAscii "null"
      | _ => JsString.ofAscii "null"
    parse := fun
      | [] => .error (.other "SyntaxError: Unexpected end of JSON input")
      | 0x5b :: 0x22 :: rest => .ok (.array [.string (rest.take (rest.length - 2))])
      | _ => .ok .null }

lemma print_listText (tree : JsonTree) :
    (listText.print tree).wellFormed = true ∧ ∃ unit rest, listText.print tree = unit :: rest := by
  have hnull : (JsString.ofAscii "null").wellFormed = true ∧
      ∃ unit rest, JsString.ofAscii "null" = unit :: rest := ⟨by decide +kernel, _, _, rfl⟩
  simp only [listText]
  split
  · split
    · rename_i hplain
      exact ⟨(Bool.and_eq_true_iff.mp hplain).1, _, _, rfl⟩
    · exact hnull
  · exact hnull

lemma documented_listText : listText.Documented where
  parse_print tree := by
    obtain ⟨-, unit, rest, hprint⟩ := print_listText tree
    rw [hprint]
    simp only [listText]
    split
    · rename_i hnil
      cases hnil
    · exact ⟨_, rfl⟩
    · exact ⟨_, rfl⟩
  parse_nil := ⟨_, rfl⟩
  print_wellFormed tree := (print_listText tree).1
  decode_encode s _ := decode_encode_asciiText s

/-- An object: a list with the sign of the euro -/
def euroHeap : JsHeap := fun _ => ⟨.array [.string [0x20ac]], .undefined⟩

lemma stringify_euroHeap : euroHeap.stringify 100 (.object 0) = .ok (some (.array [.string [0x20ac]])) := by
  have happly : euroHeap.applyToJSON .root (.object 0) = .ok (.object 0) := rfl
  have hkind : (euroHeap 0).kind = .array [.string [0x20ac]] := rfl
  have hstring (limit : ℕ) (stack : List ℕ) (key : JsPropertyKey) :
      euroHeap.serialize limit stack key (.string [0x20ac]) = .ok (some (.string [0x20ac])) := by
    rw [JsHeap.serialize]
    rfl
  rw [JsHeap.stringify, JsHeap.serialize]
  simp [happly, hkind, hstring, bind, Except.bind, pure, Except.pure]

/-- With this encoder and decoder -/
def euroText : JsText := sandboxText listText (List.replicate 32 0)

/-- The list is written in UTF-8 and read again, and every payload is read by the converter that made it. -/
theorem payloads_readable_iff_euro :
    ((defaultPayloadConverter euroText euroHeap 100).toPayload (euroHeap.toText euroText 100 [])
      (.object 0)).map PayloadMessage.data = .ok (some [0x5b, 0x22, 0xe2, 0x82, 0xac, 0x22, 0x5d]) ∧
    Readable euroText euroHeap 100 (.object 0) ∧
    (defaultPayloadConverter euroText euroHeap 100).UsesSameConverter euroText (euroHeap.toText euroText 100 []) := by
  have hdocumented : euroText.Documented := documented_sandboxText documented_listText rfl
  have hconvertible : Convertible euroText euroHeap 100 (.object 0) := by
    refine .inr (.inr ⟨fun ⟨written, happly, hunwritten⟩ => ?_, fun ⟨e, herror⟩ => ?_⟩)
    · cases happly
      rcases hunwritten with h | h | h <;> cases h
    · rw [stringify_euroHeap] at herror
      cases herror
  obtain ⟨hreadable, hsame⟩ := @payloads_readable_iff euroText euroHeap 100 hdocumented
  refine ⟨?_, (hreadable _).mpr hconvertible, hsame _ _ nodup_default (tags_default hdocumented)⟩
  have hbytes : euroText.encode (euroText.print (.array [.string [0x20ac]])) =
      [0x5b, 0x22, 0xe2, 0x82, 0xac, 0x22, 0x5d] := by decide +kernel
  rw [toPayload_json euroText 100 JsHeapValue.noConfusion rfl, stringify_euroHeap]
  simp only [Except.map, Option.elim_some, hbytes]

end RoundTrip

end TemporalSdk
