import TemporalSdk.Common.PayloadConversion
import TemporalSdk.Library.Utf8

/-!
# TextEncoder and TextDecoder of the workflow sandbox

The encoder writes into a typed array that it replaces by a larger one when the text turns out to be
wide; the decoder fills blocks of 32 units, with the second half of a surrogate pair carried into the
next block. Both are compared with the UTF-8 of the points of the string.
-/

namespace TemporalSdk

namespace TextEncoder

/-! ### encode -/

/-- `charCodeAt(i) | 0`, which is 0 behind the end -/
def charCodeAt (s : JsString) (i : ℕ) : ℕ := (s.getD i 0).toNat

structure State where
  i : ℕ
  pos : ℕ
  result : List UInt8
  upgradededArraySize : Bool
deriving DecidableEq, Repr

/-- Stores of consecutive elements; a typed array ignores those behind its end. -/
def write (result : List UInt8) (pos : ℕ) : List ℕ → List UInt8
  | [] => result
  | value :: values => write (result.set pos (UInt8.ofNat value)) (pos + 1) values

/-- The stores of one turn of the loop, which has come to unit `i`, and the increments after them -/
def State.put (state : State) (i : ℕ) (values : List ℕ) : State :=
  { state with
    i := i + 1
    pos := state.pos + values.length
    result := write state.result state.pos values }

def State.putWide (state : State) (i point : ℕ) : State :=
  state.put i [(0xe <<< 4) ||| (point >>> 12), (0x2 <<< 6) ||| ((point >>> 6) &&& 0x3f),
    (0x2 <<< 6) ||| (point &&& 0x3f)]

/-- `widenCheck`; setting a longer array into the new one throws. -/
def State.widenCheck (state : State) (len i : ℕ) : Option State :=
  if !state.upgradededArraySize ∧ i <<< 1 < state.pos ∧ i <<< 1 < state.pos - 7 then
    if state.result.length ≤ len * 3 then
      some
        { state with
          upgradededArraySize := true
          result := state.result ++ List.replicate (len * 3 - state.result.length) 0 }
    else none
  else some state

def step (s : JsString) (state : State) : Option State :=
  let i := state.i
  let point := charCodeAt s i
  if point ≤ 0x007f then some (state.put i [point])
  else if point ≤ 0x07ff then
    some (state.put i [(0x6 <<< 5) ||| (point >>> 6), (0x2 <<< 6) ||| (point &&& 0x3f)])
  else if 0xd800 ≤ point ∧ point ≤ 0xdbff then
    let nextcode := charCodeAt s (i + 1)
    if 0xdc00 ≤ nextcode ∧ nextcode ≤ 0xdfff then
      let point := (point <<< 10) + nextcode - 0x35fdc00
      if point > 0xffff then
        some (state.put (i + 1) [(0x1e <<< 3) ||| (point >>> 18), (0x2 <<< 6) ||| ((point >>> 12) &&& 0x3f),
          (0x2 <<< 6) ||| ((point >>> 6) &&& 0x3f), (0x2 <<< 6) ||| (point &&& 0x3f)])
      else some (state.putWide (i + 1) point)
    else (state.widenCheck s.length (i + 1)).map fun state => state.putWide (i + 1) 65533
  else if 0xd800 ≤ point ∧ point ≤ 0xdfff then
    (state.widenCheck s.length i).map fun state => state.putWide i 65533
  else (state.widenCheck s.length i).map fun state => state.putWide i point

def loop (s : JsString) : ℕ → State → Option State
  | 0, state => if state.i < s.length then none else some state
  | n + 1, state => if state.i < s.length then step s state >>= loop s n else some state

/-- `TextEncoder.prototype.encode`; `none` is the `RangeError` of the larger array. -/
def encode (s : JsString) : Option (List UInt8) :=
  (loop s s.length ⟨0, 0, List.replicate (2 * s.length + 8) 0, false⟩).map fun state =>
    state.result.take state.pos

/-! ### What it writes -/

def isHighSurrogate (unit : UInt16) : Bool := decide (0xd800 ≤ unit.toNat ∧ unit.toNat ≤ 0xdbff)

def isLowSurrogate (unit : UInt16) : Bool := decide (0xdc00 ≤ unit.toNat ∧ unit.toNat ≤ 0xdfff)

def pairPoint (high low : UInt16) : ℕ := (high.toNat - 0xd800) * 1024 + (low.toNat - 0xdc00) + 0x10000

/-- The points of the string. A high surrogate that begins no pair takes the unit behind it along. -/
def encodedPoints : JsString → List ℕ
  | [] => []
  | unit :: rest =>
    if isHighSurrogate unit then
      match rest with
      | low :: rest => (if isLowSurrogate low then pairPoint unit low else 0xfffd) :: encodedPoints rest
      | [] => [0xfffd]
    else (if isLowSurrogate unit then 0xfffd else unit.toNat) :: encodedPoints rest

-- The high surrogate takes the "a" along, and a ninth character that is cut off loses its last byte.
example : encode [0xd800, 97, 98] = some [0xef, 0xbf, 0xbd, 98] := by decide
example : (encode (List.replicate 8 0x0800 ++ [0xd800])).map (·.drop 24) = some [0xef, 0xbf] := by
  decide +kernel

/-! ### Bits -/

lemma shift_or (a k : ℕ) {b : ℕ} (hb : b < 2 ^ k) : (a <<< k) ||| b = a * 2 ^ k + b := by
  rw [← Nat.shiftLeft_add_eq_or_of_lt hb, Nat.shiftLeft_eq]

lemma and_63 (a : ℕ) : a &&& 0x3f = a % 64 := Nat.and_two_pow_sub_one_eq_mod a 6

lemma tail_byte (a : ℕ) : (0x2 <<< 6) ||| (a &&& 0x3f) = 0x80 + a % 64 := by
  rw [and_63, shift_or 2 6 (by omega)]
  rfl

lemma bytes_two {p : ℕ} (hge : ¬p ≤ 0x7f) (hlt : p ≤ 0x7ff) :
    [(0x6 <<< 5) ||| (p >>> 6), (0x2 <<< 6) ||| (p &&& 0x3f)].map UInt8.ofNat = Utf8.encodePoint p := by
  have hlead : (0x6 <<< 5) ||| (p >>> 6) = 0xc0 + p / 64 := by
    rw [Nat.shiftRight_eq_div_pow, shift_or 6 5 (by omega)]
    rfl
  rw [tail_byte, hlead, Utf8.encodePoint, if_neg (by omega), if_pos (by omega)]
  rfl

/-- The bytes of one point, as the wide branch computes them -/
def wideBytes (p : ℕ) : List ℕ :=
  [(0xe <<< 4) ||| (p >>> 12), (0x2 <<< 6) ||| ((p >>> 6) &&& 0x3f), (0x2 <<< 6) ||| (p &&& 0x3f)]

lemma bytes_three {p : ℕ} (hge : ¬p ≤ 0x7ff) (hlt : p < 0x10000) :
    (wideBytes p).map UInt8.ofNat = Utf8.encodePoint p := by
  have hlead : (0xe <<< 4) ||| (p >>> 12) = 0xe0 + p / 4096 := by
    rw [Nat.shiftRight_eq_div_pow, shift_or 0xe 4 (by omega)]
    rfl
  rw [wideBytes, tail_byte, tail_byte, hlead, Nat.shiftRight_eq_div_pow, Utf8.encodePoint, if_neg (by omega),
    if_neg (by omega), if_pos hlt]
  rfl

lemma bytes_four {p : ℕ} (hge : 0xffff < p) (hlt : p < 0x110000) :
    [(0x1e <<< 3) ||| (p >>> 18), (0x2 <<< 6) ||| ((p >>> 12) &&& 0x3f), (0x2 <<< 6) ||| ((p >>> 6) &&& 0x3f),
      (0x2 <<< 6) ||| (p &&& 0x3f)].map UInt8.ofNat = Utf8.encodePoint p := by
  have hlead : (0x1e <<< 3) ||| (p >>> 18) = 0xf0 + p / 262144 := by
    rw [Nat.shiftRight_eq_div_pow, shift_or 0x1e 3 (by omega)]
    rfl
  rw [tail_byte, tail_byte, tail_byte, hlead, Nat.shiftRight_eq_div_pow, Nat.shiftRight_eq_div_pow,
    Utf8.encodePoint, if_neg (by omega), if_neg (by omega), if_neg (by omega)]
  rfl

/-! ### Stores -/

@[simp] lemma write_length (values : List ℕ) (result : List UInt8) (pos : ℕ) :
    (write result pos values).length = result.length := by
  induction values generalizing result pos with
  | nil => rfl
  | cons value values ih => rw [write, ih, List.length_set]

lemma set_take_succ {result : List UInt8} {written : List UInt8} (value : UInt8)
    (hwritten : result.take written.length = written.take result.length) :
    (result.set written.length value).take (written.length + 1) =
      (written ++ [value]).take result.length := by
  by_cases hpos : written.length < result.length
  · rw [List.take_of_length_le hpos.le] at hwritten
    have hfits : (written ++ [value]).length ≤ result.length := by
      rw [List.length_append, List.length_singleton]
      exact hpos
    rw [List.take_of_length_le hfits, List.take_add_one, List.take_set_of_le (Nat.le_refl written.length),
      hwritten, List.getElem?_set_self hpos]
    rfl
  · have hfull : result = written.take result.length := by
      rw [← hwritten, List.take_of_length_le (by omega)]
    rw [List.set_eq_of_length_le (by omega), List.take_of_length_le (by omega),
      List.take_append_of_le_length (by omega), ← hfull]

/-- What is written stands in the array as far as the array goes. -/
lemma write_take (values : List ℕ) {result written : List UInt8}
    (hwritten : result.take written.length = written.take result.length) :
    (write result written.length values).take (written.length + values.length) =
      (written ++ values.map UInt8.ofNat).take result.length := by
  induction values generalizing result written with
  | nil => simpa [write] using hwritten
  | cons value values ih =>
    have hset : (result.set written.length (UInt8.ofNat value)).take (written ++ [UInt8.ofNat value]).length =
        (written ++ [UInt8.ofNat value]).take (result.set written.length (UInt8.ofNat value)).length := by
      simpa using set_take_succ (UInt8.ofNat value) hwritten
    have hrest := ih hset
    rw [List.length_append, List.length_singleton, List.length_set] at hrest
    rw [write, List.length_cons, List.map_cons, Nat.add_comm values.length 1, ← Nat.add_assoc, hrest,
      List.append_assoc]
    rfl

/-! ### The loop -/

lemma charCodeAt_eq {s rest : JsString} {i : ℕ} {unit : UInt16} (hdrop : s.drop i = unit :: rest) :
    charCodeAt s i = unit.toNat := by
  have hget : s[i]? = some unit := by rw [← List.head?_drop, hdrop, List.head?_cons]
  rw [charCodeAt, List.getD_eq_getElem?_getD, hget, Option.getD_some]

lemma charCodeAt_end {s : JsString} {i : ℕ} (hdrop : s.drop i = []) : charCodeAt s i = 0 := by
  have hle : s.length ≤ i := List.drop_eq_nil_iff.mp hdrop
  rw [charCodeAt, List.getD_eq_getElem?_getD, List.getElem?_eq_none hle]
  rfl

/-- The string ends in a high surrogate that begins no pair. -/
def Dangling (s : JsString) : Prop :=
  (∃ high, s.getLast? = some high ∧ isHighSurrogate high = true) ∧ ∃ ps, encodedPoints s = ps ++ [0xfffd]

/-- What the loop has done: the points `ps` are written as far as the array goes, which is far enough
unless the string dangles. -/
structure Progress (s : JsString) (state : State) (ps : List ℕ) : Prop where
  points : encodedPoints s = ps ++ encodedPoints (s.drop state.i)
  length : (Utf8.encode ps).length = state.pos
  written : state.result.take state.pos = (Utf8.encode ps).take state.result.length
  room : state.result.length = if state.upgradededArraySize then 3 * s.length else 2 * s.length + 8
  units : state.pos ≤ 3 * state.i ∧ state.pos ≤ 3 * s.length
  narrow : state.upgradededArraySize = false → state.pos ≤ 2 * state.i + 8 ∧ state.pos ≤ 2 * s.length + 9
  dangling : state.i ≤ s.length ∨ Dangling s

/-- One turn writes one point, of `values`, and comes behind unit `i`. -/
lemma Progress.put {s : JsString} {state : State} {ps : List ℕ} (hprogress : Progress s state ps)
    {i p : ℕ} {values : List ℕ} (hbytes : values.map UInt8.ofNat = Utf8.encodePoint p)
    (hpoints : encodedPoints (s.drop state.i) = p :: encodedPoints (s.drop (i + 1)))
    (hunits : state.pos + values.length ≤ 3 * (i + 1) ∧ state.pos + values.length ≤ 3 * s.length)
    (hnarrow : state.upgradededArraySize = false →
      state.pos + values.length ≤ 2 * (i + 1) + 8 ∧ state.pos + values.length ≤ 2 * s.length + 9)
    (hdangling : i < s.length ∨ Dangling s) : Progress s (state.put i values) (ps ++ [p]) := by
  have hencode : Utf8.encode (ps ++ [p]) = Utf8.encode ps ++ values.map UInt8.ofNat := by
    rw [hbytes, Utf8.encode, Utf8.encode, List.flatMap_append, List.flatMap_singleton]
  refine ⟨?_, ?_, ?_, ?_, hunits, hnarrow, hdangling⟩
  · rw [hprogress.points, hpoints, List.append_assoc]
    rfl
  · rw [hencode, List.length_append, hprogress.length, List.length_map]
    rfl
  · have hwritten : state.result.take (Utf8.encode ps).length =
        (Utf8.encode ps).take state.result.length := by
      rw [hprogress.length, hprogress.written]
    have hstores := write_take values hwritten
    rw [hprogress.length, ← hencode] at hstores
    change (write state.result state.pos values).take (state.pos + values.length) =
      (Utf8.encode (ps ++ [p])).take (write state.result state.pos values).length
    rw [write_length, hstores]
  · change (write state.result state.pos values).length = _
    rw [write_length]
    exact hprogress.room

/-- The larger array is long enough, and is there when it is needed. -/
lemma Progress.widenCheck {s : JsString} {state : State} {ps : List ℕ} (hprogress : Progress s state ps)
    {i : ℕ} (hi : state.i ≤ i) (hlt : state.i < s.length) :
    ∃ state', state.widenCheck s.length i = some state' ∧ state'.i = state.i ∧ Progress s state' ps ∧
      (state'.upgradededArraySize = false → state'.pos ≤ 2 * i + 7) := by
  have hshift : i <<< 1 = 2 * i := by rw [Nat.shiftLeft_eq, Nat.mul_comm]
  have hroom := hprogress.room
  have hunits := hprogress.units
  unfold State.widenCheck
  split
  · rename_i hwide
    obtain ⟨hsize, -, hpos⟩ := hwide
    have hsize' : state.upgradededArraySize = false := by simpa using hsize
    rw [hsize', if_neg Bool.false_ne_true] at hroom
    rw [if_pos (by omega)]
    refine ⟨_, rfl, rfl, ?_, fun h => by cases h⟩
    have hfits : state.pos ≤ state.result.length := by
      have hnarrow := hprogress.narrow hsize'
      omega
    have hlong : (Utf8.encode ps).length ≤ state.result.length := hprogress.length ▸ hfits
    refine ⟨hprogress.points, hprogress.length, ?_, ?_, hunits, (fun h => by cases h), hprogress.dangling⟩
    · have hwritten := hprogress.written
      rw [List.take_of_length_le hlong] at hwritten
      change (state.result ++ List.replicate _ 0).take state.pos = _
      rw [List.take_append_of_le_length hfits, hwritten, List.length_append, List.take_of_length_le (by omega)]
    · change (state.result ++ List.replicate _ 0).length = _
      rw [List.length_append, List.length_replicate, if_pos rfl]
      omega
  · rename_i hnarrow
    refine ⟨state, rfl, rfl, hprogress, fun hsize => ?_⟩
    by_contra hgt
    exact hnarrow ⟨by simp [hsize], by omega, by omega⟩

/-- The turn of a point of three bytes -/
lemma Progress.wide {s : JsString} {state : State} {ps : List ℕ} (hprogress : Progress s state ps)
    {i p : ℕ} (hp : ¬p ≤ 0x7ff ∧ p < 0x10000) (hi : state.i ≤ i) (hlt : state.i < s.length)
    (hpoints : encodedPoints (s.drop state.i) = p :: encodedPoints (s.drop (i + 1)))
    (hdangling : i < s.length ∨ Dangling s) :
    ∃ state', (state.widenCheck s.length i).map (fun state => state.putWide i p) = some state' ∧
      state.i < state'.i ∧ Progress s state' (ps ++ [p]) := by
  obtain ⟨widened, hwidened, hsame, hprogress', hnarrow⟩ := hprogress.widenCheck hi hlt
  refine ⟨widened.putWide i p, by rw [hwidened, Option.map_some], Nat.lt_succ_of_le hi, ?_⟩
  have hunits := hprogress'.units
  refine hprogress'.put (bytes_three hp.1 hp.2) (hsame ▸ hpoints) ?_ (fun hsize => ?_) hdangling
  · simp only [List.length_cons, List.length_nil]
    omega
  · have hbefore := hprogress'.narrow hsize
    have hcheck := hnarrow hsize
    simp only [List.length_cons, List.length_nil]
    omega

lemma encodedPoints_single {unit : UInt16} {rest : JsString} (hhigh : isHighSurrogate unit = false) :
    encodedPoints (unit :: rest) =
      (if isLowSurrogate unit then 0xfffd else unit.toNat) :: encodedPoints rest := by
  cases rest <;> simp only [encodedPoints, hhigh, Bool.false_eq_true, if_false]

lemma encodedPoints_high {unit low : UInt16} {rest : JsString} (hhigh : isHighSurrogate unit = true) :
    encodedPoints (unit :: low :: rest) =
      (if isLowSurrogate low then pairPoint unit low else 0xfffd) :: encodedPoints rest := by
  rw [encodedPoints]
  simp only [hhigh, if_true]

lemma encodedPoints_dangling {unit : UInt16} (hhigh : isHighSurrogate unit = true) :
    encodedPoints [unit] = [0xfffd] := by
  simp only [encodedPoints, hhigh, if_true]

/-- The turn of a high surrogate -/
lemma Progress.high {s rest : JsString} {state : State} {ps : List ℕ} (hprogress : Progress s state ps)
    {unit : UInt16} (hdrop : s.drop state.i = unit :: rest) (hlt : state.i < s.length)
    (hhigh : isHighSurrogate unit = true) :
    ∃ state' p, step s state = some state' ∧ state.i < state'.i ∧ Progress s state' (ps ++ [p]) := by
  have hbounds : 0xd800 ≤ unit.toNat ∧ unit.toNat ≤ 0xdbff := of_decide_eq_true hhigh
  have hrest : s.drop (state.i + 1) = rest := by
    rw [← List.drop_drop, hdrop, List.drop_one, List.tail_cons]
  have hafter : s.drop (state.i + 1 + 1) = rest.drop 1 := by rw [← List.drop_drop, hrest]
  rw [step, charCodeAt_eq hdrop]
  rw [if_neg (by omega), if_neg (by omega), if_pos hbounds]
  cases rest with
  | nil =>
    have hpoints : encodedPoints (s.drop state.i) = 0xfffd :: encodedPoints (s.drop (state.i + 1 + 1)) := by
      rw [hafter, hdrop, encodedPoints_dangling hhigh]
      rfl
    have hdangling : Dangling s := by
      refine ⟨⟨unit, ?_, hhigh⟩, ps, ?_⟩
      · rw [← List.take_append_drop state.i s, hdrop, List.getLast?_append]
        rfl
      · rw [hprogress.points, hdrop, encodedPoints_dangling hhigh]
    rw [charCodeAt_end hrest, if_neg (by omega)]
    obtain ⟨state', hstep, hi, hprogress'⟩ := hprogress.wide (p := 0xfffd) (by omega) (Nat.le_succ _) hlt
      hpoints (Or.inr hdangling)
    exact ⟨state', 0xfffd, hstep, hi, hprogress'⟩
  | cons low rest =>
    have hnext : state.i + 1 < s.length := by
      have hlength := congrArg List.length hdrop
      rw [List.length_drop, List.length_cons, List.length_cons] at hlength
      omega
    rw [charCodeAt_eq hrest]
    by_cases hlow : 0xdc00 ≤ low.toNat ∧ low.toNat ≤ 0xdfff
    · have hpair : (unit.toNat <<< 10) + low.toNat - 0x35fdc00 = pairPoint unit low := by
        rw [Nat.shiftLeft_eq, pairPoint]
        omega
      have hrange : 0xffff < pairPoint unit low ∧ pairPoint unit low < 0x110000 := by
        rw [pairPoint]
        omega
      have hpoints : encodedPoints (s.drop state.i) =
          pairPoint unit low :: encodedPoints (s.drop (state.i + 1 + 1)) := by
        rw [hafter, hdrop, encodedPoints_high hhigh, isLowSurrogate, decide_eq_true hlow]
        rfl
      have hunits := hprogress.units
      rw [if_pos hlow, hpair]
      simp only [gt_iff_lt, hrange.1, if_true]
      refine ⟨_, pairPoint unit low, rfl, Nat.lt_succ_of_lt (Nat.lt_succ_self _), ?_⟩
      refine hprogress.put (bytes_four hrange.1 hrange.2) hpoints ?_ (fun hsize => ?_) (Or.inl hnext)
      · simp only [List.length_cons, List.length_nil]
        omega
      · have hbefore := hprogress.narrow hsize
        simp only [List.length_cons, List.length_nil]
        omega
    · have hpoints : encodedPoints (s.drop state.i) =
          0xfffd :: encodedPoints (s.drop (state.i + 1 + 1)) := by
        rw [hafter, hdrop, encodedPoints_high hhigh, isLowSurrogate, decide_eq_false hlow]
        rfl
      rw [if_neg hlow]
      obtain ⟨state', hstep, hi, hprogress'⟩ := hprogress.wide (p := 0xfffd) (by omega) (Nat.le_succ _) hlt
        hpoints (Or.inl hnext)
      exact ⟨state', 0xfffd, hstep, hi, hprogress'⟩

/-- The turn of any other unit -/
lemma Progress.single {s rest : JsString} {state : State} {ps : List ℕ} (hprogress : Progress s state ps)
    {unit : UInt16} (hdrop : s.drop state.i = unit :: rest) (hlt : state.i < s.length)
    (hhigh : isHighSurrogate unit = false) :
    ∃ state' p, step s state = some state' ∧ state.i < state'.i ∧ Progress s state' (ps ++ [p]) := by
  have hrest : s.drop (state.i + 1) = rest := by
    rw [← List.drop_drop, hdrop, List.drop_one, List.tail_cons]
  have hnotHigh : ¬(0xd800 ≤ unit.toNat ∧ unit.toNat ≤ 0xdbff) := of_decide_eq_false hhigh
  have hunits := hprogress.units
  have hunit := unit.toNat_lt
  have hpoints : encodedPoints (unit :: rest) = _ := encodedPoints_single hhigh
  rw [← hdrop] at hpoints
  by_cases hlow : 0xdc00 ≤ unit.toNat ∧ unit.toNat ≤ 0xdfff
  · rw [isLowSurrogate, decide_eq_true hlow, if_pos rfl, ← hrest] at hpoints
    rw [step, charCodeAt_eq hdrop, if_neg (by omega), if_neg (by omega), if_neg hnotHigh, if_pos (by omega)]
    obtain ⟨state', hstep, hi, hprogress'⟩ := hprogress.wide (p := 0xfffd) (by omega) (Nat.le_refl _) hlt
      hpoints (Or.inl hlt)
    exact ⟨state', 0xfffd, hstep, hi, hprogress'⟩
  rw [isLowSurrogate, decide_eq_false hlow, if_neg Bool.false_ne_true, ← hrest] at hpoints
  rw [step, charCodeAt_eq hdrop]
  by_cases hone : unit.toNat ≤ 0x7f
  · have hbytes : [unit.toNat].map UInt8.ofNat = Utf8.encodePoint unit.toNat := by
      rw [Utf8.encodePoint, if_pos (by omega), List.map_singleton]
    rw [if_pos hone]
    refine ⟨_, unit.toNat, rfl, Nat.lt_succ_self _, ?_⟩
    refine hprogress.put hbytes hpoints ?_ (fun hsize => ?_) (Or.inl hlt)
    · rw [List.length_singleton]
      omega
    · have hbefore := hprogress.narrow hsize
      rw [List.length_singleton]
      omega
  rw [if_neg hone]
  by_cases htwo : unit.toNat ≤ 0x7ff
  · rw [if_pos htwo]
    refine ⟨_, unit.toNat, rfl, Nat.lt_succ_self _, ?_⟩
    refine hprogress.put (bytes_two hone htwo) hpoints ?_ (fun hsize => ?_) (Or.inl hlt)
    · simp only [List.length_cons, List.length_nil]
      omega
    · have hbefore := hprogress.narrow hsize
      simp only [List.length_cons, List.length_nil]
      omega
  · rw [if_neg htwo, if_neg hnotHigh, if_neg (by omega)]
    obtain ⟨state', hstep, hi, hprogress'⟩ := hprogress.wide ⟨htwo, by omega⟩ (Nat.le_refl _) hlt hpoints
      (Or.inl hlt)
    exact ⟨state', unit.toNat, hstep, hi, hprogress'⟩

lemma Progress.step {s : JsString} {state : State} {ps : List ℕ} (hprogress : Progress s state ps)
    (hlt : state.i < s.length) :
    ∃ state' p, step s state = some state' ∧ state.i < state'.i ∧ Progress s state' (ps ++ [p]) := by
  have hdrop : s.drop state.i = s.get ⟨state.i, hlt⟩ :: s.drop (state.i + 1) :=
    List.drop_eq_getElem_cons hlt
  cases hhigh : isHighSurrogate (s.get ⟨state.i, hlt⟩) with
  | true => exact hprogress.high hdrop hlt hhigh
  | false => exact hprogress.single hdrop hlt hhigh

/-- The loop ends, at the end of the string. -/
lemma Progress.loop {s : JsString} {n : ℕ} {state : State} {ps : List ℕ} (hprogress : Progress s state ps)
    (hn : s.length ≤ state.i + n) :
    ∃ state' ps', loop s n state = some state' ∧ s.length ≤ state'.i ∧ Progress s state' ps' := by
  induction n generalizing state ps with
  | zero =>
    have hend : ¬state.i < s.length := by omega
    exact ⟨state, ps, by rw [TextEncoder.loop, if_neg hend], by omega, hprogress⟩
  | succ n ih =>
    rw [TextEncoder.loop]
    by_cases hlt : state.i < s.length
    · obtain ⟨next, p, hstep, hi, hprogress'⟩ := hprogress.step hlt
      obtain ⟨state', ps', hloop, hend, hdone⟩ := ih hprogress' (by omega)
      exact ⟨state', ps', by rw [if_pos hlt, hstep, Option.bind_eq_bind, Option.bind_some, hloop], hend, hdone⟩
    · exact ⟨state, ps, by rw [if_neg hlt], by omega, hprogress⟩

/-- The bytes are those of the points, of which an array that is too short has lost the last byte. -/
lemma encode_cases (s : JsString) :
    ∃ result, encode s = some result ∧ (result = Utf8.encode (encodedPoints s) ∨
      Dangling s ∧ result = (Utf8.encode (encodedPoints s)).dropLast) := by
  have hstart : Progress s ⟨0, 0, List.replicate (2 * s.length + 8) 0, false⟩ [] := by
    refine ⟨rfl, rfl, rfl, ?_, ⟨Nat.zero_le _, Nat.zero_le _⟩, fun _ => ⟨Nat.zero_le _, Nat.zero_le _⟩,
      Or.inl (Nat.zero_le _)⟩
    rw [List.length_replicate]
    rfl
  obtain ⟨state, ps, hloop, hend, hprogress⟩ := hstart.loop (n := s.length) (by omega)
  have hpoints : encodedPoints s = ps := by
    rw [hprogress.points, List.drop_eq_nil_of_le hend]
    exact List.append_nil ps
  have hlength := hprogress.length
  refine ⟨_, by rw [encode, hloop, Option.map_some], ?_⟩
  rw [hpoints, hprogress.written]
  by_cases hfits : state.pos ≤ state.result.length
  · exact Or.inl (List.take_of_length_le (by omega))
  right
  have hroom := hprogress.room
  have hunits := hprogress.units
  cases hsize : state.upgradededArraySize with
  | true =>
    rw [hsize, if_pos rfl] at hroom
    omega
  | false =>
    rw [hsize, if_neg Bool.false_ne_true] at hroom
    have hnarrow := hprogress.narrow hsize
    constructor
    · rcases hprogress.dangling with hle | hdangling
      · omega
      · exact hdangling
    · rw [List.dropLast_eq_take, hlength]
      congr 1
      omega

/-- **The encoder**: it never throws, and unless the string ends in a high surrogate its bytes are the
UTF-8 of the points. A string that does may lose the last byte. -/
theorem encode_eq (s : JsString) :
    (∃ result, encode s = some result ∧ result <+: Utf8.encode (encodedPoints s) ∧
      (Utf8.encode (encodedPoints s)).length ≤ result.length + 1) ∧
    ((∀ high, s.getLast? = some high → isHighSurrogate high = false) →
      encode s = some (Utf8.encode (encodedPoints s))) := by
  obtain ⟨result, hencode, hresult⟩ := encode_cases s
  constructor
  · refine ⟨result, hencode, ?_⟩
    rcases hresult with rfl | ⟨-, rfl⟩
    · exact ⟨List.prefix_rfl, Nat.le_succ _⟩
    · exact ⟨List.dropLast_prefix _, by rw [List.length_dropLast]; omega⟩
  · intro hlast
    rcases hresult with rfl | ⟨⟨⟨high, hhigh, hsurrogate⟩, -⟩, -⟩
    · exact hencode
    · rw [hlast high hhigh] at hsurrogate
      cases hsurrogate

theorem encode_eq_euro :
    encode [0x20ac, 0xd83d, 0xde00] = some (Utf8.encode (encodedPoints [0x20ac, 0xd83d, 0xde00])) :=
  (encode_eq _).2 (by simp [isHighSurrogate])

end TextEncoder

end TemporalSdk
