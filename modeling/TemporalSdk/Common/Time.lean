import Mathlib.Data.Rat.Floor
import TemporalSdk.Common.Errors

namespace TemporalSdk

namespace JsNumber

def isFinite : JsNumber → Bool
  | finite _ => true
  | _ => false

/-- `Math.max(1, x)` -/
def max1 : JsNumber → JsNumber
  | nan => nan
  | posInfinity => posInfinity
  | negInfinity => finite 1
  | finite q => finite (if 1 ≤ q then q else 1)

/-- The text of a number that is not finite; `Invalid millis` reports only these. -/
def text : JsNumber → String
  | nan => "NaN"
  | posInfinity => "Infinity"
  | negInfinity => "-Infinity"
  | finite q => toString q

end JsNumber

/-- `Duration`: a number of milliseconds, or a string for the `ms` package -/
inductive Duration
  | number (ms : JsNumber)
  | text (s : String)
deriving DecidableEq

/-- Does JavaScript take the duration for true in a condition? -/
def Duration.truthy : Duration → Bool
  | number .nan => false
  | number (.finite q) => q ≠ 0
  | number _ => true
  | text s => s ≠ ""

/-- `Long.fromNumber` for an integral number -/
def longFromNumber (n : ℤ) : ℤ := max (-2 ^ 63) (min n (2 ^ 63 - 1))

/-- The `%` of JavaScript, which takes the sign of the dividend. -/
def jsRemainder (a b : ℚ) : ℚ :=
  let q := a / b
  a - b * (if 0 ≤ q then q.floor else -(-q).floor : ℤ)

def msNumberToTs : JsNumber → Except JsError Timestamp
  | .finite millis => .ok ⟨longFromNumber (millis / 1000).floor, jsRemainder millis 1000 * 1000000⟩
  | millis => .error (.valueError ("Invalid millis " ++ millis.text))

variable (parseMs : String → Option JsNumber)

/-- `msToNumber`, where `parseMs` is the `ms` package and `none` its `undefined` -/
def msToNumber : Duration → Except JsError JsNumber
  | .number ms => .ok ms
  | .text s =>
    match parseMs s with
    | some .nan | none => .error (.typeError ("Invalid duration string: '" ++ s ++ "'"))
    | some ms => .ok ms

def msToTs (d : Duration) : Except JsError Timestamp :=
  msToNumber parseMs d >>= msNumberToTs

def msOptionalToTs : Option Duration → Except JsError (Option Timestamp)
  | some d => if d.truthy then some <$> msToTs parseMs d else .ok none
  | none => .ok none

/-- Only `NaN` and the infinities have no timestamp. -/
lemma msNumberToTs_isOk (x : JsNumber) : (msNumberToTs x).isOk = x.isFinite := by
  cases x <;> rfl

/-! ### From timestamps to numbers -/

/-- The double nearest to a natural number; halfway, the one with the even significand -/
def nearestDouble (n : ℕ) : ℕ :=
  let ulp := 2 ^ (n.log2 - 52)
  let q := n / ulp
  let r := n % ulp
  if 2 * r < ulp ∨ 2 * r = ulp ∧ q % 2 = 0 then q * ulp else (q + 1) * ulp

/-- `Long.toNumber` -/
def longToNumber (n : ℤ) : ℤ := n.sign * nearestDouble n.natAbs

/-- The arithmetic of `Long` wraps around at 64 bits. -/
def longWrap (n : ℤ) : ℤ := n.bmod (2 ^ 64)

/-- `Long.fromNumber` for any number -/
def JsNumber.toLong : JsNumber → ℤ
  | .nan => 0
  | .posInfinity => 2 ^ 63 - 1
  | .negInfinity => -2 ^ 63
  | .finite q => longFromNumber (if 0 ≤ q then q.floor else -(-q).floor)

/-- `tsToMs` of a timestamp that is present; fields of it that are absent count as 0. -/
def tsToMs (ts : Timestamp) : JsNumber :=
  .finite (longToNumber (longWrap (longWrap (ts.seconds * 1000) + (ts.nanos / 1000000).floor)))

def optionalTsToMs (ts : Option Timestamp) : Option JsNumber := ts.map tsToMs

/-- A `Date`, as its time value -/
structure JsDate where
  getTime : JsNumber
deriving DecidableEq

/-- `new Date(ms)` for a number of milliseconds; the date is invalid beyond 8.64e15. -/
def JsDate.ofMs : JsNumber → JsDate
  | .finite ms =>
    ⟨if |ms| ≤ 8640000000000000 then .finite (if 0 ≤ ms then ms.floor else -(-ms).floor : ℤ) else .nan⟩
  | _ => ⟨.nan⟩

def tsToDate (ts : Timestamp) : JsDate := .ofMs (tsToMs ts)

def optionalTsToDate (ts : Option Timestamp) : Option JsDate := ts.map tsToDate

def optionalDateToTs : Option JsDate → Except JsError (Option Timestamp)
  | some date => some <$> msNumberToTs date.getTime
  | none => .ok none

/-- Natural numbers of at most 53 bits are doubles. -/
lemma nearestDouble_eq {n : ℕ} (h : n < 2 ^ 53) : nearestDouble n = n := by
  have hlog : n.log2 - 52 = 0 := by
    by_cases hn : n = 0
    · subst hn
      rfl
    · have hlt : n.log2 < 53 := (Nat.log2_lt hn).mpr h
      omega
  unfold nearestDouble
  simp [hlog, Nat.mod_one]

lemma longToNumber_eq {n : ℤ} (h : n.natAbs < 2 ^ 53) : longToNumber n = n := by
  unfold longToNumber
  rw [nearestDouble_eq h]
  exact Int.sign_mul_natAbs n

end TemporalSdk
