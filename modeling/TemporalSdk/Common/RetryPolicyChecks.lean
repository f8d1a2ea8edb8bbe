import TemporalSdk.Common.RetryPolicy
import TemporalSdk.Common.Timestamps

/-!
# The checks of retry policies

Which policies `compileRetryPolicy` refuses, what it makes of a policy with whole milliseconds, and
what it makes of a policy that comes from the service.
-/

namespace TemporalSdk

namespace RetryPolicy

/-! ### What is refused -/

/-- The message with which a maximum of attempts is refused -/
def attemptsRefusal : Option JsNumber → Option String
  | none | some .posInfinity => none
  | some n =>
    if n.leZero then some "RetryPolicy.maximumAttempts must be a positive integer"
    else if !n.isInteger then some "RetryPolicy.maximumAttempts must be an integer"
    else none

/-- The message with which a pair of intervals is refused -/
def intervalsRefusal (initialInterval : JsNumber) (maximumInterval : Option JsNumber) :
    Option String :=
  if maximumInterval = some (.finite 0) then some "RetryPolicy.maximumInterval cannot be 0"
  else if initialInterval = .finite 0 then some "RetryPolicy.initialInterval cannot be 0"
  else if maximumInterval.any (·.lt initialInterval) then
    some "RetryPolicy.maximumInterval cannot be less than its initialInterval"
  else none

/-- The message with which a policy is refused, given its intervals in milliseconds -/
def refusal (policy : RetryPolicy) (initialInterval : JsNumber) (maximumInterval : Option JsNumber) :
    Option String :=
  if policy.backoffCoefficient.any JsNumber.leZero then
    some "RetryPolicy.backoffCoefficient must be greater than 0"
  else
    match attemptsRefusal policy.maximumAttempts with
    | some message => some message
    | none => intervalsRefusal initialInterval maximumInterval

/-- The maximum of attempts without `Infinity`, which is the default -/
def finiteAttempts (policy : RetryPolicy) : Option JsNumber :=
  match policy.maximumAttempts with
  | some .posInfinity => none
  | attempts => attempts

variable {parseMs : String → Option JsNumber} {policy : RetryPolicy} {initialInterval : JsNumber}
  {maximumInterval : Option JsNumber}

/-- The checks of the intervals, and the policy that is compiled behind them -/
lemma compileRetryPolicy_intervals (attempts : Option JsNumber) :
    (do
      if maximumInterval = some (.finite 0) then
        throw (.valueError "RetryPolicy.maximumInterval cannot be 0")
      if initialInterval = .finite 0 then
        throw (.valueError "RetryPolicy.initialInterval cannot be 0")
      if maximumInterval.any (·.lt initialInterval) then
        throw (.valueError "RetryPolicy.maximumInterval cannot be less than its initialInterval")
      return ⟨policy.backoffCoefficient, some (← msToTs parseMs (.number initialInterval)), attempts,
        ← msOptionalToTs parseMs (maximumInterval.map .number), policy.nonRetryableErrorTypes⟩ :
      Except JsError ProtoRetryPolicy) =
    match intervalsRefusal initialInterval maximumInterval with
    | some message => .error (.valueError message)
    | none => do
      return ⟨policy.backoffCoefficient, some (← msNumberToTs initialInterval), attempts,
        ← msOptionalToTs parseMs (maximumInterval.map .number), policy.nonRetryableErrorTypes⟩ := by
  unfold intervalsRefusal
  split_ifs <;> rfl

/-- A policy is refused with its message, or compiled field by field. -/
lemma compileRetryPolicy_eq
    (hinitial : msToNumber parseMs (policy.initialInterval.getD (.number (.finite 1000))) =
      .ok initialInterval)
    (hmaximum : policy.maximumInterval.mapM (msToNumber parseMs) = .ok maximumInterval) :
    compileRetryPolicy parseMs policy =
      match policy.refusal initialInterval maximumInterval with
      | some message => .error (.valueError message)
      | none => do
        return ⟨policy.backoffCoefficient, some (← msNumberToTs initialInterval),
          policy.finiteAttempts, ← msOptionalToTs parseMs (maximumInterval.map .number),
          policy.nonRetryableErrorTypes⟩ := by
  unfold compileRetryPolicy refusal finiteAttempts
  rw [hinitial, hmaximum]
  by_cases hbackoff : policy.backoffCoefficient.any JsNumber.leZero = true
  · rw [if_pos hbackoff, if_pos hbackoff]
    rfl
  · rw [if_neg hbackoff, if_neg hbackoff]
    rcases policy.maximumAttempts with _ | _ | _ | _ | q
    · exact compileRetryPolicy_intervals none
    · rfl
    · exact compileRetryPolicy_intervals none
    · rfl
    · simp only [attemptsRefusal]
      split_ifs
      · rfl
      · rfl
      · exact compileRetryPolicy_intervals (some (.finite q))

lemma refusal_eq_none_iff :
    policy.refusal initialInterval maximumInterval = none ↔
      policy.backoffCoefficient.any JsNumber.leZero = false ∧
        attemptsRefusal policy.maximumAttempts = none ∧
        intervalsRefusal initialInterval maximumInterval = none := by
  unfold refusal
  cases policy.backoffCoefficient.any JsNumber.leZero <;>
    cases attemptsRefusal policy.maximumAttempts <;> simp

lemma attemptsRefusal_eq_none_iff {attempts : Option JsNumber} :
    attemptsRefusal attempts = none ↔
      ∀ n ∈ attempts, n = .posInfinity ∨ ∃ k : ℕ, 0 < k ∧ n = .finite k := by
  rcases attempts with _ | _ | _ | _ | q
  · simp [attemptsRefusal]
  · simp [attemptsRefusal, JsNumber.leZero, JsNumber.lt, JsNumber.isInteger]
  · simp [attemptsRefusal]
  · simp [attemptsRefusal, JsNumber.leZero, JsNumber.lt]
  · simp only [attemptsRefusal, Option.mem_some_iff, forall_eq', reduceCtorEq, false_or,
      JsNumber.finite.injEq]
    constructor
    · intro h
      by_cases hle : (JsNumber.finite q).leZero = true
      · rw [if_pos hle] at h
        cases h
      · rw [if_neg hle] at h
        by_cases hden : q.den = 1
        · simp only [JsNumber.leZero, JsNumber.lt, Bool.or_eq_true, decide_eq_true_eq, beq_iff_eq,
            JsNumber.finite.injEq, not_or, not_lt] at hle
          have hpos : 0 < q.num := Rat.num_pos.mpr (lt_of_le_of_ne hle.1 (Ne.symm hle.2))
          refine ⟨q.num.toNat, by omega, ?_⟩
          calc q = (q.num : ℚ) := ((Rat.den_eq_one_iff q).mp hden).symm
            _ = ((q.num.toNat : ℤ) : ℚ) := by rw [Int.toNat_of_nonneg hpos.le]
            _ = (q.num.toNat : ℚ) := Int.cast_natCast _
        · simp [JsNumber.isInteger, hden] at h
    · rintro ⟨k, hk, rfl⟩
      have hpos : (0 : ℚ) < k := by exact_mod_cast hk
      simp [JsNumber.leZero, JsNumber.lt, JsNumber.isInteger, hpos.not_gt, hpos.ne']

lemma leZero_any_eq_false_iff {c : Option JsNumber} :
    c.any JsNumber.leZero = false ↔ ∀ x ∈ c, x = .nan ∨ (JsNumber.finite 0).lt x = true := by
  rcases c with _ | _ | _ | _ | q
  · simp
  · simp [JsNumber.leZero, JsNumber.lt]
  · simp [JsNumber.leZero, JsNumber.lt]
  · simp [JsNumber.leZero, JsNumber.lt]
  · simp only [Option.any_some, JsNumber.leZero, JsNumber.lt, Option.mem_some_iff, forall_eq',
      reduceCtorEq, false_or, Bool.or_eq_false_iff, decide_eq_false_iff_not, not_lt,
      beq_eq_false_iff_ne, ne_eq, JsNumber.finite.injEq, decide_eq_true_eq]
    exact ⟨fun h => lt_of_le_of_ne h.1 (Ne.symm h.2), fun h => ⟨h.le, h.ne'⟩⟩

lemma intervalsRefusal_eq_none_iff {i : ℤ} {m : Option ℤ} :
    intervalsRefusal (.finite i) (m.map fun x : ℤ => .finite x) = none ↔
      i ≠ 0 ∧ ∀ x ∈ m, x ≠ 0 ∧ i ≤ x := by
  unfold intervalsRefusal
  cases m with
  | none => simp
  | some x =>
    simp only [Option.map_some, Option.some.injEq, JsNumber.finite.injEq, Int.cast_eq_zero,
      Option.any_some, JsNumber.lt, Int.cast_lt, decide_eq_true_eq, Option.mem_some_iff, forall_eq']
    split_ifs <;> simp_all

end RetryPolicy

/-! ### Policies with whole milliseconds -/

/-- A `RetryPolicy` whose intervals are whole numbers of milliseconds -/
structure MillisRetryPolicy where
  backoffCoefficient : Option JsNumber
  initialInterval : Option ℤ
  maximumAttempts : Option JsNumber
  maximumInterval : Option ℤ
  nonRetryableErrorTypes : Option (List String)
deriving DecidableEq

namespace MillisRetryPolicy

def toRetryPolicy (policy : MillisRetryPolicy) : RetryPolicy where
  backoffCoefficient := policy.backoffCoefficient
  initialInterval := policy.initialInterval.map fun i : ℤ => .number (.finite i)
  maximumAttempts := policy.maximumAttempts
  maximumInterval := policy.maximumInterval.map fun m : ℤ => .number (.finite m)
  nonRetryableErrorTypes := policy.nonRetryableErrorTypes

/-- The initial interval, by default one second -/
def effectiveInitialInterval (policy : MillisRetryPolicy) : ℤ := policy.initialInterval.getD 1000

/-- What the documentation asks of a policy -/
structure Valid (policy : MillisRetryPolicy) : Prop where
  backoffCoefficient : ∀ c ∈ policy.backoffCoefficient, (JsNumber.finite 0).lt c = true
  maximumAttempts : ∀ n ∈ policy.maximumAttempts,
    n = .posInfinity ∨ ∃ k : ℕ, 0 < k ∧ n = .finite k
  initialInterval : ∀ i ∈ policy.initialInterval, 0 < i
  maximumInterval : ∀ m ∈ policy.maximumInterval, 0 < m ∧ policy.effectiveInitialInterval ≤ m

/-- The intervals are numbers that JavaScript tells apart from their neighbours. -/
def Safe (policy : MillisRetryPolicy) : Prop :=
  (∀ i ∈ policy.initialInterval, IsSafeInteger i) ∧ ∀ m ∈ policy.maximumInterval, IsSafeInteger m

/-- The policy with its initial interval filled in, and without an infinite maximum of attempts -/
def filled (policy : MillisRetryPolicy) : MillisRetryPolicy :=
  { policy with
    initialInterval := some policy.effectiveInitialInterval
    maximumAttempts := policy.toRetryPolicy.finiteAttempts }

/-- `compileRetryPolicy` returns for the valid policies and throws a `ValueError` for the others; what
it returns is decompiled to the policy with the defaults. -/
structure ValidatedExactly (parseMs : String → Option JsNumber) (policy : MillisRetryPolicy) : Prop where
  returns_iff : (∃ proto, compileRetryPolicy parseMs policy.toRetryPolicy = .ok proto) ↔ policy.Valid
  throws : ¬policy.Valid →
    ∃ message, compileRetryPolicy parseMs policy.toRetryPolicy = .error (.valueError message)
  decompiled : policy.Safe → ∀ proto, compileRetryPolicy parseMs policy.toRetryPolicy = .ok proto →
    decompileRetryPolicy (some proto) = some policy.filled.toRetryPolicy

/-- One of the comparisons of the code refuses the policy. -/
def Refused (policy : MillisRetryPolicy) : Prop :=
  policy.backoffCoefficient.any JsNumber.leZero = true ∨
    (∃ n ∈ policy.maximumAttempts, n ≠ .posInfinity ∧ ¬∃ k : ℕ, 0 < k ∧ n = .finite k) ∨
    policy.effectiveInitialInterval = 0 ∨
    ∃ m ∈ policy.maximumInterval, m = 0 ∨ m < policy.effectiveInitialInterval

/-- The policy has none of the values that the comparisons of the code overlook. -/
structure Compared (policy : MillisRetryPolicy) : Prop where
  backoffCoefficient : policy.backoffCoefficient ≠ some .nan
  initialInterval : ∀ i ∈ policy.initialInterval, 0 ≤ i

variable {parseMs : String → Option JsNumber} {policy : MillisRetryPolicy}

/-- The message with which the policy is refused -/
def refusal (policy : MillisRetryPolicy) : Option String :=
  policy.toRetryPolicy.refusal (.finite policy.effectiveInitialInterval)
    (policy.maximumInterval.map fun m : ℤ => .finite m)

lemma compileRetryPolicy_toRetryPolicy :
    compileRetryPolicy parseMs policy.toRetryPolicy =
      match policy.refusal with
      | some message => .error (.valueError message)
      | none => do
        return ⟨policy.backoffCoefficient, some (← msNumberToTs (.finite policy.effectiveInitialInterval)),
          policy.toRetryPolicy.finiteAttempts,
          ← msOptionalToTs parseMs (policy.maximumInterval.map fun m : ℤ => .number (.finite m)),
          policy.nonRetryableErrorTypes⟩ := by
  have hinitial : msToNumber parseMs (policy.toRetryPolicy.initialInterval.getD (.number (.finite 1000))) =
      .ok (.finite policy.effectiveInitialInterval) := by
    unfold toRetryPolicy effectiveInitialInterval
    cases policy.initialInterval <;> rfl
  have hmaximum : policy.toRetryPolicy.maximumInterval.mapM (msToNumber parseMs) =
      .ok (policy.maximumInterval.map fun m : ℤ => .finite m) := by
    unfold toRetryPolicy
    cases policy.maximumInterval <;> rfl
  rw [RetryPolicy.compileRetryPolicy_eq hinitial hmaximum, Option.map_map]
  rfl

lemma refusal_eq_none_iff : policy.refusal = none ↔ ¬policy.Refused := by
  unfold refusal Refused
  rw [RetryPolicy.refusal_eq_none_iff, RetryPolicy.attemptsRefusal_eq_none_iff,
    RetryPolicy.intervalsRefusal_eq_none_iff]
  push Not
  simp only [toRetryPolicy, Bool.not_eq_true, ne_eq, or_iff_not_imp_left]

/-- The code accepts the valid policies, and some of those with a value that it overlooks. -/
lemma valid_iff : policy.Valid ↔ ¬policy.Refused ∧ policy.Compared := by
  rw [← refusal_eq_none_iff, refusal, RetryPolicy.refusal_eq_none_iff,
    RetryPolicy.attemptsRefusal_eq_none_iff, RetryPolicy.intervalsRefusal_eq_none_iff,
    RetryPolicy.leZero_any_eq_false_iff]
  have heffective : ∀ i ∈ policy.initialInterval, policy.effectiveInitialInterval = i := by
    intro i hi
    rw [effectiveInitialInterval, hi, Option.getD_some]
  have hdefault : policy.initialInterval = none → policy.effectiveInitialInterval = 1000 := by
    intro hi
    rw [effectiveInitialInterval, hi, Option.getD_none]
  constructor
  · rintro ⟨hbackoff, hattempts, hinitial, hmaximum⟩
    refine ⟨⟨fun c hc => .inr (hbackoff c hc), hattempts, ?_, fun m hm => ?_⟩, ?_, fun i hi => ?_⟩
    · cases hi : policy.initialInterval with
      | none => rw [hdefault hi]; decide
      | some i => rw [heffective i hi]; exact (hinitial i hi).ne'
    · exact ⟨(hmaximum m hm).1.ne', (hmaximum m hm).2⟩
    · intro hnan
      exact absurd (hbackoff .nan hnan) (by decide)
    · exact (hinitial i hi).le
  · rintro ⟨⟨hbackoff, hattempts, hne, hmaximum⟩, hcompared⟩
    refine ⟨fun c hc => ?_, hattempts, fun i hi => ?_, fun m hm => ?_⟩
    · rcases hbackoff c hc with rfl | hpos
      · exact absurd hc hcompared.backoffCoefficient
      · exact hpos
    · have hi0 := hcompared.initialInterval i hi
      rw [heffective i hi] at hne
      omega
    · obtain ⟨hm0, hle⟩ := hmaximum m hm
      refine ⟨?_, hle⟩
      cases hi : policy.initialInterval with
      | none =>
        rw [hdefault hi] at hle
        omega
      | some i =>
        have hi0 := hcompared.initialInterval i hi
        rw [heffective i hi] at hle
        omega

variable (parseMs) in
/-- A policy that is accepted is compiled. -/
lemma exists_compile_of_not_refused (h : ¬policy.Refused) :
    ∃ initial, msNumberToTs (.finite policy.effectiveInitialInterval) = .ok initial ∧
      ∃ maximum, policy.maximumInterval.mapM (fun m : ℤ => msNumberToTs (.finite m)) = .ok maximum ∧
        compileRetryPolicy parseMs policy.toRetryPolicy =
          .ok ⟨policy.backoffCoefficient, some initial, policy.toRetryPolicy.finiteAttempts, maximum,
            policy.nonRetryableErrorTypes⟩ := by
  have hne : ∀ m ∈ policy.maximumInterval, m ≠ 0 := by
    intro m hm hzero
    exact h (.inr (.inr (.inr ⟨m, hm, .inl hzero⟩)))
  rw [compileRetryPolicy_toRetryPolicy, refusal_eq_none_iff.mpr h]
  refine ⟨_, rfl, ?_⟩
  cases hm : policy.maximumInterval with
  | none => exact ⟨_, rfl, rfl⟩
  | some m =>
    have htruthy : (Duration.number (.finite m)).truthy = true := by
      simpa [Duration.truthy] using hne m hm
    refine ⟨_, rfl, ?_⟩
    simp only [Option.map_some, msOptionalToTs]
    rw [if_pos htruthy]
    rfl

lemma tsToMs_of_msNumberToTs {m : ℤ} (hm : IsSafeInteger m) (hpos : 0 < m) {ts : Timestamp}
    (hts : msNumberToTs (.finite m) = .ok ts) : tsToMs ts = .finite m := by
  obtain ⟨ts', hts', hback, -⟩ := millisRoundTrip_of_forward hm (.inl hpos.le)
  rw [hts] at hts'
  obtain rfl := Except.ok.inj hts'
  exact hback

/-- A valid policy is compiled to what is decompiled to it. -/
lemma decompile_of_valid (hvalid : policy.Valid) (hsafe : policy.Safe) {proto : ProtoRetryPolicy}
    (hproto : compileRetryPolicy parseMs policy.toRetryPolicy = .ok proto) :
    decompileRetryPolicy (some proto) = some policy.filled.toRetryPolicy := by
  obtain ⟨initial, hinitial, maximum, hmaximum, hcompile⟩ :=
    exists_compile_of_not_refused parseMs (valid_iff.mp hvalid).1
  rw [hcompile] at hproto
  obtain rfl := Except.ok.inj hproto
  have hback : tsToMs initial = .finite policy.effectiveInitialInterval := by
    cases hi : policy.initialInterval with
    | none =>
      rw [effectiveInitialInterval, hi, Option.getD_none] at hinitial ⊢
      exact tsToMs_of_msNumberToTs (by decide) (by decide) hinitial
    | some i =>
      rw [effectiveInitialInterval, hi, Option.getD_some] at hinitial ⊢
      exact tsToMs_of_msNumberToTs (hsafe.1 i hi) (hvalid.initialInterval i hi) hinitial
  have hmaxBack : (optionalTsToMs maximum).map Duration.number =
      policy.maximumInterval.map fun m : ℤ => .number (.finite m) := by
    cases hm : policy.maximumInterval with
    | none =>
      rw [hm] at hmaximum
      obtain rfl := Except.ok.inj hmaximum
      rfl
    | some m =>
      rw [hm] at hmaximum
      obtain ⟨ts, hts, -⟩ := millisRoundTrip_of_forward (hsafe.2 m hm)
        (.inl (hvalid.maximumInterval m hm).1.le)
      rw [Option.mapM_some, hts] at hmaximum
      obtain rfl := Except.ok.inj hmaximum
      simp only [optionalTsToMs, Option.map_some]
      rw [tsToMs_of_msNumberToTs (hsafe.2 m hm) (hvalid.maximumInterval m hm).1 hts]
  simp only [decompileRetryPolicy, Option.map_some, hmaxBack]
  simp only [optionalTsToMs, Option.map_some, hback, filled, toRetryPolicy]

/-- `compileRetryPolicy` validates a policy exactly, unless it accepts one whose coefficient is `NaN` or
whose initial interval is negative. -/
theorem validatedExactly_iff :
    policy.ValidatedExactly parseMs ↔ policy.Refused ∨ policy.Compared := by
  constructor
  · intro h
    by_cases hrefused : policy.Refused
    · exact .inl hrefused
    · obtain ⟨initial, -, maximum, -, hcompile⟩ :=
        exists_compile_of_not_refused parseMs hrefused
      exact .inr (valid_iff.mp (h.returns_iff.mp ⟨_, hcompile⟩)).2
  · intro h
    by_cases hrefused : policy.Refused
    · have hthrows : ∃ message,
          compileRetryPolicy parseMs policy.toRetryPolicy = .error (.valueError message) := by
        have hmessage : policy.refusal ≠ none := fun hnone => refusal_eq_none_iff.mp hnone hrefused
        obtain ⟨message, hmessage⟩ := Option.ne_none_iff_exists'.mp hmessage
        rw [compileRetryPolicy_toRetryPolicy, hmessage]
        exact ⟨message, rfl⟩
      obtain ⟨message, hthrown⟩ := hthrows
      have hinvalid : ¬policy.Valid := fun hvalid => (valid_iff.mp hvalid).1 hrefused
      refine ⟨⟨?_, fun hvalid => absurd hvalid hinvalid⟩, fun _ => ⟨message, hthrown⟩, ?_⟩
      · rintro ⟨proto, hproto⟩
        rw [hthrown] at hproto
        cases hproto
      · intro _ proto hproto
        rw [hthrown] at hproto
        cases hproto
    · have hvalid : policy.Valid := valid_iff.mpr ⟨hrefused, h.resolve_left hrefused⟩
      obtain ⟨initial, -, maximum, -, hcompile⟩ :=
        exists_compile_of_not_refused parseMs hrefused
      exact ⟨⟨fun _ => hvalid, fun _ => ⟨_, hcompile⟩⟩, fun hinvalid => absurd hvalid hinvalid,
        fun hsafe proto hproto => decompile_of_valid hvalid hsafe hproto⟩

/-- A negative initial interval is accepted, although one of 0 is refused. -/
theorem not_forall_validatedExactly :
    ¬∀ policy : MillisRetryPolicy, policy.ValidatedExactly fun _ => none := by
  intro hall
  have h := hall ⟨none, some (-5000), none, none, none⟩
  have hvalid := h.returns_iff.mp ⟨_, rfl⟩
  exact absurd (hvalid.initialInterval (-5000) rfl) (by decide)

end MillisRetryPolicy

/-! ### Policies of the service -/

/-- What a retry policy means, its intervals in milliseconds -/
structure RetryPolicyMeaning where
  backoffCoefficient : JsNumber
  initialInterval : ℚ
  /-- `none` where attempts are not limited -/
  maximumAttempts : Option JsNumber
  maximumInterval : ℚ
  nonRetryableErrorTypes : List String
deriving DecidableEq

namespace ProtoRetryPolicy

def initialMillis (proto : ProtoRetryPolicy) : ℚ := (proto.initialInterval.map Timestamp.millis).getD 1000

/-- A field that is unset or 0 has its default. -/
def meaning (proto : ProtoRetryPolicy) : RetryPolicyMeaning where
  backoffCoefficient :=
    match proto.backoffCoefficient with
    | none | some (.finite 0) => .finite 2
    | some c => c
  initialInterval := proto.initialMillis
  maximumAttempts :=
    match proto.maximumAttempts with
    | none | some (.finite 0) => none
    | some n => some n
  maximumInterval := (proto.maximumInterval.map Timestamp.millis).getD (100 * proto.initialMillis)
  nonRetryableErrorTypes := proto.nonRetryableErrorTypes.getD []

/-- A positive number of whole milliseconds that a JavaScript number holds; durations of the service
are of at most 10,000 years, far below `2 ^ 53` milliseconds. -/
structure Interval (ts : Timestamp) : Prop where
  whole : ts.WholeMillis
  pos : 0 < ts.millis
  lt : ts.millis < 2 ^ 53

/-- A policy as the service returns it; a number that is unset in a decoded message reads as 0. -/
structure Returned (proto : ProtoRetryPolicy) : Prop where
  initialInterval : ∀ ts ∈ proto.initialInterval, Interval ts
  maximumInterval : ∀ ts ∈ proto.maximumInterval, Interval ts ∧ proto.initialMillis ≤ ts.millis
  maximumAttempts : ∀ n ∈ proto.maximumAttempts, ∃ k : ℕ, n = .finite k
  backoffCoefficient : ∀ c ∈ proto.backoffCoefficient, c = .finite 0 ∨ c.lt (.finite 1) = false ∧ c ≠ .nan

/-- The policy is decompiled, and compiled again, to a policy that means the same. -/
def Reusable (parseMs : String → Option JsNumber) (proto : ProtoRetryPolicy) : Prop :=
  ∃ policy, decompileRetryPolicy (some proto) = some policy ∧
    ∃ compiled, compileRetryPolicy parseMs policy = .ok compiled ∧ compiled.meaning = proto.meaning

variable {parseMs : String → Option JsNumber} {proto : ProtoRetryPolicy}

/-- The policy that `decompileRetryPolicy` makes of a message -/
def decompiled (proto : ProtoRetryPolicy) : RetryPolicy where
  backoffCoefficient := proto.backoffCoefficient
  maximumAttempts := proto.maximumAttempts
  maximumInterval := (optionalTsToMs proto.maximumInterval).map .number
  initialInterval := (optionalTsToMs proto.initialInterval).map .number
  nonRetryableErrorTypes := proto.nonRetryableErrorTypes

lemma decompileRetryPolicy_some : decompileRetryPolicy (some proto) = some proto.decompiled := rfl

/-- The initial interval of the compiled policy: one second where the policy has none -/
def compiledInitialInterval (proto : ProtoRetryPolicy) : Timestamp := proto.initialInterval.getD ⟨1, 0⟩

lemma interval_one_second : Interval ⟨1, 0⟩ :=
  ⟨⟨by decide, by decide, 0, by decide, by norm_num⟩, by decide +kernel, by decide +kernel⟩

lemma initialMillis_eq : proto.initialMillis = proto.compiledInitialInterval.millis := by
  unfold initialMillis compiledInitialInterval
  cases proto.initialInterval with
  | none =>
    change (1000 : ℚ) = (1 * 1000000000 + 0) / 1000000
    norm_num
  | some ts => rfl

lemma Returned.compiledInitialInterval (h : proto.Returned) :
    Interval proto.compiledInitialInterval := by
  unfold ProtoRetryPolicy.compiledInitialInterval
  cases hinitial : proto.initialInterval with
  | none => exact interval_one_second
  | some ts => exact h.initialInterval ts hinitial

/-- An interval that is read as a number is written as it was. -/
lemma Returned.msOptionalToTs (h : proto.Returned) :
    msOptionalToTs parseMs ((optionalTsToMs proto.maximumInterval).map .number) =
      .ok proto.maximumInterval := by
  cases hmaximum : proto.maximumInterval with
  | none => rfl
  | some ts =>
    have hts := (h.maximumInterval ts hmaximum).1
    have hback : tsToMs ts = .finite ts.millis := hts.whole.exact hts.lt
    have htruthy : (Duration.number (.finite ts.millis)).truthy = true := by
      simpa [Duration.truthy] using hts.pos.ne'
    simp only [optionalTsToMs, Option.map_some, hback, TemporalSdk.msOptionalToTs]
    rw [if_pos htruthy]
    change some <$> msNumberToTs (.finite ts.millis) = _
    rw [Timestamp.msNumberToTs_millis hts.whole]
    rfl

/-- The intervals of a policy of the service are never refused. -/
lemma Returned.intervalsRefusal (h : proto.Returned) :
    RetryPolicy.intervalsRefusal (.finite proto.initialMillis) (optionalTsToMs proto.maximumInterval) =
      none := by
  have hinitial : proto.initialMillis ≠ 0 := by
    rw [initialMillis_eq]
    exact h.compiledInitialInterval.pos.ne'
  unfold RetryPolicy.intervalsRefusal
  cases hmaximum : proto.maximumInterval with
  | none => simp [optionalTsToMs, hinitial]
  | some ts =>
    obtain ⟨hts, hle⟩ := h.maximumInterval ts hmaximum
    have hback : tsToMs ts = .finite ts.millis := hts.whole.exact hts.lt
    simp [optionalTsToMs, hback, hinitial, hts.pos.ne', JsNumber.lt, hle]

/-- Only zeros are refused. -/
lemma Returned.refusal_eq_none_iff (h : proto.Returned) :
    proto.decompiled.refusal (.finite proto.initialMillis) (optionalTsToMs proto.maximumInterval) =
        none ↔
      proto.backoffCoefficient ≠ some (.finite 0) ∧ proto.maximumAttempts ≠ some (.finite 0) := by
  rw [RetryPolicy.refusal_eq_none_iff, RetryPolicy.attemptsRefusal_eq_none_iff,
    RetryPolicy.leZero_any_eq_false_iff, and_iff_left h.intervalsRefusal]
  refine and_congr ⟨?_, ?_⟩ ⟨?_, ?_⟩
  · intro hcoefficient hzero
    rcases hcoefficient _ hzero with hnan | hpos
    · cases hnan
    · exact absurd hpos (by decide +kernel)
  · intro hzero c hc
    rcases h.backoffCoefficient c hc with rfl | ⟨hone, hnan⟩
    · exact absurd hc hzero
    · refine .inr ?_
      cases c with
      | nan => exact absurd rfl hnan
      | posInfinity => rfl
      | negInfinity => cases hone
      | finite q =>
        simp only [JsNumber.lt, decide_eq_false_iff_not, not_lt] at hone
        simp only [JsNumber.lt, decide_eq_true_eq]
        linarith
  · intro hattempts hzero
    rcases hattempts _ hzero with hinf | ⟨k, hk, hk0⟩
    · cases hinf
    · have : (k : ℚ) = 0 := (JsNumber.finite.inj hk0).symm
      exact absurd (by exact_mod_cast this) hk.ne'
  · intro hzero n hn
    obtain ⟨k, rfl⟩ := h.maximumAttempts n hn
    refine .inr ⟨k, Nat.pos_of_ne_zero ?_, rfl⟩
    rintro rfl
    exact hzero (by simpa [decompiled] using hn)

lemma Returned.finiteAttempts (h : proto.Returned) :
    proto.decompiled.finiteAttempts = proto.maximumAttempts := by
  unfold RetryPolicy.finiteAttempts decompiled
  cases hattempts : proto.maximumAttempts with
  | none => rfl
  | some n =>
    obtain ⟨k, rfl⟩ := h.maximumAttempts n hattempts
    rfl

variable (parseMs) in
/-- The decompiled policy is refused with a message, or compiled to the policy with its initial interval
filled in. -/
lemma Returned.compileRetryPolicy (h : proto.Returned) :
    compileRetryPolicy parseMs proto.decompiled =
      match proto.decompiled.refusal (.finite proto.initialMillis)
        (optionalTsToMs proto.maximumInterval) with
      | some message => .error (.valueError message)
      | none => .ok { proto with initialInterval := some proto.compiledInitialInterval } := by
  have hinitial : msToNumber parseMs (proto.decompiled.initialInterval.getD (.number (.finite 1000))) =
      .ok (.finite proto.initialMillis) := by
    unfold initialMillis decompiled
    cases hinitial : proto.initialInterval with
    | none => rfl
    | some ts =>
      have hts := h.initialInterval ts hinitial
      have hback : tsToMs ts = .finite ts.millis := hts.whole.exact hts.lt
      simp [optionalTsToMs, hback, msToNumber]
  have hmaximum : proto.decompiled.maximumInterval.mapM (msToNumber parseMs) =
      .ok (optionalTsToMs proto.maximumInterval) := by
    unfold decompiled
    cases proto.maximumInterval <;> rfl
  rw [RetryPolicy.compileRetryPolicy_eq hinitial hmaximum, h.finiteAttempts, h.msOptionalToTs,
    initialMillis_eq, Timestamp.msNumberToTs_millis h.compiledInitialInterval.whole]
  rfl

lemma meaning_compiled :
    ({ proto with initialInterval := some proto.compiledInitialInterval } : ProtoRetryPolicy).meaning =
      proto.meaning := by
  have hmillis : ({ proto with initialInterval := some proto.compiledInitialInterval } :
      ProtoRetryPolicy).initialMillis = proto.initialMillis := by
    rw [proto.initialMillis_eq]
    rfl
  unfold meaning
  rw [hmillis]

/-- A policy that the service returns can be used again exactly when its coefficient and its maximum of
attempts are not 0, the value with which the service leaves them to their defaults. -/
theorem reusable_iff (h : proto.Returned) :
    proto.Reusable parseMs ↔
      proto.backoffCoefficient ≠ some (.finite 0) ∧ proto.maximumAttempts ≠ some (.finite 0) := by
  rw [← h.refusal_eq_none_iff]
  have hcompile := h.compileRetryPolicy parseMs
  constructor
  · rintro ⟨policy, hpolicy, compiled, hcompiled, -⟩
    obtain rfl := Option.some.inj (decompileRetryPolicy_some.symm.trans hpolicy)
    rw [hcompile] at hcompiled
    cases hrefusal : proto.decompiled.refusal (.finite proto.initialMillis)
      (optionalTsToMs proto.maximumInterval) with
    | none => rfl
    | some message =>
      rw [hrefusal] at hcompiled
      cases hcompiled
  · intro hrefusal
    rw [hrefusal] at hcompile
    exact ⟨proto.decompiled, decompileRetryPolicy_some, _, hcompile, meaning_compiled⟩

/-- A policy with unlimited attempts, as a decoded message of the service has it -/
def unlimitedAttempts : ProtoRetryPolicy :=
  ⟨some (.finite 2), some ⟨1, 0⟩, some (.finite 0), some ⟨100, 0⟩, some []⟩

lemma returned_unlimitedAttempts : unlimitedAttempts.Returned := by
  have hhundred : Interval ⟨100, 0⟩ :=
    ⟨⟨by decide, by decide, 0, by decide, by norm_num⟩, by decide +kernel, by decide +kernel⟩
  refine ⟨fun ts hts => ?_, fun ts hts => ?_, fun n hn => ?_, fun c hc => ?_⟩
  · obtain rfl := Option.some.inj hts
    exact interval_one_second
  · obtain rfl := Option.some.inj hts
    exact ⟨hhundred, by decide +kernel⟩
  · obtain rfl := Option.some.inj hn
    exact ⟨0, by simp⟩
  · obtain rfl := Option.some.inj hc
    exact .inr ⟨by decide +kernel, by decide⟩

/-- The same policy with three attempts -/
def threeAttempts : ProtoRetryPolicy := { unlimitedAttempts with maximumAttempts := some (.finite 3) }

lemma returned_threeAttempts : threeAttempts.Returned where
  initialInterval := returned_unlimitedAttempts.initialInterval
  maximumInterval := returned_unlimitedAttempts.maximumInterval
  backoffCoefficient := returned_unlimitedAttempts.backoffCoefficient
  maximumAttempts n hn := by
    obtain rfl := Option.some.inj hn
    exact ⟨3, by simp⟩

theorem not_forall_reusable : ¬∀ proto : ProtoRetryPolicy, proto.Returned → proto.Reusable fun _ => none := by
  intro hall
  obtain ⟨policy, hpolicy, compiled, hcompiled, -⟩ := hall _ returned_unlimitedAttempts
  obtain rfl := Option.some.inj hpolicy
  have hthrows : compileRetryPolicy (fun _ => none) unlimitedAttempts.decompiled =
      .error (.valueError "RetryPolicy.maximumAttempts must be a positive integer") := by
    decide +kernel
  exact absurd (hcompiled.symm.trans hthrows) (by simp)

/-- The policy can be used again with three attempts, and not with an unlimited number of them. -/
theorem reusable_iff_threeAttempts :
    threeAttempts.Reusable (fun _ => none) ∧ ¬unlimitedAttempts.Reusable fun _ => none := by
  constructor
  · exact (reusable_iff returned_threeAttempts).mpr ⟨by decide +kernel, by decide +kernel⟩
  · intro hreusable
    exact ((reusable_iff returned_unlimitedAttempts).mp hreusable).2 rfl

end ProtoRetryPolicy

end TemporalSdk
