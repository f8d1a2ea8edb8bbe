import Mathlib.Algebra.Order.Field.Rat
import Mathlib.Tactic.FieldSimp
import Mathlib.Tactic.Linarith
import TemporalSdk.Common.RetryPolicy
import TemporalSdk.Library.Transition

/-!
# Retries of gRPC calls

The interceptor keeps the message of the last attempt back until an attempt is not to be retried. The
first attempt goes through a listener of the interceptor; the later ones are calls of their own.
Attempts are numbered from 1.
-/

namespace TemporalSdk

/-- `grpc.status` -/
inductive GrpcStatus
  | ok
  | cancelled
  | unknown
  | invalidArgument
  | deadlineExceeded
  | notFound
  | alreadyExists
  | permissionDenied
  | resourceExhausted
  | failedPrecondition
  | aborted
  | outOfRange
  | unimplemented
  | internal
  | unavailable
  | dataLoss
  | unauthenticated
deriving DecidableEq

structure StatusObject where
  code : GrpcStatus
  details : String
deriving DecidableEq

/-- The delay function can depend on what `Math.random()` gives. -/
structure GrpcRetryOptions where
  delayFunction : ℚ → ℕ → StatusObject → JsNumber
  retryableDecider : ℕ → StatusObject → Bool

structure BackoffOptions where
  factor : ℚ
  maxAttempts : JsNumber
  maxJitter : ℚ
  initialIntervalMs : StatusObject → ℚ
  maxIntervalMs : StatusObject → ℚ

/-- `Partial<BackoffOptions>` -/
structure PartialBackoffOptions where
  factor : Option ℚ
  maxAttempts : Option JsNumber
  maxJitter : Option ℚ
  initialIntervalMs : Option (StatusObject → ℚ)
  maxIntervalMs : Option (StatusObject → ℚ)

def defaultInitialIntervalMs (status : StatusObject) : ℚ :=
  if status.code = .resourceExhausted then 1000 else 20

/-- `maxIntervalMs` is not read. -/
def withDefaultBackoffOptions (options : PartialBackoffOptions) : BackoffOptions where
  maxAttempts := options.maxAttempts.getD (.finite 10)
  factor := options.factor.getD 2
  maxJitter := options.maxJitter.getD (1 / 10)
  initialIntervalMs := options.initialIntervalMs.getD defaultInitialIntervalMs
  maxIntervalMs _ := 10000

def retryableCodes : List GrpcStatus :=
  [.unknown, .resourceExhausted, .unavailable, .aborted, .dataLoss, .outOfRange]

def isRetryableError (status : StatusObject) : Bool := retryableCodes.contains status.code

def jitter (random max : ℚ) : ℚ := 1 - max + random * max * 2

def defaultGrpcRetryOptions (options : PartialBackoffOptions) : GrpcRetryOptions :=
  let { maxAttempts, factor, maxJitter, initialIntervalMs, maxIntervalMs } :=
    withDefaultBackoffOptions options
  { delayFunction random attempt status := .finite
      (min (maxIntervalMs status) (factor ^ attempt * initialIntervalMs status) * jitter random maxJitter)
    retryableDecider attempt status :=
      (JsNumber.finite attempt).lt maxAttempts && isRetryableError status }

/-! ### The interceptor -/

variable {Req Res Metadata : Type}

/-- What is done on the calls that `nextCall` makes and on the listener of the caller; a message is
`null` when there is none. -/
inductive CallEvent (Req Res Metadata : Type)
  | start (call : ℕ) (metadata : Metadata)
  | sendMessage (call : ℕ) (message : Option Req)
  | halfClose (call : ℕ)
  | setTimeout (delay : JsNumber)
  | onReceiveMessage (message : Option Res)
  | onReceiveStatus (status : StatusObject)
  | thrown (error : JsError)
deriving DecidableEq

/-- Where the attempt is: it has delivered nothing, or its message; a timer is running before the next one;
or the last one has ended. -/
inductive AttemptPhase (Res : Type)
  | started
  | message (message : Option Res)
  | delayed
  | ended
deriving DecidableEq

/-- The variables that the interceptor's functions share, with the phase of the last attempt, what the
attempts have delivered, and a log. -/
structure RetryInterceptor (Req Res Metadata : Type) where
  savedSendMessage : Option Req
  savedReceiveMessage : Option Res
  savedMessageNext : Bool
  attempt : ℕ
  metadata : Metadata
  phase : AttemptPhase Res
  outcomes : List (Option Res × StatusObject)
  events : List (CallEvent Req Res Metadata)

namespace RetryInterceptor

variable (options : GrpcRetryOptions) (s : RetryInterceptor Req Res Metadata)

def emit (event : CallEvent Req Res Metadata) : RetryInterceptor Req Res Metadata :=
  { s with events := s.events ++ [event] }

/-- The requester's `start` -/
def withStart (metadata : Metadata) : RetryInterceptor Req Res Metadata :=
  { s with attempt := 1, metadata := metadata, phase := .started }.emit (.start 1 metadata)

/-- The requester's `sendMessage` -/
def withSendMessage (message : Req) : RetryInterceptor Req Res Metadata :=
  { s with savedSendMessage := some message }.emit (.sendMessage s.attempt (some message))

/-- A unary call starts, sends its message and closes its half. -/
def call (metadata : Metadata) (message : Req) : RetryInterceptor Req Res Metadata :=
  let s : RetryInterceptor Req Res Metadata := ⟨none, none, false, 0, metadata, .started, [], []⟩
  ((s.withStart metadata).withSendMessage message).emit (.halfClose 1)

/-- `onReceiveMessage` of the listener, and that of a later call -/
def onReceiveMessage (message : Option Res) : RetryInterceptor Req Res Metadata :=
  { s with
    savedReceiveMessage := message
    savedMessageNext := s.savedMessageNext || s.attempt = 1
    phase := .message message }

def retry : RetryInterceptor Req Res Metadata :=
  let s := { s with attempt := s.attempt + 1, phase := .started }
  ((s.emit (.start s.attempt s.metadata)).emit (.sendMessage s.attempt s.savedSendMessage)).emit
    (.halfClose s.attempt)

/-- `savedMessageNext(savedReceiveMessage)`, then `next(status)` -/
def deliver (status : StatusObject) : RetryInterceptor Req Res Metadata :=
  if s.savedMessageNext then
    ({ s with phase := .ended }.emit (.onReceiveMessage s.savedReceiveMessage)).emit (.onReceiveStatus status)
  else { s with phase := .ended }.emit (.thrown (.typeError "savedMessageNext is not a function"))

def onReceiveStatus (status : StatusObject) (random : ℚ) : RetryInterceptor Req Res Metadata :=
  if options.retryableDecider s.attempt status then
    { s with phase := .delayed }.emit (.setTimeout (options.delayFunction random s.attempt status))
  else s.deliver status

end RetryInterceptor

/-- The last attempt delivers its message, and then its status; or the timer fires. -/
inductive RetryInput (Res : Type)
  | message (message : Option Res)
  | status (status : StatusObject) (random : ℚ)
  | timeout

def RetryInterceptor.step (options : GrpcRetryOptions) (s : RetryInterceptor Req Res Metadata) :
    RetryInput Res → Option (RetryInterceptor Req Res Metadata)
  | .message message => if s.phase matches .started then some (s.onReceiveMessage message) else none
  | .status status random =>
    match s.phase with
    | .message message =>
      some ({ s with outcomes := s.outcomes ++ [(message, status)] }.onReceiveStatus options status random)
    | _ => none
  | .timeout => if s.phase matches .delayed then some s.retry else none

/-! ### What the caller sees, and what is sent -/

namespace CallEvent

def isSent : CallEvent Req Res Metadata → Bool
  | start _ _ | sendMessage _ _ | halfClose _ => true
  | _ => false

def isDelivered : CallEvent Req Res Metadata → Bool
  | onReceiveMessage _ | onReceiveStatus _ | thrown _ => true
  | _ => false

end CallEvent

/-- What an attempt sends. -/
def sentByAttempt (Res : Type) (metadata : Metadata) (message : Req) (attempt : ℕ) :
    List (CallEvent Req Res Metadata) :=
  [.start attempt metadata, .sendMessage attempt (some message), .halfClose attempt]

/-- After each of these outcomes, another attempt is wanted. -/
def AllAccepted (options : GrpcRetryOptions) (outcomes : List (Option Res × StatusObject)) : Prop :=
  ∀ k message status, outcomes[k]? = some (message, status) → options.retryableDecider (k + 1) status = true

namespace RetryInterceptor

/-- The attempts send what the caller has sent, each is made because the one before is to be retried,
and the caller gets the message and the status of the last one, and nothing before. -/
structure DeliversFinalAttempt (options : GrpcRetryOptions) (metadata : Metadata) (message : Req)
    (s : RetryInterceptor Req Res Metadata) : Prop where
  sent : s.events.filter CallEvent.isSent =
    (List.range s.attempt).flatMap fun k => sentByAttempt Res metadata message (k + 1)
  made_iff : ∀ k, k + 2 ≤ s.attempt ↔ (∃ received status, s.outcomes[k]? = some (received, status) ∧
    options.retryableDecider (k + 1) status = true) ∧ ¬(s.phase = .delayed ∧ k + 1 = s.outcomes.length)
  delivered : s.phase = .ended → ∃ before received status, s.outcomes = before ++ [(received, status)] ∧
    s.attempt = before.length + 1 ∧ options.retryableDecider s.attempt status = false ∧
    s.events.filter CallEvent.isDelivered = [.onReceiveMessage received, .onReceiveStatus status]
  undelivered : s.phase ≠ .ended → s.events.filter CallEvent.isDelivered = []
  ended : s.phase = .ended → ∀ input, s.step options input = none
  goes_on : s.phase = .delayed → ∃ s', s.step options .timeout = some s' ∧ s'.attempt = s.attempt + 1

/-- No more attempts are made than are allowed, and none after an error that is not retryable. -/
structure WithinLimit (backoff : PartialBackoffOptions) (s : RetryInterceptor Req Res Metadata) : Prop where
  attempts : s.attempt = 1 ∨ (JsNumber.finite (s.attempt - 1 : ℕ)).lt (backoff.maxAttempts.getD (.finite 10)) = true
  attempts_le : ∀ q : ℚ, backoff.maxAttempts.getD (.finite 10) = .finite q → (s.attempt : ℤ) ≤ max 1 ⌈q⌉
  notRetryable : ∀ k received status, s.outcomes[k]? = some (received, status) →
    isRetryableError status = false → s.phase = .ended ∧ k + 1 = s.outcomes.length

/-! ### The invariant -/

structure Inv (options : GrpcRetryOptions) (metadata : Metadata) (message : Req)
    (s : RetryInterceptor Req Res Metadata) : Prop where
  metadata_eq : s.metadata = metadata
  savedSendMessage : s.savedSendMessage = some message
  savedMessageNext : s.savedMessageNext = true ∨ (s.phase = .started ∧ s.attempt = 1)
  sent : s.events.filter CallEvent.isSent =
    (List.range s.attempt).flatMap fun k => sentByAttempt Res metadata message (k + 1)
  phase : match s.phase with
    | .started => s.attempt = s.outcomes.length + 1 ∧ AllAccepted options s.outcomes ∧
        s.events.filter CallEvent.isDelivered = []
    | .message received => s.attempt = s.outcomes.length + 1 ∧ AllAccepted options s.outcomes ∧
        s.events.filter CallEvent.isDelivered = [] ∧ s.savedReceiveMessage = received
    | .delayed => 1 ≤ s.attempt ∧ s.attempt = s.outcomes.length ∧ AllAccepted options s.outcomes ∧
        s.events.filter CallEvent.isDelivered = []
    | .ended => ∃ before received status, s.outcomes = before ++ [(received, status)] ∧
        s.attempt = before.length + 1 ∧ AllAccepted options before ∧
        options.retryableDecider s.attempt status = false ∧
        s.events.filter CallEvent.isDelivered = [.onReceiveMessage received, .onReceiveStatus status]

variable {options : GrpcRetryOptions} {metadata : Metadata} {message : Req}
  {s s' : RetryInterceptor Req Res Metadata}

lemma allAccepted_concat {outcomes : List (Option Res × StatusObject)} {received : Option Res}
    {status : StatusObject} (h : AllAccepted options outcomes)
    (haccepted : options.retryableDecider (outcomes.length + 1) status = true) :
    AllAccepted options (outcomes ++ [(received, status)]) := by
  intro k received' status' hk
  rcases Nat.lt_or_ge k outcomes.length with hlt | hge
  · rw [List.getElem?_append_left hlt] at hk
    exact h k received' status' hk
  · rw [List.getElem?_append_right hge] at hk
    obtain ⟨hlt, heq⟩ := List.getElem?_eq_some_iff.mp hk
    obtain rfl : k = outcomes.length := by
      simp only [List.length_singleton] at hlt
      omega
    simp only [Nat.sub_self, List.getElem_cons_zero, Prod.mk.injEq] at heq
    rwa [← heq.2]

lemma filter_emit (p : CallEvent Req Res Metadata → Bool) (event : CallEvent Req Res Metadata) :
    (s.emit event).events.filter p = s.events.filter p ++ if p event = true then [event] else [] := by
  rw [emit, List.filter_append, List.filter_singleton]
  cases p event <;> rfl

lemma Inv.call : Inv options metadata message (call metadata message : RetryInterceptor Req Res Metadata) where
  metadata_eq := rfl
  savedSendMessage := rfl
  savedMessageNext := .inr ⟨rfl, rfl⟩
  sent := rfl
  phase := ⟨rfl, fun k _ _ h => by simp [RetryInterceptor.call, withStart, withSendMessage, emit] at h, rfl⟩

/-- Only the first attempt starts without a `savedMessageNext`. -/
lemma Inv.messageNext (hinv : Inv options metadata message s) (hphase : s.phase ≠ .started) :
    s.savedMessageNext = true := by
  rcases hinv.savedMessageNext with hnext | ⟨hstarted, -⟩
  · exact hnext
  · exact absurd hstarted hphase

lemma Inv.onReceiveMessage (hinv : Inv options metadata message s) (hphase : s.phase = .started)
    (received : Option Res) : Inv options metadata message (s.onReceiveMessage received) := by
  have h := hinv.phase
  rw [hphase] at h
  obtain ⟨hattempt, haccepted, hdelivered⟩ := h
  exact { hinv with
    savedMessageNext := by
      rcases hinv.savedMessageNext with hnext | ⟨-, hfirst⟩
      · simp [RetryInterceptor.onReceiveMessage, hnext]
      · simp [RetryInterceptor.onReceiveMessage, hfirst]
    phase := ⟨hattempt, haccepted, hdelivered, rfl⟩ }

lemma Inv.onReceiveStatus (hinv : Inv options metadata message s) {received : Option Res}
    (hphase : s.phase = .message received) (status : StatusObject) (random : ℚ) :
    Inv options metadata message
      ({ s with outcomes := s.outcomes ++ [(received, status)] }.onReceiveStatus options status random) := by
  have h := hinv.phase
  rw [hphase] at h
  obtain ⟨hattempt, haccepted, hdelivered, hsaved⟩ := h
  have hnext := hinv.messageNext (by simp [hphase])
  unfold RetryInterceptor.onReceiveStatus
  split
  · rename_i hdecider
    dsimp only at hdecider
    rw [hattempt] at hdecider
    exact { hinv with
      savedMessageNext := .inl hnext
      sent := by
        rw [filter_emit]
        exact (List.append_nil _).trans hinv.sent
      phase := by
        refine ⟨hattempt ▸ Nat.le_add_left 1 _, ?_, allAccepted_concat haccepted hdecider, ?_⟩
        · simpa [emit] using hattempt
        · rw [filter_emit]
          exact (List.append_nil _).trans hdelivered }
  · rename_i hdecider
    dsimp only at hdecider
    simp only [deliver, hnext, if_true]
    exact { hinv with
      savedMessageNext := .inl rfl
      sent := by
        rw [filter_emit, filter_emit]
        exact (List.append_nil _).trans ((List.append_nil _).trans hinv.sent)
      phase := by
        refine ⟨s.outcomes, received, status, rfl, hattempt, haccepted, ?_, ?_⟩
        · simpa [emit] using hdecider
        · rw [filter_emit, filter_emit, hsaved, hdelivered]
          rfl }

lemma Inv.retry (hinv : Inv options metadata message s) (hphase : s.phase = .delayed) :
    Inv options metadata message s.retry := by
  have h := hinv.phase
  rw [hphase] at h
  obtain ⟨hle, hattempt, haccepted, hdelivered⟩ := h
  exact { hinv with
    savedMessageNext := .inl (hinv.messageNext (by simp [hphase]))
    sent := by
      simp only [RetryInterceptor.retry, filter_emit, List.append_assoc]
      have hsent := hinv.sent
      simp only [emit, List.range_succ, List.flatMap_append, hsent, hinv.metadata_eq, hinv.savedSendMessage]
      rfl
    phase := by
      refine ⟨congrArg (· + 1) hattempt, haccepted, ?_⟩
      simp only [RetryInterceptor.retry, filter_emit, hdelivered]
      rfl }

theorem Inv.step (hinv : Inv options metadata message s) {input : RetryInput Res}
    (h : s.step options input = some s') : Inv options metadata message s' := by
  cases input with
  | message received =>
    simp only [RetryInterceptor.step] at h
    split at h
    · rename_i hphase
      cases h
      exact hinv.onReceiveMessage hphase received
    · cases h
  | status status random =>
    simp only [RetryInterceptor.step] at h
    split at h
    · rename_i received hphase
      cases h
      exact hinv.onReceiveStatus hphase status random
    · cases h
  | timeout =>
    simp only [RetryInterceptor.step] at h
    split at h
    · rename_i hphase
      cases h
      exact hinv.retry hphase
    · cases h

lemma Inv.allAccepted_of_ne (hinv : Inv options metadata message s) (hphase : s.phase ≠ .ended) :
    AllAccepted options s.outcomes := by
  have h := hinv.phase
  split at h
  · exact h.2.1
  · exact h.2.1
  · exact h.2.2.1
  · rename_i hended
    exact absurd hended hphase

/-- An outcome after which another attempt has been made. -/
lemma Inv.made_iff (hinv : Inv options metadata message s) (k : ℕ) :
    k + 2 ≤ s.attempt ↔ (∃ received status, s.outcomes[k]? = some (received, status) ∧
      options.retryableDecider (k + 1) status = true) ∧ ¬(s.phase = .delayed ∧ k + 1 = s.outcomes.length) := by
  have hget : ∀ {outcomes : List (Option Res × StatusObject)}, AllAccepted options outcomes →
      ((∃ received status, outcomes[k]? = some (received, status) ∧
        options.retryableDecider (k + 1) status = true) ↔ k < outcomes.length) := by
    intro outcomes haccepted
    constructor
    · rintro ⟨received, status, hk, -⟩
      exact (List.getElem?_eq_some_iff.mp hk).1
    · intro hk
      have hsome := List.getElem?_eq_getElem hk
      exact ⟨_, _, hsome, haccepted k _ _ hsome⟩
  have h := hinv.phase
  split at h
  · rename_i hphase
    rw [hget h.2.1, hphase]
    simp only [reduceCtorEq, false_and, not_false_eq_true, and_true]
    omega
  · rename_i received hphase
    rw [hget h.2.1, hphase]
    simp only [reduceCtorEq, false_and, not_false_eq_true, and_true]
    omega
  · rename_i hphase
    rw [hget h.2.2.1, hphase]
    simp only [true_and]
    omega
  · rename_i hphase
    obtain ⟨before, received, status, houtcomes, hattempt, haccepted, hdecider, -⟩ := h
    rw [hphase]
    simp only [reduceCtorEq, false_and, not_false_eq_true, and_true]
    constructor
    · intro hk
      obtain ⟨received', status', hk', haccept⟩ := (hget haccepted).mpr (by omega)
      refine ⟨received', status', ?_, haccept⟩
      rw [houtcomes, List.getElem?_append_left (by omega)]
      exact hk'
    · rintro ⟨received', status', hk, haccept⟩
      have hlt := (List.getElem?_eq_some_iff.mp hk).1
      rw [houtcomes, List.length_append, List.length_singleton] at hlt
      by_contra hlast
      obtain rfl : k = before.length := by omega
      rw [houtcomes, List.getElem?_concat_length, Option.some.injEq, Prod.mk.injEq] at hk
      rw [← hk.2, ← hattempt, hdecider] at haccept
      cases haccept

lemma Inv.finalAttempt (hinv : Inv options metadata message s) :
    s.DeliversFinalAttempt options metadata message where
  sent := hinv.sent
  made_iff := hinv.made_iff
  delivered hphase := by
    have h := hinv.phase
    rw [hphase] at h
    obtain ⟨before, received, status, houtcomes, hattempt, -, hdecider, hdelivered⟩ := h
    exact ⟨before, received, status, houtcomes, hattempt, hdecider, hdelivered⟩
  undelivered hphase := by
    have h := hinv.phase
    split at h
    · exact h.2.2
    · exact h.2.2.1
    · exact h.2.2.2
    · rename_i hended
      exact absurd hended hphase
  ended hphase input := by
    cases input <;> simp [RetryInterceptor.step, hphase]
  goes_on hphase := by
    refine ⟨s.retry, ?_, rfl⟩
    simp [RetryInterceptor.step, hphase]

lemma decider_default {backoff : PartialBackoffOptions} {attempt : ℕ} {status : StatusObject}
    (h : (defaultGrpcRetryOptions backoff).retryableDecider attempt status = true) :
    (JsNumber.finite attempt).lt (backoff.maxAttempts.getD (.finite 10)) = true ∧
      isRetryableError status = true :=
  Bool.and_eq_true_iff.mp h

lemma Inv.one_le_attempt (hinv : Inv options metadata message s) : 1 ≤ s.attempt := by
  have h := hinv.phase
  split at h
  · omega
  · omega
  · exact h.1
  · obtain ⟨before, _, _, -, hattempt, -⟩ := h
    omega

lemma Inv.withinLimit {backoff : PartialBackoffOptions}
    (hinv : Inv (defaultGrpcRetryOptions backoff) metadata message s) : s.WithinLimit backoff := by
  have hattempts : s.attempt = 1 ∨
      (JsNumber.finite (s.attempt - 1 : ℕ)).lt (backoff.maxAttempts.getD (.finite 10)) = true := by
    rcases Nat.lt_or_ge s.attempt 2 with hlt | hge
    · exact .inl (by have := hinv.one_le_attempt; omega)
    · obtain ⟨⟨received, status, -, hdecider⟩, -⟩ := (hinv.made_iff (s.attempt - 2)).mp (by omega)
      have hk : s.attempt - 2 + 1 = s.attempt - 1 := by omega
      rw [hk] at hdecider
      exact .inr (decider_default hdecider).1
  refine ⟨hattempts, fun q hq => ?_, fun k received status hk hretryable => ?_⟩
  · rcases hattempts with hone | hlt
    · rw [hone]
      exact le_max_left _ _
    · rw [hq] at hlt
      have hlt' : ((s.attempt - 1 : ℕ) : ℚ) < q := of_decide_eq_true hlt
      have hceil : ((s.attempt - 1 : ℕ) : ℤ) < ⌈q⌉ := Int.lt_ceil.mpr (by exact_mod_cast hlt')
      have hle := le_max_right 1 ⌈q⌉
      omega
  · have hnot : ∀ attempt, (defaultGrpcRetryOptions backoff).retryableDecider attempt status ≠ true := by
      intro attempt h
      rw [(decider_default h).2] at hretryable
      cases hretryable
    have hended : s.phase = .ended := by
      by_contra hphase
      exact hnot _ (hinv.allAccepted_of_ne hphase k received status hk)
    refine ⟨hended, ?_⟩
    have h := hinv.phase
    rw [hended] at h
    obtain ⟨before, received', status', houtcomes, -, haccepted, -⟩ := h
    have hlen := (List.getElem?_eq_some_iff.mp hk).1
    rw [houtcomes, List.length_append, List.length_singleton] at hlen ⊢
    by_contra hlast
    rw [houtcomes, List.getElem?_append_left (by omega)] at hk
    exact hnot _ (haccepted k received status hk)

/-- At every point of every call, each attempt has sent the message and the metadata of the call, and has been
made because the one before was to be retried; the caller gets nothing before the last attempt, and then
its message and its status. With the default options there are no more attempts than `maxAttempts` rounded
up, and the first one. -/
theorem deliversFinalAttempt (options : GrpcRetryOptions) (metadata : Metadata) (message : Req)
    (inputs : List (RetryInput Res)) (s : RetryInterceptor Req Res Metadata)
    (hrun : Transition.run (RetryInterceptor.step options) (RetryInterceptor.call metadata message) inputs = some s) :
    s.DeliversFinalAttempt options metadata message ∧
      ∀ backoff, options = defaultGrpcRetryOptions backoff → s.WithinLimit backoff := by
  have hinv : Inv options metadata message s :=
    Transition.invariant (fun _ _ _ hinv hstep => hinv.step hstep) Inv.call hrun
  refine ⟨hinv.finalAttempt, ?_⟩
  rintro backoff rfl
  exact hinv.withinLimit

def unavailable : StatusObject := ⟨.unavailable, "connection refused"⟩

/-- One more attempt, whatever happens. -/
theorem deliversFinalAttempt_twice :
    ∃ s, Transition.run (RetryInterceptor.step ⟨fun _ _ _ => .finite 0, fun attempt _ => attempt == 1⟩)
        (RetryInterceptor.call "metadata" "request")
        [.message none, .status unavailable 0, .timeout, .message (some "answer"), .status ⟨.ok, ""⟩ 0] = some s ∧
      s.DeliversFinalAttempt ⟨fun _ _ _ => .finite 0, fun attempt _ => attempt == 1⟩ "metadata" "request" :=
  ⟨_, rfl, (deliversFinalAttempt ⟨fun _ _ _ => .finite 0, fun attempt _ => attempt == 1⟩ "metadata" "request"
    [.message none, .status unavailable 0, .timeout, .message (some "answer"), .status ⟨.ok, ""⟩ 0] _ rfl).1⟩

/-- With two and a half as the maximum, three attempts are made. -/
theorem attempts_twoAndAHalf :
    (Transition.run
        (RetryInterceptor.step (defaultGrpcRetryOptions ⟨none, some (.finite (5 / 2)), none, none, none⟩))
        (RetryInterceptor.call "metadata" "request" : RetryInterceptor String String String)
        [.message none, .status unavailable 0, .timeout, .message none, .status unavailable 0,
          .timeout]).map RetryInterceptor.attempt = some 3 ∧
      ¬(3 : ℚ) ≤ max 1 (5 / 2) := by
  decide +kernel

end RetryInterceptor

/-! ### The delay between attempts -/

namespace PartialBackoffOptions

variable (options : PartialBackoffOptions)

/-- The options with the documented defaults, the maximum interval of the user included -/
def documented : BackoffOptions where
  factor := options.factor.getD 2
  maxAttempts := options.maxAttempts.getD (.finite 10)
  maxJitter := options.maxJitter.getD (1 / 10)
  initialIntervalMs := options.initialIntervalMs.getD defaultInitialIntervalMs
  maxIntervalMs := options.maxIntervalMs.getD fun _ => 10000

structure Valid : Prop where
  factor : 1 ≤ options.documented.factor
  maxJitter_nonneg : 0 ≤ options.documented.maxJitter
  maxJitter_le : options.documented.maxJitter ≤ 1
  initialIntervalMs : ∀ status, 0 ≤ options.documented.initialIntervalMs status
  maxIntervalMs : ∀ status, 0 ≤ options.documented.maxIntervalMs status

/-- The interval before it is capped -/
def growth (attempt : ℕ) (status : StatusObject) : ℚ :=
  options.documented.factor ^ attempt * options.documented.initialIntervalMs status

def intervalMs (attempt : ℕ) (status : StatusObject) : ℚ :=
  min (options.documented.maxIntervalMs status) (options.growth attempt status)

/-- Whatever `Math.random()` gives, the delay is the documented interval up to the jitter. -/
def DelayBounded (attempt : ℕ) (status : StatusObject) : Prop :=
  ∀ random, 0 ≤ random → random < 1 →
    ∃ delay, (defaultGrpcRetryOptions options).delayFunction random attempt status = .finite delay ∧
      (1 - options.documented.maxJitter) * options.intervalMs attempt status ≤ delay ∧
      delay ≤ (1 + options.documented.maxJitter) * options.intervalMs attempt status

/-- The maximum interval is 10 seconds, or neither it nor 10 seconds cap the interval. With a jitter of 1,
which allows any smaller delay, it may also be longer than 10 seconds. -/
def CapAgrees (attempt : ℕ) (status : StatusObject) : Prop :=
  options.documented.maxIntervalMs status = 10000 ∨
    (options.growth attempt status ≤ options.documented.maxIntervalMs status ∧
      options.growth attempt status ≤ 10000) ∨
    (options.documented.maxJitter = 1 ∧ (10000 ≤ options.documented.maxIntervalMs status ∨
      options.growth attempt status ≤ options.documented.maxIntervalMs status))

instance (attempt : ℕ) (status : StatusObject) : Decidable (options.CapAgrees attempt status) := by
  unfold CapAgrees
  infer_instance

variable {options}

lemma delayFunction_eq (random : ℚ) (attempt : ℕ) (status : StatusObject) :
    (defaultGrpcRetryOptions options).delayFunction random attempt status =
      .finite (min 10000 (options.growth attempt status) * jitter random options.documented.maxJitter) := rfl

lemma Valid.growth_nonneg (hvalid : options.Valid) (attempt : ℕ) (status : StatusObject) :
    0 ≤ options.growth attempt status :=
  mul_nonneg (pow_nonneg (zero_le_one.trans hvalid.factor) attempt) (hvalid.initialIntervalMs status)

end PartialBackoffOptions

/-- What the jitter makes of `x` lies around `y` for every random number only if `x` is at most `y`: as the
random number grows to 1, the upper bound becomes sharp. -/
lemma le_of_jitter_le {x y j : ℚ} (hy : 0 ≤ y)
    (h : ∀ random, 0 ≤ random → random < 1 → x * jitter random j ≤ (1 + j) * y) : x ≤ y := by
  by_contra hlt
  rw [not_le] at hlt
  have hxpos : 0 < x := hy.trans_lt hlt
  -- at this random number the jitter takes away `j * (x - y)`
  have hrandom := h (1 - (x - y) / (2 * x)) ?_ ?_
  · have hjitter : x * jitter (1 - (x - y) / (2 * x)) j = x + j * y := by
      unfold jitter
      field_simp
      ring
    rw [hjitter] at hrandom
    linarith
  · rw [sub_nonneg, div_le_one (by positivity)]
    linarith
  · rw [sub_lt_self_iff]
    exact div_pos (by linarith) (by positivity)

lemma jitter_bounded_iff {x y j : ℚ} (hx : 0 ≤ x) (hy : 0 ≤ y) (hj : 0 ≤ j) (hj1 : j ≤ 1) :
    (∀ random, 0 ≤ random → random < 1 →
      (1 - j) * y ≤ x * jitter random j ∧ x * jitter random j ≤ (1 + j) * y) ↔
    x ≤ y ∧ (j = 1 ∨ y ≤ x) := by
  constructor
  · intro h
    refine ⟨le_of_jitter_le hy fun random h0 h1 => (h random h0 h1).2, ?_⟩
    rcases hj1.eq_or_lt with hone | hlt
    · exact .inl hone
    · have hzero := (h 0 le_rfl zero_lt_one).1
      rw [show jitter 0 j = 1 - j by simp [jitter], mul_comm x] at hzero
      exact .inr (le_of_mul_le_mul_left hzero (sub_pos.mpr hlt))
  · rintro ⟨hxy, hcases⟩ random h0 h1
    have hlow : 1 - j ≤ jitter random j := by
      unfold jitter
      nlinarith [mul_nonneg h0 hj]
    have hhigh : jitter random j ≤ 1 + j := by
      unfold jitter
      nlinarith [mul_nonneg (sub_nonneg.mpr h1.le) hj]
    have hupper : x * jitter random j ≤ (1 + j) * y := by
      calc x * jitter random j ≤ x * (1 + j) := mul_le_mul_of_nonneg_left hhigh hx
        _ ≤ y * (1 + j) := mul_le_mul_of_nonneg_right hxy (by linarith)
        _ = (1 + j) * y := mul_comm _ _
    refine ⟨?_, hupper⟩
    rcases hcases with rfl | hyx
    · rw [sub_self, zero_mul]
      exact mul_nonneg hx ((sub_self (1 : ℚ)).symm.le.trans hlow)
    · obtain rfl : x = y := le_antisymm hxy hyx
      rw [mul_comm]
      exact mul_le_mul_of_nonneg_left hlow hx

namespace PartialBackoffOptions

variable {options : PartialBackoffOptions} {attempt : ℕ} {status : StatusObject}

/-- Capping at 10 seconds instead gives at most as much, or as much. -/
lemma capAgrees_iff :
    (min 10000 (options.growth attempt status) ≤ options.intervalMs attempt status ∧
      (options.documented.maxJitter = 1 ∨
        options.intervalMs attempt status ≤ min 10000 (options.growth attempt status))) ↔
    options.CapAgrees attempt status := by
  unfold CapAgrees intervalMs
  generalize options.growth attempt status = v
  generalize options.documented.maxIntervalMs status = m
  simp only [le_min_iff, min_le_iff, le_refl, or_true, and_true]
  constructor
  · rintro ⟨hle, hone | hge⟩
    · exact .inr (.inr ⟨hone, hle⟩)
    · rcases hle with hle | hle
      · rcases hge with hge | hge
        · exact .inl (le_antisymm hge hle)
        · exact .inr (.inl ⟨hge.trans hle, hge⟩)
      · rcases hge with hge | hge
        · exact .inr (.inl ⟨hle, hle.trans hge⟩)
        · exact .inr (.inl ⟨hle, hge⟩)
  · rintro (hm | ⟨hm, hv⟩ | ⟨hone, hle⟩)
    · exact ⟨.inl hm.ge, .inr (.inl hm.le)⟩
    · exact ⟨.inr hm, .inr (.inr hv)⟩
    · exact ⟨hle, .inl hone⟩

/-- The delay is within its bounds exactly where the cap of 10 seconds, which replaces the user's, makes no
difference to them. -/
theorem delayBounded_iff (options : PartialBackoffOptions) (hvalid : options.Valid) (attempt : ℕ)
    (status : StatusObject) :
    options.DelayBounded attempt status ↔ options.CapAgrees attempt status := by
  have hgrowth := hvalid.growth_nonneg attempt status
  have hx : 0 ≤ min 10000 (options.growth attempt status) := le_min (by norm_num) hgrowth
  have hy : 0 ≤ options.intervalMs attempt status := le_min (hvalid.maxIntervalMs status) hgrowth
  rw [← capAgrees_iff, ← jitter_bounded_iff hx hy hvalid.maxJitter_nonneg hvalid.maxJitter_le]
  unfold DelayBounded
  simp only [delayFunction_eq, JsNumber.finite.injEq, exists_eq_left']

/-- A maximum interval of 100 milliseconds, and no jitter. -/
def capped : PartialBackoffOptions := ⟨none, none, some 0, none, some fun _ => 100⟩

lemma capped_valid : capped.Valid where
  factor := by norm_num [capped, documented]
  maxJitter_nonneg := le_rfl
  maxJitter_le := zero_le_one
  initialIntervalMs status := by
    simp only [capped, documented, Option.getD_none, defaultInitialIntervalMs]
    split <;> norm_num
  maxIntervalMs _ := by norm_num [capped, documented]

theorem delayBounded_iff_capped :
    capped.Valid ∧ (capped.DelayBounded 2 ⟨.unavailable, ""⟩ ↔ capped.CapAgrees 2 ⟨.unavailable, ""⟩) :=
  ⟨capped_valid, delayBounded_iff capped capped_valid 2 ⟨.unavailable, ""⟩⟩

/-- After the tenth attempt the delay is 10 seconds instead of 100 milliseconds. -/
theorem not_delayBounded_capped : capped.Valid ∧ ¬capped.DelayBounded 10 ⟨.unavailable, ""⟩ := by
  refine ⟨capped_valid, fun h => ?_⟩
  obtain ⟨delay, hdelay, -, hle⟩ := h 0 le_rfl zero_lt_one
  have hvalue : (defaultGrpcRetryOptions capped).delayFunction 0 10 ⟨.unavailable, ""⟩ = .finite 10000 := by
    decide +kernel
  rw [hvalue, JsNumber.finite.injEq] at hdelay
  rw [← hdelay] at hle
  exact absurd hle (by decide +kernel)

end PartialBackoffOptions

end TemporalSdk
