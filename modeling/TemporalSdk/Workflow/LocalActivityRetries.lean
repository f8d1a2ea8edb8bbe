import TemporalSdk.Common.Timestamps
import TemporalSdk.Library.Transition
import TemporalSdk.Workflow.Settlements

/-!
# The backoff loop of local activities

A call of a local activity attempts it, waits as long as it is told to when an attempt ends in
a backoff, and attempts it again. Other workflow code, jobs and microtasks run in between.
-/

namespace TemporalSdk

variable {V : Type}

/-- The arguments of `scheduleLocalActivity`, and the scope in which it is called. -/
structure LocalActivityCall (V : Type) where
  scope : ScopeId
  activityType : String
  args : List V
  options : LocalActivityOptions

/-- What the call awaits: an attempt, or the timer of a backoff. -/
inductive BackoffPhase
  | attempting
  | backingOff (backoff : DoBackoff)
  | settled (outcome : Settlement)
deriving DecidableEq

/-- `awaited` is the promise that the call awaits or has awaited last, `backoffs` are those that it has
slept for, and `commands` those that its own turns have pushed. -/
structure BackoffLoop where
  runtime : Runtime
  phase : BackoffPhase
  awaited : PromiseRef
  backoffs : List DoBackoff
  commands : List Command

def Event.command? : Event → Option Command
  | .pushed cmd => some cmd
  | _ => none

/-- The commands that a turn has pushed. -/
def Runtime.pushedSince (rt rt' : Runtime) : List Command :=
  (rt'.trace.drop rt.trace.length).filterMap Event.command?

namespace BackoffLoop

variable (env : Env V) (call : LocalActivityCall V) (s : BackoffLoop)

/-- The beginning of a turn of the loop, as far as the `await`. -/
def attempt (attempt : ℕ) (originalScheduleTime : Option Timestamp) : BackoffLoop :=
  let rt := s.runtime.scheduleLocalActivity env call.scope call.activityType call.args
    (some call.options) attempt originalScheduleTime
  { s with
    runtime := rt
    phase := .attempting
    awaited := ⟨.activity, s.runtime.nextSeqs .activity⟩
    commands := s.commands ++ s.runtime.pushedSince rt }

/-- `scheduleLocalActivity`, as far as its first `await` -/
def start (rt : Runtime) : BackoffLoop :=
  attempt env call ⟨rt, .attempting, ⟨.activity, rt.nextSeqs .activity⟩, [], []⟩ 1 none

/-- `await sleep(tsToMs(err.backoff.backoffDuration))` -/
def backOff (backoff : DoBackoff) : BackoffLoop :=
  match backoff.backoffDuration with
  | none => { s with phase := .settled (.rejected (.other "Expected timestamp, got null")) }
  | some duration =>
    let rt := s.runtime.sleep env call.scope (.number (tsToMs duration))
    { s with
      runtime := rt
      phase := .backingOff backoff
      awaited := ⟨.timer, s.runtime.nextSeqs .timer⟩
      backoffs := s.backoffs ++ [backoff]
      commands := s.commands ++ s.runtime.pushedSince rt }

/-- The call goes on once the promise that it awaits is settled. -/
def resume : Option BackoffLoop :=
  match s.phase, s.runtime.settlement s.awaited with
  | .attempting, some (.rejected (.localActivityDoBackoff backoff)) => some (s.backOff env call backoff)
  | .attempting, some outcome => some { s with phase := .settled outcome }
  | .backingOff backoff, some (.fulfilled _) =>
    match backoff.attempt with
    | some attempt => some (s.attempt env call attempt backoff.originalScheduleTime)
    | none =>
      some { s with phase := .settled (.rejected (.typeError "Invalid backoff attempt type")) }
  | .backingOff _, some outcome => some { s with phase := .settled outcome }
  | _, _ => none

end BackoffLoop

/-- Anything else that happens in the run, or the call going on -/
inductive BackoffInput (V : Type)
  | runtime (input : Input V)
  | resume

def BackoffLoop.step (env : Env V) (call : LocalActivityCall V) (s : BackoffLoop) :
    BackoffInput V → Option BackoffLoop
  | .runtime input => (s.runtime.step env input).map fun rt => { s with runtime := rt }
  | .resume => s.resume env call

/-! ### What the call is for -/

/-- What one who retries as told does next. -/
inductive RetryCommand
  | attempt (attempt : Option ℕ) (originalScheduleTime : Option Timestamp)
  | wait (duration : Option Timestamp)

/-- The attempts and the waits of a call that gets these backoffs one after another. -/
def retryCommands (attempt : Option ℕ) (originalScheduleTime : Option Timestamp) :
    List DoBackoff → List RetryCommand
  | [] => [.attempt attempt originalScheduleTime]
  | backoff :: backoffs => .attempt attempt originalScheduleTime :: .wait backoff.backoffDuration ::
      retryCommands backoff.attempt backoff.originalScheduleTime backoffs

/-- A timer lasts as long as told in whole milliseconds, and at least one. -/
def RetryCommand.Implements (call : LocalActivityCall V) : RetryCommand → Command → Prop
  | .attempt (some n) originalScheduleTime, .scheduleLocalActivity a =>
    a.activityType = call.activityType ∧ a.attempt = n ∧ a.originalScheduleTime = originalScheduleTime
  | .wait (some duration), .startTimer _ startToFireTimeout =>
    msNumberToTs (tsToMs duration).max1 = .ok startToFireTimeout
  | _, _ => False

namespace Command

def isScheduleLocalActivity : Command → Bool
  | scheduleLocalActivity _ => true
  | _ => false

def isStartTimer : Command → Bool
  | startTimer _ _ => true
  | _ => false

def localActivitySeq : Command → Option Seq
  | scheduleLocalActivity a => some a.seq
  | _ => none

end Command

/-- The command of an attempt, or what is thrown instead of making it -/
def LocalActivityCall.command (env : Env V) (call : LocalActivityCall V) (seq : Seq) (attempt : ℕ)
    (originalScheduleTime : Option Timestamp) : Except JsError Command := do
  Runtime.validateActivityOptions call.options.scheduleToCloseTimeout call.options.startToCloseTimeout
  env.scheduleLocalActivityCommand seq call.activityType call.args call.options attempt
    originalScheduleTime

/-- The activity is registered, and its options and arguments are valid. -/
structure LocalActivityCall.Callable (env : Env V) (call : LocalActivityCall V) : Prop where
  registered : env.registeredActivityNames.contains call.activityType = true
  command : ∀ seq attempt originalScheduleTime, (call.command env seq attempt originalScheduleTime).isOk = true

namespace BackoffLoop

/-- What the call should have pushed by now. -/
def expected (s : BackoffLoop) : List RetryCommand :=
  if s.awaited.type = .timer then (retryCommands (some 1) none s.backoffs).dropLast
  else retryCommands (some 1) none s.backoffs

/-- The outcome is that of the last promise that the call has awaited, unless a backoff has no duration
or no attempt. -/
inductive FinalOutcome (s : BackoffLoop) (outcome : Settlement) : Prop
  | attempt (htype : s.awaited.type = .activity) (h : s.runtime.settlement s.awaited = some outcome)
      (hbackoff : ∀ backoff, outcome ≠ .rejected (.localActivityDoBackoff backoff))
  | timer (htype : s.awaited.type = .timer) (h : s.runtime.settlement s.awaited = some outcome)
      (hrejected : ∃ err, outcome = .rejected err)
  | noDuration (backoff : DoBackoff)
      (h : s.runtime.settlement s.awaited = some (.rejected (.localActivityDoBackoff backoff)))
      (hduration : backoff.backoffDuration = none)
      (houtcome : outcome = .rejected (.other "Expected timestamp, got null"))
  | noAttempt (backoff : DoBackoff) (h : s.backoffs.getLast? = some backoff)
      (hattempt : backoff.attempt = none)
      (houtcome : outcome = .rejected (.typeError "Invalid backoff attempt type"))

/-- Nothing more is attempted: the call has settled, or its scope has been cancelled. -/
def Stopped (call : LocalActivityCall V) (s : BackoffLoop) : Prop :=
  (∃ outcome, s.phase = .settled outcome) ∨ s.runtime.consideredCancelled call.scope = true

/-- The loop does what `retryCommands` says, at whatever point of the run it is looked at. -/
structure RefinesRetry (env : Env V) (call : LocalActivityCall V) (s : BackoffLoop) : Prop where
  commands : ∃ cs, cs <+: s.expected ∧ List.Forall₂ (RetryCommand.Implements call) cs s.commands
  complete : call.Callable env → s.runtime.consideredCancelled call.scope = false →
    s.runtime.buffer.completed = false →
    List.Forall₂ (RetryCommand.Implements call) s.expected s.commands
  alternate : ∀ i cmd, s.commands[i]? = some cmd →
    if i % 2 = 0 then cmd.isScheduleLocalActivity = true else cmd.isStartTimer = true
  fresh : (s.commands.filterMap Command.localActivitySeq).Pairwise (· < ·)
  outcome : ∀ outcome, s.phase = .settled outcome → s.FinalOutcome outcome
  settles : ∀ settlement, s.runtime.settlement s.awaited = some settlement →
    (∀ outcome, s.phase ≠ .settled outcome) → ∃ s', s.step env call .resume = some s' ∧
      ((s.phase = .attempting ∧ ∀ backoff, settlement ≠ .rejected (.localActivityDoBackoff backoff)) ∨
        (s.phase ≠ .attempting ∧ ∃ err, settlement = .rejected err) → s'.phase = .settled settlement)
  stopped : s.Stopped call → ∀ inputs s', Transition.run (step env call) s inputs = some s' →
    s'.commands = s.commands

end BackoffLoop

/-! ### What is never undone -/

namespace Runtime

/-- Nothing takes back a cancellation or the end of the workflow, or counts backwards. -/
structure Persists (rt rt' : Runtime) : Prop where
  scopes : rt.scopes.length ≤ rt'.scopes.length
  cancelled : ∀ scope < rt.scopes.length, rt.consideredCancelled scope = true →
    rt'.consideredCancelled scope = true
  completed : rt.buffer.completed = true → rt'.buffer.completed = true
  nextSeqs : ∀ c, rt.nextSeqs c ≤ rt'.nextSeqs c

variable {env : Env V} {rt rt' rt'' : Runtime}

lemma Persists.refl (rt : Runtime) : Persists rt rt := ⟨le_rfl, fun _ _ => id, id, fun _ => le_rfl⟩

lemma Persists.trans (h : Persists rt rt') (h' : Persists rt' rt'') : Persists rt rt'' where
  scopes := h.scopes.trans h'.scopes
  cancelled scope hs hc := h'.cancelled scope (hs.trans_le h.scopes) (h.cancelled scope hs hc)
  completed hc := h'.completed (h.completed hc)
  nextSeqs c := (h.nextSeqs c).trans (h'.nextSeqs c)

/-- Changes elsewhere in the run. -/
lemma Persists.of_eq (hscopes : rt'.scopes = rt.scopes) (hbuffer : rt'.buffer = rt.buffer)
    (hnextSeqs : rt'.nextSeqs = rt.nextSeqs) : Persists rt rt' where
  scopes := by rw [hscopes]
  cancelled scope _ hc := by simpa [consideredCancelled, Runtime.scope, hscopes] using hc
  completed hc := by rwa [hbuffer]
  nextSeqs c := by rw [hnextSeqs]

lemma Persists.settle (p : PromiseRef) (s : Settlement) : Persists rt (rt.settle p s) := by
  cases s with
  | fulfilled value => exact .of_eq rfl rfl rfl
  | rejected err =>
    simp only [Runtime.settle, chain]
    split <;> exact .of_eq rfl rfl rfl

lemma Persists.rejectScope (scope : ScopeId) (err : JsError) : Persists rt (rt.rejectScope scope err) where
  scopes := by simp [Runtime.rejectScope]
  cancelled scope' hs hc := by
    simp only [consideredCancelled, Runtime.scope, Runtime.rejectScope, List.getD_eq_getElem?_getD,
      List.getElem?_modify, List.getElem?_eq_getElem hs, Option.getD_some] at hc ⊢
    split
    · simp_all
    · exact hc
  completed := id
  nextSeqs _ := le_rfl

lemma Persists.newScope (cancellable : Bool) (parent : ScopeId) :
    Persists rt (rt.newScope cancellable parent) where
  scopes := by simp [Runtime.newScope]
  cancelled scope hs hc := by
    simpa [consideredCancelled, Runtime.scope, Runtime.newScope, List.getElem?_append_left hs] using hc
  completed := id
  nextSeqs _ := le_rfl

lemma respects_persists : Respects Persists where
  refl := Persists.refl
  trans := Persists.trans
  emit _ _ _ := .of_eq rfl rfl rfl
  pushCommand rt cmd complete := by
    refine ⟨le_rfl, fun _ _ => id, fun hc => ?_, fun _ => le_rfl⟩
    simp only [Runtime.pushCommand, CommandBuffer.pushCommand]
    split
    · simp [hc]
    · exact hc
  nextSeq rt c := ⟨le_rfl, fun _ _ => id, id, fun _ => nextSeqs_le_nextSeq c _⟩
  setCompletion _ _ _ _ := .of_eq rfl rfl rfl
  deleteCompletion _ _ _ := .of_eq rfl rfl rfl
  settle _ := Persists.settle
  onCancelRequested _ _ _ _ := .of_eq rfl rfl rfl
  timeoutCallback _ _ := .of_eq rfl rfl rfl
  newScope _ := Persists.newScope
  rejectScope _ := Persists.rejectScope
  next _ _ _ _ := .of_eq rfl rfl rfl
  activate _ _ := .of_eq rfl rfl rfl

/-! ### The commands of a turn -/

lemma pushedSince_of_trace {es : List Event} (h : rt'.trace = rt.trace ++ es) :
    rt.pushedSince rt' = es.filterMap Event.command? := by
  rw [pushedSince, h, List.drop_left]

/-- What an executor adds to the trace. -/
lemma trace_executor (scope : ScopeId) (p : PromiseRef) (onCancel : Reaction)
    (command : Except JsError Command) :
    (rt.executor scope p onCancel command).trace = rt.trace ++
      if rt.consideredCancelled scope = true then [] else
        match command with
        | .error err => [.settled p (.rejected err)]
        | .ok cmd => if rt.buffer.accepts cmd = true then [.pushed cmd] else [] := by
  unfold executor
  split
  · simp [onCancelRequested]
  · have hregister :
        (if (rt.scope scope).cancellable then rt.onCancelRequested scope onCancel else rt).trace = rt.trace ∧
        (if (rt.scope scope).cancellable then rt.onCancelRequested scope onCancel else rt).buffer =
          rt.buffer := by
      split <;> exact ⟨rfl, rfl⟩
    generalize (if (rt.scope scope).cancellable then rt.onCancelRequested scope onCancel else rt) = rt₁
      at hregister
    obtain ⟨htrace, hbuffer⟩ := hregister
    cases command with
    | error err => simp only [trace_settle, htrace]
    | ok cmd =>
      simp only [setCompletion, pushCommand, htrace, hbuffer]
      split <;> simp

/-- A command that answers no query is taken until the workflow is completed. -/
lemma accepts_eq (rt : Runtime) {cmd : Command} (h : cmd.isRespondToQuery = false) :
    rt.buffer.accepts cmd = !rt.buffer.completed := by
  simp [CommandBuffer.accepts, h]

end Runtime

/-! ### Errors that are no backoffs -/

/-- What is computed does not throw a `LocalActivityDoBackoff`. -/
def NoBackoff {α : Type} (x : Except JsError α) : Prop :=
  ∀ backoff, x ≠ .error (.localActivityDoBackoff backoff)

namespace NoBackoff

variable {α β : Type}

lemma ok (a : α) : NoBackoff (.ok a : Except JsError α) := by simp [NoBackoff]

lemma bind {x : Except JsError α} {f : α → Except JsError β} (hx : NoBackoff x)
    (hf : ∀ a, NoBackoff (f a)) : NoBackoff (x >>= f) := by
  cases x with
  | error err => exact fun backoff h => hx backoff (by simpa [Bind.bind, Except.bind] using h)
  | ok a => exact hf a

lemma map {x : Except JsError α} (hx : NoBackoff x) (f : α → β) : NoBackoff (f <$> x) := by
  cases x with
  | error err => exact fun backoff h => hx backoff (by simpa [Functor.map, Except.map] using h)
  | ok a => exact ok (f a)

lemma listMapM {f : α → Except JsError β} (hf : ∀ a, NoBackoff (f a)) :
    ∀ xs : List α, NoBackoff (xs.mapM f)
  | [] => ok []
  | x :: xs => by
    rw [List.mapM_cons]
    exact (hf x).bind fun b => (listMapM hf xs).bind fun bs => ok (b :: bs)

lemma optionMapM {f : α → Except JsError β} (hf : ∀ a, NoBackoff (f a)) :
    ∀ x : Option α, NoBackoff (x.mapM f)
  | none => ok none
  | some x => (hf x).map some

variable (parseMs : String → Option JsNumber)

lemma msToNumber (d : Duration) : NoBackoff (TemporalSdk.msToNumber parseMs d) := by
  cases d with
  | number ms => exact ok ms
  | text s =>
    simp only [TemporalSdk.msToNumber]
    split <;> simp [NoBackoff]

lemma msToTs (d : Duration) : NoBackoff (TemporalSdk.msToTs parseMs d) :=
  (msToNumber parseMs d).bind fun ms => by cases ms <;> simp [NoBackoff, msNumberToTs]

lemma msOptionalToTs (d : Option Duration) : NoBackoff (TemporalSdk.msOptionalToTs parseMs d) := by
  unfold TemporalSdk.msOptionalToTs
  split
  · split
    · exact (msToTs parseMs _).map some
    · exact ok none
  · exact ok none

/-- A check that throws a `ValueError` before going on. -/
lemma guard {c : Prop} [Decidable c] {message : String} {f : α → Except JsError β} {x : Except JsError β}
    (hx : NoBackoff x) : NoBackoff (if c then throw (.valueError message) >>= f else x) := by
  split
  · simp [NoBackoff, throw, throwThe, MonadExceptOf.throw, Bind.bind, Except.bind]
  · exact hx

lemma compileRetryPolicy (policy : RetryPolicy) :
    NoBackoff (TemporalSdk.compileRetryPolicy parseMs policy) := by
  unfold TemporalSdk.compileRetryPolicy
  refine guard ?_
  dsimp only
  split
  rotate_left 2
  refine guard (guard ?_)
  all_goals
    refine (optionMapM (msToNumber parseMs) _).bind fun maximumInterval =>
      (msToNumber parseMs _).bind fun initialInterval => guard (guard (guard ?_))
    exact (msToTs parseMs _).bind fun _ => (msOptionalToTs parseMs _).bind fun _ => ok _

end NoBackoff

/-- Values are converted without a `LocalActivityDoBackoff`: only the runtime throws it. -/
def Env.ConvertsWithoutBackoff (env : Env V) : Prop := ∀ value, NoBackoff (env.toPayload value)

variable {env : Env V} {call : LocalActivityCall V}

lemma noBackoff_command (call : LocalActivityCall V) (henv : env.ConvertsWithoutBackoff) (seq : Seq) (attempt : ℕ)
    (originalScheduleTime : Option Timestamp) :
    NoBackoff (call.command env seq attempt originalScheduleTime) := by
  refine NoBackoff.bind ?_ fun _ => ?_
  · unfold Runtime.validateActivityOptions
    split <;> simp [NoBackoff]
  · refine NoBackoff.bind ?_ fun _ => (NoBackoff.optionMapM (NoBackoff.compileRetryPolicy _) _).bind fun _ =>
      (NoBackoff.msOptionalToTs _ _).bind fun _ => (NoBackoff.msOptionalToTs _ _).bind fun _ =>
      (NoBackoff.msOptionalToTs _ _).bind fun _ => (NoBackoff.msOptionalToTs _ _).bind fun _ => NoBackoff.ok _
    unfold toPayloads
    split
    · exact NoBackoff.ok none
    · exact (NoBackoff.listMapM henv _).map some

/-- The command carries what the call and its turn of the loop say. -/
lemma command_ok {seq : Seq} {attempt : ℕ} {originalScheduleTime : Option Timestamp} {cmd : Command}
    (h : call.command env seq attempt originalScheduleTime = .ok cmd) :
    ∃ a, cmd = .scheduleLocalActivity a ∧ a.seq = seq ∧ a.activityType = call.activityType ∧
      a.attempt = attempt ∧ a.originalScheduleTime = originalScheduleTime := by
  simp only [LocalActivityCall.command, Env.scheduleLocalActivityCommand, bind, Except.bind, pure,
    Except.pure] at h
  repeat' split at h
  all_goals cases h
  exact ⟨_, rfl, rfl, rfl, rfl, rfl⟩

/-! ### What one who retries does, round by round -/

lemma retryCommands_concat (attempt : Option ℕ) (originalScheduleTime : Option Timestamp)
    (backoffs : List DoBackoff) (backoff : DoBackoff) :
    retryCommands attempt originalScheduleTime (backoffs ++ [backoff]) =
      retryCommands attempt originalScheduleTime backoffs ++
        [.wait backoff.backoffDuration, .attempt backoff.attempt backoff.originalScheduleTime] := by
  induction backoffs generalizing attempt originalScheduleTime with
  | nil => rfl
  | cons b backoffs ih => simp [retryCommands, ih]

lemma retryCommands_concat_dropLast (attempt : Option ℕ) (originalScheduleTime : Option Timestamp)
    (backoffs : List DoBackoff) (backoff : DoBackoff) :
    (retryCommands attempt originalScheduleTime (backoffs ++ [backoff])).dropLast =
      retryCommands attempt originalScheduleTime backoffs ++ [.wait backoff.backoffDuration] := by
  rw [retryCommands_concat, List.dropLast_append_of_ne_nil (by simp)]
  rfl

/-- Attempts and waits take turns, beginning with an attempt. -/
lemma retryCommands_alternate {attempt : Option ℕ} {originalScheduleTime : Option Timestamp}
    {backoffs : List DoBackoff} {i : ℕ} {r : RetryCommand}
    (h : (retryCommands attempt originalScheduleTime backoffs)[i]? = some r) :
    if i % 2 = 0 then ∃ n t, r = .attempt n t else ∃ d, r = .wait d := by
  induction backoffs generalizing attempt originalScheduleTime i with
  | nil =>
    cases i with
    | zero => exact ⟨attempt, originalScheduleTime, (Option.some.inj h).symm⟩
    | succ i => simp [retryCommands] at h
  | cons b backoffs ih =>
    match i with
    | 0 => exact ⟨attempt, originalScheduleTime, (Option.some.inj h).symm⟩
    | 1 => exact ⟨b.backoffDuration, (Option.some.inj h).symm⟩
    | i + 2 =>
      rw [Nat.add_mod_right]
      exact ih h

lemma RetryCommand.Implements.alternate {r : RetryCommand} {cmd : Command} {i : ℕ}
    (h : r.Implements call cmd)
    (hr : if i % 2 = 0 then ∃ n t, r = .attempt n t else ∃ d, r = .wait d) :
    if i % 2 = 0 then cmd.isScheduleLocalActivity = true else cmd.isStartTimer = true := by
  by_cases hi : i % 2 = 0
  · rw [if_pos hi] at hr ⊢
    obtain ⟨n, t, rfl⟩ := hr
    cases n with
    | none => exact h.elim
    | some n => cases cmd <;> first | rfl | exact h.elim
  · rw [if_neg hi] at hr ⊢
    obtain ⟨d, rfl⟩ := hr
    cases d with
    | none => exact h.elim
    | some d => cases cmd <;> first | rfl | exact h.elim

namespace BackoffLoop

variable {s s' : BackoffLoop}

/-! ### The invariant of the loop -/

/-- Why a turn has pushed no command: its scope was cancelled, the workflow is completed, or the attempt
has thrown. -/
inductive Stuck (env : Env V) (call : LocalActivityCall V) (s : BackoffLoop) : Prop
  | cancelled (h : s.runtime.consideredCancelled call.scope = true)
  | completed (h : s.runtime.buffer.completed = true)
  | thrown (htype : s.awaited.type = .activity) (hcallable : ¬call.Callable env) (err : JsError)
      (h : s.runtime.settlement s.awaited = some (.rejected err))
      (hbackoff : ∀ backoff, err ≠ .localActivityDoBackoff backoff)

/-- Which promise the call awaits -/
def Awaits (s : BackoffLoop) : Prop :=
  match s.phase with
  | .attempting => s.awaited.type = .activity
  | .backingOff backoff => s.awaited.type = .timer ∧ ∃ before, s.backoffs = before ++ [backoff]
  | .settled outcome => s.FinalOutcome outcome

structure LoopInv (env : Env V) (call : LocalActivityCall V) (s : BackoffLoop) : Prop where
  settlements : s.runtime.SettlementsInv
  scope : call.scope < s.runtime.scopes.length
  commands : ∃ cs, cs <+: s.expected ∧ List.Forall₂ (RetryCommand.Implements call) cs s.commands ∧
    (cs = s.expected ∨ s.Stuck env call)
  fresh : (s.commands.filterMap Command.localActivitySeq).Pairwise (· < ·)
  seq_lt : ∀ seq ∈ s.commands.filterMap Command.localActivitySeq, seq < s.runtime.nextSeqs .activity
  awaits : s.Awaits

/-- A stuck turn stays stuck while the call awaits the same promise. -/
lemma Stuck.of_persists (h : s.Stuck env call) (hs : call.scope < s.runtime.scopes.length)
    (hpersists : Runtime.Persists s.runtime s'.runtime) (hawaited : s'.awaited = s.awaited)
    (hsettlement : ∀ p st, s.runtime.settlement p = some st → s'.runtime.settlement p = some st) :
    s'.Stuck env call := by
  rcases h with h | h | ⟨htype, hcallable, err, h, hbackoff⟩
  · exact .cancelled (hpersists.cancelled _ hs h)
  · exact .completed (hpersists.completed h)
  · exact .thrown (hawaited ▸ htype) hcallable err (hawaited ▸ hsettlement _ _ h) hbackoff

/-- Nor does the way in which the call has settled change. -/
lemma FinalOutcome.of_settlement {outcome : Settlement} (h : s.FinalOutcome outcome)
    (hawaited : s'.awaited = s.awaited) (hbackoffs : s'.backoffs = s.backoffs)
    (hsettlement : ∀ p st, s.runtime.settlement p = some st → s'.runtime.settlement p = some st) :
    s'.FinalOutcome outcome := by
  cases h with
  | attempt htype h hbackoff => exact .attempt (hawaited ▸ htype) (hawaited ▸ hsettlement _ _ h) hbackoff
  | timer htype h hrejected => exact .timer (hawaited ▸ htype) (hawaited ▸ hsettlement _ _ h) hrejected
  | noDuration backoff h hduration houtcome =>
    exact .noDuration backoff (hawaited ▸ hsettlement _ _ h) hduration houtcome
  | noAttempt backoff h hattempt houtcome => exact .noAttempt backoff (hbackoffs ▸ h) hattempt houtcome

/-- Whatever else happens in the run leaves the loop as it is. -/
lemma LoopInv.runtime (hinv : LoopInv env call s) {rt : Runtime} {input : Input V}
    (hstep : s.runtime.step env input = some rt) : LoopInv env call { s with runtime := rt } := by
  have hpersists := Runtime.respects_persists.step hstep
  have hsettlement := Runtime.respects_settlement.step hstep
  refine ⟨hinv.settlements.step hstep, hinv.scope.trans_le hpersists.scopes, ?_, hinv.fresh,
    fun seq h => (hinv.seq_lt seq h).trans_le (hpersists.nextSeqs _), ?_⟩
  · obtain ⟨cs, hcs, himplements, h⟩ := hinv.commands
    exact ⟨cs, hcs, himplements, h.imp_right fun hstuck => hstuck.of_persists hinv.scope hpersists rfl hsettlement⟩
  · have hawaits := hinv.awaits
    unfold Awaits at hawaits ⊢
    dsimp only
    split at hawaits
    · exact hawaits
    · exact hawaits
    · exact hawaits.of_settlement rfl rfl hsettlement

/-! ### One turn -/

lemma step_attempt (env : Env V) (call : LocalActivityCall V) (hs : call.scope < s.runtime.scopes.length)
    (n : ℕ) (t : Option Timestamp) :
    s.runtime.step env (.scheduleLocalActivity call.scope call.activityType call.args (some call.options) n t) =
      some (s.attempt env call n t).runtime := if_pos hs

lemma commands_attempt {n : ℕ} {t : Option Timestamp} {es : List Event}
    (h : (s.attempt env call n t).runtime.trace = s.runtime.trace ++ es) :
    (s.attempt env call n t).commands = s.commands ++ es.filterMap Event.command? :=
  congrArg (s.commands ++ ·) (Runtime.pushedSince_of_trace h)

/-- An attempt in a cancelled scope does nothing more, one that throws settles its promise, and any other
makes its command. -/
lemma trace_attempt (call : LocalActivityCall V) (henv : env.ConvertsWithoutBackoff) (n : ℕ)
    (t : Option Timestamp) :
    ∃ es, (s.attempt env call n t).runtime.trace = s.runtime.trace ++ es ∧
      ((s.runtime.consideredCancelled call.scope = true ∧ es = []) ∨
        (∃ err, NoBackoff (.error err : Except JsError Command) ∧ ¬call.Callable env ∧
          es = [.settled ⟨.activity, s.runtime.nextSeqs .activity⟩ (.rejected err)]) ∨
        ∃ cmd, call.command env (s.runtime.nextSeqs .activity) n t = .ok cmd ∧
          s.runtime.consideredCancelled call.scope = false ∧
          es = if s.runtime.buffer.accepts cmd = true then [.pushed cmd] else []) := by
  have hnoBackoff := noBackoff_command call henv (s.runtime.nextSeqs .activity) n t
  have hthrown : ∀ {err}, call.command env (s.runtime.nextSeqs .activity) n t = .error err →
      NoBackoff (.error err : Except JsError Command) ∧ ¬call.Callable env := by
    intro err h
    refine ⟨h ▸ hnoBackoff, fun hcallable => ?_⟩
    have hok := hcallable.command (s.runtime.nextSeqs .activity) n t
    rw [h] at hok
    cases hok
  by_cases hregistered :
      (!s.runtime.isReplaying && !env.registeredActivityNames.contains call.activityType) = true
  · refine ⟨[.settled ⟨.activity, s.runtime.nextSeqs .activity⟩ (.rejected (.referenceError
      ("Local activity of type '" ++ call.activityType ++ "' not registered on worker")))], ?_,
      .inr (.inl ⟨_, by simp [NoBackoff], fun hcallable => ?_, rfl⟩)⟩
    · simp only [BackoffLoop.attempt, Runtime.scheduleLocalActivity, Runtime.scheduleLocalActivityNextHandler,
        Runtime.nextSeq, hregistered, if_true, Runtime.trace_settle]
    · rw [hcallable.registered] at hregistered
      simp at hregistered
  · cases hvalid : Runtime.validateActivityOptions call.options.scheduleToCloseTimeout
        call.options.startToCloseTimeout with
    | error err =>
      have herror : call.command env (s.runtime.nextSeqs .activity) n t = .error err := by
        simp [LocalActivityCall.command, hvalid, Bind.bind, Except.bind]
      refine ⟨_, ?_, .inr (.inl ⟨err, (hthrown herror).1, (hthrown herror).2, rfl⟩)⟩
      simp only [BackoffLoop.attempt, Runtime.scheduleLocalActivity,
        Runtime.scheduleLocalActivityNextHandler, hvalid]
      exact (congrArg Runtime.trace (if_neg hregistered)).trans (Runtime.trace_settle _ _)
    | ok _ =>
      have hcommand : env.scheduleLocalActivityCommand (s.runtime.nextSeqs .activity) call.activityType
          call.args call.options n t = call.command env (s.runtime.nextSeqs .activity) n t := by
        simp [LocalActivityCall.command, hvalid, Bind.bind, Except.bind]
      have hexecutor : (s.attempt env call n t).runtime = (s.runtime.nextSeq .activity).executor call.scope
          ⟨.activity, s.runtime.nextSeqs .activity⟩ (.cancel .localActivity (s.runtime.nextSeqs .activity))
          (call.command env (s.runtime.nextSeqs .activity) n t) := by
        simp only [BackoffLoop.attempt, Runtime.scheduleLocalActivity,
          Runtime.scheduleLocalActivityNextHandler, hvalid, hcommand]
        exact if_neg hregistered
      rw [hexecutor]
      refine ⟨_, Runtime.trace_executor _ _ _ _, ?_⟩
      cases hcancelled : s.runtime.consideredCancelled call.scope with
      | true => exact .inl ⟨rfl, if_pos hcancelled⟩
      | false =>
        have hnext : (s.runtime.nextSeq .activity).consideredCancelled call.scope = false := hcancelled
        simp only [hnext, Bool.false_eq_true, if_false]
        refine .inr ?_
        cases hc : call.command env (s.runtime.nextSeqs .activity) n t with
        | error err => exact .inl ⟨err, (hthrown hc).1, (hthrown hc).2, rfl⟩
        | ok cmd => exact .inr ⟨cmd, rfl, trivial, rfl⟩

/-- A turn pushes the command of the attempt, unless it is stuck. -/
lemma attempt_cases (env : Env V) (call : LocalActivityCall V) (hsettlements : s.runtime.SettlementsInv)
    (hs : call.scope < s.runtime.scopes.length) (henv : env.ConvertsWithoutBackoff) (n : ℕ)
    (t : Option Timestamp) :
    (∃ a : ScheduleLocalActivity, a.seq = s.runtime.nextSeqs .activity ∧
      (RetryCommand.attempt (some n) t).Implements call (.scheduleLocalActivity a) ∧
      s.runtime.consideredCancelled call.scope = false ∧ s.runtime.buffer.completed = false ∧
      (s.attempt env call n t).commands = s.commands ++ [.scheduleLocalActivity a]) ∨
    ((s.attempt env call n t).commands = s.commands ∧ (s.attempt env call n t).Stuck env call) := by
  have hpersists := Runtime.respects_persists.step (step_attempt env call hs n t)
  obtain ⟨es, htrace, h⟩ := trace_attempt (s := s) call henv n t
  have hcommands := commands_attempt htrace
  rcases h with ⟨hcancelled, rfl⟩ | ⟨err, herr, hcallable, rfl⟩ | ⟨cmd, hcmd, hcancelled, rfl⟩
  · exact .inr ⟨by simpa using hcommands, .cancelled (hpersists.cancelled _ hs hcancelled)⟩
  · refine .inr ⟨hcommands.trans (List.append_nil _), .thrown rfl hcallable err ?_ fun backoff hb => ?_⟩
    · have hfresh : s.runtime.settlement ⟨.activity, s.runtime.nextSeqs .activity⟩ = none :=
        (hsettlements.fresh_nextSeq (c := .activity) (by simp)).settlement .activity rfl
      refine (Runtime.settlement_append htrace _).trans ?_
      simp [BackoffLoop.attempt, hfresh, Event.settlementOf]
    · exact herr backoff (congrArg _ hb)
  · obtain ⟨a, rfl, hseq, htype, hattempt, htime⟩ := command_ok hcmd
    rw [Runtime.accepts_eq _ rfl] at hcommands
    cases hcompleted : s.runtime.buffer.completed with
    | true =>
      rw [hcompleted] at hcommands
      exact .inr ⟨by simpa using hcommands, .completed (hpersists.completed hcompleted)⟩
    | false =>
      rw [hcompleted] at hcommands
      exact .inl ⟨a, hseq, ⟨htype, hattempt, htime⟩, hcancelled, rfl, hcommands⟩

lemma step_backOff (env : Env V) (hs : call.scope < s.runtime.scopes.length) {backoff : DoBackoff}
    {duration : Timestamp} (h : backoff.backoffDuration = some duration) :
    s.runtime.step env (.sleep call.scope (.number (tsToMs duration))) =
      some (s.backOff env call backoff).runtime := by
  rw [backOff, h]
  exact if_pos hs

/-- A wait pushes its timer, unless it is stuck. -/
lemma backOff_cases (env : Env V) (hs : call.scope < s.runtime.scopes.length) {backoff : DoBackoff}
    {duration : Timestamp} (hduration : backoff.backoffDuration = some duration) :
    (∃ seq ts, (RetryCommand.wait backoff.backoffDuration).Implements call (.startTimer seq ts) ∧
      s.runtime.consideredCancelled call.scope = false ∧ s.runtime.buffer.completed = false ∧
      (s.backOff env call backoff).commands = s.commands ++ [.startTimer seq ts]) ∨
    ((s.backOff env call backoff).commands = s.commands ∧ (s.backOff env call backoff).Stuck env call) := by
  have hpersists := Runtime.respects_persists.step (step_backOff env hs hduration)
  obtain ⟨ts, hts⟩ : ∃ ts, msNumberToTs (tsToMs duration).max1 = .ok ts := ⟨_, rfl⟩
  have hexecutor : s.runtime.sleep env call.scope (.number (tsToMs duration)) =
      (s.runtime.nextSeq .timer).executor call.scope ⟨.timer, s.runtime.nextSeqs .timer⟩
        (.cancelTimer call.scope (s.runtime.nextSeqs .timer))
        (.ok (.startTimer (s.runtime.nextSeqs .timer) ts)) := by
    simp only [Runtime.sleep, msToNumber, Runtime.timerNextHandler, hts, Except.map]
  have hcommands : (s.backOff env call backoff).commands = s.commands ++
      s.runtime.pushedSince (s.runtime.sleep env call.scope (.number (tsToMs duration))) := by
    rw [backOff, hduration]
  have htrace : (s.runtime.sleep env call.scope (.number (tsToMs duration))).trace = s.runtime.trace ++
      if s.runtime.consideredCancelled call.scope = true then [] else
        if s.runtime.buffer.accepts (.startTimer (s.runtime.nextSeqs .timer) ts) = true then
          [.pushed (.startTimer (s.runtime.nextSeqs .timer) ts)] else [] := by
    rw [hexecutor]
    exact Runtime.trace_executor _ _ _ _
  rw [Runtime.pushedSince_of_trace htrace, Runtime.accepts_eq _ rfl] at hcommands
  cases hcancelled : s.runtime.consideredCancelled call.scope with
  | true =>
    rw [hcancelled] at hcommands
    exact .inr ⟨by simpa using hcommands, .cancelled (hpersists.cancelled _ hs hcancelled)⟩
  | false =>
    rw [hcancelled] at hcommands
    cases hcompleted : s.runtime.buffer.completed with
    | true =>
      rw [hcompleted] at hcommands
      exact .inr ⟨by simpa using hcommands, .completed (hpersists.completed hcompleted)⟩
    | false =>
      rw [hcompleted] at hcommands
      refine .inl ⟨s.runtime.nextSeqs .timer, ts, ?_, rfl, rfl, hcommands⟩
      rw [hduration]
      exact hts

lemma nextSeqs_attempt (env : Env V) (call : LocalActivityCall V) (n : ℕ) (t : Option Timestamp) :
    s.runtime.nextSeqs .activity < (s.attempt env call n t).runtime.nextSeqs .activity := by
  have hpersists : Runtime.Persists (s.runtime.nextSeq .activity) (s.attempt env call n t).runtime := by
    simp only [BackoffLoop.attempt, Runtime.scheduleLocalActivity, Runtime.scheduleLocalActivityNextHandler]
    split
    · exact Runtime.respects_persists.settle _ _ _
    · split
      · exact Runtime.respects_persists.settle _ _ _
      · exact Runtime.respects_persists.executor (by simp)
  have hle := hpersists.nextSeqs .activity
  simp only [Runtime.nextSeq, Function.update_self] at hle
  exact (lt_add_one _).trans_le hle

/-! ### The invariant holds in every run -/

/-- A turn does what is expected next, or is stuck. -/
lemma commands_extend {r : RetryCommand} (hexpected : s'.expected = s.expected ++ [r])
    (hold : ∃ cs, cs <+: s.expected ∧ List.Forall₂ (RetryCommand.Implements call) cs s.commands ∧
      (cs = s.expected ∨ s.Stuck env call))
    (hturn : (∃ cmd, r.Implements call cmd ∧ ¬s.Stuck env call ∧ s'.commands = s.commands ++ [cmd]) ∨
      (s'.commands = s.commands ∧ s'.Stuck env call)) :
    ∃ cs, cs <+: s'.expected ∧ List.Forall₂ (RetryCommand.Implements call) cs s'.commands ∧
      (cs = s'.expected ∨ s'.Stuck env call) := by
  obtain ⟨cs, hcs, himplements, h⟩ := hold
  rcases hturn with ⟨cmd, hcmd, hstuck, hcommands⟩ | ⟨hcommands, hstuck⟩
  · obtain rfl : cs = s.expected := h.resolve_right hstuck
    refine ⟨s.expected ++ [r], by rw [hexpected], ?_, .inl hexpected.symm⟩
    rw [hcommands]
    exact List.rel_append himplements (.cons hcmd .nil)
  · refine ⟨cs, hcs.trans ?_, ?_, .inr hstuck⟩
    · rw [hexpected]
      exact List.prefix_append _ _
    · rwa [hcommands]

lemma fresh_attempt (env : Env V) (call : LocalActivityCall V)
    (hfresh : (s.commands.filterMap Command.localActivitySeq).Pairwise (· < ·))
    (hlt : ∀ seq ∈ s.commands.filterMap Command.localActivitySeq, seq < s.runtime.nextSeqs .activity)
    {n : ℕ} {t : Option Timestamp}
    (h : (∃ a : ScheduleLocalActivity, a.seq = s.runtime.nextSeqs .activity ∧
      (s.attempt env call n t).commands = s.commands ++ [.scheduleLocalActivity a]) ∨
        (s.attempt env call n t).commands = s.commands) :
    ((s.attempt env call n t).commands.filterMap Command.localActivitySeq).Pairwise (· < ·) ∧
      ∀ seq ∈ (s.attempt env call n t).commands.filterMap Command.localActivitySeq,
        seq < (s.attempt env call n t).runtime.nextSeqs .activity := by
  have hnext := nextSeqs_attempt (s := s) env call n t
  rcases h with ⟨a, hseq, hcommands⟩ | hcommands
  · have hseqs : (s.attempt env call n t).commands.filterMap Command.localActivitySeq =
        s.commands.filterMap Command.localActivitySeq ++ [s.runtime.nextSeqs .activity] := by
      rw [hcommands, List.filterMap_append, ← hseq]
      rfl
    rw [hseqs]
    refine ⟨List.pairwise_append.mpr ⟨hfresh, by simp, by simpa using hlt⟩, fun seq h => ?_⟩
    rcases List.mem_append.mp h with h | h
    · exact (hlt seq h).trans hnext
    · rwa [List.mem_singleton.mp h]
  · rw [hcommands]
    exact ⟨hfresh, fun seq h => (hlt seq h).trans hnext⟩

lemma LoopInv.start (henv : env.ConvertsWithoutBackoff) {rt : Runtime} (hsettlements : rt.SettlementsInv)
    (hs : call.scope < rt.scopes.length) : LoopInv env call (BackoffLoop.start env call rt) := by
  let s₀ : BackoffLoop := ⟨rt, .attempting, ⟨.activity, rt.nextSeqs .activity⟩, [], []⟩
  change LoopInv env call (s₀.attempt env call 1 none)
  have hstep := step_attempt (s := s₀) env call hs 1 none
  have hcases := attempt_cases (s := s₀) env call hsettlements hs henv 1 none
  have hfresh := fresh_attempt (s := s₀) (n := 1) (t := none) env call List.Pairwise.nil
    (by simp [s₀]) (hcases.imp (fun ⟨a, hseq, _, _, _, h⟩ => ⟨a, hseq, h⟩) And.left)
  refine ⟨hsettlements.step hstep, hs.trans_le (Runtime.respects_persists.step hstep).scopes, ?_,
    hfresh.1, hfresh.2, rfl⟩
  rcases hcases with ⟨a, -, himplements, -, -, hcommands⟩ | ⟨hcommands, hstuck⟩
  · refine ⟨[.attempt (some 1) none], List.prefix_rfl, ?_, .inl rfl⟩
    rw [hcommands]
    exact .cons himplements .nil
  · refine ⟨[], List.nil_prefix, ?_, .inr hstuck⟩
    rw [hcommands]
    exact .nil

lemma LoopInv.settled (hinv : LoopInv env call s) {outcome : Settlement} (h : s.FinalOutcome outcome) :
    LoopInv env call { s with phase := .settled outcome } := by
  obtain ⟨cs, hcs, himplements, hstuck⟩ := hinv.commands
  exact { hinv with
    commands := ⟨cs, hcs, himplements, hstuck.imp_right fun hstuck =>
      hstuck.of_persists hinv.scope (Runtime.Persists.refl _) rfl fun _ _ => id⟩
    awaits := h.of_settlement rfl rfl fun _ _ => id }

/-- After its wait, the call makes the attempt that the backoff tells it to make. -/
lemma LoopInv.attempt (hinv : LoopInv env call s) (henv : env.ConvertsWithoutBackoff) {backoff : DoBackoff}
    (hphase : s.phase = .backingOff backoff) {n : ℕ} (hn : backoff.attempt = some n) :
    LoopInv env call (s.attempt env call n backoff.originalScheduleTime) := by
  have hawaits := hinv.awaits
  simp only [Awaits, hphase] at hawaits
  obtain ⟨htype, before, hbackoffs⟩ := hawaits
  have hstep := step_attempt env call hinv.scope n backoff.originalScheduleTime
  have hcases := attempt_cases env call hinv.settlements hinv.scope henv n backoff.originalScheduleTime
  have hfresh := fresh_attempt env call hinv.fresh hinv.seq_lt
    (hcases.imp (fun ⟨a, hseq, _, _, _, h⟩ => ⟨a, hseq, h⟩) And.left)
  refine ⟨hinv.settlements.step hstep, hinv.scope.trans_le (Runtime.respects_persists.step hstep).scopes, ?_,
    hfresh.1, hfresh.2, rfl⟩
  refine commands_extend (r := .attempt backoff.attempt backoff.originalScheduleTime) ?_ hinv.commands ?_
  · have hold : s.expected = retryCommands (some 1) none before ++ [.wait backoff.backoffDuration] := by
      rw [expected, if_pos htype, hbackoffs, retryCommands_concat_dropLast]
    have hnew : (s.attempt env call n backoff.originalScheduleTime).expected =
        retryCommands (some 1) none s.backoffs := rfl
    rw [hold, hnew, hbackoffs, retryCommands_concat]
    simp
  · rcases hcases with ⟨a, -, himplements, hcancelled, hcompleted, hcommands⟩ | h
    · refine .inl ⟨_, hn ▸ himplements, ?_, hcommands⟩
      rintro (h | h | ⟨htype', -⟩)
      · simp [h] at hcancelled
      · simp [h] at hcompleted
      · simp [htype] at htype'
    · exact .inr h

/-- After a backoff, the call waits as long as the backoff tells it to wait. -/
lemma LoopInv.backOff (hinv : LoopInv env call s) (hphase : s.phase = .attempting) {backoff : DoBackoff}
    (hsettlement : s.runtime.settlement s.awaited = some (.rejected (.localActivityDoBackoff backoff))) :
    LoopInv env call (s.backOff env call backoff) := by
  have hawaits := hinv.awaits
  simp only [Awaits, hphase] at hawaits
  cases hduration : backoff.backoffDuration with
  | none =>
    rw [BackoffLoop.backOff, hduration]
    exact hinv.settled (.noDuration backoff hsettlement hduration rfl)
  | some duration =>
    have hstep := step_backOff env hinv.scope hduration
    have hpersists := Runtime.respects_persists.step hstep
    have hcases := backOff_cases env hinv.scope hduration
    have hphase' : (s.backOff env call backoff).phase = .backingOff backoff ∧
        (s.backOff env call backoff).awaited.type = .timer ∧
        (s.backOff env call backoff).backoffs = s.backoffs ++ [backoff] := by
      rw [BackoffLoop.backOff, hduration]
      exact ⟨rfl, rfl, rfl⟩
    obtain ⟨hphase', htype', hbackoffs'⟩ := hphase'
    have hseqs : (s.backOff env call backoff).commands.filterMap Command.localActivitySeq =
        s.commands.filterMap Command.localActivitySeq := by
      rcases hcases with ⟨seq, ts, -, -, -, hcommands⟩ | ⟨hcommands, -⟩
      · rw [hcommands, List.filterMap_append]
        exact List.append_nil _
      · rw [hcommands]
    refine ⟨hinv.settlements.step hstep, hinv.scope.trans_le hpersists.scopes, ?_, hseqs ▸ hinv.fresh, ?_, ?_⟩
    · refine commands_extend (r := .wait backoff.backoffDuration) ?_ hinv.commands ?_
      · rw [expected, if_pos htype', hbackoffs', retryCommands_concat_dropLast, expected,
          if_neg (by simp [hawaits])]
      · rcases hcases with ⟨seq, ts, himplements, hcancelled, hcompleted, hcommands⟩ | h
        · refine .inl ⟨_, himplements, ?_, hcommands⟩
          rintro (h | h | ⟨-, -, err, h, hbackoff⟩)
          · simp [h] at hcancelled
          · simp [h] at hcompleted
          · rw [hsettlement] at h
            cases h
            exact hbackoff backoff rfl
        · exact .inr h
    · rw [hseqs]
      exact fun seq h => (hinv.seq_lt seq h).trans_le (hpersists.nextSeqs _)
    · simp only [Awaits, hphase']
      exact ⟨htype', s.backoffs, hbackoffs'⟩

lemma LoopInv.resume (hinv : LoopInv env call s) (henv : env.ConvertsWithoutBackoff)
    (h : s.resume env call = some s') : LoopInv env call s' := by
  have hawaits := hinv.awaits
  unfold Awaits at hawaits
  unfold BackoffLoop.resume at h
  split at h
  case h_1 backoff hphase hsettlement =>
    cases h
    exact hinv.backOff hphase hsettlement
  case h_2 outcome hbackoff hphase hsettlement =>
    cases h
    rw [hphase] at hawaits
    refine hinv.settled (.attempt hawaits hsettlement ?_)
    rintro backoff rfl
    exact hbackoff backoff rfl
  case h_3 backoff value hphase hsettlement =>
    rw [hphase] at hawaits
    obtain ⟨-, before, hbackoffs⟩ := hawaits
    split at h
    · rename_i n hn
      cases h
      exact hinv.attempt henv hphase hn
    · rename_i hn
      cases h
      refine hinv.settled (.noAttempt backoff ?_ hn rfl)
      rw [hbackoffs, List.getLast?_concat]
  case h_4 backoff outcome hfulfilled hphase hsettlement =>
    cases h
    rw [hphase] at hawaits
    refine hinv.settled (.timer hawaits.1 hsettlement ?_)
    cases outcome with
    | fulfilled value => exact (hfulfilled value rfl).elim
    | rejected err => exact ⟨err, rfl⟩
  case h_5 => cases h

theorem LoopInv.step (hinv : LoopInv env call s) (henv : env.ConvertsWithoutBackoff) {input : BackoffInput V}
    (h : BackoffLoop.step env call s input = some s') : LoopInv env call s' := by
  cases input with
  | runtime input =>
    obtain ⟨rt, hrt, rfl⟩ := Option.map_eq_some_iff.mp h
    exact hinv.runtime hrt
  | resume => exact hinv.resume henv h

/-- A call that has settled or whose scope has been cancelled stays so, and pushes nothing any more. -/
lemma stopped_step (hinv : LoopInv env call s) (henv : env.ConvertsWithoutBackoff) {input : BackoffInput V}
    (hstopped : s.Stopped call) (h : BackoffLoop.step env call s input = some s') :
    s'.Stopped call ∧ s'.commands = s.commands := by
  cases input with
  | runtime input =>
    obtain ⟨rt, hrt, rfl⟩ := Option.map_eq_some_iff.mp h
    have hpersists := Runtime.respects_persists.step hrt
    exact ⟨hstopped.imp id (hpersists.cancelled _ hinv.scope), rfl⟩
  | resume =>
    change s.resume env call = some s' at h
    rcases hstopped with ⟨outcome, hphase⟩ | hcancelled
    · simp [BackoffLoop.resume, hphase] at h
    · unfold BackoffLoop.resume at h
      split at h
      case h_1 backoff hphase hsettlement =>
        cases h
        cases hduration : backoff.backoffDuration with
        | none =>
          rw [BackoffLoop.backOff, hduration]
          exact ⟨.inr hcancelled, rfl⟩
        | some duration =>
          have hpersists := Runtime.respects_persists.step (step_backOff env hinv.scope hduration)
          refine ⟨.inr (hpersists.cancelled _ hinv.scope hcancelled), ?_⟩
          rcases backOff_cases env hinv.scope hduration with ⟨_, _, -, hnot, -⟩ | ⟨hcommands, -⟩
          · simp [hcancelled] at hnot
          · exact hcommands
      case h_3 backoff value hphase hsettlement =>
        split at h
        · rename_i n hn
          cases h
          have hpersists := Runtime.respects_persists.step
            (step_attempt env call hinv.scope n backoff.originalScheduleTime)
          refine ⟨.inr (hpersists.cancelled _ hinv.scope hcancelled), ?_⟩
          rcases attempt_cases env call hinv.settlements hinv.scope henv n backoff.originalScheduleTime with
            ⟨_, -, -, hnot, -⟩ | ⟨hcommands, -⟩
          · simp [hcancelled] at hnot
          · exact hcommands
        · cases h
          exact ⟨.inr hcancelled, rfl⟩
      case h_5 => cases h
      all_goals
        cases h
        exact ⟨.inr hcancelled, rfl⟩

lemma resume_of_attempting (hphase : s.phase = .attempting) {outcome : Settlement}
    (h : s.runtime.settlement s.awaited = some outcome)
    (hbackoff : ∀ backoff, outcome ≠ .rejected (.localActivityDoBackoff backoff)) :
    s.resume env call = some { s with phase := .settled outcome } := by
  unfold BackoffLoop.resume
  rw [hphase, h]
  split
  case h_1 backoff _ heq => exact absurd (Option.some.inj heq) (hbackoff backoff)
  case h_2 heq => rw [Option.some.inj heq]
  case h_3 hp _ => cases hp
  case h_4 hp _ => cases hp
  case h_5 hnone _ _ => exact absurd rfl (hnone outcome rfl)

lemma LoopInv.refines (hinv : LoopInv env call s) (henv : env.ConvertsWithoutBackoff) :
    s.RefinesRetry env call where
  commands := by
    obtain ⟨cs, hcs, himplements, -⟩ := hinv.commands
    exact ⟨cs, hcs, himplements⟩
  complete hcallable hcancelled hcompleted := by
    obtain ⟨cs, -, himplements, rfl | hstuck⟩ := hinv.commands
    · exact himplements
    · rcases hstuck with h | h | ⟨-, h, -⟩
      · simp [h] at hcancelled
      · simp [h] at hcompleted
      · exact absurd hcallable h
  alternate i cmd hcmd := by
    obtain ⟨cs, hcs, himplements, -⟩ := hinv.commands
    have hprefix : s.expected <+: retryCommands (some 1) none s.backoffs := by
      unfold expected
      split
      · exact List.dropLast_prefix _
      · exact List.prefix_rfl
    obtain ⟨hi, hget⟩ := List.getElem?_eq_some_iff.mp hcmd
    have hi' : i < cs.length := himplements.length_eq ▸ hi
    have hr : (retryCommands (some 1) none s.backoffs)[i]? = some cs[i] := by
      obtain ⟨rest, hrest⟩ := hcs.trans hprefix
      rw [← hrest, List.getElem?_append_left hi', List.getElem?_eq_getElem hi']
    have himplements' : cs[i].Implements call s.commands[i] := himplements.get hi' hi
    rw [hget] at himplements'
    exact himplements'.alternate (retryCommands_alternate hr)
  fresh := hinv.fresh
  outcome outcome hphase := by
    have hawaits := hinv.awaits
    simpa only [Awaits, hphase] using hawaits
  settles settlement hsettlement hphase := by
    cases hp : s.phase with
    | attempting =>
      by_cases hbackoff : ∃ backoff, settlement = .rejected (.localActivityDoBackoff backoff)
      · obtain ⟨backoff, rfl⟩ := hbackoff
        refine ⟨s.backOff env call backoff, ?_, ?_⟩
        · simp only [BackoffLoop.step, BackoffLoop.resume, hp, hsettlement]
        · rintro (⟨-, h⟩ | ⟨h, -⟩)
          · exact absurd rfl (h backoff)
          · exact absurd rfl h
      · rw [not_exists] at hbackoff
        exact ⟨_, resume_of_attempting hp hsettlement hbackoff, fun _ => rfl⟩
    | backingOff backoff =>
      cases settlement with
      | rejected err =>
        refine ⟨{ s with phase := .settled (.rejected err) }, ?_, fun _ => rfl⟩
        simp only [BackoffLoop.step, BackoffLoop.resume, hp, hsettlement]
      | fulfilled value =>
        have hnot : ¬((BackoffPhase.backingOff backoff = .attempting ∧
            ∀ b, Settlement.fulfilled value ≠ .rejected (.localActivityDoBackoff b)) ∨
            (BackoffPhase.backingOff backoff ≠ .attempting ∧
              ∃ err, Settlement.fulfilled value = .rejected err)) := by
          simp
        cases hn : backoff.attempt with
        | some n =>
          refine ⟨s.attempt env call n backoff.originalScheduleTime, ?_, fun h => absurd h hnot⟩
          simp only [BackoffLoop.step, BackoffLoop.resume, hp, hsettlement, hn]
        | none =>
          refine ⟨{ s with phase := .settled (.rejected (.typeError "Invalid backoff attempt type")) }, ?_,
            fun h => absurd h hnot⟩
          simp only [BackoffLoop.step, BackoffLoop.resume, hp, hsettlement, hn]
    | settled outcome => exact absurd hp (hphase outcome)
  stopped hstopped inputs s'' hrun := by
    have hkeep : ∀ s₁ input s₂, (LoopInv env call s₁ ∧ s₁.Stopped call ∧ s₁.commands = s.commands) →
        BackoffLoop.step env call s₁ input = some s₂ →
        LoopInv env call s₂ ∧ s₂.Stopped call ∧ s₂.commands = s.commands := by
      rintro s₁ input s₂ ⟨hinv₁, hstopped₁, hcommands₁⟩ hstep
      obtain ⟨hstopped₂, hcommands₂⟩ := stopped_step hinv₁ henv hstopped₁ hstep
      exact ⟨hinv₁.step henv hstep, hstopped₂, hcommands₂.trans hcommands₁⟩
    exact (Transition.invariant hkeep ⟨hinv, hstopped, rfl⟩ hrun).2.2

/-- The timer of a wait lasts for the duration rounded down to milliseconds, or for one millisecond. -/
lemma millis_of_wait {duration ts : Timestamp} (hcanonical : duration.Canonical)
    (hnonneg : 0 ≤ duration.millis) (hlt : duration.millis < 2 ^ 53)
    (hts : msNumberToTs (tsToMs duration).max1 = .ok ts) : ts.millis = max 1 ⌊duration.millis⌋ := by
  obtain ⟨hnanos, hnanos'⟩ := hcanonical
  set k : ℤ := ⌊duration.nanos / 1000000⌋ with hk
  have hk0 : 0 ≤ k := Int.floor_nonneg.mpr (by positivity)
  have hk1 : k < 1000 := Int.floor_lt.mpr (by push_cast; linarith)
  have hmillis : duration.millis = (duration.seconds * 1000 : ℤ) + duration.nanos / 1000000 := by
    unfold Timestamp.millis Timestamp.nanoseconds
    push_cast
    ring
  have hfloor : ⌊duration.millis⌋ = duration.seconds * 1000 + k := by
    rw [hmillis, Int.floor_intCast_add]
  have hm0 : 0 ≤ duration.seconds * 1000 + k := hfloor ▸ Int.floor_nonneg.mpr hnonneg
  have hm1 : duration.seconds * 1000 + k < 2 ^ 53 := by
    rw [← hfloor, Int.floor_lt]
    push_cast
    linarith
  have htsToMs : tsToMs duration = .finite (duration.seconds * 1000 + k : ℤ) := by
    change JsNumber.finite (longToNumber (longWrap (longWrap (duration.seconds * 1000) + k))) = _
    rw [longWrap_eq (n := duration.seconds * 1000) (by omega) (by omega), longWrap_eq (by omega) (by omega),
      longToNumber_eq (by omega)]
  have hmax : (tsToMs duration).max1 = .finite (max 1 (duration.seconds * 1000 + k) : ℤ) := by
    rw [htsToMs, JsNumber.max1]
    congr 1
    split_ifs with h
    · rw [max_eq_right (by exact_mod_cast h)]
    · rw [max_eq_left (by exact_mod_cast (not_le.mp h).le)]
      norm_num
  rw [hfloor]
  set m : ℤ := max 1 (duration.seconds * 1000 + k)
  have hm : 1 ≤ m ∧ m ≤ 2 ^ 53 - 1 := ⟨le_max_left _ _, by omega⟩
  rw [hmax, msNumberToTs_intCast (abs_le.mpr ⟨by omega, hm.2⟩)] at hts
  obtain rfl := Except.ok.inj hts
  have hsplit : m / 1000 * 1000 + m.tmod 1000 = m := by rw [ediv_add_tmod, if_pos (.inl (by omega))]
  unfold Timestamp.millis Timestamp.nanoseconds
  have hsplit' : ((m / 1000 : ℤ) : ℚ) * 1000 + (m.tmod 1000 : ℤ) = m := by exact_mod_cast hsplit
  rw [← hsplit']
  ring

/-- At every point of every run, the call has made the attempts and the waits that its backoffs tell it to
make, in order and one after another; its timers last as long as told in whole milliseconds, and at least
one; it settles as the last promise that it has awaited, and once it has settled or its scope has been
cancelled it attempts nothing any more. -/
theorem refinesRetry (env : Env V) (call : LocalActivityCall V) (henv : env.ConvertsWithoutBackoff)
    (before : List (Input V)) (rt : Runtime)
    (hbefore : Transition.run (Runtime.step env) Runtime.init before = some rt)
    (hscope : call.scope < rt.scopes.length) (inputs : List (BackoffInput V)) (s : BackoffLoop)
    (hrun : Transition.run (BackoffLoop.step env call) (BackoffLoop.start env call rt) inputs = some s) :
    s.RefinesRetry env call ∧
      ∀ duration ts : Timestamp, duration.Canonical → 0 ≤ duration.millis → duration.millis < 2 ^ 53 →
        msNumberToTs (tsToMs duration).max1 = .ok ts → ts.millis = max 1 ⌊duration.millis⌋ := by
  have hsettlements : rt.SettlementsInv :=
    Transition.invariant (fun _ _ _ hinv hstep => hinv.step hstep) Runtime.SettlementsInv.init hbefore
  have hinv : LoopInv env call s :=
    Transition.invariant (fun _ _ _ hinv hstep => hinv.step henv hstep)
      (LoopInv.start henv hsettlements hscope) hrun
  exact ⟨hinv.refines henv, fun _ _ => millis_of_wait⟩

def greeter : Env Payload := { Env.raw with registeredActivityNames := ["greet"] }

def greeting : LocalActivityCall Payload :=
  ⟨0, "greet", [], ⟨none, some (.number (.finite 1000)), none, none, none, none⟩⟩

/-- A backoff of two seconds, and a second attempt. -/
theorem refinesRetry_greeting :
    ∃ s, Transition.run (BackoffLoop.step greeter greeting) (start greeter greeting Runtime.init)
        [.runtime (.job (.resolveActivity (some 1) (some (.backoff ⟨some 2, some ⟨2, 0⟩, some ⟨5, 0⟩⟩)))),
          .resume, .runtime (.job (.fireTimer (some 1))), .resume,
          .runtime (.job (.resolveActivity (some 2) (some (.completed none)))), .resume] = some s ∧
      s.phase = .settled (.fulfilled .undefined) ∧ s.commands.length = 3 ∧ s.RefinesRetry greeter greeting :=
  ⟨_, rfl, rfl, rfl, (refinesRetry greeter greeting (fun _ _ => by simp [greeter, Env.raw]) [] _ rfl
    (by decide) [.runtime (.job (.resolveActivity (some 1) (some (.backoff ⟨some 2, some ⟨2, 0⟩, some ⟨5, 0⟩⟩)))),
      .resume, .runtime (.job (.fireTimer (some 1))), .resume,
      .runtime (.job (.resolveActivity (some 2) (some (.completed none)))), .resume] _ rfl).1⟩

/-- A backoff of a millisecond and a half, whose timer lasts a millisecond; and a cancelled call, which
has pushed a third kind of command. -/
theorem backoffTimer_short :
    (∃ s, Transition.run (BackoffLoop.step greeter greeting) (start greeter greeting Runtime.init)
        [.runtime (.job (.resolveActivity (some 1) (some (.backoff ⟨some 2, some ⟨0, 1500000⟩, none⟩)))),
          .resume] = some s ∧
      s.commands[1]? = some (.startTimer 1 ⟨0, 1000000⟩) ∧
      (⟨0, 1000000⟩ : Timestamp).millis < max 1 (⟨0, 1500000⟩ : Timestamp).millis) ∧
    ∃ s, Transition.run (BackoffLoop.step greeter greeting) (start greeter greeting Runtime.init)
        [.runtime (.cancel 0), .runtime .microtask] = some s ∧
      (s.runtime.trace.filterMap Event.command?)[1]? = some (.requestCancelLocalActivity 1) :=
  ⟨⟨_, rfl, by decide +kernel, by decide +kernel⟩, _, rfl, by decide +kernel⟩

end BackoffLoop

end TemporalSdk
