import TemporalSdk.Worker.ActivityOperator

/-!
# One completion for each start

As long as the errors of activities can be converted to failures, something is under way for each start
that has no completion, and an Activity is given the cancel tasks that arrive between its start task and
its end, and no others.
-/

namespace TemporalSdk

variable {D : Type}

namespace ActivityToken

def cancels (reasons : List (Option ActivityCancelReason)) : List ActivityTask := reasons.map .cancel

/-- The start task waits or is handled, the activity runs, its last heartbeat is being flushed, or the
completion is about to be emitted. -/
def InProgress (x : ActivityToken D) : Prop :=
  (∃ closed group activityType, x.groupAt closed = some group ∧ .start activityType ∈ group.tasks) ∨
    x.execution.running = true ∨
    (∃ result, x.execution = .flushing result ∧ (x.heartbeats.sending ≠ [] ∨ x.heartbeats.called ≠ [])) ∨
    ∃ result, x.execution = .resolving result

/-- The tasks that wait in groups with the Activity -/
def waiting (x : ActivityToken D) : List ActivityTask :=
  ((x.group.toList ++ x.draining).filter TaskGroup.activity).flatMap TaskGroup.tasks

/-- The result of a start that creates no activity -/
def StartRefused (result : ActivityResult) : Prop :=
  ∃ activityType, (∃ activities, result = .notRegistered activities activityType) ∨
    ∃ err, result = .argsNotParsed activityType err

/-- The result is what the execution has come to: the function has returned, or has thrown, and an
activity that was not cancelled has no result that says so. What the result carries is what a converter has
returned of that, unless the activity was aborted or never created. -/
def Explained (x : ActivityToken D) : ActivityResult → Prop
  | .completed payload => x.encoded = some (.payload payload) ∧
      ∃ value, x.functionSettled = some (.ok value) ∧ x.caught = none
  | .willCompleteAsync => x.caught = some .completeAsyncError
  | .cancelled failure => x.cancelReason.isSome = true ∧ ∃ err, x.caught = some err ∧
      (err.isCancelledFailure = true ∧
          (∃ encoded, x.encoded = some (.failure encoded) ∧ failure = encoded.withoutStackTrace) ∨
        err.isAbortError = true ∧ .cancelled failure = ActivityResult.aborted)
  | .failed failure => x.heartbeats.created = false ∧ StartRefused (.failed failure) ∨
      x.encoded = some (.failure failure) ∧ ∃ err, x.caught = some err ∧ err ≠ .completeAsyncError

/-- There is one completion for the start, with the result of its execution, unless that is in progress;
an activity is given the cancel tasks that arrived after its start task and before its end. -/
structure CompletedOnce (x : ActivityToken D) : Prop where
  unstarted : x.started = false → x.completions = []
  started : x.started = true → x.completions = [] ∧ x.InProgress ∨
    ∃ result, x.execution = .completed result ∧ x.Explained result ∧ x.completions = [result]
  delivered : x.heartbeats.created = true → cancels x.delivered ++ x.waiting = cancels x.addressed
  undelivered : x.heartbeats.created = false → x.delivered = []
  uncancelled : x.delivered = [] →
    x.cancelReason = none ∨ x.cancelReason = some .heartbeatDetailsConversionFailed

end ActivityToken

namespace ActivityOperator

def CompletedOnce (s : ActivityOperator D) : Prop :=
  ∀ base64TaskToken, (s.tokens base64TaskToken).CompletedOnce

/-- The error of an activity can be converted to a failure. -/
def FailureEncoded (_ : ActivityOperator D) (input : String × TokenInput D) : Prop :=
  match input.2 with
  | .failureEncoded (.error _) => False
  | _ => True

instance (s : ActivityOperator D) : DecidablePred s.FailureEncoded := fun input => by
  unfold FailureEncoded
  split <;> infer_instance

end ActivityOperator

/-! ### The phases of a token -/

namespace ActivityToken

variable {x t : ActivityToken D} {activities : RegisteredActivities} {base64TaskToken : String}

/-- No start task has been handled yet. -/
structure Before (x : ActivityToken D) : Prop where
  heartbeats : x.heartbeats = .initial
  completions : x.completions = []
  delivered : x.delivered = []
  draining : x.draining = []
  caught : x.caught = none
  unstarted : x.started = false → x.addressed = [] ∧
    ∀ group, x.group = some group → ∃ reasons, group = ⟨false, cancels reasons⟩
  started : x.started = true → ∃ reasons activityType,
    x.group = some ⟨false, cancels reasons ++ .start activityType :: cancels x.addressed⟩

/-- The activity runs, and the open group has it. -/
structure Running (x : ActivityToken D) : Prop where
  started : x.started = true
  completions : x.completions = []
  draining : x.draining = []
  created : x.heartbeats.created = true
  completion : x.heartbeats.completion = none
  group : ∃ reasons, x.group = some ⟨true, cancels reasons⟩ ∧ x.delivered ++ reasons = x.addressed

/-- What is left of the group of an activity that has ended -/
def drainingOf (reasons : List (Option ActivityCancelReason)) : List TaskGroup :=
  if reasons = [] then [] else [⟨true, cancels reasons⟩]

/-- The activity has ended, and its group is closed; or it was never created. -/
structure Ended (x : ActivityToken D) (result : ActivityResult) : Prop where
  started : x.started = true
  group : ∀ group, x.group = some group → ∃ reasons, group = ⟨false, cancels reasons⟩
  explained : x.Explained result
  draining : (x.heartbeats.created = true ∧ x.heartbeats.completion.isSome = true ∧
      ∃ reasons, x.draining = drainingOf reasons ∧ x.delivered ++ reasons = x.addressed) ∨
    x.heartbeats.created = false ∧ x.draining = [] ∧ x.delivered = []

/-- What has been caught so far, while the activity runs -/
def Stage (x : ActivityToken D) : Prop :=
  match x.execution with
  | .executing => x.caught = none
  | .encodingResult value => x.functionSettled = some (.ok value) ∧ x.caught = none
  | .encodingFailure cancelled _ => ∃ err, x.caught = some err ∧ err ≠ .completeAsyncError ∧
      (cancelled = true → x.cancelReason.isSome = true ∧ err.isCancelledFailure = true)
  | _ => False

/-- How far the completion with the result is -/
def Outcome (x : ActivityToken D) (result : ActivityResult) : Prop :=
  match x.execution with
  | .flushing result' => result' = result ∧ x.completions = [] ∧ x.heartbeats.created = true
  | .resolving result' => result' = result ∧ x.completions = []
  | .completed result' => result' = result ∧ x.completions = [result]
  | _ => False

inductive Phase (x : ActivityToken D) : Prop
  | before (hexecution : x.execution = .notStarted) (h : Before x)
  | running (hstage : Stage x) (h : Running x)
  | ended (result : ActivityResult) (houtcome : Outcome x result) (h : Ended x result)

/-- Without a cancel task, an activity is cancelled only because of its heartbeats. -/
def Uncancelled (x : ActivityToken D) : Prop :=
  x.delivered = [] → x.cancelReason = none ∨ x.cancelReason = some .heartbeatDetailsConversionFailed

structure Inv (x : ActivityToken D) : Prop where
  heartbeats : HeartbeatStream.Inv x.heartbeats
  uncancelled : Uncancelled x
  phase : Phase x

lemma inv_initial : Inv (initial : ActivityToken D) where
  heartbeats := HeartbeatStream.inv_initial
  uncancelled _ := Or.inl rfl
  phase := .before rfl ⟨rfl, rfl, rfl, rfl, rfl, fun _ => ⟨rfl, fun _ h => by cases h⟩, fun h => by cases h⟩

lemma Explained.of_eq {y : ActivityToken D} {result : ActivityResult} (h : x.Explained result)
    (hsettled : y.functionSettled = x.functionSettled) (hcaught : y.caught = x.caught)
    (hencoded : y.encoded = x.encoded)
    (hreason : x.cancelReason.isSome = true → y.cancelReason.isSome = true)
    (hcreated : y.heartbeats.created = x.heartbeats.created) : y.Explained result := by
  cases result with
  | completed payload =>
    rw [Explained, hsettled, hcaught, hencoded]
    exact h
  | willCompleteAsync => exact hcaught.trans h
  | cancelled failure =>
    rw [Explained, hcaught, hencoded]
    exact ⟨hreason h.1, h.2⟩
  | failed failure =>
    rw [Explained, hcaught, hencoded, hcreated]
    exact h

/-- How the execution goes on is nothing to what is said of an activity that runs. -/
lemma Running.proceed (h : Running x) (execution : Execution) (caught : Option ThrownValue)
    (functionSettled : Option (Except ThrownValue JsValue)) (encoded : Option Encoded) :
    Running { x with execution, caught, functionSettled, encoded } :=
  ⟨h.started, h.completions, h.draining, h.created, h.completion, h.group⟩

lemma Stage.running (h : Stage x) : x.execution.running = true := by
  unfold Stage at h
  split at h
  · rename_i hexecution
    rw [hexecution]
    rfl
  · rename_i value hexecution
    rw [hexecution]
    rfl
  · rename_i cancelled err hexecution
    rw [hexecution]
    rfl
  · exact h.elim

lemma Stage.ended_eq_false (h : Stage x) : x.execution.ended = false := by
  have hrunning := h.running
  unfold Execution.ended
  split
  · rfl
  · rw [hrunning]
    rfl

lemma Outcome.ended_eq_true {result : ActivityResult} (h : Outcome x result) : x.execution.ended = true := by
  unfold Outcome at h
  split at h
  · rename_i result' hexecution
    rw [hexecution]
    rfl
  · rename_i result' hexecution
    rw [hexecution]
    rfl
  · rename_i result' hexecution
    rw [hexecution]
    rfl
  · exact h.elim

lemma Inv.running_of (h : Inv x) (hne : x.execution ≠ .notStarted) (hended : x.execution.ended = false) :
    Running x ∧ Stage x := by
  cases h.phase with
  | before hnone _ => exact absurd hnone hne
  | running hstage hrunning => exact ⟨hrunning, hstage⟩
  | ended result houtcome _ =>
    rw [houtcome.ended_eq_true] at hended
    cases hended

lemma Inv.ended_of (h : Inv x) (hended : x.execution.ended = true) :
    ∃ result, Outcome x result ∧ Ended x result := by
  cases h.phase with
  | before hnone _ =>
    rw [hnone] at hended
    cases hended
  | running hstage _ =>
    rw [hstage.ended_eq_false] at hended
    cases hended
  | ended result houtcome hend => exact ⟨result, houtcome, hend⟩

/-! ### Tasks arrive -/

lemma cancels_append (reasons : List (Option ActivityCancelReason)) (reason : Option ActivityCancelReason) :
    cancels (reasons ++ [reason]) = cancels reasons ++ [.cancel reason] := by
  simp [cancels]

lemma Before.arrive {task : ActivityTask} (h : Before x) (hexecution : x.execution = .notStarted)
    (htask : ∀ activityType, task = .start activityType → x.started = false) : Before (x.arrive task) := by
  cases task with
  | start activityType =>
    have hstarted := htask activityType rfl
    obtain ⟨haddressed, hgroup⟩ := h.unstarted hstarted
    exact { h with
      unstarted := fun hfalse => by cases hfalse
      started := fun _ => by
        cases hopen : x.group with
        | none =>
          refine ⟨[], activityType, ?_⟩
          simp [ActivityToken.arrive, hopen, haddressed, cancels]
        | some group =>
          obtain ⟨reasons, rfl⟩ := hgroup group hopen
          refine ⟨reasons, activityType, ?_⟩
          simp [ActivityToken.arrive, hopen, haddressed, cancels] }
  | cancel reason =>
    cases hstarted : x.started with
    | false =>
      obtain ⟨haddressed, hgroup⟩ := h.unstarted hstarted
      have harrive : x.arrive (.cancel reason) = { x with
          group := some { x.group.getD ⟨false, []⟩ with
            tasks := (x.group.getD ⟨false, []⟩).tasks ++ [.cancel reason] } } := by
        simp [ActivityToken.arrive, hstarted]
      rw [harrive]
      exact { h with
        unstarted := fun _ => by
          refine ⟨haddressed, ?_⟩
          rintro group' hgroup'
          cases hgroup'
          cases hopen : x.group with
          | none => exact ⟨[reason], rfl⟩
          | some group =>
            obtain ⟨reasons, rfl⟩ := hgroup group hopen
            refine ⟨reasons ++ [reason], ?_⟩
            rw [cancels_append]
            rfl
        started := fun htrue => absurd (hstarted.symm.trans htrue) Bool.false_ne_true }
    | true =>
      obtain ⟨reasons, activityType, hgroup⟩ := h.started hstarted
      have harrive : x.arrive (.cancel reason) = { x with
          group := some ⟨false, cancels reasons ++ .start activityType :: cancels (x.addressed ++ [reason])⟩
          addressed := x.addressed ++ [reason] } := by
        simp [ActivityToken.arrive, hstarted, hexecution, hgroup, Execution.ended, cancels_append]
      rw [harrive]
      exact { h with
        unstarted := fun hfalse => absurd (hfalse.symm.trans hstarted) Bool.false_ne_true
        started := fun _ => ⟨reasons, activityType, rfl⟩ }

lemma Running.arrive {reason : Option ActivityCancelReason} (h : Running x)
    (hexecution : x.execution.ended = false) : Running (x.arrive (.cancel reason)) := by
  obtain ⟨reasons, hgroup, haddressed⟩ := h.group
  have harrive : x.arrive (.cancel reason) = { x with
      group := some ⟨true, cancels (reasons ++ [reason])⟩
      addressed := x.addressed ++ [reason] } := by
    simp [ActivityToken.arrive, h.started, hexecution, hgroup, cancels_append]
  rw [harrive]
  exact ⟨h.started, h.completions, h.draining, h.created, h.completion, reasons ++ [reason], rfl,
    by rw [← List.append_assoc, haddressed]⟩

/-- A cancel task that comes too late -/
lemma Ended.arrive {reason : Option ActivityCancelReason} {result : ActivityResult} (h : Ended x result)
    (hexecution : x.execution.ended = true) : Ended (x.arrive (.cancel reason)) result := by
  have harrive : x.arrive (.cancel reason) = { x with
      group := some { x.group.getD ⟨false, []⟩ with
        tasks := (x.group.getD ⟨false, []⟩).tasks ++ [.cancel reason] } } := by
    simp [ActivityToken.arrive, hexecution]
  rw [harrive]
  refine ⟨h.started, ?_, h.explained.of_eq rfl rfl rfl id rfl, h.draining⟩
  rintro group' hgroup'
  cases hgroup'
  cases hopen : x.group with
  | none => exact ⟨[reason], rfl⟩
  | some group =>
    obtain ⟨reasons, rfl⟩ := h.group group hopen
    refine ⟨reasons ++ [reason], ?_⟩
    rw [cancels_append]
    rfl

/-! ### Tasks are handled -/

lemma nextTask_eq_some {closed : Option ℕ} {group : TaskGroup} {task : ActivityTask} {tasks : List ActivityTask}
    (h : x.nextTask closed = some (group, task, tasks)) :
    x.groupAt closed = some group ∧ group.tasks = task :: tasks := by
  unfold nextTask at h
  split at h
  · cases h
  · rename_i group' hgroup
    split at h
    · cases h
    · rename_i task' tasks' htasks
      cases h
      exact ⟨hgroup, htasks⟩

lemma cancels_eq_cons {reasons : List (Option ActivityCancelReason)} {task : ActivityTask}
    {tasks : List ActivityTask} (h : cancels reasons = task :: tasks) :
    ∃ reason rest, reasons = reason :: rest ∧ task = .cancel reason ∧ tasks = cancels rest := by
  obtain ⟨reason, rest, hreasons, htask, htasks⟩ := List.map_eq_cons_iff.mp h
  exact ⟨reason, rest, hreasons, htask.symm, htasks.symm⟩

/-- A step of the heartbeats other than their creation and the completion -/
lemma heartbeats_frame {heartbeats heartbeats' : HeartbeatStream D Unit} {input : ActivityInput D Unit}
    (hcreate : input ≠ .create) (hcompletion : ∀ flushRequired, input ≠ .completion flushRequired ())
    (h : heartbeats.step input = some heartbeats') :
    heartbeats'.created = heartbeats.created ∧ heartbeats'.completion = heartbeats.completion := by
  cases input with
  | create => exact absurd rfl hcreate
  | completion flushRequired callback => exact absurd rfl (hcompletion flushRequired)
  | heartbeat details =>
    simp only [HeartbeatStream.step] at h
    split at h
    · cases h
    · cases h
      exact HeartbeatStream.next_frame _
  | encoded encoder payload =>
    simp only [HeartbeatStream.step] at h
    split at h
    · cases h
    · cases h
      exact HeartbeatStream.next_frame _
  | returned =>
    simp only [HeartbeatStream.step] at h
    split at h
    · cases h
    · cases h
      exact HeartbeatStream.closeGroup_frame

lemma heartbeats_initial {heartbeats : HeartbeatStream D Unit} {input : ActivityInput D Unit}
    (hcreate : input ≠ .create) : HeartbeatStream.initial.step input ≠ some heartbeats := by
  cases input with
  | create => exact absurd rfl hcreate
  | heartbeat details => simp [HeartbeatStream.step, HeartbeatStream.initial]
  | completion flushRequired callback => simp [HeartbeatStream.step, HeartbeatStream.initial]
  | encoded encoder payload => simp [HeartbeatStream.step, HeartbeatStream.initial]
  | returned => simp [HeartbeatStream.step, HeartbeatStream.initial]

lemma heartbeats_create :
    ∃ heartbeats, (HeartbeatStream.initial : HeartbeatStream D Unit).step .create = some heartbeats ∧
      heartbeats.created = true ∧ heartbeats.completion = none :=
  ⟨_, rfl, rfl, rfl⟩

lemma heartbeats_completion {heartbeats : HeartbeatStream D Unit} (hcreated : heartbeats.created = true)
    (hcompletion : heartbeats.completion = none) (flushRequired : Bool) :
    ∃ heartbeats', heartbeats.step (.completion flushRequired ()) = some heartbeats' ∧
      heartbeats'.created = true ∧ heartbeats'.completion.isSome = true := by
  refine ⟨_, if_neg (by simp [hcreated, hcompletion]), ?_⟩
  rw [(HeartbeatStream.next_frame _).1, (HeartbeatStream.next_frame _).2]
  exact ⟨hcreated, rfl⟩

lemma isSome_cancelReason_deliver (reason : Option ActivityCancelReason) :
    (x.deliver reason).cancelReason.isSome = true := by
  cases reason <;> rfl

/-- The first task that waits for an activity that runs is a cancel task, which the Activity is given. -/
lemma Running.deliver {group : TaskGroup} {task : ActivityTask} {tasks : List ActivityTask} {closed : Option ℕ}
    (h : Running x) (hgroup : x.groupAt closed = some group) (htasks : group.tasks = task :: tasks) :
    ∃ reason, task = .cancel reason ∧ group.activity = true ∧
      Running ((x.deliver reason).setGroupAt ⟨true, tasks⟩ closed) := by
  cases closed with
  | some i => simp [groupAt, h.draining] at hgroup
  | none =>
    obtain ⟨reasons, hopen, haddressed⟩ := h.group
    have hgroup : x.group = some group := hgroup
    rw [hopen] at hgroup
    cases hgroup
    obtain ⟨reason, rest, rfl, rfl, rfl⟩ := cancels_eq_cons htasks
    refine ⟨reason, rfl, rfl, h.started, h.completions, h.draining, h.created, h.completion, rest, rfl, ?_⟩
    exact (List.append_assoc _ _ _).trans haddressed

/-- What waits in the closed group of an activity that has ended is given to it as well, and what waits
in an open one is ignored. -/
lemma Ended.handle {group : TaskGroup} {task : ActivityTask} {tasks : List ActivityTask} {closed : Option ℕ}
    {result : ActivityResult} (h : Ended x result) (hgroup : x.groupAt closed = some group)
    (htasks : group.tasks = task :: tasks) : ∃ reason, task = .cancel reason ∧
      (group.activity = true ∧ Ended ((x.deliver reason).setGroupAt ⟨true, tasks⟩ closed) result ∨
        group.activity = false ∧ Ended (x.setGroupAt ⟨false, tasks⟩ closed) result) := by
  cases closed with
  | none =>
    obtain ⟨reasons, rfl⟩ := h.group group hgroup
    obtain ⟨reason, rest, rfl, rfl, rfl⟩ := cancels_eq_cons htasks
    refine ⟨reason, rfl, Or.inr ⟨rfl, h.started, ?_, h.explained.of_eq rfl rfl rfl id rfl, h.draining⟩⟩
    rintro group' hgroup'
    cases hgroup'
    exact ⟨rest, rfl⟩
  | some i =>
    rcases h.draining with ⟨hcreated, hcompletion, reasons, hdraining, haddressed⟩ | ⟨-, hdraining, -⟩
    · have hgroup : x.draining[i]? = some group := hgroup
      rw [hdraining] at hgroup
      unfold drainingOf at hgroup
      split at hgroup
      · cases hgroup
      · cases i with
        | succ i => cases hgroup
        | zero =>
          cases hgroup
          obtain ⟨reason, rest, rfl, rfl, rfl⟩ := cancels_eq_cons htasks
          refine ⟨reason, rfl, Or.inl ⟨rfl, h.started, h.group, ?_, Or.inl ⟨hcreated, hcompletion, rest, ?_, ?_⟩⟩⟩
          · exact h.explained.of_eq rfl rfl rfl (fun _ => isSome_cancelReason_deliver (x := x) reason) rfl
          · simp only [setGroupAt, ActivityToken.deliver, cancel, hdraining, drainingOf]
            cases rest with
            | nil => rfl
            | cons reason' rest => rfl
          · exact (List.append_assoc _ _ _).trans haddressed
    · simp [groupAt, hdraining] at hgroup

/-- A cancel task that comes before the start task is ignored; the start task creates the activity or
gives the result. -/
lemma Inv.handle_before {group : TaskGroup} {task : ActivityTask} {tasks : List ActivityTask}
    {closed : Option ℕ} (h : Inv x) (hbefore : Before x) (hexecution : x.execution = .notStarted)
    (hgroup : x.groupAt closed = some group) (htasks : group.tasks = task :: tasks)
    (activities : RegisteredActivities) (base64TaskToken : String) (argsError : Option ThrownValue) :
    ∃ t activity, x.handle activities base64TaskToken group.activity argsError task = .ok (t, activity) ∧
      Inv (t.setGroupAt ⟨activity, tasks⟩ closed) := by
  cases closed with
  | some i => simp [groupAt, hbefore.draining] at hgroup
  | none =>
    have hopen : x.group = some group := hgroup
    cases hstarted : x.started with
    | false =>
      obtain ⟨haddressed, hgroups⟩ := hbefore.unstarted hstarted
      obtain ⟨reasons, rfl⟩ := hgroups group hopen
      obtain ⟨reason, rest, rfl, rfl, rfl⟩ := cancels_eq_cons htasks
      refine ⟨x, false, rfl, h.heartbeats, h.uncancelled, .before hexecution ?_⟩
      refine ⟨hbefore.heartbeats, hbefore.completions, hbefore.delivered, hbefore.draining, hbefore.caught,
        fun _ => ⟨haddressed, ?_⟩, fun htrue => ?_⟩
      · rintro group' hgroup'
        cases hgroup'
        exact ⟨rest, rfl⟩
      · have htrue : x.started = true := htrue
        rw [hstarted] at htrue
        cases htrue
    | true =>
      obtain ⟨reasons, activityType, hgroup⟩ := hbefore.started hstarted
      rw [hopen] at hgroup
      cases hgroup
      cases reasons with
      | cons reason reasons =>
        cases htasks
        refine ⟨x, false, rfl, h.heartbeats, h.uncancelled, .before hexecution ?_⟩
        refine ⟨hbefore.heartbeats, hbefore.completions, hbefore.delivered, hbefore.draining,
          hbefore.caught, fun hfalse => ?_, fun _ => ⟨reasons, activityType, rfl⟩⟩
        have hfalse : x.started = false := hfalse
        rw [hstarted] at hfalse
        cases hfalse
      | nil =>
        cases htasks
        have hended {result : ActivityResult} (hfailed : ∃ failure, result = .failed failure)
            (hrefused : StartRefused result) :
            Inv ({ x with execution := .resolving result }.setGroupAt ⟨false, cancels x.addressed⟩ none) := by
          obtain ⟨failure, rfl⟩ := hfailed
          have hcreated : x.heartbeats.created = false := by
            rw [hbefore.heartbeats]
            rfl
          refine ⟨h.heartbeats, h.uncancelled, .ended (.failed failure) ⟨rfl, hbefore.completions⟩ ⟨hstarted, ?_,
            Or.inl ⟨hcreated, hrefused⟩, Or.inr ⟨hcreated, hbefore.draining, hbefore.delivered⟩⟩⟩
          rintro group' hgroup'
          cases hgroup'
          exact ⟨x.addressed, rfl⟩
        by_cases hfunction : activities.isFunction activityType = true
        · cases argsError with
          | some err =>
            refine ⟨{ x with execution := .resolving (.argsNotParsed activityType err) }, false, ?_,
              hended ⟨_, rfl⟩ ⟨activityType, Or.inr ⟨err, rfl⟩⟩⟩
            simp only [ActivityToken.handle, hfunction]
            rfl
          | none =>
            obtain ⟨heartbeats, hcreate, hcreated, hcompletion⟩ := heartbeats_create (D := D)
            refine ⟨{ x with execution := .executing, heartbeats }, true, ?_, ?_, h.uncancelled, ?_⟩
            · simp only [ActivityToken.handle, hfunction, hbefore.heartbeats, hcreate]
              rfl
            · exact HeartbeatStream.inv_initial.step hcreate
            · refine .running hbefore.caught ⟨hstarted, hbefore.completions, hbefore.draining, hcreated,
                hcompletion, x.addressed, rfl, ?_⟩
              change x.delivered ++ x.addressed = x.addressed
              rw [hbefore.delivered, List.nil_append]
        · refine ⟨{ x with execution := .resolving (.notRegistered activities activityType) }, false, ?_,
            hended ⟨_, rfl⟩ ⟨activityType, Or.inl ⟨activities, rfl⟩⟩⟩
          simp only [ActivityToken.handle, hfunction]
          rfl

lemma Stage.of_eq {y : ActivityToken D} (h : Stage x) (hexecution : y.execution = x.execution)
    (hcaught : y.caught = x.caught) (hsettled : y.functionSettled = x.functionSettled)
    (hreason : x.cancelReason.isSome = true → y.cancelReason.isSome = true) : Stage y := by
  unfold Stage at h ⊢
  rw [hexecution, hcaught, hsettled]
  split at h
  · exact h
  · exact h
  · obtain ⟨err, herr, hne, hcancelled⟩ := h
    exact ⟨err, herr, hne, fun htrue => ⟨hreason (hcancelled htrue).1, (hcancelled htrue).2⟩⟩
  · exact h.elim

lemma Outcome.of_eq {y : ActivityToken D} {result : ActivityResult} (h : Outcome x result)
    (hexecution : y.execution = x.execution) (hcompletions : y.completions = x.completions)
    (hcreated : y.heartbeats.created = x.heartbeats.created) : Outcome y result := by
  unfold Outcome at h ⊢
  rw [hexecution, hcompletions, hcreated]
  exact h

lemma setGroupAt_frame (group : TaskGroup) (closed : Option ℕ) :
    (x.setGroupAt group closed).execution = x.execution ∧
      (x.setGroupAt group closed).heartbeats = x.heartbeats ∧
      (x.setGroupAt group closed).completions = x.completions ∧
      (x.setGroupAt group closed).functionSettled = x.functionSettled ∧
      (x.setGroupAt group closed).caught = x.caught ∧
      (x.setGroupAt group closed).cancelReason = x.cancelReason ∧
      (x.setGroupAt group closed).delivered = x.delivered := by
  cases closed <;> exact ⟨rfl, rfl, rfl, rfl, rfl, rfl, rfl⟩

lemma Inv.handled {closed : Option ℕ} {argsError error : Option ThrownValue} (h : Inv x)
    (hstep : x.step activities base64TaskToken (.handled closed argsError) = some (t, error)) :
    error = none ∧ Inv t := by
  simp only [ActivityToken.step] at hstep
  split at hstep
  · cases hstep
  · rename_i group task tasks hnext
    obtain ⟨hgroup, htasks⟩ := nextTask_eq_some hnext
    cases h.phase with
    | before hexecution hbefore =>
      obtain ⟨u, activity, hhandle, hu⟩ :=
        h.handle_before hbefore hexecution hgroup htasks activities base64TaskToken argsError
      rw [hhandle] at hstep
      cases hstep
      exact ⟨rfl, hu⟩
    | running hstage hrunning =>
      obtain ⟨reason, rfl, hactivity, hrunning⟩ := hrunning.deliver hgroup htasks
      rw [hactivity] at hstep
      cases hstep
      obtain ⟨hexecution, hheartbeats, -, hsettled, hcaught, hreason, hdelivered⟩ :=
        setGroupAt_frame (x := x.deliver reason) ⟨true, tasks⟩ closed
      refine ⟨rfl, ?_, fun hnone => ?_, .running (hstage.of_eq hexecution hcaught hsettled fun _ => ?_) hrunning⟩
      · rw [hheartbeats]
        exact h.heartbeats
      · rw [hdelivered] at hnone
        simp [ActivityToken.deliver] at hnone
      · rw [hreason]
        exact isSome_cancelReason_deliver reason
    | ended result houtcome hended =>
      obtain ⟨reason, rfl, ⟨hactivity, hended⟩ | ⟨hactivity, hended⟩⟩ := hended.handle hgroup htasks
      · rw [hactivity] at hstep
        cases hstep
        obtain ⟨hexecution, hheartbeats, hcompletions, -, -, -, hdelivered⟩ :=
          setGroupAt_frame (x := x.deliver reason) ⟨true, tasks⟩ closed
        refine ⟨rfl, ?_, fun hnone => ?_, .ended result (houtcome.of_eq hexecution hcompletions ?_) hended⟩
        · rw [hheartbeats]
          exact h.heartbeats
        · rw [hdelivered] at hnone
          simp [ActivityToken.deliver] at hnone
        · rw [hheartbeats]
          rfl
      · rw [hactivity] at hstep
        cases hstep
        obtain ⟨hexecution, hheartbeats, hcompletions, -, -, hreason, hdelivered⟩ :=
          setGroupAt_frame (x := x) ⟨false, tasks⟩ closed
        refine ⟨rfl, ?_, ?_, .ended result (houtcome.of_eq hexecution hcompletions ?_) hended⟩
        · rw [hheartbeats]
          exact h.heartbeats
        · rw [Uncancelled, hdelivered, hreason]
          exact h.uncancelled
        · rw [hheartbeats]

/-! ### The activity runs -/

lemma Running.closeGroup {reasons : List (Option ActivityCancelReason)} (h : Running x)
    (hgroup : x.group = some ⟨true, cancels reasons⟩) :
    x.closeGroup = { x with group := none, draining := drainingOf reasons } := by
  unfold ActivityToken.closeGroup
  rw [hgroup]
  cases reasons with
  | nil => simp [cancels, drainingOf, h.draining]
  | cons reason reasons => simp [cancels, drainingOf, h.draining]

/-- The end of the activity closes its group. -/
lemma Running.finishRun {result : ActivityResult} (hrunning : Running x)
    (hheartbeats : HeartbeatStream.Inv x.heartbeats) (huncancelled : Uncancelled x)
    (hexplained : x.Explained result) : Inv (x.finishRun result) := by
  obtain ⟨reasons, hgroup, haddressed⟩ := hrunning.group
  obtain ⟨heartbeats, hstep, hcreated, hcompletion⟩ :=
    heartbeats_completion hrunning.created hrunning.completion result.isFailed
  have hclose := hrunning.closeGroup hgroup
  have hended {y : ActivityToken D} (hstarted : y.started = x.started) (hnone : y.group = none)
      (hdraining : y.draining = drainingOf reasons) (hheartbeats' : y.heartbeats = heartbeats)
      (hdelivered : y.delivered = x.delivered) (haddressed' : y.addressed = x.addressed)
      (hexplained : y.Explained result) : Ended y result := by
    refine ⟨hstarted.trans hrunning.started, fun group hsome => ?_, hexplained, Or.inl ⟨?_, ?_, reasons, hdraining, ?_⟩⟩
    · rw [hnone] at hsome
      cases hsome
    · rw [hheartbeats', hcreated]
    · rw [hheartbeats', hcompletion]
    · rw [hdelivered, haddressed', haddressed]
  have hinv : HeartbeatStream.Inv heartbeats := hheartbeats.step hstep
  unfold ActivityToken.finishRun
  simp only [hclose, hstep, Option.getD_some]
  cases hfailed : result.isFailed with
  | true =>
    rw [if_pos rfl]
    refine ⟨hinv, huncancelled, .ended result ⟨rfl, hrunning.completions, hcreated⟩
      (hended rfl rfl rfl rfl rfl rfl ?_)⟩
    cases result with
    | failed failure =>
      rcases hexplained with ⟨hfalse, -⟩ | hcaught
      · rw [hrunning.created] at hfalse
        cases hfalse
      · exact Or.inr hcaught
    | completed payload => cases hfailed
    | cancelled failure => cases hfailed
    | willCompleteAsync => cases hfailed
  | false =>
    rw [if_neg Bool.false_ne_true]
    refine ⟨hinv, huncancelled, .ended result ⟨rfl, hrunning.completions⟩
      (hended rfl rfl rfl rfl rfl rfl ?_)⟩
    cases result with
    | failed failure => cases hfailed
    | completed payload => exact hexplained
    | cancelled failure => exact hexplained
    | willCompleteAsync => exact hexplained

/-- What is thrown gives a result at once, or is converted first. -/
lemma Running.catchError {err : ThrownValue} (hrunning : Running x)
    (hheartbeats : HeartbeatStream.Inv x.heartbeats) (huncancelled : Uncancelled x) :
    Inv (x.catchError err) := by
  have hinv {execution : Execution} (hstage : Stage { x with caught := some err, execution }) :
      Inv { x with caught := some err, execution } :=
    ⟨hheartbeats, huncancelled, .running hstage (hrunning.proceed _ _ _ _)⟩
  have hfinish {result : ActivityResult} (hexplained : { x with caught := some err }.Explained result) :
      Inv ({ x with caught := some err }.finishRun result) :=
    (hrunning.proceed x.execution (some err) x.functionSettled x.encoded).finishRun hheartbeats huncancelled hexplained
  unfold ActivityToken.catchError
  dsimp only
  split
  · rename_i hasync
    exact hfinish (congrArg some hasync)
  · rename_i hasync
    split
    · exact hinv ⟨err, rfl, hasync, fun hfalse => absurd hfalse Bool.false_ne_true⟩
    · split
      · rename_i hcancelled
        rw [Bool.and_eq_true] at hcancelled
        exact hinv ⟨err, rfl, hasync, fun _ => hcancelled⟩
      · split
        · rename_i haborted
          rw [Bool.and_eq_true] at haborted
          exact hfinish ⟨haborted.1, err, rfl, Or.inr ⟨haborted.2, rfl⟩⟩
        · exact hinv ⟨err, rfl, hasync, fun hfalse => absurd hfalse Bool.false_ne_true⟩

lemma Inv.functionSettled {outcome : Except ThrownValue JsValue} {error : Option ThrownValue} (h : Inv x)
    (hstep : x.step activities base64TaskToken (.functionSettled outcome) = some (t, error)) :
    error = none ∧ Inv t := by
  simp only [ActivityToken.step] at hstep
  split at hstep
  · rename_i hexecution
    obtain ⟨hrunning, hstage⟩ := h.running_of (by rw [hexecution]; exact Execution.noConfusion)
      (by rw [hexecution]; rfl)
    rw [Stage, hexecution] at hstage
    cases outcome with
    | ok value =>
      cases hstep
      exact ⟨rfl, h.heartbeats, h.uncancelled, .running ⟨rfl, hstage⟩ (hrunning.proceed _ _ _ _)⟩
    | error err =>
      cases hstep
      have hsettled := hrunning.proceed x.execution x.caught (some (.error err)) x.encoded
      exact ⟨rfl, hsettled.catchError h.heartbeats h.uncancelled⟩
  · cases hstep

lemma Inv.resultEncoded {payload : Except ThrownValue Payload} {error : Option ThrownValue} (h : Inv x)
    (hstep : x.step activities base64TaskToken (.resultEncoded payload) = some (t, error)) :
    error = none ∧ Inv t := by
  simp only [ActivityToken.step] at hstep
  split at hstep
  · rename_i value hexecution
    obtain ⟨hrunning, hstage⟩ := h.running_of (by rw [hexecution]; exact Execution.noConfusion)
      (by rw [hexecution]; rfl)
    rw [Stage, hexecution] at hstage
    cases payload with
    | ok payload =>
      cases hstep
      have hencoded := hrunning.proceed x.execution x.caught x.functionSettled (some (.payload payload))
      exact ⟨rfl, hencoded.finishRun h.heartbeats h.uncancelled ⟨rfl, value, hstage⟩⟩
    | error err =>
      cases hstep
      exact ⟨rfl, hrunning.catchError h.heartbeats h.uncancelled⟩
  · cases hstep

/-- The activity is in the state of an error that is converted. -/
lemma Inv.running_of_encodingFailure {cancelled : Bool} {err : ErrorToEncode} (h : Inv x)
    (hexecution : x.execution = .encodingFailure cancelled err) : Running x ∧ Stage x := by
  apply h.running_of
  · rw [hexecution]
    exact Execution.noConfusion
  · rw [hexecution]
    rfl

lemma Inv.failureEncoded {failure : Failure} {error : Option ThrownValue} (h : Inv x)
    (hstep : x.step activities base64TaskToken (.failureEncoded (.ok failure)) = some (t, error)) :
    error = none ∧ Inv t := by
  simp only [ActivityToken.step] at hstep
  split at hstep
  · rename_i cancelled err hexecution
    obtain ⟨hrunning, hstage⟩ := h.running_of_encodingFailure hexecution
    rw [Stage, hexecution] at hstage
    obtain ⟨err, hcaught, hne, hcancelled⟩ := hstage
    cases hstep
    have hencoded := hrunning.proceed x.execution x.caught x.functionSettled (some (.failure failure))
    refine ⟨rfl, hencoded.finishRun h.heartbeats h.uncancelled ?_⟩
    cases cancelled with
    | true =>
      rw [if_pos rfl]
      exact ⟨(hcancelled rfl).1, err, hcaught, Or.inl ⟨(hcancelled rfl).2, failure, rfl, rfl⟩⟩
    | false =>
      rw [if_neg Bool.false_ne_true]
      exact Or.inr ⟨rfl, err, hcaught, hne⟩
  · cases hstep

/-! ### Heartbeats and the completion -/

/-- A step of the heartbeats, after which the activity may have been cancelled -/
lemma Inv.heartbeats_step {input : ActivityInput D Unit} {heartbeats : HeartbeatStream D Unit} (h : Inv x)
    (hcreate : input ≠ .create) (hcompletion : ∀ flushRequired, input ≠ .completion flushRequired ())
    (hstep : x.heartbeats.step input = some heartbeats) {cancelReason : Option CancelReason}
    (hreason : cancelReason = x.cancelReason ∨ cancelReason = some .heartbeatDetailsConversionFailed) :
    Inv { x with heartbeats, cancelReason } := by
  obtain ⟨hcreated, hcompletion⟩ := heartbeats_frame hcreate hcompletion hstep
  have hsome : x.cancelReason.isSome = true → cancelReason.isSome = true := by
    rcases hreason with rfl | rfl
    · exact id
    · exact fun _ => rfl
  refine ⟨h.heartbeats.step hstep, fun hnone => ?_, ?_⟩
  · rcases hreason with rfl | rfl
    · exact h.uncancelled hnone
    · exact Or.inr rfl
  · cases h.phase with
    | before hexecution hbefore =>
      rw [hbefore.heartbeats] at hstep
      exact absurd hstep (heartbeats_initial hcreate)
    | running hstage hrunning =>
      refine .running (hstage.of_eq rfl rfl rfl hsome) ?_
      exact ⟨hrunning.started, hrunning.completions, hrunning.draining, hcreated.trans hrunning.created,
        hcompletion.trans hrunning.completion, hrunning.group⟩
    | ended result houtcome hended =>
      refine .ended result (houtcome.of_eq rfl rfl hcreated) ⟨hended.started, hended.group, ?_, ?_⟩
      · exact hended.explained.of_eq rfl rfl rfl hsome hcreated
      · rw [hcreated, hcompletion]
        exact hended.draining

lemma Inv.flushed {error : Option ThrownValue} (h : Inv x)
    (hstep : x.step activities base64TaskToken .flushed = some (t, error)) : error = none ∧ Inv t := by
  simp only [ActivityToken.step] at hstep
  split at hstep
  · rename_i result hexecution
    obtain ⟨-, heq⟩ := Option.ite_none_left_eq_some.mp hstep
    cases heq
    obtain ⟨result', houtcome, hended⟩ := h.ended_of (by rw [hexecution]; rfl)
    rw [Outcome, hexecution] at houtcome
    obtain ⟨rfl, hcompletions, -⟩ := houtcome
    exact ⟨rfl, h.heartbeats, h.uncancelled, .ended result ⟨rfl, hcompletions⟩
      ⟨hended.started, hended.group, hended.explained.of_eq rfl rfl rfl id rfl, hended.draining⟩⟩
  · cases hstep

lemma Inv.emitted {error : Option ThrownValue} (h : Inv x)
    (hstep : x.step activities base64TaskToken .emitted = some (t, error)) : error = none ∧ Inv t := by
  simp only [ActivityToken.step] at hstep
  split at hstep
  · rename_i result hexecution
    cases hstep
    obtain ⟨result', houtcome, hended⟩ := h.ended_of (by rw [hexecution]; rfl)
    rw [Outcome, hexecution] at houtcome
    obtain ⟨rfl, hcompletions⟩ := houtcome
    exact ⟨rfl, h.heartbeats, h.uncancelled, .ended result ⟨rfl, by rw [hcompletions, List.nil_append]⟩
      ⟨hended.started, hended.group, hended.explained.of_eq rfl rfl rfl id rfl, hended.draining⟩⟩
  · cases hstep

lemma arrive_frame (task : ActivityTask) :
    (x.arrive task).execution = x.execution ∧ (x.arrive task).heartbeats = x.heartbeats ∧
      (x.arrive task).completions = x.completions ∧ (x.arrive task).functionSettled = x.functionSettled ∧
      (x.arrive task).caught = x.caught ∧ (x.arrive task).cancelReason = x.cancelReason ∧
      (x.arrive task).delivered = x.delivered := by
  cases task with
  | start activityType => exact ⟨rfl, rfl, rfl, rfl, rfl, rfl, rfl⟩
  | cancel reason =>
    unfold arrive
    dsimp only
    split <;> exact ⟨rfl, rfl, rfl, rfl, rfl, rfl, rfl⟩

lemma Inv.arrive {task : ActivityTask} (h : Inv x)
    (htask : ∀ activityType, task = .start activityType → x.started = false) : Inv (x.arrive task) := by
  obtain ⟨hexecution, hheartbeats, hcompletions, hsettled, hcaught, hreason, hdelivered⟩ :=
    arrive_frame (x := x) task
  refine ⟨by rw [hheartbeats]; exact h.heartbeats, by rw [Uncancelled, hdelivered, hreason]; exact h.uncancelled, ?_⟩
  have hcancel (hstarted : x.started = true) : ∃ reason, task = .cancel reason := by
    cases task with
    | start activityType =>
      rw [htask activityType rfl] at hstarted
      cases hstarted
    | cancel reason => exact ⟨reason, rfl⟩
  cases h.phase with
  | before hnone hbefore => exact .before (hexecution.trans hnone) (hbefore.arrive hnone htask)
  | running hstage hrunning =>
    obtain ⟨reason, rfl⟩ := hcancel hrunning.started
    exact .running (hstage.of_eq hexecution hcaught hsettled (by rw [hreason]; exact id))
      (hrunning.arrive hstage.ended_eq_false)
  | ended result houtcome hended =>
    obtain ⟨reason, rfl⟩ := hcancel hended.started
    exact .ended result (houtcome.of_eq hexecution hcompletions (by rw [hheartbeats]))
      (hended.arrive houtcome.ended_eq_true)

/-- A step keeps the invariant, unless the error of the activity cannot be converted. -/
lemma Inv.step {input : TokenInput D} {error : Option ThrownValue} (h : Inv x)
    (hencoded : ∀ err, input ≠ .failureEncoded (.error err))
    (hstep : x.step activities base64TaskToken input = some (t, error)) : error = none ∧ Inv t := by
  cases input with
  | task task =>
    simp only [ActivityToken.step] at hstep
    split at hstep
    · cases hstep
    · rename_i hne
      cases hstep
      refine ⟨rfl, h.arrive fun activityType htask => ?_⟩
      rw [← Bool.not_eq_true]
      exact fun hstarted => hne activityType htask hstarted
  | handled closed argsError => exact h.handled hstep
  | functionSettled outcome => exact h.functionSettled hstep
  | resultEncoded payload => exact h.resultEncoded hstep
  | failureEncoded failure =>
    cases failure with
    | ok failure => exact h.failureEncoded hstep
    | error err => exact absurd rfl (hencoded err)
  | heartbeat details =>
    simp only [ActivityToken.step, Option.map_eq_some_iff] at hstep
    obtain ⟨heartbeats, hheartbeats, heq⟩ := hstep
    cases heq
    exact ⟨rfl, h.heartbeats_step (by simp) (by simp) hheartbeats (Or.inl rfl)⟩
  | heartbeatEncoded encoder payload =>
    simp only [ActivityToken.step] at hstep
    split at hstep
    · cases hstep
    · rename_i heartbeats payload hheartbeats
      cases hstep
      exact ⟨rfl, h.heartbeats_step (by simp) (by simp) hheartbeats (Or.inl rfl)⟩
    · rename_i heartbeats err hheartbeats
      cases hstep
      exact ⟨rfl, h.heartbeats_step (by simp) (by simp) hheartbeats (Or.inr rfl)⟩
  | heartbeatReturned =>
    simp only [ActivityToken.step, Option.map_eq_some_iff] at hstep
    obtain ⟨heartbeats, hheartbeats, heq⟩ := hstep
    cases heq
    exact ⟨rfl, h.heartbeats_step (by simp) (by simp) hheartbeats (Or.inl rfl)⟩
  | flushed => exact h.flushed hstep
  | emitted => exact h.emitted hstep

/-! ### Completions -/

lemma waiting_drainingOf {reasons : List (Option ActivityCancelReason)}
    (hgroup : ∀ group, x.group = some group → ∃ reasons, group = ⟨false, cancels reasons⟩)
    (hdraining : x.draining = drainingOf reasons) : x.waiting = cancels reasons := by
  have hopen : x.group.toList.filter TaskGroup.activity = [] := by
    cases hsome : x.group with
    | none => rfl
    | some group =>
      obtain ⟨reasons', rfl⟩ := hgroup group hsome
      rfl
  unfold waiting
  rw [List.filter_append, hopen, List.nil_append, hdraining]
  cases reasons with
  | nil => rfl
  | cons reason reasons => simp [drainingOf]

lemma Inv.completedOnce (h : Inv x) : CompletedOnce x := by
  have hneCreated (htrue : x.heartbeats.created = true) (hfalse : x.heartbeats.created = false) : False := by
    rw [hfalse] at htrue
    cases htrue
  cases h.phase with
  | before hexecution hbefore =>
    have hcreated : x.heartbeats.created = false := by
      rw [hbefore.heartbeats]
      rfl
    refine ⟨fun _ => hbefore.completions, fun hstarted => Or.inl ⟨hbefore.completions, Or.inl ?_⟩,
      fun htrue => (hneCreated htrue hcreated).elim, fun _ => hbefore.delivered, h.uncancelled⟩
    obtain ⟨reasons, activityType, hgroup⟩ := hbefore.started hstarted
    exact ⟨none, _, activityType, hgroup, List.mem_append_right _ List.mem_cons_self⟩
  | running hstage hrunning =>
    refine ⟨fun _ => hrunning.completions, fun _ => Or.inl ⟨hrunning.completions, Or.inr (Or.inl ?_)⟩, fun _ => ?_,
      fun hfalse => (hneCreated hrunning.created hfalse).elim, h.uncancelled⟩
    · exact hstage.running
    · obtain ⟨reasons, hgroup, haddressed⟩ := hrunning.group
      have hwaiting : x.waiting = cancels reasons := by
        simp [waiting, hgroup, hrunning.draining]
      rw [hwaiting, ← haddressed]
      exact List.map_append.symm
  | ended result houtcome hended =>
    refine ⟨fun hfalse => ?_, fun _ => ?_, fun hcreated => ?_, fun hfalse => ?_, h.uncancelled⟩
    · rw [hended.started] at hfalse
      cases hfalse
    · unfold Outcome at houtcome
      split at houtcome
      · rename_i result' hexecution
        obtain ⟨rfl, hcompletions, hcreated⟩ := houtcome
        refine Or.inl ⟨hcompletions, Or.inr (Or.inr (Or.inl ⟨result', hexecution, ?_⟩))⟩
        rcases hended.draining with ⟨-, hcompletion, -⟩ | ⟨hfalse, -⟩
        · obtain ⟨completion, hsome⟩ := Option.isSome_iff_exists.mp hcompletion
          by_cases hsending : x.heartbeats.sending = []
          · refine Or.inr ?_
            rw [h.heartbeats.ok.answered completion hsome hsending]
            exact List.cons_ne_nil _ _
          · exact Or.inl hsending
        · exact (hneCreated hcreated hfalse).elim
      · rename_i result' hexecution
        exact Or.inl ⟨houtcome.2, Or.inr (Or.inr (Or.inr ⟨result', hexecution⟩))⟩
      · rename_i result' hexecution
        obtain ⟨rfl, hcompletions⟩ := houtcome
        exact Or.inr ⟨result', hexecution, hended.explained, hcompletions⟩
      · exact houtcome.elim
    · rcases hended.draining with ⟨-, -, reasons, hdraining, haddressed⟩ | ⟨hfalse, -⟩
      · rw [waiting_drainingOf hended.group hdraining, ← haddressed]
        exact List.map_append.symm
      · exact (hneCreated hcreated hfalse).elim
    · rcases hended.draining with ⟨htrue, -⟩ | ⟨-, -, hdelivered⟩
      · exact (hneCreated htrue hfalse).elim
      · exact hdelivered

/-- The activity is gone without a completion. -/
lemma Inv.not_completedOnce {err : ThrownValue} {error : Option ThrownValue} (h : Inv x)
    (hstep : x.step activities base64TaskToken (.failureEncoded (.error err)) = some (t, error)) :
    ¬CompletedOnce t := by
  simp only [ActivityToken.step] at hstep
  split at hstep
  · rename_i cancelled err' hexecution
    obtain ⟨hrunning, -⟩ := h.running_of_encodingFailure hexecution
    obtain ⟨reasons, hgroup, -⟩ := hrunning.group
    have hclose := hrunning.closeGroup hgroup
    cases hstep
    intro hcompleted
    rw [hclose] at hcompleted
    rcases hcompleted.started hrunning.started with ⟨-, hprogress⟩ | ⟨result, hresult, -⟩
    · rcases hprogress with ⟨closed, group, activityType, hat, hmem⟩ | hfalse | ⟨result, hresult, -⟩ | ⟨result, hresult⟩
      · cases closed with
        | none => cases hat
        | some i =>
          obtain ⟨hi, heq⟩ := List.getElem?_eq_some_iff.mp hat
          have hdraining : group ∈ drainingOf reasons := heq ▸ List.getElem_mem hi
          unfold drainingOf at hdraining
          split at hdraining
          · cases hdraining
          · rw [List.mem_singleton] at hdraining
            subst hdraining
            simp [cancels] at hmem
      · cases hfalse
      · cases hresult
      · cases hresult
    · cases hresult
  · cases hstep

end ActivityToken

namespace ActivityOperator

variable {activities : RegisteredActivities} {s t : ActivityOperator D}

structure Inv (s : ActivityOperator D) : Prop where
  error : s.error = none
  tokens : ∀ base64TaskToken, (s.tokens base64TaskToken).Inv

lemma inv_initial : Inv (initial : ActivityOperator D) := ⟨rfl, fun _ => ActivityToken.inv_initial⟩

lemma step_eq_some {base64TaskToken : String} {input : TokenInput D}
    (h : s.step activities (base64TaskToken, input) = some t) : ∃ token error,
      (s.tokens base64TaskToken).step activities base64TaskToken input = some (token, error) ∧
        t = ⟨Function.update s.tokens base64TaskToken token, error⟩ := by
  simp only [step] at h
  split at h
  · cases h
  · split at h
    · cases h
    · rename_i token error hstep
      cases h
      exact ⟨token, error, hstep, rfl⟩

lemma Inv.step {input : String × TokenInput D} (h : Inv s) (hencoded : s.FailureEncoded input)
    (hstep : s.step activities input = some t) : Inv t := by
  obtain ⟨base64TaskToken, input⟩ := input
  obtain ⟨token, error, htoken, rfl⟩ := step_eq_some hstep
  have hinput : ∀ err, input ≠ .failureEncoded (.error err) := by
    rintro err rfl
    exact hencoded
  obtain ⟨rfl, hinv⟩ := (h.tokens base64TaskToken).step hinput htoken
  refine ⟨rfl, fun key => ?_⟩
  by_cases hkey : key = base64TaskToken
  · subst hkey
    simpa only [Function.update_self] using hinv
  · simpa only [Function.update_of_ne hkey] using h.tokens key

lemma Inv.not_completedOnce {input : String × TokenInput D} (h : Inv s) (hencoded : ¬s.FailureEncoded input)
    (hstep : s.step activities input = some t) : ¬t.CompletedOnce := by
  obtain ⟨base64TaskToken, input⟩ := input
  obtain ⟨token, error, htoken, rfl⟩ := step_eq_some hstep
  intro hcompleted
  cases input with
  | failureEncoded failure =>
    cases failure with
    | ok failure => exact hencoded trivial
    | error err =>
      have htoken' := hcompleted base64TaskToken
      simp only [Function.update_self] at htoken'
      exact (h.tokens base64TaskToken).not_completedOnce htoken htoken'
  | task task => exact hencoded trivial
  | handled closed argsError => exact hencoded trivial
  | functionSettled outcome => exact hencoded trivial
  | resultEncoded payload => exact hencoded trivial
  | heartbeat details => exact hencoded trivial
  | heartbeatEncoded encoder payload => exact hencoded trivial
  | heartbeatReturned => exact hencoded trivial
  | flushed => exact hencoded trivial
  | emitted => exact hencoded trivial

/-- Whatever tasks arrive, and whatever the activities do, each start has its one completion, and each
activity the cancel tasks that are for it, if and only if the errors of the activities can be converted. -/
theorem completedOnce_iff_encoded (activities : RegisteredActivities) {inputs : List (String × TokenInput D)}
    {s : ActivityOperator D} (h : Transition.run (step activities) initial inputs = some s) :
    Transition.Throughout (step activities) CompletedOnce initial inputs ↔
      Transition.Meets (step activities) FailureEncoded initial inputs :=
  Transition.throughout_iff_meets (I := Inv) (fun _ hs base64TaskToken => (hs.tokens base64TaskToken).completedOnce)
    (fun _ _ _ hs hencoded hstep => hs.step hencoded hstep)
    (fun _ _ _ hs hencoded hstep => hs.not_completedOnce hencoded hstep) inv_initial h

def greetActivities : RegisteredActivities := ⟨["greet"], (· = "greet")⟩

/-- An activity is cancelled before its start, while it runs and when it has ended with a failure, whose
last heartbeat is flushed; the other activity is not registered. -/
theorem completedOnce_iff_encoded_cancelled :
    Transition.Throughout (step greetActivities) CompletedOnce (initial : ActivityOperator ℕ)
      [("a", .task (.cancel none)), ("a", .handled none none), ("a", .task (.start "greet")),
        ("b", .task (.start "leave")), ("a", .handled none none), ("a", .heartbeat 1),
        ("a", .task (.cancel (some .cancelled))), ("b", .handled none none), ("a", .handled none none),
        ("a", .functionSettled (.error (.error "TypeError" "boom"))),
        ("a", .failureEncoded (.ok (.leaf .empty))), ("b", .emitted), ("a", .task (.cancel none)),
        ("a", .heartbeatEncoded 0 (.ok ⟨[], []⟩)), ("a", .handled none none), ("a", .flushed), ("a", .emitted)] :=
  (completedOnce_iff_encoded greetActivities rfl).mpr (by decide)

/-- An activity throws an error that the converter cannot convert: there is no completion, and the
operator has failed. -/
theorem completedOnce_counterexample :
    ∃ s, Transition.run (step greetActivities) (initial : ActivityOperator ℕ)
        [("a", .task (.start "greet")), ("a", .handled none none),
          ("a", .functionSettled (.error (.error "ApplicationFailure" "boom"))),
          ("a", .failureEncoded (.error (.error "ValueError" "Unable to convert to payload")))] = some s ∧
      s.error = some (.error "ValueError" "Unable to convert to payload") ∧
      (s.tokens "a").completions = [] ∧ ¬s.CompletedOnce := by
  refine ⟨_, rfl, rfl, rfl, fun h => ?_⟩
  rcases (h "a").started rfl with ⟨-, hprogress⟩ | ⟨result, hresult, -⟩
  · rcases hprogress with ⟨closed, group, activityType, hat, -⟩ | hfalse | ⟨result, hresult, -⟩ | ⟨result, hresult⟩
    · cases closed <;> cases hat
    · cases hfalse
    · cases hresult
    · cases hresult
  · cases hresult

end ActivityOperator

end TemporalSdk
