import TemporalSdk.Worker.ActivityCompletions

/-!
# Groups that stay open

The group of a token is closed when its activity ends, and only then: one whose last task gives no
activity stays open.
-/

namespace TemporalSdk

variable {D : Type}

/-- The `type` of the output of a task: only what is to be run closes its group, when it ends. -/
inductive TaskOutputType
  | ignore
  | result
  | run
deriving DecidableEq

namespace ActivityToken

/-- The tasks that are handled or wait -/
def taskCount (x : ActivityToken D) : ℕ :=
  ((x.group.toList ++ x.draining).map fun group => group.tasks.length).sum

/-- A task of the token is handled, or its activity runs. -/
def busy (x : ActivityToken D) : Bool := x.execution.running || x.taskCount ≠ 0

/-- What the first task of the group puts out: a cancel task is ignored, and a start has a result at once unless
there is an activity to be run. -/
def outputType (x : ActivityToken D) (activities : RegisteredActivities) (closed : Option ℕ)
    (argsError : Option ThrownValue) : Option TaskOutputType :=
  match x.nextTask closed with
  | none => none
  | some (_, .cancel _, _) => some .ignore
  | some (_, .start activityType, _) =>
    some (if activities.isFunction activityType && argsError.isNone then .run else .result)

/-- What is put out for a task is to be run. For another output, the activity of the token runs, there is another
task, or an activity has closed the group. -/
def KeepsGroup (x : ActivityToken D) (activities : RegisteredActivities) : TokenInput D → Prop
  | .handled closed argsError => x.outputType activities closed argsError = some .run ∨
      x.execution.running = true ∨ 2 ≤ x.taskCount ∨ x.group = none
  | _ => True

instance (x : ActivityToken D) (activities : RegisteredActivities) :
    DecidablePred (x.KeepsGroup activities) := fun input => by
  cases input <;> unfold KeepsGroup <;> infer_instance

end ActivityToken

namespace ActivityOperator

/-- An open group has a task that is handled, or an activity that runs; so there are at most as many open
groups as tokens with one of these. -/
def NoIdleGroups (s : ActivityOperator D) : Prop :=
  (∀ base64TaskToken, (s.tokens base64TaskToken).group.isSome = true →
    (s.tokens base64TaskToken).busy = true) ∧
  Set.ncard {base64TaskToken | (s.tokens base64TaskToken).group.isSome = true} ≤
    Set.ncard {base64TaskToken | (s.tokens base64TaskToken).busy = true}

def KeepsGroup (activities : RegisteredActivities) (s : ActivityOperator D) (input : String × TokenInput D) :
    Prop := (s.tokens input.1).KeepsGroup activities input.2

instance (activities : RegisteredActivities) (s : ActivityOperator D) : DecidablePred (s.KeepsGroup activities) :=
  fun _ => inferInstanceAs (Decidable (ActivityToken.KeepsGroup _ _ _))

end ActivityOperator

/-! ### One token -/

namespace ActivityToken

variable {x t : ActivityToken D} {activities : RegisteredActivities} {base64TaskToken : String}

lemma busy_iff : x.busy = true ↔ x.execution.running = true ∨ x.taskCount ≠ 0 := by
  simp [busy]

lemma sum_eraseIdx_set {groups : List TaskGroup} {i : ℕ} {group : TaskGroup} {task : ActivityTask}
    {tasks : List ActivityTask} (hgroup : groups[i]? = some group) (htasks : group.tasks = task :: tasks)
    (activity : Bool) :
    ((if tasks = [] then groups.eraseIdx i else groups.set i ⟨activity, tasks⟩).map
      fun group => group.tasks.length).sum + 1 = (groups.map fun group => group.tasks.length).sum := by
  induction groups generalizing i with
  | nil => cases hgroup
  | cons head groups ih =>
    cases i with
    | zero =>
      cases hgroup
      split
      · rename_i hnil
        simp [htasks, hnil, Nat.add_comm]
      · simp only [List.set_cons_zero, List.map_cons, List.sum_cons, htasks, List.length_cons]
        omega
    | succ i =>
      have hrest := ih hgroup
      split
      · rename_i hnil
        rw [if_pos hnil] at hrest
        simp only [List.eraseIdx_cons_succ, List.map_cons, List.sum_cons, ← hrest]
        omega
      · rename_i hne
        rw [if_neg hne] at hrest
        simp only [List.set_cons_succ, List.map_cons, List.sum_cons, ← hrest]
        omega

/-- A task that has been handled is gone. -/
lemma taskCount_setGroupAt {closed : Option ℕ} {group : TaskGroup} {task : ActivityTask}
    {tasks : List ActivityTask} (hgroup : x.groupAt closed = some group) (htasks : group.tasks = task :: tasks)
    (activity : Bool) : (x.setGroupAt ⟨activity, tasks⟩ closed).taskCount + 1 = x.taskCount := by
  cases closed with
  | none =>
    have hopen : x.group = some group := hgroup
    simp only [taskCount, setGroupAt, hopen, Option.toList_some, List.singleton_append, List.map_cons,
      List.sum_cons, htasks, List.length_cons]
    omega
  | some i =>
    have hsum := sum_eraseIdx_set hgroup htasks activity
    simp only [taskCount, setGroupAt, List.map_append, List.sum_append]
    omega

lemma isSome_setGroupAt {closed : Option ℕ} {group group' : TaskGroup} (hgroup : x.groupAt closed = some group) :
    (x.setGroupAt group' closed).group.isSome = x.group.isSome := by
  cases closed with
  | none =>
    have hopen : x.group = some group := hgroup
    rw [hopen]
    rfl
  | some i => rfl

lemma closeGroup_group : x.closeGroup.group = none := by
  unfold closeGroup
  split
  · assumption
  · rfl

lemma finishRun_group (result : ActivityResult) : (x.finishRun result).group = none := by
  unfold finishRun
  dsimp only
  split <;> exact closeGroup_group

/-- What is thrown closes the group, or the activity still runs. -/
lemma catchError_group (err : ThrownValue) :
    (x.catchError err).group = none ∨ (x.catchError err).execution.running = true := by
  unfold catchError
  dsimp only
  split
  · exact Or.inl (finishRun_group _)
  · split
    · exact Or.inr rfl
    · split
      · exact Or.inr rfl
      · split
        · exact Or.inl (finishRun_group _)
        · exact Or.inr rfl

/-- The open group of the token is in use. -/
def Used (x : ActivityToken D) : Prop := x.group.isSome = true → x.busy = true

lemma Used.of_running (h : x.execution.running = true) : Used x := fun _ => busy_iff.mpr (Or.inl h)

lemma Used.of_closed (h : x.group = none) : Used x := fun hsome => by
  rw [h] at hsome
  cases hsome

lemma Used.catchError (err : ThrownValue) : Used (x.catchError err) := by
  rcases catchError_group (x := x) err with hclosed | hrunning
  · exact .of_closed hclosed
  · exact .of_running hrunning

lemma Used.arrive (task : ActivityTask) : Used (x.arrive task) := by
  intro _
  refine busy_iff.mpr (Or.inr ?_)
  have hgroup : ∃ group, (x.arrive task).group = some group ∧ group.tasks ≠ [] := by
    cases task with
    | start activityType => exact ⟨_, rfl, by simp⟩
    | cancel reason =>
      unfold ActivityToken.arrive
      dsimp only
      split <;> exact ⟨_, rfl, by simp⟩
  obtain ⟨group, hgroup, htasks⟩ := hgroup
  have hpos := List.length_pos_iff.mpr htasks
  simp only [taskCount, hgroup, Option.toList_some, List.singleton_append, List.map_cons, List.sum_cons]
  omega

/-- A step that leaves the groups alone -/
lemma Used.of_eq (h : Used x) (hgroup : t.group = x.group) (hdraining : t.draining = x.draining)
    (hrunning : t.execution.running = x.execution.running) : Used t := by
  unfold Used busy taskCount at h ⊢
  rw [hgroup, hdraining, hrunning]
  exact h

/-- Whether the activity runs after a task has been handled -/
lemma Inv.running_handle {closed : Option ℕ} {argsError : Option ThrownValue} {group : TaskGroup}
    {task : ActivityTask} {tasks : List ActivityTask} {activity : Bool} (h : Inv x)
    (hnext : x.nextTask closed = some (group, task, tasks))
    (hhandle : x.handle activities base64TaskToken group.activity argsError task = .ok (t, activity)) :
    t.group = x.group ∧ t.draining = x.draining ∧
      (t.execution.running = true ↔
        x.outputType activities closed argsError = some .run ∨ x.execution.running = true) := by
  obtain ⟨hgroup, htasks⟩ := nextTask_eq_some hnext
  cases task with
  | cancel reason =>
    have houtput : x.outputType activities closed argsError = some .ignore := by
      simp [outputType, hnext]
    rw [houtput]
    simp only [ActivityToken.handle] at hhandle
    split at hhandle
    · cases hhandle
      exact ⟨rfl, rfl, by simp [deliver, cancel]⟩
    · cases hhandle
      exact ⟨rfl, rfl, by simp⟩
  | start activityType =>
    have houtput : x.outputType activities closed argsError =
        some (if activities.isFunction activityType && argsError.isNone then .run else .result) := by
      simp [outputType, hnext]
    have hrunning : x.execution.running = false := by
      cases h.phase with
      | before hexecution _ =>
        rw [hexecution]
        rfl
      | running _ hrunning =>
        obtain ⟨reason, hcancel, -⟩ := hrunning.deliver hgroup htasks
        cases hcancel
      | ended _ _ hended =>
        obtain ⟨reason, hcancel, -⟩ := hended.handle hgroup htasks
        cases hcancel
    rw [houtput, hrunning]
    simp only [ActivityToken.handle] at hhandle
    split at hhandle
    · cases hhandle
    · split at hhandle
      · rename_i hfunction
        rw [Bool.not_eq_true'] at hfunction
        cases hhandle
        exact ⟨rfl, rfl, by simp [Execution.running, hfunction]⟩
      · rename_i hfunction
        cases argsError with
        | some err =>
          cases hhandle
          exact ⟨rfl, rfl, by simp [Execution.running]⟩
        | none =>
          cases hhandle
          exact ⟨rfl, rfl, by simpa [Execution.running] using hfunction⟩

/-- The group of a token is in use after a task has been handled if it is kept, and only then. -/
lemma Inv.used_handled {closed : Option ℕ} {argsError error : Option ThrownValue} (h : Inv x)
    (hstep : x.step activities base64TaskToken (.handled closed argsError) = some (t, error)) :
    Used t ↔ x.KeepsGroup activities (.handled closed argsError) := by
  obtain ⟨rfl, -⟩ := h.handled hstep
  simp only [ActivityToken.step] at hstep
  split at hstep
  · cases hstep
  · rename_i group task tasks hnext
    obtain ⟨hgroup, htasks⟩ := nextTask_eq_some hnext
    split at hstep
    · cases hstep
    · rename_i u activity hhandle
      cases hstep
      obtain ⟨hopen, hdraining, hrunning⟩ := h.running_handle hnext hhandle
      have hgroup' : u.groupAt closed = some group := by
        cases closed with
        | none => exact hopen.trans hgroup
        | some i => exact (congrArg (·[i]?) hdraining).trans hgroup
      have hsome : (u.setGroupAt ⟨activity, tasks⟩ closed).group.isSome = x.group.isSome := by
        rw [isSome_setGroupAt hgroup', hopen]
      have hcount : (u.setGroupAt ⟨activity, tasks⟩ closed).taskCount + 1 = x.taskCount := by
        rw [taskCount_setGroupAt hgroup' htasks activity, taskCount, hopen, hdraining]
        rfl
      have hpositive : (u.setGroupAt ⟨activity, tasks⟩ closed).taskCount ≠ 0 ↔ 2 ≤ x.taskCount := by
        omega
      unfold Used
      rw [busy_iff, (setGroupAt_frame _ _).1, hrunning, hpositive, hsome, or_assoc]
      unfold KeepsGroup
      cases x.group with
      | none => simp
      | some group => simp

/-- Every other step leaves the group in use, or closed. -/
lemma Used.step {input : TokenInput D} {error : Option ThrownValue} (h : Used x)
    (hinput : ∀ closed argsError, input ≠ .handled closed argsError)
    (hstep : x.step activities base64TaskToken input = some (t, error)) : Used t := by
  cases input with
  | handled closed argsError => exact absurd rfl (hinput closed argsError)
  | task task =>
    simp only [ActivityToken.step] at hstep
    split at hstep
    · cases hstep
    · cases hstep
      exact Used.arrive _
  | functionSettled outcome =>
    simp only [ActivityToken.step] at hstep
    split at hstep
    · cases outcome with
      | ok value =>
        cases hstep
        exact .of_running rfl
      | error err =>
        cases hstep
        exact .catchError err
    · cases hstep
  | resultEncoded payload =>
    simp only [ActivityToken.step] at hstep
    split at hstep
    · cases payload with
      | ok payload =>
        cases hstep
        exact .of_closed (finishRun_group _)
      | error err =>
        cases hstep
        exact .catchError err
    · cases hstep
  | failureEncoded failure =>
    simp only [ActivityToken.step] at hstep
    split at hstep
    · cases failure with
      | ok failure =>
        cases hstep
        exact .of_closed (finishRun_group _)
      | error err =>
        cases hstep
        exact .of_closed closeGroup_group
    · cases hstep
  | heartbeat details =>
    simp only [ActivityToken.step, Option.map_eq_some_iff] at hstep
    obtain ⟨heartbeats, -, heq⟩ := hstep
    cases heq
    exact h.of_eq rfl rfl rfl
  | heartbeatEncoded encoder payload =>
    simp only [ActivityToken.step] at hstep
    split at hstep
    · cases hstep
    · cases hstep
      exact h.of_eq rfl rfl rfl
    · cases hstep
      exact h.of_eq rfl rfl rfl
  | heartbeatReturned =>
    simp only [ActivityToken.step, Option.map_eq_some_iff] at hstep
    obtain ⟨heartbeats, -, heq⟩ := hstep
    cases heq
    exact h.of_eq rfl rfl rfl
  | flushed =>
    simp only [ActivityToken.step] at hstep
    split at hstep
    · rename_i result hexecution
      obtain ⟨-, heq⟩ := Option.ite_none_left_eq_some.mp hstep
      cases heq
      exact h.of_eq rfl rfl (by rw [hexecution]; rfl)
    · cases hstep
  | emitted =>
    simp only [ActivityToken.step] at hstep
    split at hstep
    · rename_i result hexecution
      cases hstep
      exact h.of_eq rfl rfl (by rw [hexecution]; rfl)
    · cases hstep

end ActivityToken

/-! ### All tokens -/

namespace ActivityOperator

variable {activities : RegisteredActivities} {s t : ActivityOperator D}

/-- As long as the operator has not failed, its tokens are in one of the phases. -/
structure GroupInv (s : ActivityOperator D) : Prop where
  tokens : s.error = none → Inv s
  used : ∀ base64TaskToken, (s.tokens base64TaskToken).Used
  finite : Set.Finite {base64TaskToken | (s.tokens base64TaskToken).busy = true}

lemma groupInv_initial : GroupInv (initial : ActivityOperator D) := by
  refine ⟨fun _ => inv_initial, fun _ => .of_closed rfl, ?_⟩
  have hempty : {base64TaskToken : String | ((initial : ActivityOperator D).tokens base64TaskToken).busy = true} = ∅ :=
    Set.eq_empty_of_forall_notMem fun _ hbusy => by cases hbusy
  rw [hempty]
  exact Set.finite_empty

lemma GroupInv.noIdleGroups (h : GroupInv s) : s.NoIdleGroups :=
  ⟨h.used, Set.ncard_le_ncard (fun base64TaskToken => h.used base64TaskToken) h.finite⟩

/-- The group of the token is in use after the step if it is kept, and only then. -/
lemma GroupInv.used_step {base64TaskToken : String} {input : TokenInput D} {token : ActivityToken D}
    {error : Option ThrownValue} (h : GroupInv s) (hnone : s.error = none)
    (hstep : (s.tokens base64TaskToken).step activities base64TaskToken input = some (token, error)) :
    token.Used ↔ (s.tokens base64TaskToken).KeepsGroup activities input := by
  by_cases hhandled : ∃ closed argsError, input = .handled closed argsError
  · obtain ⟨closed, argsError, rfl⟩ := hhandled
    exact ((h.tokens hnone).tokens base64TaskToken).used_handled hstep
  · have hinput : ∀ closed argsError, input ≠ .handled closed argsError :=
      fun closed argsError heq => hhandled ⟨closed, argsError, heq⟩
    refine iff_of_true ((h.used base64TaskToken).step hinput hstep) ?_
    cases input with
    | handled closed argsError => exact absurd rfl (hinput closed argsError)
    | _ => trivial

lemma error_of_step {input : String × TokenInput D} (hstep : s.step activities input = some t) :
    s.error = none := by
  simp only [step] at hstep
  split at hstep
  · cases hstep
  · rename_i hnone
    simpa using hnone

lemma encoded_of_error {input : String × TokenInput D} (hstep : s.step activities input = some t)
    (hnone : t.error = none) : s.FailureEncoded input := by
  obtain ⟨base64TaskToken, input⟩ := input
  obtain ⟨token, error, htoken, rfl⟩ := step_eq_some hstep
  cases input with
  | failureEncoded failure =>
    cases failure with
    | ok failure => trivial
    | error err =>
      simp only [ActivityToken.step] at htoken
      split at htoken
      · cases htoken
        cases hnone
      · cases htoken
  | _ => trivial

lemma GroupInv.step {input : String × TokenInput D} (h : GroupInv s) (hkeeps : s.KeepsGroup activities input)
    (hstep : s.step activities input = some t) : GroupInv t := by
  obtain ⟨base64TaskToken, input⟩ := input
  have hnone := error_of_step hstep
  have hinv : t.error = none → Inv t := fun ht =>
    (h.tokens hnone).step (encoded_of_error hstep ht) hstep
  obtain ⟨token, error, htoken, rfl⟩ := step_eq_some hstep
  refine ⟨hinv, fun key => ?_, ?_⟩
  · by_cases hkey : key = base64TaskToken
    · subst hkey
      simp only [Function.update_self]
      exact (h.used_step hnone htoken).mpr hkeeps
    · simp only [Function.update_of_ne hkey]
      exact h.used key
  · exact (Keyed.ncard_update ActivityToken.busy s.tokens base64TaskToken token h.finite).1

lemma GroupInv.not_noIdleGroups {input : String × TokenInput D} (h : GroupInv s)
    (hkeeps : ¬s.KeepsGroup activities input) (hstep : s.step activities input = some t) : ¬t.NoIdleGroups := by
  obtain ⟨base64TaskToken, input⟩ := input
  have hnone := error_of_step hstep
  obtain ⟨token, error, htoken, rfl⟩ := step_eq_some hstep
  rintro ⟨hidle, -⟩
  refine hkeeps ((h.used_step hnone htoken).mp ?_)
  have hused := hidle base64TaskToken
  simp only [Function.update_self] at hused
  exact hused

/-- The open groups are in use throughout a run if and only if each is closed or kept in use when a task
has been handled. -/
theorem noIdleGroups_iff_kept (activities : RegisteredActivities) {inputs : List (String × TokenInput D)}
    {s : ActivityOperator D} (h : Transition.run (step activities) initial inputs = some s) :
    Transition.Throughout (step activities) NoIdleGroups initial inputs ↔
      Transition.Meets (step activities) (KeepsGroup activities) initial inputs :=
  Transition.throughout_iff_meets (I := GroupInv) (fun _ => GroupInv.noIdleGroups)
    (fun _ _ _ hs hkeeps hstep => hs.step hkeeps hstep)
    (fun _ _ _ hs hkeeps hstep => hs.not_noIdleGroups hkeeps hstep) groupInv_initial h

/-- Two activities run, and one of them is cancelled as it returns. -/
theorem noIdleGroups_iff_kept_greet :
    Transition.Throughout (step greetActivities) NoIdleGroups (initial : ActivityOperator ℕ)
      [("a", .task (.cancel none)), ("a", .task (.start "greet")), ("a", .handled none none),
        ("b", .task (.start "greet")), ("a", .handled none none), ("b", .handled none none),
        ("a", .functionSettled (.ok .undefined)), ("a", .task (.cancel (some .timedOut))),
        ("a", .resultEncoded (.ok ⟨[], []⟩)), ("a", .emitted), ("a", .handled (some 0) none)] :=
  (noIdleGroups_iff_kept greetActivities rfl).mpr (by decide)

/-- A cancel task for an activity that does not exist: its group stays open. -/
theorem noIdleGroups_counterexample :
    ∃ s, Transition.run (step greetActivities) (initial : ActivityOperator ℕ)
        [("a", .task (.cancel (some .notFound))), ("a", .handled none none)] = some s ∧
      (s.tokens "a").group = some ⟨false, []⟩ ∧ (s.tokens "a").busy = false ∧ ¬s.NoIdleGroups :=
  ⟨_, rfl, rfl, rfl, fun h => Bool.false_ne_true (h.1 "a" rfl)⟩

end ActivityOperator

end TemporalSdk
