import TemporalSdk.Workflow.Correlation

/-!
# What a step does to the maps of completions

A call takes a number and stores its promises, a job takes what is stored under its number,
and nothing else touches the maps of completions of the operations and their counters.
-/

namespace TemporalSdk

variable {V : Type} {env : Env V} {rt rt' : Runtime}

namespace Runtime

/-- The maps of completions of the operations, and their counters. -/
def watchMaps : Watch where
  scopes := False
  types type := type ≠ .timer
  reactions _ := False
  events _ := False
  propagate := Watch.nothing.propagate
  not_rejectChild _ _ := id
  not_thrown _ := id
  not_foreign _ _ := id

lemma watchMaps_ignoresScopes : watchMaps.IgnoresScopes := by
  constructor <;> simp [watchMaps]

lemma watchMaps_ignoresTimers : watchMaps.IgnoresTimers := by
  constructor <;> simp [watchMaps]

lemma mem_setCompletion {type type' : CompletionType} {q q' : Seq} {c : Completion} :
    q' ∈ (rt.setCompletion type q c).completions type' ↔
      (type' = type ∧ q' = q) ∨ q' ∈ rt.completions type' := by
  by_cases ht : type' = type
  · subst ht
    simp [setCompletion, OrderedMap.mem_set]
  · simp [setCompletion, ht]

lemma mem_deleteCompletion_iff {type type' : CompletionType} {q q' : Seq} :
    q' ∈ (rt.deleteCompletion type q).completions type' ↔
      q' ∈ rt.completions type' ∧ ¬(type' = type ∧ q' = q) := by
  by_cases ht : type' = type
  · subst ht
    simp [deleteCompletion, AList.mem_erase, and_comm]
  · simp [deleteCompletion, ht]

lemma nextSeqs_executor (scope : ScopeId) (p : PromiseRef) (onCancel : Reaction)
    (command : Except JsError Command) :
    (rt.executor scope p onCancel command).nextSeqs = rt.nextSeqs := by
  have hregister : (if (rt.scope scope).cancellable then rt.onCancelRequested scope onCancel
      else rt).nextSeqs = rt.nextSeqs := by
    split <;> rfl
  unfold executor
  split
  · rfl
  · cases command with
    | error err => exact (nextSeqs_settle _ _).trans hregister
    | ok cmd => exact hregister

lemma mem_completions_executor {scope : ScopeId} {p : PromiseRef} {onCancel : Reaction}
    {command : Except JsError Command} {type : CompletionType} {q : Seq} :
    q ∈ (rt.executor scope p onCancel command).completions type ↔
      (rt.schedules scope command = true ∧ type = p.type ∧ q = p.seq) ∨ q ∈ rt.completions type := by
  have hregister : (if (rt.scope scope).cancellable then rt.onCancelRequested scope onCancel
      else rt).completions = rt.completions := by
    split <;> rfl
  unfold executor schedules
  split
  · rename_i hc
    simp [hc, onCancelRequested]
  · rename_i hc
    cases command with
    | error err =>
      rw [completions_settle, hregister]
      simp [Except.isOk, Except.toBool]
    | ok cmd =>
      rw [mem_setCompletion]
      simp [pushCommand, hregister, hc, Except.isOk, Except.toBool]

/-! ### Calls -/

/-- The run after a call: its number has been taken, and what it has stored is there. -/
structure Schedules (rt rt' : Runtime) (call : OperationCall) : Prop where
  counter : ∃ c, call.kind.counter = some c ∧ call.seq = some (rt.nextSeqs c) ∧
    rt'.nextSeqs = (rt.nextSeq c).nextSeqs
  stored_kind : ∀ type ∈ call.stored, type.kind = call.kind
  completions : ∀ type completionType, ResolveType.completionType type = some completionType → ∀ q,
    q ∈ rt'.completions completionType ↔
      (call.seq = some q ∧ type ∈ call.stored) ∨ q ∈ rt.completions completionType

lemma Schedules.of_not_stored {kind : OperationKind} {c : Counter} (hc : kind.counter = some c)
    (hseqs : rt'.nextSeqs = (rt.nextSeq c).nextSeqs) (hcompletions : rt'.completions = rt.completions)
    (scope : ScopeId) : Schedules rt rt' ⟨kind, scope, some (rt.nextSeqs c), []⟩ where
  counter := ⟨c, hc, rfl, hseqs⟩
  stored_kind _ h := absurd h List.not_mem_nil
  completions type completionType _ q := by simp [hcompletions]

lemma completionType_injective {type type' : ResolveType} {completionType : CompletionType}
    (h : type.completionType = some completionType) (h' : type'.completionType = some completionType) :
    type = type' := by
  have heq := h.trans h'.symm
  cases type <;> cases type' <;> first | rfl | exact absurd heq (by decide)

lemma Schedules.executor (type : ResolveType) {completionType : CompletionType} {c : Counter}
    (htype : type.completionType = some completionType) (hc : type.kind.counter = some c)
    (scope : ScopeId) (onCancel : Reaction) (command : Except JsError Command) :
    Schedules rt ((rt.nextSeq c).executor scope ⟨completionType, rt.nextSeqs c⟩ onCancel command)
      ⟨type.kind, scope, some (rt.nextSeqs c), if rt.schedules scope command then [type] else []⟩ where
  counter := ⟨c, hc, rfl, nextSeqs_executor _ _ _ _⟩
  stored_kind type' h := by
    dsimp only at h
    split at h
    · rw [List.mem_singleton.mp h]
    · exact absurd h List.not_mem_nil
  completions type' completionType' htype' q := by
    have hsame : (rt.nextSeq c).schedules scope command = rt.schedules scope command := rfl
    have htypes : completionType' = completionType ↔ type' = type := by
      constructor
      · rintro rfl
        exact completionType_injective htype' htype
      · rintro rfl
        exact Option.some.inj (htype'.symm.trans htype)
    rw [mem_completions_executor, hsame]
    by_cases hs : rt.schedules scope command = true
    · simp [hs, htypes, and_comm, eq_comm, Runtime.nextSeq]
    · simp [hs, Runtime.nextSeq]

lemma schedules_error (scope : ScopeId) (err : JsError) :
    rt.schedules scope (.error err) = false := by
  simp [schedules, Except.isOk, Except.toBool]

lemma Schedules.startChild {scope : ScopeId} {workflowType : String} {options : ChildWorkflowOptions V}
    {uuid : String} {call : OperationCall}
    (hcall : rt.operationCall env (.startChild scope workflowType options uuid) = some call) :
    Schedules rt (rt.startChild env scope workflowType options uuid) call := by
  cases hcall
  refine ⟨⟨.childWorkflow, rfl, rfl, nextSeqs_executor _ _ _ _⟩, fun type h => ?_, ?_⟩
  · dsimp only at h
    split at h <;> simp at h <;> rcases h with rfl | rfl <;> rfl
  · intro type completionType htype q
    have hsame : ∀ command, (rt.nextSeq .childWorkflow).schedules scope command =
        rt.schedules scope command := fun _ => rfl
    rw [Runtime.startChild, startChildWorkflowExecutionNextHandler, mem_setCompletion,
      mem_completions_executor, hsame]
    dsimp only
    split
    · rename_i hs
      cases type <;> cases htype <;> simp [hs, eq_comm, Runtime.nextSeq]
    · rename_i hs
      cases type <;> cases htype <;> simp [hs, eq_comm, Runtime.nextSeq]

lemma schedules_of_operationCall {input : Input V} {call : OperationCall}
    (hcall : rt.operationCall env input = some call) (hstep : rt.step env input = some rt') :
    Schedules rt rt' call := by
  cases input with
  | scheduleActivity scope activityType args options =>
    obtain ⟨-, rfl⟩ := eq_of_inScope hstep
    cases options with
    | none => cases hcall
    | some options =>
      cases hcall
      simp only [scheduleActivity, scheduleActivityNextHandler]
      cases validateActivityOptions options.scheduleToCloseTimeout options.startToCloseTimeout with
      | error err =>
        simp only [bind, Except.bind, schedules_error, Bool.false_eq_true, if_false]
        exact .of_not_stored (by rfl) (by rfl) (by rfl) scope
      | ok _ => exact .executor .activity (by rfl) (by rfl) scope _ _
  | scheduleLocalActivity scope activityType args options attempt originalScheduleTime =>
    obtain ⟨-, rfl⟩ := eq_of_inScope hstep
    cases options with
    | none => cases hcall
    | some options =>
      cases hcall
      have hreplaying : (rt.nextSeq .activity).isReplaying = rt.isReplaying := rfl
      simp only [scheduleLocalActivity, scheduleLocalActivityNextHandler, hreplaying]
      split
      · simp only [throw, throwThe, MonadExceptOf.throw, bind, Except.bind, schedules_error,
          Bool.false_eq_true, if_false]
        exact .of_not_stored (by rfl) (nextSeqs_settle _ _) (completions_settle _ _) scope
      · cases validateActivityOptions options.scheduleToCloseTimeout options.startToCloseTimeout with
        | error err =>
          simp only [bind, Except.bind, schedules_error, Bool.false_eq_true, if_false]
          exact .of_not_stored (by rfl) (nextSeqs_settle _ _) (completions_settle _ _) scope
        | ok _ => exact .executor .activity (by rfl) (by rfl) scope _ _
  | startChild scope workflowType options uuid =>
    obtain ⟨-, rfl⟩ := eq_of_inScope hstep
    exact .startChild hcall
  | signal scope target signalName args =>
    obtain ⟨-, rfl⟩ := eq_of_inScope hstep
    cases hcall
    exact .executor .signalWorkflow (by rfl) (by rfl) scope _ _
  | _ => cases hcall

/-! ### Steps that schedule and resolve nothing -/

lemma runJob_frame {job : Job} (h : job.resolves = none) : Frame watchMaps rt (rt.runJob env job) := by
  cases job with
  | fireTimer seq => exact Frame.fireTimer watchMaps_ignoresTimers
  | resolveActivity seq result =>
    cases result with
    | none => exact Frame.emit id
    | some result =>
      cases seq with
      | none => exact Frame.emit id
      | some q => cases h
  | resolveChildWorkflowExecutionStart seq status =>
    cases seq with
    | none => exact Frame.emit id
    | some q => cases h
  | resolveChildWorkflowExecution seq result =>
    cases result with
    | none => exact Frame.emit id
    | some result =>
      cases seq with
      | none => exact Frame.emit id
      | some q => cases h
  | resolveSignalExternalWorkflow seq failure =>
    cases seq with
    | none => exact Frame.emit id
    | some q => cases h
  | cancelWorkflow => exact Frame.cancel watchMaps_ignoresScopes

lemma microtask_frame (hstep : rt.microtask = some rt') : Frame watchMaps rt rt' := by
  unfold Runtime.microtask at hstep
  cases hn : rt.loop.next with
  | none => simp [hn] at hstep
  | some rl =>
    obtain ⟨r, loop⟩ := rl
    simp only [hn, Option.some.injEq] at hstep
    subst hstep
    have hnext : Frame watchMaps rt { rt with loop := loop } := Frame.next hn id
    cases r with
    | propagate parent child => exact Frame.react hn watchMaps_ignoresScopes
    | reject scope p => exact hnext.trans (Frame.settle id)
    | cancel kind q =>
      refine hnext.trans ?_
      simp only [react, cancelOperation]
      split
      · exact Frame.pushCommand id
      · exact Frame.refl _ _
    | cancelTimer scope q => exact Frame.react hn watchMaps_ignoresTimers
    | rejectChild q err => exact hnext.trans (Frame.settle id)
    | timeoutCallback q => exact Frame.react hn watchMaps_ignoresTimers

lemma frame_of_operationCall_eq_none {input : Input V} (hjob : ∀ job, input ≠ .job job)
    (hcall : rt.operationCall env input = none) (hstep : rt.step env input = some rt') :
    Frame watchMaps rt rt' := by
  cases input with
  | newScope cancellable parent => exact Frame.step hstep watchMaps_ignoresScopes
  | cancel scope => exact Frame.step hstep watchMaps_ignoresScopes
  | sleep scope ms => exact Frame.step hstep watchMaps_ignoresTimers
  | setTimeout ms => exact Frame.step hstep watchMaps_ignoresTimers
  | clearTimeout handle => exact Frame.step hstep watchMaps_ignoresTimers
  | scheduleActivity scope activityType args options =>
    cases options with
    | none =>
      obtain ⟨-, rfl⟩ := eq_of_inScope hstep
      exact Frame.emit id
    | some options => cases hcall
  | scheduleLocalActivity scope activityType args options attempt originalScheduleTime =>
    cases options with
    | none =>
      obtain ⟨-, rfl⟩ := eq_of_inScope hstep
      exact Frame.emit id
    | some options => cases hcall
  | startChild scope workflowType options uuid => cases hcall
  | signal scope target signalName args => cases hcall
  | push cmd complete => exact Frame.step hstep trivial
  | activate isReplaying => exact Frame.step hstep trivial
  | job job => exact absurd rfl (hjob job)
  | microtask => exact microtask_frame hstep

/-! ### Jobs -/

/-- A job that looks for a completion is `consumeCompletion` under its number. -/
lemma runJob_of_resolves (env : Env V) {job : Job} {type : ResolveType} {q : Seq} (h : job.resolves = some (type, q)) :
    ∃ completionType resolution settlement, type.completionType = some completionType ∧
      settlement q = env.outcome job ∧
      ∀ rt : Runtime, rt.runJob env job = rt.consumeCompletion completionType (some q) resolution settlement := by
  unfold Job.resolves at h
  split at h <;> cases h
  · rename_i result
    exact ⟨.activity, result.resolution, fun _ => env.settleActivity result, rfl, rfl, fun _ => rfl⟩
  · rename_i status
    exact ⟨.childWorkflowStart, status.resolution, fun seq => env.settleChildWorkflowStart seq status, rfl,
      rfl, fun _ => rfl⟩
  · rename_i result
    exact ⟨.childWorkflowComplete, result.resolution, fun _ => env.settleChildWorkflow result, rfl, rfl,
      fun _ => rfl⟩
  · rename_i failure
    exact ⟨.signalWorkflow, if failure.isSome then .failed else .completed,
      fun _ => env.settleSignalWorkflow failure, rfl, rfl, fun _ => rfl⟩

section Consume

variable {type : CompletionType} {q : Seq} {resolution : Resolution}
  {settlement : Seq → Except JsError (Option Settlement)}

lemma consumeCompletion_of_notMem (hq : q ∉ rt.completions type) :
    rt.consumeCompletion type (some q) resolution settlement =
      rt.emit (.thrown (.illegalStateError ("No completion for taskSeq " ++ toString q))) := by
  have hnone : (rt.completions type).lookup q = none := AList.lookup_eq_none.mpr hq
  simp only [consumeCompletion, getSeq, maybeConsumeCompletion, hnone]

/-- The run after the functions have been found and called. -/
structure Consumed (rt rt' : Runtime) (type : CompletionType) (q : Seq)
    (outcome : Except JsError (Option Settlement)) : Prop where
  nextSeqs : rt'.nextSeqs = rt.nextSeqs
  completions : ∀ type' q', q' ∈ rt'.completions type' ↔
    q' ∈ rt.completions type' ∧ ¬(type' = type ∧ q' = q)
  settlement : ∀ p, rt'.settlement p =
    (rt.settlement p).or (if p = ⟨type, q⟩ then settlementOf outcome else none)
  throws : ∀ err, outcome = .error err → rt'.trace.getLast? = some (.thrown err)

lemma consumeCompletion_of_mem (resolution : Resolution)
    (settlement : Seq → Except JsError (Option Settlement)) (hq : q ∈ rt.completions type) :
    Consumed rt (rt.consumeCompletion type (some q) resolution settlement) type q (settlement q) := by
  obtain ⟨c, hc⟩ := Option.isSome_iff_exists.mp (AList.lookup_isSome.mpr hq)
  have hsame : ∀ p, ((rt.deleteCompletion type q).emit (.resolved type q resolution)).settlement p =
      rt.settlement p := settlement_emit (by simp)
  have hmem : ∀ type' q', q' ∈ ((rt.deleteCompletion type q).emit
      (.resolved type q resolution)).completions type' ↔
      q' ∈ rt.completions type' ∧ ¬(type' = type ∧ q' = q) :=
    fun _ _ => mem_deleteCompletion_iff
  simp only [consumeCompletion, getSeq, maybeConsumeCompletion, hc]
  cases settlement q with
  | error err =>
    refine ⟨rfl, hmem, fun p => ?_, fun err' h => ?_⟩
    · rw [settlement_emit (by simp), hsame]
      simp [settlementOf]
    · cases h
      simp [emit]
  | ok settlement =>
    cases settlement with
    | none =>
      refine ⟨rfl, hmem, fun p => ?_, fun err' h => by cases h⟩
      rw [hsame]
      simp [settlementOf]
    | some st =>
      refine ⟨nextSeqs_settle _ _, ?_, fun p => ?_, fun err' h => by cases h⟩
      · rw [completions_settle]
        exact hmem
      · rw [settlement_settle, hsame]
        simp [settlementOf, eq_comm]

end Consume

end Runtime

end TemporalSdk
