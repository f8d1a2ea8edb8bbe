import TemporalSdk.Workflow.Frame

/-!
# Relations that every step respects

A step is a sequence of small changes to the run. A reflexive and transitive relation that
each of these changes respects therefore holds between the run before and after any step.
-/

namespace TemporalSdk

variable {V : Type} {env : Env V} {rt rt' : Runtime}

/-- The relation holds between the runs before and after each of the changes that steps are
made of. -/
structure Runtime.Respects (R : Runtime → Runtime → Prop) : Prop where
  refl : ∀ rt, R rt rt
  trans : ∀ {rt rt' rt''}, R rt rt' → R rt' rt'' → R rt rt''
  emit : ∀ rt e, (∀ p s, e ≠ .settled p s) → R rt (rt.emit e)
  pushCommand : ∀ rt cmd complete, R rt (rt.pushCommand cmd complete)
  nextSeq : ∀ rt c, R rt (rt.nextSeq c)
  setCompletion : ∀ rt type seq c, R rt (rt.setCompletion type seq c)
  deleteCompletion : ∀ rt type seq, R rt (rt.deleteCompletion type seq)
  settle : ∀ rt p s, R rt (rt.settle p s)
  onCancelRequested : ∀ rt scope r, (∀ seq err, r ≠ .rejectChild seq err) →
    R rt (rt.onCancelRequested scope r)
  timeoutCallback : ∀ rt seq, R rt { rt with loop := rt.loop.enqueue (.timeoutCallback seq) }
  newScope : ∀ rt cancellable parent, R rt (rt.newScope cancellable parent)
  rejectScope : ∀ rt scope err, R rt (rt.rejectScope scope err)
  next : ∀ rt r loop, rt.loop.next = some (r, loop) → R rt { rt with loop := loop }
  activate : ∀ rt isReplaying, R rt { rt with isReplaying := isReplaying }

namespace Runtime.Respects

variable {R : Runtime → Runtime → Prop} (h : Respects R)
include h

lemma cancel (scope : ScopeId) : R rt (rt.cancel scope) :=
  h.trans (h.emit rt _ (by simp)) (h.rejectScope _ _ _)

lemma executor {scope : ScopeId} {p : PromiseRef} {onCancel : Reaction}
    {command : Except JsError Command} (hcancel : ∀ seq err, onCancel ≠ .rejectChild seq err) :
    R rt (rt.executor scope p onCancel command) := by
  unfold Runtime.executor
  split
  · exact h.onCancelRequested rt scope _ (by simp)
  · have hregister : R rt
        (if (rt.scope scope).cancellable then rt.onCancelRequested scope onCancel else rt) := by
      split
      · exact h.onCancelRequested rt scope onCancel hcancel
      · exact h.refl rt
    refine h.trans hregister ?_
    cases command with
    | error err => exact h.settle _ _ _
    | ok cmd => exact h.trans (h.pushCommand _ cmd false) (h.setCompletion _ _ _ _)

lemma consumeCompletion {type : CompletionType} {seq : Option Seq} {resolution : Resolution}
    {settlement : Seq → Except JsError (Option Settlement)} :
    R rt (rt.consumeCompletion type seq resolution settlement) := by
  unfold Runtime.consumeCompletion maybeConsumeCompletion
  cases seq with
  | none => exact h.emit rt _ (by simp)
  | some q =>
    cases hl : (rt.completions type).lookup q with
    | none => simpa [getSeq, hl] using h.emit rt _ (by simp)
    | some c =>
      have hconsumed : R rt ((rt.deleteCompletion type q).emit (.resolved type q resolution)) :=
        h.trans (h.deleteCompletion rt type q) (h.emit _ _ (by simp))
      simp only [getSeq, hl]
      cases settlement q with
      | error err => exact h.trans hconsumed (h.emit _ _ (by simp))
      | ok s =>
        cases s with
        | none => exact hconsumed
        | some s => exact h.trans hconsumed (h.settle _ _ _)

/-! ### Timers -/

lemma sleep {scope : ScopeId} {ms : Duration} : R rt (rt.sleep env scope ms) := by
  unfold Runtime.sleep
  refine h.trans (h.nextSeq rt .timer) ?_
  cases msToNumber env.parseMs ms with
  | error err => exact h.emit _ _ (by simp)
  | ok ms => exact h.executor (by simp)

lemma setTimeout {ms : JsNumber} : R rt (rt.setTimeout ms) := by
  unfold Runtime.setTimeout
  refine h.trans (h.nextSeq rt .timer) ?_
  cases msNumberToTs ms.max1 with
  | error err => exact h.trans (h.setCompletion _ _ _ _) (h.settle _ _ _)
  | ok ts => exact h.trans (h.setCompletion _ _ _ _) (h.pushCommand _ _ _)

lemma clearTimeout {handle : Seq} : R rt (rt.clearTimeout handle) :=
  h.trans (h.nextSeq rt .timer) (h.trans (h.deleteCompletion _ _ _)
    (h.trans (h.pushCommand _ _ _) (h.emit _ _ (by simp))))

lemma fireTimer {seq : Option Seq} : R rt (rt.fireTimer seq) := by
  unfold Runtime.fireTimer
  cases seq with
  | none => exact h.emit rt _ (by simp)
  | some q =>
    have hfired : R rt ((rt.deleteCompletion .timer q).emit (.fired q)) :=
      h.trans (h.deleteCompletion rt .timer q) (h.emit _ _ (by simp))
    simp only [getSeq, maybeConsumeCompletion]
    cases (rt.completions .timer).lookup q with
    | none => exact hfired
    | some c =>
      cases c with
      | promise => exact h.trans hfired (h.settle _ _ _)
      | callback => exact h.trans hfired (h.trans (h.settle _ _ _) (h.timeoutCallback _ _))
      | dead => exact hfired

/-! ### Operations -/

lemma scheduleActivity {scope : ScopeId} {activityType : String} {args : List V}
    {options : Option ActivityOptions} :
    R rt (rt.scheduleActivity env scope activityType args options) := by
  cases options with
  | none => exact h.emit rt _ (by simp)
  | some options =>
    refine h.trans (h.nextSeq rt .activity) ?_
    simp only [Runtime.scheduleActivity, scheduleActivityNextHandler]
    split
    · exact h.emit _ _ (by simp)
    · exact h.executor (by simp)

lemma scheduleLocalActivity {scope : ScopeId} {activityType : String} {args : List V}
    {options : Option LocalActivityOptions} {attempt : ℕ} {originalScheduleTime : Option Timestamp} :
    R rt (rt.scheduleLocalActivity env scope activityType args options attempt originalScheduleTime) := by
  cases options with
  | none => exact h.emit rt _ (by simp)
  | some options =>
    refine h.trans (h.nextSeq rt .activity) ?_
    simp only [Runtime.scheduleLocalActivity, scheduleLocalActivityNextHandler]
    split
    · exact h.settle _ _ _
    · split
      · exact h.settle _ _ _
      · exact h.executor (by simp)

lemma startChild {scope : ScopeId} {workflowType : String} {options : ChildWorkflowOptions V}
    {uuid : String} : R rt (rt.startChild env scope workflowType options uuid) :=
  h.trans (h.nextSeq rt .childWorkflow) (h.trans (h.executor (by simp)) (h.setCompletion _ _ _ _))

lemma signal {scope : ScopeId} {target : SignalTarget} {signalName : String} {args : List V} :
    R rt (rt.signal env scope target signalName args) :=
  h.trans (h.nextSeq rt .signalWorkflow) (h.executor (by simp))

/-! ### Whole steps -/

lemma runJob {job : Job} : R rt (rt.runJob env job) := by
  cases job with
  | fireTimer seq => exact h.fireTimer
  | resolveActivity seq result =>
    cases result with
    | none => exact h.emit rt _ (by simp)
    | some result => exact h.consumeCompletion
  | resolveChildWorkflowExecutionStart seq status => exact h.consumeCompletion
  | resolveChildWorkflowExecution seq result =>
    cases result with
    | none => exact h.emit rt _ (by simp)
    | some result => exact h.consumeCompletion
  | resolveSignalExternalWorkflow seq failure => exact h.consumeCompletion
  | cancelWorkflow => exact h.cancel rootScope

lemma react (r : Reaction) : R rt (rt.react r) := by
  cases r with
  | propagate parent child => exact h.rejectScope _ _ _
  | reject scope p => exact h.settle _ _ _
  | cancel kind seq =>
    simp only [Runtime.react, cancelOperation]
    split
    · exact h.pushCommand _ _ _
    · exact h.refl rt
  | cancelTimer scope seq =>
    simp only [Runtime.react, Runtime.cancelTimer]
    split
    · exact h.trans (h.deleteCompletion _ _ _) (h.trans (h.pushCommand _ _ _) (h.settle _ _ _))
    · exact h.refl rt
  | rejectChild seq err => exact h.settle _ _ _
  | timeoutCallback seq => exact h.emit rt _ (by simp)

theorem step {input : Input V} (hstep : rt.step env input = some rt') : R rt rt' := by
  cases input with
  | newScope cancellable parent =>
    obtain ⟨-, rfl⟩ := eq_of_inScope hstep
    exact h.newScope _ _ _
  | cancel scope =>
    obtain ⟨-, rfl⟩ := eq_of_inScope hstep
    exact h.cancel scope
  | sleep scope ms =>
    obtain ⟨-, rfl⟩ := eq_of_inScope hstep
    exact h.sleep
  | setTimeout ms =>
    cases hstep
    exact h.setTimeout
  | clearTimeout handle =>
    cases hstep
    exact h.clearTimeout
  | scheduleActivity scope activityType args options =>
    obtain ⟨-, rfl⟩ := eq_of_inScope hstep
    exact h.scheduleActivity
  | scheduleLocalActivity scope activityType args options attempt originalScheduleTime =>
    obtain ⟨-, rfl⟩ := eq_of_inScope hstep
    exact h.scheduleLocalActivity
  | startChild scope workflowType options uuid =>
    obtain ⟨-, rfl⟩ := eq_of_inScope hstep
    exact h.startChild
  | signal scope target signalName args =>
    obtain ⟨-, rfl⟩ := eq_of_inScope hstep
    exact h.signal
  | push cmd complete =>
    simp only [Runtime.step] at hstep
    split at hstep
    · cases hstep
      exact h.pushCommand _ _ _
    · cases hstep
  | activate isReplaying =>
    cases hstep
    exact h.activate _ _
  | job job =>
    cases hstep
    exact h.runJob
  | microtask =>
    simp only [Runtime.step, microtask] at hstep
    cases hn : rt.loop.next with
    | none => simp [hn] at hstep
    | some rl =>
      obtain ⟨r, loop⟩ := rl
      simp only [hn, Option.some.injEq] at hstep
      rw [← hstep]
      exact h.trans (h.next rt r loop hn) (h.react r)

end Runtime.Respects

end TemporalSdk
