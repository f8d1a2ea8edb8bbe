import TemporalSdk.Library.EventLog
import TemporalSdk.Library.Transition
import TemporalSdk.Workflow.Frame

/-!
# Which cancellation commands a run pushes

Cancelling a scope makes the activities, child workflows and signals inside it push a
cancellation command if they are still pending. The invariant of a run relates the reactions
that have not run, the maps of completions and the log.
-/

namespace TemporalSdk

open EventLog

variable {V : Type} {env : Env V} {rt rt' : Runtime}

namespace OpKind

/-- The command schedules or starts the operation. -/
def schedules : OpKind → Seq → Command → Bool
  | activity, q, .scheduleActivity a => a.seq == q
  | localActivity, q, .scheduleLocalActivity a => a.seq == q
  | childWorkflow, q, .startChildWorkflowExecution a => a.seq == q
  | signalWorkflow, q, .signalExternalWorkflowExecution a => a.seq == q
  | _, _, _ => false

/-- The event delivers the final resolution of the operation. -/
def isFinal : OpKind → Seq → Event → Bool
  | activity, q, .resolved .activity seq _ => seq == q
  | localActivity, q, .resolved .activity seq _ => seq == q
  | childWorkflow, q, .resolved .childWorkflowComplete seq _ => seq == q
  | childWorkflow, q, .resolved .childWorkflowStart seq resolution =>
    seq == q && (resolution == .failed || resolution == .cancelled)
  | signalWorkflow, q, .resolved .signalWorkflow seq _ => seq == q
  | _, _, _ => false

end OpKind

def Scheduled (kind : OpKind) (q : Seq) (log : List Event) : Prop :=
  ∃ cmd, kind.schedules q cmd = true ∧ .pushed cmd ∈ log

def Finished (kind : OpKind) (q : Seq) (log : List Event) : Prop :=
  ∃ e ∈ log, kind.isFinal q e = true

/-- A cancellation command comes after the command that schedules the operation, before its
final resolution, and once. -/
def CancelAllowed (log : List Event) (e : Event) : Prop :=
  ∀ kind q, e = .pushed (OpKind.cancelCommand kind q) →
    Scheduled kind q log ∧ ¬Finished kind q log ∧ .pushed (kind.cancelCommand q) ∉ log

/-- The start of the child workflow has been scheduled, and has not failed and not been
cancelled. -/
def Startable (q : Seq) (log : List Event) : Prop :=
  Scheduled .childWorkflow q log ∧ .resolved .childWorkflowStart q .failed ∉ log ∧
    .resolved .childWorkflowStart q .cancelled ∉ log

/-- Whenever the reaction to cancellation of a child workflow finds its completion in the
map, the child has been started or may still be. -/
def StartPending (rt : Runtime) : Input V → Prop
  | .microtask => ∀ q loop, rt.loop.next = some (.cancel .childWorkflow q, loop) →
      rt.buffer.completed = false → q ∈ rt.completions .childWorkflowComplete → Startable q rt.trace
  | _ => True

/-! ### Log facts -/

lemma OpKind.cancelCommand_inj {k k' : OpKind} {q q' : Seq}
    (h : k.cancelCommand q = k'.cancelCommand q') : k = k' ∧ q = q' := by
  cases k <;> cases k' <;> simp_all [OpKind.cancelCommand]

lemma Scheduled.append {kind : OpKind} {q : Seq} {log es : List Event} (h : Scheduled kind q log) :
    Scheduled kind q (log ++ es) := by
  obtain ⟨cmd, hc, hm⟩ := h
  exact ⟨cmd, hc, List.mem_append_left _ hm⟩

/-- A final resolution of an operation is one of the map that cancellation looks at, except
that the start of a child can be final. -/
lemma resolved_of_finished {kind : OpKind} {q : Seq} {log : List Event} (h : Finished kind q log) :
    (∃ r, .resolved kind.pendingIn q r ∈ log) ∨
      kind = .childWorkflow ∧ (.resolved .childWorkflowStart q .failed ∈ log ∨
        .resolved .childWorkflowStart q .cancelled ∈ log) := by
  obtain ⟨e, he, hfinal⟩ := h
  unfold OpKind.isFinal at hfinal
  split at hfinal
  all_goals simp only [beq_iff_eq, Bool.and_eq_true, Bool.or_eq_true, Bool.false_eq_true] at hfinal
  · exact Or.inl ⟨_, hfinal ▸ he⟩
  · exact Or.inl ⟨_, hfinal ▸ he⟩
  · exact Or.inl ⟨_, hfinal ▸ he⟩
  · obtain ⟨rfl, rfl | rfl⟩ := hfinal
    · exact Or.inr ⟨rfl, Or.inl he⟩
    · exact Or.inr ⟨rfl, Or.inr he⟩
  · exact Or.inl ⟨_, hfinal ▸ he⟩

namespace Runtime

/-- What the invariant below speaks about. -/
def watchOperations : Watch where
  scopes := False
  types type := type ≠ .timer
  reactions r := ∃ kind q, r = .cancel kind q
  events
    | .pushed cmd => ∃ (kind : OpKind) (q : Seq), cmd = kind.cancelCommand q
    | .resolved _ _ _ => True
    | _ => False
  propagate := False.elim
  not_rejectChild _ _ := by simp
  not_thrown _ := by simp
  not_foreign cmd h := by
    rintro ⟨kind, q, rfl⟩
    cases kind <;> cases h

lemma watchOperations_ignoresScopes : watchOperations.IgnoresScopes where
  scopes := id
  propagate := by simp [watchOperations]
  cancelCalled := by simp [watchOperations]

lemma watchOperations_ignoresTimers : watchOperations.IgnoresTimers where
  types := by simp [watchOperations]
  reject := by simp [watchOperations]
  cancelTimer := by simp [watchOperations]
  timeoutCallback := by simp [watchOperations]
  pushed cmd h := by
    rintro ⟨kind, q, rfl⟩
    cases kind <;> cases h
  fired := by simp [watchOperations]
  cleared := by simp [watchOperations]
  callback := by simp [watchOperations]
  settled := by simp [watchOperations]

lemma watched_cancelCommand (kind : OpKind) (q : Seq) :
    watchOperations.events (.pushed (kind.cancelCommand q)) :=
  ⟨kind, q, rfl⟩

/-- How many reactions to cancellation of the operation have not run. -/
def cancelReactions (rt : Runtime) (kind : OpKind) (q : Seq) : ℕ :=
  rt.loop.pending.count (.cancel kind q)

structure OperationsInv (rt : Runtime) : Prop where
  wellFormed : rt.WellFormed
  admissible : Admissible CancelAllowed rt.trace
  completion_lt : ∀ type, type ≠ .timer → ∀ q ∈ rt.completions type, q < rt.nextSeqs type.counter
  resolved_lt : ∀ type, type ≠ .timer → ∀ q r, .resolved type q r ∈ rt.trace →
    q < rt.nextSeqs type.counter
  consumed : ∀ type, type ≠ .timer → ∀ q r, .resolved type q r ∈ rt.trace → q ∉ rt.completions type
  reaction_lt : ∀ kind q, rt.cancelReactions kind q ≠ 0 → q < rt.nextSeqs kind.pendingIn.counter
  pushed_lt : ∀ (kind : OpKind) q, .pushed (kind.cancelCommand q) ∈ rt.trace →
    q < rt.nextSeqs kind.pendingIn.counter
  once : ∀ kind q, rt.cancelReactions kind q ≤ 1
  pushed_gone : ∀ (kind : OpKind) q, .pushed (kind.cancelCommand q) ∈ rt.trace → rt.cancelReactions kind q = 0
  scheduled : rt.buffer.completed = false → ∀ kind, kind ≠ .childWorkflow → ∀ q,
    rt.cancelReactions kind q ≠ 0 → q ∈ rt.completions kind.pendingIn → Scheduled kind q rt.trace

lemma OperationsInv.init : OperationsInv Runtime.init where
  wellFormed := rfl
  admissible := admissible_nil
  completion_lt _ _ q hq := absurd hq (AList.notMem_empty q)
  resolved_lt _ _ _ _ h := absurd h List.not_mem_nil
  consumed _ _ _ _ h := absurd h List.not_mem_nil
  reaction_lt _ _ h := absurd rfl h
  pushed_lt _ _ h := absurd h List.not_mem_nil
  once _ _ := Nat.zero_le 1
  pushed_gone _ _ h := absurd h List.not_mem_nil
  scheduled _ _ _ q _ h := absurd h (AList.notMem_empty q)

lemma pendingIn_ne_timer (kind : OpKind) : kind.pendingIn ≠ .timer := by
  cases kind <;> simp [OpKind.pendingIn]

/-- Steps that touch nothing that is watched keep the invariant. -/
lemma OperationsInv.frame (hinv : OperationsInv rt) (hf : Frame watchOperations rt rt') :
    OperationsInv rt' := by
  have hreactions : ∀ kind q, rt'.cancelReactions kind q = rt.cancelReactions kind q :=
    fun kind q => hf.pending _ ⟨kind, q, rfl⟩
  have hpushed : ∀ (kind : OpKind) q, .pushed (kind.cancelCommand q) ∈ rt'.trace ↔
      .pushed (kind.cancelCommand q) ∈ rt.trace :=
    fun kind q => hf.mem_trace_iff (watched_cancelCommand kind q)
  have hresolved : ∀ type q r, .resolved type q r ∈ rt'.trace ↔ .resolved type q r ∈ rt.trace :=
    fun type q r => hf.mem_trace_iff trivial
  obtain ⟨es, htrace, hes⟩ := hf.trace
  refine ⟨hf.wellFormed hinv.wellFormed, ?_, ?_, ?_, ?_, ?_, ?_, ?_, ?_, ?_⟩
  · rw [htrace]
    refine hinv.admissible.append_of_forall fun e he before kind q heq => ?_
    exact absurd (heq ▸ watched_cancelCommand kind q) (hes e he)
  · intro type ht q hq
    rw [hf.completions type ht] at hq
    rw [hf.nextSeqs type ht]
    exact hinv.completion_lt type ht q hq
  · intro type ht q r hm
    rw [hf.nextSeqs type ht]
    exact hinv.resolved_lt type ht q r ((hresolved type q r).mp hm)
  · intro type ht q r hm
    rw [hf.completions type ht]
    exact hinv.consumed type ht q r ((hresolved type q r).mp hm)
  · intro kind q h
    rw [hreactions] at h
    rw [hf.nextSeqs _ (pendingIn_ne_timer kind)]
    exact hinv.reaction_lt kind q h
  · intro kind q h
    rw [hf.nextSeqs _ (pendingIn_ne_timer kind)]
    exact hinv.pushed_lt kind q ((hpushed kind q).mp h)
  · intro kind q
    rw [hreactions]
    exact hinv.once kind q
  · intro kind q h
    rw [hreactions]
    exact hinv.pushed_gone kind q ((hpushed kind q).mp h)
  · intro hc kind hk q h hq
    rw [hreactions] at h
    rw [hf.completions _ (pendingIn_ne_timer kind)] at hq
    rw [htrace]
    exact (hinv.scheduled (hf.completed hc) kind hk q h hq).append

/-! ### Scheduling an operation -/

/-- Nothing has been done yet with the number `q` of the counter. -/
structure Unused (c : Counter) (q : Seq) (rt : Runtime) : Prop where
  lt : q < rt.nextSeqs c
  completions : ∀ type, type.counter = c → q ∉ rt.completions type
  resolved : ∀ type r, type.counter = c → .resolved type q r ∉ rt.trace
  reactions : ∀ kind, kind.pendingIn.counter = c → rt.cancelReactions kind q = 0
  pushed : ∀ kind : OpKind, kind.pendingIn.counter = c → .pushed (kind.cancelCommand q) ∉ rt.trace

lemma OperationsInv.nextSeq (hinv : OperationsInv rt) (c : Counter) : OperationsInv (rt.nextSeq c) where
  wellFormed := hinv.wellFormed
  admissible := hinv.admissible
  completion_lt type ht q hq := (hinv.completion_lt type ht q hq).trans_le (nextSeqs_le_nextSeq c _)
  resolved_lt type ht q r h := (hinv.resolved_lt type ht q r h).trans_le (nextSeqs_le_nextSeq c _)
  consumed := hinv.consumed
  reaction_lt kind q h := (hinv.reaction_lt kind q h).trans_le (nextSeqs_le_nextSeq c _)
  pushed_lt kind q h := (hinv.pushed_lt kind q h).trans_le (nextSeqs_le_nextSeq c _)
  once := hinv.once
  pushed_gone := hinv.pushed_gone
  scheduled := hinv.scheduled

lemma OperationsInv.unused_nextSeq (hinv : OperationsInv rt) {c : Counter} (hc : c ≠ .timer) :
    Unused c (rt.nextSeqs c) (rt.nextSeq c) := by
  have htimer : ∀ type : CompletionType, type.counter = c → type ≠ .timer := by
    rintro type h rfl
    exact hc h.symm
  refine ⟨by simp [Runtime.nextSeq], ?_, ?_, ?_, ?_⟩
  · intro type h hq
    exact absurd (h ▸ hinv.completion_lt type (htimer type h) _ hq) (lt_irrefl _)
  · intro type r h hq
    exact absurd (h ▸ hinv.resolved_lt type (htimer type h) _ r hq) (lt_irrefl _)
  · intro kind h
    by_contra hq
    exact absurd (h ▸ hinv.reaction_lt kind _ hq) (lt_irrefl _)
  · intro kind h hq
    exact absurd (h ▸ hinv.pushed_lt kind _ hq) (lt_irrefl _)

lemma cancelReactions_register (hwf : rt.WellFormed) {scope : ScopeId} (hs : scope < rt.scopes.length)
    (kind kind' : OpKind) (q q' : Seq) :
    (rt.onCancelRequested scope (.cancel kind q)).cancelReactions kind' q' =
      rt.cancelReactions kind' q' + if kind' = kind ∧ q' = q then 1 else 0 := by
  have hp : scope < rt.loop.promises.length := hwf ▸ hs
  simp only [cancelReactions, onCancelRequested, EventLoop.pending_register _ hp, Multiset.count_cons,
    Reaction.cancel.injEq]

/-- Registering the reaction to cancellation of a new operation. -/
lemma OperationsInv.register (hinv : OperationsInv rt) {kind : OpKind} {q : Seq}
    (hu : Unused kind.pendingIn.counter q rt) {scope : ScopeId} (hs : scope < rt.scopes.length) :
    OperationsInv (rt.onCancelRequested scope (.cancel kind q)) := by
  have hreactions := cancelReactions_register hinv.wellFormed hs kind
  refine ⟨?_, hinv.admissible, hinv.completion_lt, hinv.resolved_lt, hinv.consumed, ?_,
    hinv.pushed_lt, ?_, ?_, ?_⟩
  · simpa [WellFormed, onCancelRequested] using hinv.wellFormed
  · intro kind' q' h
    rw [hreactions] at h
    by_cases heq : kind' = kind ∧ q' = q
    · obtain ⟨rfl, rfl⟩ := heq
      exact hu.lt
    · rw [if_neg heq, Nat.add_zero] at h
      exact hinv.reaction_lt kind' q' h
  · intro kind' q'
    rw [hreactions]
    by_cases heq : kind' = kind ∧ q' = q
    · obtain ⟨rfl, rfl⟩ := heq
      simp [hu.reactions kind' rfl]
    · rw [if_neg heq, Nat.add_zero]
      exact hinv.once kind' q'
  · intro kind' q' h
    rw [hreactions]
    by_cases heq : kind' = kind ∧ q' = q
    · obtain ⟨rfl, rfl⟩ := heq
      exact absurd h (hu.pushed kind' rfl)
    · rw [if_neg heq, Nat.add_zero]
      exact hinv.pushed_gone kind' q' h
  · intro hc kind' hk q' h hq
    rw [hreactions] at h
    by_cases heq : kind' = kind ∧ q' = q
    · obtain ⟨rfl, rfl⟩ := heq
      exact absurd hq (hu.completions _ rfl)
    · rw [if_neg heq, Nat.add_zero] at h
      exact hinv.scheduled hc kind' hk q' h hq

lemma OperationsInv.setCompletion (hinv : OperationsInv rt) {type : CompletionType} {q : Seq}
    {c : Completion} (hlt : q < rt.nextSeqs type.counter)
    (hresolved : ∀ r, .resolved type q r ∉ rt.trace)
    (hscheduled : rt.buffer.completed = false → ∀ kind : OpKind, kind ≠ .childWorkflow →
      kind.pendingIn = type → rt.cancelReactions kind q ≠ 0 → Scheduled kind q rt.trace) :
    OperationsInv (rt.setCompletion type q c) := by
  have hmem : ∀ type' q', q' ∈ (rt.setCompletion type q c).completions type' →
      (type' = type ∧ q' = q) ∨ q' ∈ rt.completions type' := by
    intro type' q' h
    by_cases ht : type' = type
    · subst ht
      simp only [Runtime.setCompletion, Function.update_self, OrderedMap.mem_set] at h
      exact h.imp_left fun hq => ⟨rfl, hq⟩
    · simp only [Runtime.setCompletion, Function.update_of_ne ht] at h
      exact Or.inr h
  refine ⟨hinv.wellFormed, hinv.admissible, ?_, hinv.resolved_lt, ?_, hinv.reaction_lt, hinv.pushed_lt,
    hinv.once, hinv.pushed_gone, ?_⟩
  · intro type' ht q' h
    rcases hmem type' q' h with ⟨rfl, rfl⟩ | h
    · exact hlt
    · exact hinv.completion_lt type' ht q' h
  · intro type' ht q' r hr h
    rcases hmem type' q' h with ⟨rfl, rfl⟩ | h
    · exact hresolved r hr
    · exact hinv.consumed type' ht q' r hr h
  · intro hc kind hk q' hr h
    rcases hmem _ q' h with ⟨heq, rfl⟩ | h
    · exact hscheduled hc kind hk heq hr
    · exact hinv.scheduled hc kind hk q' hr h

lemma schedules_ne_cancelCommand {kind : OpKind} {q : Seq} {cmd : Command}
    (h : kind.schedules q cmd = true) : ¬watchOperations.events (.pushed cmd) := by
  rintro ⟨kind', q', rfl⟩
  cases kind <;> cases kind' <;> cases h

lemma mem_trace_pushCommand {cmd : Command} {complete : Bool}
    (hc : (rt.pushCommand cmd complete).buffer.completed = false) :
    .pushed cmd ∈ (rt.pushCommand cmd complete).trace := by
  have hcompleted : rt.buffer.completed = false :=
    (Frame.pushCommand (w := .nothing) id).completed hc
  simp [Runtime.pushCommand, CommandBuffer.accepts, hcompleted]

/-- The promise of an operation is stored in the map that cancellation looks at, or in that of
the starts of child workflows. -/
def StoredIn (kind : OpKind) (type : CompletionType) : Prop :=
  type = kind.pendingIn ∨ (kind = .childWorkflow ∧ type = .childWorkflowStart)

lemma OperationsInv.executor (hinv : OperationsInv rt) {kind : OpKind} {type : CompletionType} {q : Seq}
    (htype : StoredIn kind type) (hu : Unused kind.pendingIn.counter q rt) {scope : ScopeId}
    (hs : scope < rt.scopes.length) {command : Except JsError Command}
    (hcommand : ∀ cmd, command = .ok cmd → kind.schedules q cmd = true) :
    OperationsInv (rt.executor scope ⟨type, q⟩ (.cancel kind q) command) := by
  have hcounter : type.counter = kind.pendingIn.counter := by
    rcases htype with rfl | ⟨rfl, rfl⟩ <;> rfl
  unfold Runtime.executor
  split
  · exact hinv.frame (Frame.onCancelRequested (by simp [watchOperations]))
  · dsimp only
    generalize hrt₁ : (if (rt.scope scope).cancellable = true then
      rt.onCancelRequested scope (.cancel kind q) else rt) = rt₁
    have hinv₁ : OperationsInv rt₁ := by
      rw [← hrt₁]
      split
      · exact hinv.register hu hs
      · exact hinv
    have htrace : rt₁.trace = rt.trace := by
      rw [← hrt₁]
      split <;> rfl
    have hseqs : rt₁.nextSeqs = rt.nextSeqs := by
      rw [← hrt₁]
      split <;> rfl
    have hothers : ∀ kind', kind' ≠ kind → rt₁.cancelReactions kind' q = rt.cancelReactions kind' q := by
      intro kind' hne
      rw [← hrt₁]
      split
      · simp [cancelReactions_register hinv.wellFormed hs, hne]
      · rfl
    cases command with
    | error err => exact hinv₁.frame (Frame.settle id)
    | ok cmd =>
      have hcmd := hcommand cmd rfl
      have hpush : Frame watchOperations rt₁ (rt₁.pushCommand cmd false) :=
        Frame.pushCommand (schedules_ne_cancelCommand hcmd)
      refine (hinv₁.frame hpush).setCompletion ?_ ?_ ?_
      · simp only [Runtime.pushCommand, hseqs, hcounter]
        exact hu.lt
      · intro r hr
        have hm : .resolved type q r ∈ rt₁.trace := (hpush.mem_trace_iff (by trivial)).mp hr
        exact hu.resolved type r hcounter (htrace ▸ hm)
      · intro hc kind' hk htype' hr
        by_cases hkind : kind' = kind
        · subst hkind
          exact ⟨cmd, hcmd, mem_trace_pushCommand hc⟩
        · refine absurd ?_ hr
          exact (hothers kind' hkind).trans (hu.reactions kind' (by rw [htype', hcounter]))

/-- A number that has just been taken, and the executor that uses it. -/
lemma OperationsInv.operation (hinv : OperationsInv rt) (kind : OpKind) {type : CompletionType}
    (htype : StoredIn kind type) {scope : ScopeId} (hs : scope < rt.scopes.length)
    {command : Except JsError Command}
    (hcommand : ∀ cmd, command = .ok cmd →
      kind.schedules (rt.nextSeqs kind.pendingIn.counter) cmd = true) :
    OperationsInv ((rt.nextSeq kind.pendingIn.counter).executor scope
      ⟨type, rt.nextSeqs kind.pendingIn.counter⟩
      (.cancel kind (rt.nextSeqs kind.pendingIn.counter)) command) := by
  have hc : kind.pendingIn.counter ≠ .timer := by cases kind <;> simp [OpKind.pendingIn,
    CompletionType.counter]
  exact (hinv.nextSeq _).executor htype (hinv.unused_nextSeq hc) hs hcommand

lemma OperationsInv.scheduleActivity (hinv : OperationsInv rt) {scope : ScopeId}
    (hs : scope < rt.scopes.length) {activityType : String} {args : List V}
    {options : Option ActivityOptions} :
    OperationsInv (rt.scheduleActivity env scope activityType args options) := by
  cases options with
  | none => exact hinv.frame (Frame.emit id)
  | some options =>
    simp only [Runtime.scheduleActivity, scheduleActivityNextHandler]
    split
    · exact (hinv.nextSeq _).frame (Frame.emit id)
    · refine hinv.operation .activity (Or.inl rfl) hs fun cmd hcmd => ?_
      obtain ⟨a, rfl, ha⟩ := env.scheduleActivityCommand_ok hcmd
      exact beq_iff_eq.mpr ha

lemma OperationsInv.scheduleLocalActivity (hinv : OperationsInv rt) {scope : ScopeId}
    (hs : scope < rt.scopes.length) {activityType : String} {args : List V}
    {options : Option LocalActivityOptions} {attempt : ℕ} {originalScheduleTime : Option Timestamp} :
    OperationsInv
      (rt.scheduleLocalActivity env scope activityType args options attempt originalScheduleTime) := by
  cases options with
  | none => exact hinv.frame (Frame.emit id)
  | some options =>
    simp only [Runtime.scheduleLocalActivity, scheduleLocalActivityNextHandler]
    split
    · exact (hinv.nextSeq _).frame (Frame.settle id)
    · split
      · exact (hinv.nextSeq _).frame (Frame.settle id)
      · refine hinv.operation .localActivity (Or.inl rfl) hs fun cmd hcmd => ?_
        obtain ⟨a, rfl, ha⟩ := env.scheduleLocalActivityCommand_ok hcmd
        exact beq_iff_eq.mpr ha

lemma OperationsInv.signal (hinv : OperationsInv rt) {scope : ScopeId}
    (hs : scope < rt.scopes.length) {target : SignalTarget} {signalName : String} {args : List V} :
    OperationsInv (rt.signal env scope target signalName args) := by
  refine hinv.operation .signalWorkflow (Or.inl rfl) hs fun cmd hcmd => ?_
  obtain ⟨a, rfl, ha⟩ := env.signalExternalWorkflowExecutionCommand_ok hcmd
  exact beq_iff_eq.mpr ha

/-- What storing the completion of a child must not find changed. -/
def watchChildCompletion : Watch where
  scopes := False
  types type := type = .childWorkflowComplete
  reactions _ := False
  events
    | .resolved _ _ _ => True
    | _ => False
  propagate := Watch.nothing.propagate
  not_rejectChild _ _ := id
  not_thrown _ := id
  not_foreign _ _ := id

lemma OperationsInv.startChild (hinv : OperationsInv rt) {scope : ScopeId}
    (hs : scope < rt.scopes.length) {workflowType : String} {options : ChildWorkflowOptions V}
    {uuid : String} : OperationsInv (rt.startChild env scope workflowType options uuid) := by
  have hu := hinv.unused_nextSeq (c := .childWorkflow) (by simp)
  have hframe : Frame watchChildCompletion (rt.nextSeq .childWorkflow)
      ((rt.nextSeq .childWorkflow).executor scope ⟨.childWorkflowStart, rt.nextSeqs .childWorkflow⟩
        (.cancel .childWorkflow (rt.nextSeqs .childWorkflow))
        (env.startChildWorkflowExecutionCommand (rt.nextSeqs .childWorkflow) workflowType
          (options.workflowId.getD uuid) options)) :=
    Frame.executor (by simp [watchChildCompletion]) id id (fun _ => id) fun _ _ => id
  refine OperationsInv.setCompletion ?_ ?_ ?_ ?_
  · refine hinv.operation .childWorkflow (Or.inr ⟨rfl, rfl⟩) hs fun cmd hcmd => ?_
    obtain ⟨a, rfl, ha⟩ := env.startChildWorkflowExecutionCommand_ok hcmd
    exact beq_iff_eq.mpr ha
  · exact (hframe.nextSeqs .childWorkflowComplete rfl).symm ▸ hu.lt
  · intro r hr
    exact hu.resolved .childWorkflowComplete r rfl ((hframe.mem_trace_iff (by trivial)).mp hr)
  · intro _ kind hk htype
    cases kind <;> simp_all [OpKind.pendingIn]

/-! ### Resolving and cancelling an operation -/

lemma mem_deleteCompletion {type type' : CompletionType} {q q' : Seq}
    (h : q' ∈ (rt.deleteCompletion type q).completions type') :
    q' ∈ rt.completions type' ∧ ¬(type' = type ∧ q' = q) := by
  by_cases ht : type' = type
  · subst ht
    simp only [deleteCompletion, Function.update_self, AList.mem_erase] at h
    exact ⟨h.2, fun hq => h.1 hq.2⟩
  · simp only [deleteCompletion, Function.update_of_ne ht] at h
    exact ⟨h, fun hq => ht hq.1⟩

lemma OperationsInv.consume (hinv : OperationsInv rt) {type : CompletionType} (ht : type ≠ .timer)
    {q : Seq} (hq : q ∈ rt.completions type) (r : Resolution) :
    OperationsInv ((rt.deleteCompletion type q).emit (.resolved type q r)) := by
  have hmem : ∀ type' q' r', .resolved type' q' r' ∈ rt.trace ++ [.resolved type q r] →
      .resolved type' q' r' ∈ rt.trace ∨ (type' = type ∧ q' = q) := by
    intro type' q' r' h
    rcases List.mem_append.mp h with h | h
    · exact Or.inl h
    · simp only [List.mem_singleton, Event.resolved.injEq] at h
      exact Or.inr ⟨h.1, h.2.1⟩
  have hpushed : ∀ kind' q', .pushed (OpKind.cancelCommand kind' q') ∈
      rt.trace ++ [.resolved type q r] → .pushed (kind'.cancelCommand q') ∈ rt.trace := by
    intro kind' q' h
    simpa using h
  refine ⟨hinv.wellFormed, ?_, ?_, ?_, ?_, hinv.reaction_lt, ?_, hinv.once, ?_, ?_⟩
  · refine hinv.admissible.append_of_forall fun e he before kind q' heq => ?_
    rw [List.mem_singleton.mp he] at heq
    cases heq
  · exact fun type' ht' q' h => hinv.completion_lt type' ht' q' (mem_deleteCompletion h).1
  · intro type' ht' q' r' h
    rcases hmem type' q' r' h with h | ⟨rfl, rfl⟩
    · exact hinv.resolved_lt type' ht' q' r' h
    · exact hinv.completion_lt type' ht' q' hq
  · intro type' ht' q' r' h hq'
    obtain ⟨hq', hne⟩ := mem_deleteCompletion hq'
    rcases hmem type' q' r' h with h | heq
    · exact hinv.consumed type' ht' q' r' h hq'
    · exact hne heq
  · exact fun kind q' h => hinv.pushed_lt kind q' (hpushed kind q' h)
  · exact fun kind q' h => hinv.pushed_gone kind q' (hpushed kind q' h)
  · exact fun hc kind hk q' h hq' =>
      (hinv.scheduled hc kind hk q' h (mem_deleteCompletion hq').1).append

lemma OperationsInv.consumeCompletion (hinv : OperationsInv rt) {type : CompletionType}
    (ht : type ≠ .timer) {seq : Option Seq} {resolution : Resolution}
    {settlement : Seq → Except JsError (Option Settlement)} :
    OperationsInv (rt.consumeCompletion type seq resolution settlement) := by
  cases seq with
  | none => exact hinv.frame (Frame.emit id)
  | some q =>
    simp only [Runtime.consumeCompletion, maybeConsumeCompletion, getSeq]
    cases hl : (rt.completions type).lookup q with
    | none => exact hinv.frame (Frame.emit id)
    | some c =>
      have hq : q ∈ rt.completions type := AList.lookup_isSome.mp (by simp [hl])
      have hconsumed := hinv.consume ht hq resolution
      dsimp only
      cases settlement q with
      | error err => exact hconsumed.frame (Frame.emit id)
      | ok s =>
        cases s with
        | none => exact hconsumed
        | some s => exact hconsumed.frame (Frame.settle id)

lemma OperationsInv.runJob (hinv : OperationsInv rt) {job : Job} : OperationsInv (rt.runJob env job) := by
  cases job with
  | fireTimer seq => exact hinv.frame (Frame.fireTimer watchOperations_ignoresTimers)
  | resolveActivity seq result =>
    cases result with
    | none => exact hinv.frame (Frame.emit id)
    | some result => exact hinv.consumeCompletion (by simp)
  | resolveChildWorkflowExecutionStart seq status => exact hinv.consumeCompletion (by simp)
  | resolveChildWorkflowExecution seq result =>
    cases result with
    | none => exact hinv.frame (Frame.emit id)
    | some result => exact hinv.consumeCompletion (by simp)
  | resolveSignalExternalWorkflow seq failure => exact hinv.consumeCompletion (by simp)
  | cancelWorkflow => exact hinv.frame (Frame.cancel watchOperations_ignoresScopes)

section Reaction

variable {kind : OpKind} {q : Seq} {loop : EventLoop Reaction}

lemma cancelReactions_next (hn : rt.loop.next = some (.cancel kind q, loop)) (kind' : OpKind)
    (q' : Seq) : rt.cancelReactions kind' q' =
      ({ rt with loop := loop } : Runtime).cancelReactions kind' q' +
        if kind' = kind ∧ q' = q then 1 else 0 := by
  simp only [cancelReactions, EventLoop.pending_next _ hn, Multiset.count_cons, Reaction.cancel.injEq]

/-- The reaction leaves the queue. -/
lemma OperationsInv.next (hinv : OperationsInv rt) (hn : rt.loop.next = some (.cancel kind q, loop)) :
    OperationsInv { rt with loop := loop } := by
  have hle : ∀ kind' q', ({ rt with loop := loop } : Runtime).cancelReactions kind' q' ≤
      rt.cancelReactions kind' q' := by
    intro kind' q'
    rw [cancelReactions_next hn kind' q']
    exact Nat.le_add_right _ _
  have hne : ∀ kind' q', ({ rt with loop := loop } : Runtime).cancelReactions kind' q' ≠ 0 →
      rt.cancelReactions kind' q' ≠ 0 := by
    intro kind' q' h
    have := hle kind' q'
    omega
  refine ⟨?_, hinv.admissible, hinv.completion_lt, hinv.resolved_lt, hinv.consumed, ?_,
    hinv.pushed_lt, ?_, ?_, ?_⟩
  · have hps := (EventLoop.next_eq_some _ hn).2
    simpa [WellFormed, hps] using hinv.wellFormed
  · exact fun kind' q' h => hinv.reaction_lt kind' q' (hne kind' q' h)
  · exact fun kind' q' => (hle kind' q').trans (hinv.once kind' q')
  · exact fun kind' q' h => Nat.le_zero.mp ((hle kind' q').trans (hinv.pushed_gone kind' q' h).le)
  · exact fun hc kind' hk q' h hq => hinv.scheduled hc kind' hk q' (hne kind' q' h) hq

lemma not_finished (hinv : OperationsInv rt) (hq : q ∈ rt.completions kind.pendingIn)
    (hstart : kind = .childWorkflow → Startable q rt.trace) : ¬Finished kind q rt.trace := by
  intro hfinished
  rcases resolved_of_finished hfinished with ⟨r, hr⟩ | ⟨rfl, hfailed | hcancelled⟩
  · exact hinv.consumed _ (pendingIn_ne_timer kind) q r hr hq
  · exact (hstart rfl).2.1 hfailed
  · exact (hstart rfl).2.2 hcancelled

lemma OperationsInv.pushCancel (hinv : OperationsInv rt)
    (hallowed : CancelAllowed rt.trace (.pushed (kind.cancelCommand q)))
    (hq : q ∈ rt.completions kind.pendingIn) (hzero : rt.cancelReactions kind q = 0) :
    OperationsInv (rt.pushCommand (kind.cancelCommand q) false) := by
  by_cases hc : rt.buffer.completed = true
  · exact hinv.frame (Frame.pushCommand_of_completed hc (by cases kind <;> rfl))
  · have htrace : (rt.pushCommand (kind.cancelCommand q) false).trace =
        rt.trace ++ [.pushed (kind.cancelCommand q)] := by
      simp [Runtime.pushCommand, CommandBuffer.accepts, hc]
    have hresolved : ∀ type' q' r', .resolved type' q' r' ∈
        (rt.pushCommand (kind.cancelCommand q) false).trace → .resolved type' q' r' ∈ rt.trace := by
      intro type' q' r' h
      simpa [htrace] using h
    have hpushed : ∀ kind' q', .pushed (OpKind.cancelCommand kind' q') ∈
        (rt.pushCommand (kind.cancelCommand q) false).trace →
        .pushed (kind'.cancelCommand q') ∈ rt.trace ∨ (kind' = kind ∧ q' = q) := by
      intro kind' q' h
      rw [htrace, List.mem_append, List.mem_singleton, Event.pushed.injEq] at h
      exact h.imp_right OpKind.cancelCommand_inj
    refine ⟨hinv.wellFormed, ?_, hinv.completion_lt, ?_, ?_, hinv.reaction_lt, ?_, hinv.once, ?_, ?_⟩
    · rw [htrace]
      exact admissible_concat.mpr ⟨hinv.admissible, hallowed⟩
    · exact fun type ht q' r h => hinv.resolved_lt type ht q' r (hresolved type q' r h)
    · exact fun type ht q' r h => hinv.consumed type ht q' r (hresolved type q' r h)
    · intro kind' q' h
      rcases hpushed kind' q' h with h | ⟨rfl, rfl⟩
      · exact hinv.pushed_lt kind' q' h
      · exact hinv.completion_lt _ (pendingIn_ne_timer kind') q' hq
    · intro kind' q' h
      rcases hpushed kind' q' h with h | ⟨rfl, rfl⟩
      · exact hinv.pushed_gone kind' q' h
      · exact hzero
    · intro _ kind' hk q' h hq'
      rw [htrace]
      exact (hinv.scheduled (by simpa using hc) kind' hk q' h hq').append

/-- The reaction pushes its command, which is allowed if it is for a child workflow that has
been started or may still be. -/
lemma OperationsInv.cancelOperation (hinv : OperationsInv rt)
    (hn : rt.loop.next = some (.cancel kind q, loop))
    (hstart : kind = .childWorkflow → rt.buffer.completed = false →
      q ∈ rt.completions .childWorkflowComplete → Startable q rt.trace) :
    OperationsInv (({ rt with loop := loop } : Runtime).cancelOperation kind q) := by
  have hnext := hinv.next hn
  have hcount : rt.cancelReactions kind q =
      ({ rt with loop := loop } : Runtime).cancelReactions kind q + 1 := by
    simpa using cancelReactions_next hn kind q
  have honce := hinv.once kind q
  unfold Runtime.cancelOperation
  split
  · rename_i hq
    by_cases hc : rt.buffer.completed = false
    · refine hnext.pushCancel ?_ hq (by omega)
      intro kind' q' heq
      obtain ⟨rfl, rfl⟩ := OpKind.cancelCommand_inj (Event.pushed.inj heq)
      refine ⟨?_, not_finished hnext hq fun hk => ?_, fun hm => ?_⟩
      · by_cases hk : kind = .childWorkflow
        · subst hk
          exact (hstart rfl hc hq).1
        · exact hinv.scheduled hc kind hk q (by omega) hq
      · subst hk
        exact hstart rfl hc hq
      · have hgone := hinv.pushed_gone kind q hm
        omega
    · exact hnext.frame (Frame.pushCommand_of_completed (by simpa using hc) (by cases kind <;> rfl))
  · exact hnext

end Reaction

/-! ### Runs -/

lemma OperationsInv.microtask (hinv : OperationsInv rt) (hstep : rt.microtask = some rt')
    (hstart : StartPending rt (.microtask : Input V)) : OperationsInv rt' := by
  unfold Runtime.microtask at hstep
  cases hn : rt.loop.next with
  | none => simp [hn] at hstep
  | some rl =>
    obtain ⟨r, loop⟩ := rl
    simp only [hn, Option.some.injEq] at hstep
    subst hstep
    cases r with
    | propagate parent child => exact hinv.frame (Frame.react hn watchOperations_ignoresScopes)
    | reject scope p =>
      exact hinv.frame ((Frame.next hn (by simp [watchOperations])).trans (Frame.settle id))
    | cancel kind q =>
      refine hinv.cancelOperation hn ?_
      rintro rfl hc hq
      exact hstart q loop hn hc hq
    | cancelTimer scope q => exact hinv.frame (Frame.react hn watchOperations_ignoresTimers)
    | rejectChild q err =>
      exact hinv.frame ((Frame.next hn (by simp [watchOperations])).trans (Frame.settle id))
    | timeoutCallback q => exact hinv.frame (Frame.react hn watchOperations_ignoresTimers)

lemma OperationsInv.step {input : Input V} (hinv : OperationsInv rt) (hC : StartPending rt input)
    (hstep : rt.step env input = some rt') : OperationsInv rt' := by
  have hframe : watchOperations.Ignores (rt.concern input) → OperationsInv rt' :=
    fun h => hinv.frame (Frame.step hstep h)
  cases input with
  | scheduleActivity scope activityType args options =>
    obtain ⟨hs, rfl⟩ := eq_of_inScope hstep
    exact hinv.scheduleActivity hs
  | scheduleLocalActivity scope activityType args options attempt originalScheduleTime =>
    obtain ⟨hs, rfl⟩ := eq_of_inScope hstep
    exact hinv.scheduleLocalActivity hs
  | startChild scope workflowType options uuid =>
    obtain ⟨hs, rfl⟩ := eq_of_inScope hstep
    exact hinv.startChild hs
  | signal scope target signalName args =>
    obtain ⟨hs, rfl⟩ := eq_of_inScope hstep
    exact hinv.signal hs
  | job job =>
    cases hstep
    exact hinv.runJob
  | microtask => exact hinv.microtask hstep hC
  | newScope cancellable parent => exact hframe watchOperations_ignoresScopes
  | cancel scope => exact hframe watchOperations_ignoresScopes
  | push cmd complete => exact hframe trivial
  | activate isReplaying => exact hframe trivial
  | sleep scope ms => exact hframe watchOperations_ignoresTimers
  | setTimeout ms => exact hframe watchOperations_ignoresTimers
  | clearTimeout handle => exact hframe watchOperations_ignoresTimers

/-- A reaction that runs although the child is not startable pushes a command that is not
allowed. -/
lemma not_admissible_of_not_startPending {input : Input V} (hC : ¬StartPending rt input)
    (hstep : rt.step env input = some rt') : ¬Admissible CancelAllowed rt'.trace := by
  cases input with
  | microtask =>
    simp only [StartPending, not_forall] at hC
    obtain ⟨q, loop, hn, hc, hq, hstartable⟩ := hC
    simp only [Runtime.step, microtask, hn, Option.some.injEq] at hstep
    have htrace : rt'.trace = rt.trace ++ [.pushed (OpKind.childWorkflow.cancelCommand q)] := by
      rw [← hstep]
      simp [react, cancelOperation, OpKind.pendingIn, hq, Runtime.pushCommand, CommandBuffer.accepts, hc]
    intro hadm
    rw [htrace] at hadm
    obtain ⟨hscheduled, hfinished, -⟩ := (admissible_concat.mp hadm).2 .childWorkflow q rfl
    refine hstartable ⟨hscheduled, fun hm => hfinished ⟨_, hm, ?_⟩, fun hm => hfinished ⟨_, hm, ?_⟩⟩
    · simp [OpKind.isFinal]
    · simp [OpKind.isFinal]
  | _ => exact absurd trivial hC

/-- In every run, the cancellation commands pushed are valid exactly if no reaction to
cancellation of a child workflow finds a child that can no longer start. -/
theorem cancelCommands_valid_iff (env : Env V) (inputs : List (Input V)) (rt : Runtime)
    (hrun : Transition.run (Runtime.step env) Runtime.init inputs = some rt) :
    Admissible CancelAllowed rt.trace ↔
      Transition.Meets (Runtime.step env) StartPending Runtime.init inputs := by
  have hbroken := Transition.meets_or_broken (B := fun s => ¬Admissible CancelAllowed s.trace)
    (fun s i t hI hC ht => OperationsInv.step hI hC ht)
    (fun s i t _ hC ht => not_admissible_of_not_startPending hC ht)
    (fun s i t hB ht hadm => by
      obtain ⟨es, htrace, -⟩ := (step_frame ht).trace
      exact hB (Admissible.of_append (htrace ▸ hadm)))
    OperationsInv.init hrun
  rcases hbroken with ⟨hmeets, hinv⟩ | ⟨hmeets, hbad⟩
  · exact iff_of_true hinv.admissible hmeets
  · exact iff_of_false hbad hmeets

/-- A child workflow is started in the root scope and the run is cancelled. -/
theorem cancelCommands_valid_iff_startChild :
    ∃ rt, Transition.run (Runtime.step Env.raw) Runtime.init
        [.startChild 0 "child" .default "id", .cancel 0, .microtask] = some rt ∧
      (Admissible CancelAllowed rt.trace ↔
        Transition.Meets (Runtime.step Env.raw) StartPending Runtime.init
          [.startChild 0 "child" .default "id", .cancel 0, .microtask]) :=
  ⟨_, rfl, cancelCommands_valid_iff _ _ _ rfl⟩

/-- The start of the child fails because its workflow exists already; the run is cancelled
afterwards, and the child is asked to cancel. -/
theorem cancelCommands_invalid_after_failed_start :
    ∃ rt, Transition.run (Runtime.step Env.raw) Runtime.init
        [.startChild 0 "child" .default "id",
          .job (.resolveChildWorkflowExecutionStart (some 1) (.failed true "id" "child")),
          .microtask, .job .cancelWorkflow, .microtask] = some rt ∧
      ¬Admissible CancelAllowed rt.trace := by
  refine ⟨_, rfl, fun hadm => ?_⟩
  obtain ⟨-, hfinished, -⟩ := (admissible_concat.mp hadm).2 .childWorkflow 1 rfl
  exact hfinished ⟨.resolved .childWorkflowStart 1 .failed, by decide, rfl⟩

end Runtime

end TemporalSdk
