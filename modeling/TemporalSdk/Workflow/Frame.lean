import TemporalSdk.Workflow.Jobs

/-!
# What a step leaves alone

An invariant speaks about some of the maps of completions, some kinds of reactions and some
kinds of events. `Frame w rt rt'` says that a step touched none of those that `w` watches.
-/

namespace TemporalSdk

/-- The parts of a run that an invariant speaks about: the tree of scopes, and some of the maps
of completions, of the reactions and of the events. The chained rejection of child workflows,
thrown errors and foreign commands are never watched. -/
structure Watch where
  scopes : Prop
  types : CompletionType → Prop
  reactions : Reaction → Prop
  events : Event → Prop
  propagate : scopes → ∀ parent child, reactions (.propagate parent child)
  not_rejectChild : ∀ seq err, ¬reactions (.rejectChild seq err)
  not_thrown : ∀ err, ¬events (.thrown err)
  not_foreign : ∀ cmd, cmd.isForeign = true → ¬events (.pushed cmd)

/-- The commands of `sleep`, `setTimeout` and `clearTimeout`. -/
def Command.isTimer : Command → Bool
  | startTimer _ _ => true
  | cancelTimer _ => true
  | _ => false

namespace Watch

structure IgnoresScopes (w : Watch) : Prop where
  scopes : ¬w.scopes
  propagate : ∀ parent child, ¬w.reactions (.propagate parent child)
  cancelCalled : ∀ scope, ¬w.events (.cancelCalled scope)

structure IgnoresTimers (w : Watch) : Prop where
  types : ¬w.types .timer
  reject : ∀ scope seq, ¬w.reactions (.reject scope ⟨.timer, seq⟩)
  cancelTimer : ∀ scope seq, ¬w.reactions (.cancelTimer scope seq)
  timeoutCallback : ∀ seq, ¬w.reactions (.timeoutCallback seq)
  pushed : ∀ cmd : Command, cmd.isTimer = true → ¬w.events (.pushed cmd)
  fired : ∀ seq, ¬w.events (.fired seq)
  cleared : ∀ seq, ¬w.events (.cleared seq)
  callback : ∀ seq, ¬w.events (.callback seq)
  settled : ∀ seq s, ¬w.events (.settled ⟨.timer, seq⟩ s)

/-- The watch ignores activities, child workflows and signals. -/
structure IgnoresOperations (w : Watch) : Prop where
  types : ∀ type, type ≠ .timer → ¬w.types type
  reject : ∀ scope p, p.type ≠ .timer → ¬w.reactions (.reject scope p)
  cancel : ∀ kind seq, ¬w.reactions (.cancel kind seq)
  pushed : ∀ cmd : Command, cmd.isTimer = false → ¬w.events (.pushed cmd)
  resolved : ∀ type seq resolution, ¬w.events (.resolved type seq resolution)
  settled : ∀ p s, p.type ≠ .timer → ¬w.events (.settled p s)

end Watch

/-- What a step is about. -/
inductive Concern
  | other
  | scopes
  | timers
  | operations

def Reaction.concern : Reaction → Concern
  | propagate _ _ => .scopes
  | reject _ p => if p.type = .timer then .timers else .operations
  | cancel _ _ => .operations
  | cancelTimer _ _ => .timers
  | rejectChild _ _ => .operations
  | timeoutCallback _ => .timers

def Job.concern : Job → Concern
  | fireTimer _ => .timers
  | cancelWorkflow => .scopes
  | _ => .operations

def Runtime.concern {V : Type} (rt : Runtime) : Input V → Concern
  | .newScope _ _ => .scopes
  | .cancel _ => .scopes
  | .sleep _ _ => .timers
  | .setTimeout _ => .timers
  | .clearTimeout _ => .timers
  | .scheduleActivity _ _ _ _ => .operations
  | .scheduleLocalActivity _ _ _ _ _ _ => .operations
  | .startChild _ _ _ _ => .operations
  | .signal _ _ _ _ => .operations
  | .job job => job.concern
  | .microtask => match rt.loop.next with
    | none => .other
    | some (r, _) => r.concern
  | .push _ _ => .other
  | .activate _ => .other

namespace Watch

def Ignores (w : Watch) : Concern → Prop
  | .other => True
  | .scopes => w.IgnoresScopes
  | .timers => w.IgnoresTimers
  | .operations => w.IgnoresOperations

/-- The watch that ignores everything. -/
def nothing : Watch where
  scopes := False
  types _ := False
  reactions _ := False
  events _ := False
  propagate := False.elim
  not_rejectChild _ _ := id
  not_thrown _ := id
  not_foreign _ _ := id

lemma ignores_nothing (c : Concern) : nothing.Ignores c := by
  cases c with
  | other => trivial
  | _ => constructor <;> simp [nothing]

end Watch

namespace Runtime

/-- Every scope has its promise `cancelRequested`. -/
def WellFormed (rt : Runtime) : Prop := rt.loop.promises.length = rt.scopes.length

lemma nextSeqs_le_nextSeq {rt : Runtime} (c c' : Counter) :
    rt.nextSeqs c' ≤ (rt.nextSeq c).nextSeqs c' := by
  unfold nextSeq
  dsimp only
  by_cases h : c' = c
  · subst h
    simp
  · simp [h]

/-- The scopes, the promises that are rejected and the propagation from parents to children. -/
structure ScopesKept (rt rt' : Runtime) : Prop where
  scopes : rt'.scopes = rt.scopes
  rejected : ∀ p, rt'.loop.rejected p = rt.loop.rejected p
  armed : ∀ p parent child, rt.loop.Armed p (.propagate parent child) →
    rt'.loop.Armed p (.propagate parent child)
  reactions : ∀ p parent child, .propagate parent child ∈ rt'.loop.reactions p →
    .propagate parent child ∈ rt.loop.reactions p
  microtasks : ∀ parent child, .propagate parent child ∈ rt'.loop.microtasks →
    .propagate parent child ∈ rt.loop.microtasks

namespace ScopesKept

variable {rt rt' rt'' : Runtime}

lemma of_eq (hs : rt'.scopes = rt.scopes) (hl : rt'.loop = rt.loop) : ScopesKept rt rt' := by
  refine ⟨hs, ?_, ?_, ?_, ?_⟩ <;> simp [hl]

lemma trans (h₁ : ScopesKept rt rt') (h₂ : ScopesKept rt' rt'') : ScopesKept rt rt'' where
  scopes := h₂.scopes.trans h₁.scopes
  rejected p := (h₂.rejected p).trans (h₁.rejected p)
  armed p parent child h := h₂.armed p parent child (h₁.armed p parent child h)
  reactions p parent child h := h₁.reactions p parent child (h₂.reactions p parent child h)
  microtasks parent child h := h₁.microtasks parent child (h₂.microtasks parent child h)

variable {r : Reaction}

lemma enqueue (hr : ∀ parent child, r ≠ .propagate parent child) :
    ScopesKept rt { rt with loop := rt.loop.enqueue r } where
  scopes := rfl
  rejected _ := rfl
  armed _ _ _ h := h.enqueue r
  reactions _ _ _ h := h
  microtasks parent child h := by
    rcases List.mem_append.mp h with h | h
    · exact h
    · exact absurd (List.mem_singleton.mp h).symm (hr parent child)

lemma onCancelRequested {id : ScopeId} (hr : ∀ parent child, r ≠ .propagate parent child) :
    ScopesKept rt (rt.onCancelRequested id r) where
  scopes := rfl
  rejected p := EventLoop.rejected_register _ id r p
  armed _ _ _ h := h.register id r
  reactions p parent child h := by
    rcases EventLoop.mem_reactions_register _ h with h | ⟨h, -⟩
    · exact h
    · exact absurd h.symm (hr parent child)
  microtasks parent child h := by
    rcases EventLoop.mem_microtasks_register _ h with h | ⟨h, -⟩
    · exact h
    · exact absurd h.symm (hr parent child)

lemma next {loop : EventLoop Reaction} (hn : rt.loop.next = some (r, loop))
    (hr : ∀ parent child, r ≠ .propagate parent child) : ScopesKept rt { rt with loop := loop } := by
  obtain ⟨hm, hp⟩ := EventLoop.next_eq_some _ hn
  refine ⟨rfl, fun p => ?_, fun p parent child h => ?_, fun p parent child h => ?_,
    fun parent child h => ?_⟩
  · simp [EventLoop.rejected, EventLoop.promise, hp]
  · exact (h.next hn).resolve_left (hr parent child).symm
  · simpa [EventLoop.reactions, EventLoop.promise, hp] using h
  · rw [hm]
    exact List.mem_cons_of_mem _ h

end ScopesKept

structure Frame (w : Watch) (rt rt' : Runtime) : Prop where
  completions : ∀ type, w.types type → rt'.completions type = rt.completions type
  nextSeqs : ∀ type, w.types type → rt'.nextSeqs type.counter = rt.nextSeqs type.counter
  pending : ∀ r, w.reactions r → rt'.loop.pending.count r = rt.loop.pending.count r
  trace : ∃ es, rt'.trace = rt.trace ++ es ∧ ∀ e ∈ es, ¬w.events e
  completed : rt'.buffer.completed = false → rt.buffer.completed = false
  wellFormed : rt.WellFormed → rt'.WellFormed
  scopes : w.scopes → ScopesKept rt rt'

namespace Frame

variable {w : Watch} {rt rt' rt'' : Runtime}

lemma ne_propagate {r : Reaction} (hr : ¬w.reactions r) (h : w.scopes) (parent child : ScopeId) :
    r ≠ .propagate parent child := by
  rintro rfl
  exact hr (w.propagate h parent child)

lemma refl (w : Watch) (rt : Runtime) : Frame w rt rt :=
  ⟨fun _ _ => rfl, fun _ _ => rfl, fun _ _ => rfl, ⟨[], by simp⟩, id, id,
    fun _ => ScopesKept.of_eq rfl rfl⟩

lemma trans (h₁ : Frame w rt rt') (h₂ : Frame w rt' rt'') : Frame w rt rt'' := by
  obtain ⟨es₁, ht₁, he₁⟩ := h₁.trace
  obtain ⟨es₂, ht₂, he₂⟩ := h₂.trace
  refine ⟨fun type h => ?_, fun type h => ?_, fun r h => ?_, ⟨es₁ ++ es₂, ?_, ?_⟩, ?_, ?_, ?_⟩
  · rw [h₂.completions type h, h₁.completions type h]
  · rw [h₂.nextSeqs type h, h₁.nextSeqs type h]
  · rw [h₂.pending r h, h₁.pending r h]
  · rw [ht₂, ht₁, List.append_assoc]
  · intro e he
    rcases List.mem_append.mp he with he | he
    · exact he₁ e he
    · exact he₂ e he
  · exact fun h => h₁.completed (h₂.completed h)
  · exact fun h => h₂.wellFormed (h₁.wellFormed h)
  · exact fun h => (h₁.scopes h).trans (h₂.scopes h)

/-- An event of the later trace that is watched was logged before. -/
lemma mem_trace_iff (h : Frame w rt rt') {e : Event} (he : w.events e) :
    e ∈ rt'.trace ↔ e ∈ rt.trace := by
  obtain ⟨es, ht, hes⟩ := h.trace
  rw [ht, List.mem_append]
  exact ⟨fun hm => hm.resolve_right fun hm' => hes e hm' he, Or.inl⟩

lemma countP_pending (h : Frame w rt rt') {P : Reaction → Prop} [DecidablePred P]
    (hP : ∀ r, P r → w.reactions r) : rt'.loop.pending.countP P = rt.loop.pending.countP P := by
  have hfilter : rt'.loop.pending.filter P = rt.loop.pending.filter P := by
    ext r
    simp only [Multiset.count_filter]
    split
    · exact h.pending r (hP r ‹_›)
    · rfl
  rw [Multiset.countP_eq_card_filter, Multiset.countP_eq_card_filter, hfilter]

lemma emit {e : Event} (he : ¬w.events e) : Frame w rt (rt.emit e) := by
  refine ⟨fun _ _ => rfl, fun _ _ => rfl, fun _ _ => rfl, ⟨[e], rfl, ?_⟩, id, id,
    fun _ => ScopesKept.of_eq rfl rfl⟩
  intro e' he'
  rwa [List.mem_singleton.mp he']

lemma pushCommand {cmd : Command} {complete : Bool} (he : ¬w.events (.pushed cmd)) :
    Frame w rt (rt.pushCommand cmd complete) := by
  refine ⟨fun _ _ => rfl, fun _ _ => rfl, fun _ _ => rfl, ?_, ?_, id,
    fun _ => ScopesKept.of_eq rfl rfl⟩
  · unfold Runtime.pushCommand
    dsimp only
    split
    · refine ⟨[.pushed cmd], rfl, ?_⟩
      intro e' he'
      rwa [List.mem_singleton.mp he']
    · exact ⟨[], by simp⟩
  · simp only [Runtime.pushCommand, CommandBuffer.pushCommand]
    split <;> simp_all

/-- After completion only query responses are taken. -/
lemma pushCommand_of_completed {cmd : Command} {complete : Bool} (hc : rt.buffer.completed = true)
    (hcmd : cmd.isRespondToQuery = false) : Frame w rt (rt.pushCommand cmd complete) := by
  have haccepts : rt.buffer.accepts cmd = false := by simp [CommandBuffer.accepts, hc, hcmd]
  have hsame : rt.pushCommand cmd complete = rt := by
    simp [Runtime.pushCommand, CommandBuffer.pushCommand, haccepts]
  rw [hsame]
  exact refl w rt

lemma nextSeq {c : Counter} (hc : ∀ type, w.types type → type.counter ≠ c) :
    Frame w rt (rt.nextSeq c) := by
  refine ⟨fun _ _ => rfl, fun type h => ?_, fun _ _ => rfl, ⟨[], by simp [Runtime.nextSeq]⟩, id, id,
    fun _ => ScopesKept.of_eq rfl rfl⟩
  simp [Runtime.nextSeq, hc type h]

lemma setCompletion {type : CompletionType} {seq : Seq} {c : Completion} (ht : ¬w.types type) :
    Frame w rt (rt.setCompletion type seq c) := by
  refine ⟨fun type' h => ?_, fun _ _ => rfl, fun _ _ => rfl, ⟨[], by simp [Runtime.setCompletion]⟩,
    id, id, fun _ => ScopesKept.of_eq rfl rfl⟩
  have hne : type' ≠ type := by
    rintro rfl
    exact ht h
  simp [Runtime.setCompletion, hne]

lemma deleteCompletion {type : CompletionType} {seq : Seq} (ht : ¬w.types type) :
    Frame w rt (rt.deleteCompletion type seq) := by
  refine ⟨fun type' h => ?_, fun _ _ => rfl, fun _ _ => rfl,
    ⟨[], by simp [Runtime.deleteCompletion]⟩, id, id, fun _ => ScopesKept.of_eq rfl rfl⟩
  have hne : type' ≠ type := by
    rintro rfl
    exact ht h
  simp [Runtime.deleteCompletion, hne]

lemma enqueue {r : Reaction} (hr : ¬w.reactions r) :
    Frame w rt { rt with loop := rt.loop.enqueue r } := by
  refine ⟨fun _ _ => rfl, fun _ _ => rfl, fun r' h => ?_, ⟨[], by simp⟩, id, id,
    fun h => ScopesKept.enqueue (ne_propagate hr h)⟩
  have hne : r' ≠ r := by
    rintro rfl
    exact hr h
  simp [Multiset.count_cons_of_ne hne]

lemma onCancelRequested {id : ScopeId} {r : Reaction} (hr : ¬w.reactions r) :
    Frame w rt (rt.onCancelRequested id r) := by
  refine ⟨fun _ _ => rfl, fun _ _ => rfl, fun r' h => ?_, ⟨[], by simp [Runtime.onCancelRequested]⟩,
    fun h => h, fun h => ?_, fun h => ScopesKept.onCancelRequested (ne_propagate hr h)⟩
  · have hne : r' ≠ r := by
      rintro rfl
      exact hr h
    rcases Nat.lt_or_ge id rt.loop.promises.length with hp | hp
    · simp [Runtime.onCancelRequested, EventLoop.pending_register _ hp, Multiset.count_cons_of_ne hne]
    · simp [Runtime.onCancelRequested, EventLoop.register, EventLoop.rejected_of_length_le _ hp,
        EventLoop.setPromise_of_length_le _ hp]
  · simpa [WellFormed, Runtime.onCancelRequested] using h

lemma rejectScope {id : ScopeId} {err : JsError} (hw : ¬w.scopes) :
    Frame w rt (rt.rejectScope id err) := by
  refine ⟨fun _ _ => rfl, fun _ _ => rfl, fun r h => ?_, ⟨[], by simp [Runtime.rejectScope]⟩,
    fun h => h, fun h => ?_, fun h => absurd h hw⟩
  · simp [Runtime.rejectScope]
  · simpa [WellFormed, Runtime.rejectScope] using h

lemma settle {p : PromiseRef} {s : Settlement} (he : ¬w.events (.settled p s)) :
    Frame w rt (rt.settle p s) := by
  refine (Frame.emit he).trans ?_
  cases s with
  | fulfilled value => exact refl w _
  | rejected err =>
    simp only [Runtime.settle, Runtime.chain]
    split
    · exact enqueue (w.not_rejectChild _ _)
    · exact refl w _

/-- Taking a microtask that is not watched. -/
lemma next {r : Reaction} {loop : EventLoop Reaction} (hn : rt.loop.next = some (r, loop))
    (hr : ¬w.reactions r) : Frame w rt { rt with loop := loop } := by
  refine ⟨fun _ _ => rfl, fun _ _ => rfl, fun r' h => ?_, ⟨[], by simp⟩, id, fun h => ?_,
    fun h => ScopesKept.next hn (ne_propagate hr h)⟩
  · have hne : r' ≠ r := by
      rintro rfl
      exact hr h
    rw [EventLoop.pending_next _ hn, Multiset.count_cons_of_ne hne]
  · have hps := (EventLoop.next_eq_some _ hn).2
    simpa [WellFormed, hps] using h

/-- The executor of an operation that is not watched. -/
lemma executor {scope : ScopeId} {p : PromiseRef} {onCancel : Reaction}
    {command : Except JsError Command} (ht : ¬w.types p.type) (hreject : ¬w.reactions (.reject scope p))
    (hcancel : ¬w.reactions onCancel) (hsettled : ∀ s, ¬w.events (.settled p s))
    (hpushed : ∀ cmd, command = .ok cmd → ¬w.events (.pushed cmd)) :
    Frame w rt (rt.executor scope p onCancel command) := by
  unfold Runtime.executor
  split
  · exact onCancelRequested hreject
  · have hregister : Frame w rt
        (if (rt.scope scope).cancellable then rt.onCancelRequested scope onCancel else rt) := by
      split
      · exact onCancelRequested hcancel
      · exact refl w rt
    refine hregister.trans ?_
    cases command with
    | error err => exact settle (hsettled _)
    | ok cmd => exact (pushCommand (hpushed cmd rfl)).trans (setCompletion ht)

/-- A job that resolves an operation that is not watched. -/
lemma consumeCompletion {type : CompletionType} {seq : Option Seq} {resolution : Resolution}
    {settlement : Seq → Except JsError (Option Settlement)} (ht : ¬w.types type)
    (hresolved : ∀ q, ¬w.events (.resolved type q resolution))
    (hsettled : ∀ q s, ¬w.events (.settled ⟨type, q⟩ s)) :
    Frame w rt (rt.consumeCompletion type seq resolution settlement) := by
  unfold Runtime.consumeCompletion maybeConsumeCompletion
  cases seq with
  | none => exact emit (w.not_thrown _)
  | some q =>
    cases hl : (rt.completions type).lookup q with
    | none => simpa [getSeq, hl] using emit (w.not_thrown _)
    | some c =>
      have hconsumed : Frame w rt ((rt.deleteCompletion type q).emit (.resolved type q resolution)) :=
        (deleteCompletion ht).trans (emit (hresolved q))
      simp only [getSeq, hl]
      cases settlement q with
      | error err => exact hconsumed.trans (emit (w.not_thrown err))
      | ok s =>
        cases s with
        | none => exact hconsumed
        | some s => exact hconsumed.trans (settle (hsettled q s))

/-! ### Frames of whole steps -/

lemma newScope (hw : w.IgnoresScopes) {cancellable : Bool} {parent : ScopeId} :
    Frame w rt (rt.newScope cancellable parent) := by
  refine ⟨fun _ _ => rfl, fun _ _ => rfl, fun r h => ?_, ⟨[], by simp [Runtime.newScope]⟩,
    fun h => h, fun h => ?_, fun h => absurd h hw.scopes⟩
  · have hne : r ≠ .propagate parent rt.scopes.length := by
      rintro rfl
      exact hw.propagate _ _ h
    rcases Nat.lt_or_ge parent rt.loop.newPromise.promises.length with hp | hp
    · simp [Runtime.newScope, EventLoop.pending_register _ hp, Multiset.count_cons_of_ne hne]
    · simp [Runtime.newScope, EventLoop.register, EventLoop.rejected_of_length_le _ hp,
        EventLoop.setPromise_of_length_le _ hp]
  · simpa [WellFormed, Runtime.newScope] using h

lemma cancel (hw : w.IgnoresScopes) {scope : ScopeId} : Frame w rt (rt.cancel scope) :=
  (emit (hw.cancelCalled scope)).trans (rejectScope hw.scopes)

section Timers

variable (h : w.IgnoresTimers)
include h

lemma nextTimerSeq : Frame w rt (rt.nextSeq .timer) := by
  refine nextSeq fun type ht hc => ?_
  cases type <;> simp_all [CompletionType.counter, h.types]

lemma timerNextHandler {scope : ScopeId} {seq : Seq} {durationMs : JsNumber} :
    Frame w rt (rt.timerNextHandler scope seq durationMs) := by
  refine executor h.types (h.reject scope seq) (h.cancelTimer scope seq) (h.settled seq) ?_
  intro cmd hcmd
  refine h.pushed cmd ?_
  cases hts : msNumberToTs durationMs with
  | error err => simp [hts, Except.map] at hcmd
  | ok ts =>
    simp only [hts, Except.map, Except.ok.injEq] at hcmd
    rw [← hcmd]
    rfl

lemma sleep {V : Type} {env : Env V} {scope : ScopeId} {ms : Duration} :
    Frame w rt (rt.sleep env scope ms) := by
  unfold Runtime.sleep
  cases msToNumber env.parseMs ms with
  | error err => exact (nextTimerSeq h).trans (emit (w.not_thrown err))
  | ok ms => exact (nextTimerSeq h).trans (timerNextHandler h)

lemma setTimeout {ms : JsNumber} : Frame w rt (rt.setTimeout ms) := by
  unfold Runtime.setTimeout
  cases msNumberToTs ms.max1 with
  | error err =>
    exact (nextTimerSeq h).trans ((setCompletion h.types).trans (settle (h.settled _ _)))
  | ok ts =>
    exact (nextTimerSeq h).trans ((setCompletion h.types).trans (pushCommand (h.pushed _ rfl)))

lemma clearTimeout {handle : Seq} : Frame w rt (rt.clearTimeout handle) :=
  (nextTimerSeq h).trans ((deleteCompletion h.types).trans
    ((pushCommand (h.pushed _ rfl)).trans (emit (h.cleared handle))))

lemma fireTimer {seq : Option Seq} : Frame w rt (rt.fireTimer seq) := by
  unfold Runtime.fireTimer
  cases seq with
  | none => exact emit (w.not_thrown _)
  | some q =>
    have hfired : Frame w rt ((rt.deleteCompletion .timer q).emit (.fired q)) :=
      (deleteCompletion h.types).trans (emit (h.fired q))
    simp only [getSeq, maybeConsumeCompletion]
    cases (rt.completions .timer).lookup q with
    | none => exact hfired
    | some c =>
      cases c with
      | promise => exact hfired.trans (settle (h.settled _ _))
      | callback => exact hfired.trans ((settle (h.settled _ _)).trans (enqueue (h.timeoutCallback q)))
      | dead => exact hfired

end Timers

section Operations

variable (h : w.IgnoresOperations) {V : Type} {env : Env V} {scope : ScopeId}
include h

lemma nextOperationSeq {c : Counter} (hc : c ≠ .timer) : Frame w rt (rt.nextSeq c) := by
  refine nextSeq fun type ht => ?_
  by_cases htimer : type = .timer
  · rw [htimer]
    exact hc.symm
  · exact absurd ht (h.types type htimer)

lemma operation {kind : OpKind} {p : PromiseRef} {command : Except JsError Command}
    (hp : p.type ≠ .timer) (hcommand : ∀ cmd, command = .ok cmd → cmd.isTimer = false) :
    Frame w rt (rt.executor scope p (.cancel kind p.seq) command) :=
  executor (h.types _ hp) (h.reject scope p hp) (h.cancel kind p.seq) (fun s => h.settled p s hp)
    fun cmd hcmd => h.pushed cmd (hcommand cmd hcmd)

lemma scheduleActivity {activityType : String} {args : List V} {options : Option ActivityOptions} :
    Frame w rt (rt.scheduleActivity env scope activityType args options) := by
  cases options with
  | none => exact emit (w.not_thrown _)
  | some options =>
    refine (nextOperationSeq h (by decide : Counter.activity ≠ .timer)).trans ?_
    simp only [Runtime.scheduleActivity, scheduleActivityNextHandler]
    split
    · exact emit (w.not_thrown _)
    · refine operation (p := ⟨.activity, _⟩) h (by simp) fun cmd hcmd => ?_
      obtain ⟨a, rfl, -⟩ := env.scheduleActivityCommand_ok hcmd
      rfl

lemma scheduleLocalActivity {activityType : String} {args : List V}
    {options : Option LocalActivityOptions} {attempt : ℕ} {originalScheduleTime : Option Timestamp} :
    Frame w rt
      (rt.scheduleLocalActivity env scope activityType args options attempt originalScheduleTime) := by
  cases options with
  | none => exact emit (w.not_thrown _)
  | some options =>
    refine (nextOperationSeq h (by decide : Counter.activity ≠ .timer)).trans ?_
    simp only [Runtime.scheduleLocalActivity, scheduleLocalActivityNextHandler]
    split
    · exact settle (h.settled ⟨.activity, _⟩ _ (by simp))
    · split
      · exact settle (h.settled ⟨.activity, _⟩ _ (by simp))
      · refine operation (p := ⟨.activity, _⟩) h (by simp) fun cmd hcmd => ?_
        obtain ⟨a, rfl, -⟩ := env.scheduleLocalActivityCommand_ok hcmd
        rfl

lemma startChild {workflowType : String} {options : ChildWorkflowOptions V} {uuid : String} :
    Frame w rt (rt.startChild env scope workflowType options uuid) := by
  refine (nextOperationSeq h (by decide : Counter.childWorkflow ≠ .timer)).trans ?_
  refine Frame.trans (operation (p := ⟨.childWorkflowStart, _⟩) h (by simp) fun cmd hcmd => ?_)
    (setCompletion (h.types _ (by decide)))
  obtain ⟨a, rfl, -⟩ := env.startChildWorkflowExecutionCommand_ok hcmd
  rfl

lemma signal {target : SignalTarget} {signalName : String} {args : List V} :
    Frame w rt (rt.signal env scope target signalName args) := by
  refine (nextOperationSeq h (by decide : Counter.signalWorkflow ≠ .timer)).trans ?_
  refine operation (p := ⟨.signalWorkflow, _⟩) h (by simp) fun cmd hcmd => ?_
  obtain ⟨a, rfl, -⟩ := env.signalExternalWorkflowExecutionCommand_ok hcmd
  rfl

lemma resolveOperation {type : CompletionType} {seq : Option Seq} {resolution : Resolution}
    {settlement : Seq → Except JsError (Option Settlement)} (ht : type ≠ .timer) :
    Frame w rt (rt.consumeCompletion type seq resolution settlement) :=
  consumeCompletion (h.types type ht) (fun q => h.resolved type q resolution)
    fun q s => h.settled ⟨type, q⟩ s ht

end Operations

/-- Running a reaction that is not watched. -/
lemma react {r : Reaction} {loop : EventLoop Reaction} (hn : rt.loop.next = some (r, loop))
    (h : w.Ignores r.concern) : Frame w rt ({ rt with loop := loop }.react r) := by
  cases r with
  | propagate parent child =>
    have h : w.IgnoresScopes := h
    exact (next hn (h.propagate _ _)).trans (rejectScope h.scopes)
  | reject scope p =>
    by_cases hp : p.type = .timer
    · obtain ⟨type, seq⟩ := p
      obtain rfl : type = .timer := hp
      have h : w.IgnoresTimers := h
      exact (next hn (h.reject scope seq)).trans (settle (h.settled seq _))
    · have h : w.IgnoresOperations := by
        simpa only [Reaction.concern, if_neg hp, Watch.Ignores] using h
      exact (next hn (h.reject scope p hp)).trans (settle (h.settled p _ hp))
  | cancel kind seq =>
    have h : w.IgnoresOperations := h
    refine (next hn (h.cancel kind seq)).trans ?_
    simp only [Runtime.react, cancelOperation]
    split
    · exact pushCommand (h.pushed _ (by cases kind <;> rfl))
    · exact refl w _
  | cancelTimer scope seq =>
    have h : w.IgnoresTimers := h
    refine (next hn (h.cancelTimer scope seq)).trans ?_
    simp only [Runtime.react, Runtime.cancelTimer]
    split
    · exact (deleteCompletion h.types).trans
        ((pushCommand (h.pushed _ rfl)).trans (settle (h.settled seq _)))
    · exact refl w _
  | rejectChild seq err =>
    have h : w.IgnoresOperations := h
    exact (next hn (w.not_rejectChild _ _)).trans (settle (h.settled _ _ (by simp)))
  | timeoutCallback seq =>
    have h : w.IgnoresTimers := h
    exact (next hn (h.timeoutCallback seq)).trans (emit (h.callback seq))

lemma runJob {V : Type} {env : Env V} {job : Job} (h : w.Ignores job.concern) :
    Frame w rt (rt.runJob env job) := by
  cases job with
  | fireTimer seq => exact fireTimer h
  | resolveActivity seq result =>
    cases result with
    | none => exact emit (w.not_thrown _)
    | some result => exact resolveOperation h (by simp)
  | resolveChildWorkflowExecutionStart seq status => exact resolveOperation h (by simp)
  | resolveChildWorkflowExecution seq result =>
    cases result with
    | none => exact emit (w.not_thrown _)
    | some result => exact resolveOperation h (by simp)
  | resolveSignalExternalWorkflow seq failure => exact resolveOperation h (by simp)
  | cancelWorkflow => exact cancel h

end Frame

lemma eq_of_inScope {rt rt' rt'' : Runtime} {scope : ScopeId} (h : rt.inScope scope rt' = some rt'') :
    scope < rt.scopes.length ∧ rt' = rt'' := by
  unfold inScope at h
  split at h
  · rename_i hs
    exact ⟨hs, Option.some.inj h⟩
  · cases h

/-- A step leaves alone what is watched when its concern is ignored. -/
theorem Frame.step {V : Type} {env : Env V} {w : Watch} {rt rt' : Runtime} {input : Input V}
    (hstep : rt.step env input = some rt') (h : w.Ignores (rt.concern input)) : Frame w rt rt' := by
  cases input with
  | newScope cancellable parent =>
    obtain ⟨-, rfl⟩ := eq_of_inScope hstep
    exact Frame.newScope h
  | cancel scope =>
    obtain ⟨-, rfl⟩ := eq_of_inScope hstep
    exact Frame.cancel h
  | sleep scope ms =>
    obtain ⟨-, rfl⟩ := eq_of_inScope hstep
    exact Frame.sleep h
  | setTimeout ms =>
    cases hstep
    exact Frame.setTimeout h
  | clearTimeout handle =>
    cases hstep
    exact Frame.clearTimeout h
  | scheduleActivity scope activityType args options =>
    obtain ⟨-, rfl⟩ := eq_of_inScope hstep
    exact Frame.scheduleActivity h
  | scheduleLocalActivity scope activityType args options attempt originalScheduleTime =>
    obtain ⟨-, rfl⟩ := eq_of_inScope hstep
    exact Frame.scheduleLocalActivity h
  | startChild scope workflowType options uuid =>
    obtain ⟨-, rfl⟩ := eq_of_inScope hstep
    exact Frame.startChild h
  | signal scope target signalName args =>
    obtain ⟨-, rfl⟩ := eq_of_inScope hstep
    exact Frame.signal h
  | push cmd complete =>
    simp only [Runtime.step] at hstep
    split at hstep
    · rename_i hf
      cases hstep
      exact Frame.pushCommand (w.not_foreign cmd hf)
    · cases hstep
  | activate isReplaying =>
    cases hstep
    exact ⟨fun _ _ => rfl, fun _ _ => rfl, fun _ _ => rfl, ⟨[], by simp⟩, id, id,
      fun _ => ScopesKept.of_eq rfl rfl⟩
  | job job =>
    cases hstep
    exact Frame.runJob h
  | microtask =>
    simp only [Runtime.step, microtask] at hstep
    cases hn : rt.loop.next with
    | none => simp [hn] at hstep
    | some rl =>
      obtain ⟨r, loop⟩ := rl
      simp only [hn, Option.some.injEq] at hstep
      rw [← hstep]
      exact Frame.react hn (by simpa [concern, hn] using h)

lemma step_frame {V : Type} {env : Env V} {rt rt' : Runtime} {input : Input V}
    (hstep : rt.step env input = some rt') : Frame .nothing rt rt' :=
  Frame.step hstep (Watch.ignores_nothing _)

end Runtime

end TemporalSdk
