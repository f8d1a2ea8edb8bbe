import TemporalSdk.Library.EventLog
import TemporalSdk.Library.Transition
import TemporalSdk.Workflow.Frame

/-!
# The life of a timer

`sleep` and `setTimeout` share one counter and one map of completions. Everything that
concerns the timer with a given number is its `TimerView`, and a run in which `clearTimeout`
is only given live timers moves each timer through the few phases of `TimerPhase`.
-/

namespace TemporalSdk

open EventLog

variable {V : Type} {env : Env V} {rt rt' : Runtime}

/-- What the log says about the timer with one number: whether it has been started and has
neither fired nor been cancelled, how many `CancelTimer` commands were pushed, how often its
promise was settled and its callback called, and whether it was cleared. -/
structure TimerHistory where
  live : Bool
  cancels : ℕ
  settlements : ℕ
  calls : ℕ
  cleared : Bool
deriving DecidableEq

namespace TimerHistory

def log (q : Seq) (h : TimerHistory) : Event → TimerHistory
  | .pushed (.startTimer seq _) => if seq = q then { h with live := true } else h
  | .pushed (.cancelTimer seq) =>
    if seq = q then { h with live := false, cancels := h.cancels + 1 } else h
  | .fired seq => if seq = q then { h with live := false } else h
  | .settled p _ => if p = ⟨.timer, q⟩ then { h with settlements := h.settlements + 1 } else h
  | .callback seq => if seq = q then { h with calls := h.calls + 1 } else h
  | .cleared seq => if seq = q then { h with cleared := true } else h
  | _ => h

def empty : TimerHistory := ⟨false, 0, 0, 0, false⟩

end TimerHistory

def timerHistory (q : Seq) (log : List Event) : TimerHistory :=
  log.foldl (TimerHistory.log q) .empty

@[simp] lemma timerHistory_concat (q : Seq) (log : List Event) (e : Event) :
    timerHistory q (log ++ [e]) = (timerHistory q log).log q e := by
  simp [timerHistory]

/-- A timer is cancelled while it is live, and once; a callback does not run after its timer
was cleared. -/
def TimerAllowed (log : List Event) : Event → Prop
  | .pushed (.cancelTimer q) => (timerHistory q log).live = true ∧ (timerHistory q log).cancels = 0
  | .callback q => (timerHistory q log).cleared = false
  | _ => True

structure TimerLifecycle (rt : Runtime) : Prop where
  keys : ∀ q, q ∈ rt.completions .timer ↔ (timerHistory q rt.trace).live = true
  allowed : Admissible TimerAllowed rt.trace
  settled_once : ∀ q, (timerHistory q rt.trace).settlements ≤ 1
  called_once : ∀ q, (timerHistory q rt.trace).calls ≤ 1

/-- `clearTimeout` is given a live timer, and `setTimeout` a number of milliseconds that has
a timestamp. -/
def TimerCallsProper (rt : Runtime) : Input V → Prop
  | .clearTimeout handle => rt.buffer.completed = false → handle ∈ rt.completions .timer
  | .setTimeout ms => rt.buffer.completed = false → ms.max1.isFinite = true
  | _ => True

/-! ### The timer with one number -/

/-- Its completion, the reactions that will reject its promise and call its callback, and
its history. -/
structure TimerView where
  completion : Option Completion
  rejecting : ℕ
  calling : ℕ
  history : TimerHistory

def Reaction.rejectsTimer (q : Seq) : Reaction → Bool
  | reject _ p => p = ⟨.timer, q⟩
  | _ => false

@[simp] lemma Reaction.rejectsTimer_reject (q : Seq) (scope : ScopeId) (p : PromiseRef) :
    (reject scope p).rejectsTimer q = decide (p = ⟨.timer, q⟩) := rfl

@[simp] lemma Reaction.rejectsTimer_timeoutCallback (q seq : Seq) :
    (timeoutCallback seq).rejectsTimer q = false := rfl

namespace Runtime

def timer (rt : Runtime) (q : Seq) : TimerView where
  completion := (rt.completions .timer).lookup q
  rejecting := rt.loop.pending.countP (Reaction.rejectsTimer q ·)
  calling := rt.loop.pending.count (.timeoutCallback q)
  history := timerHistory q rt.trace

def watchTimers : Watch where
  scopes := False
  types type := type = .timer
  reactions
    | .reject _ p => p.type = .timer
    | .timeoutCallback _ => True
    | _ => False
  events
    | .pushed cmd => cmd.isTimer = true
    | .fired _ => True
    | .settled p _ => p.type = .timer
    | .callback _ => True
    | .cleared _ => True
    | _ => False
  propagate := False.elim
  not_rejectChild _ _ := id
  not_thrown _ := id
  not_foreign cmd h := by cases cmd <;> simp_all [Command.isForeign, Command.isTerminal, Command.isTimer]

lemma watchTimers_ignoresScopes : watchTimers.IgnoresScopes where
  scopes := id
  propagate _ _ := id
  cancelCalled _ := id

lemma watchTimers_ignoresOperations : watchTimers.IgnoresOperations where
  types type h := h
  reject scope p h := h
  cancel _ _ := id
  pushed cmd h := by simp [watchTimers, h]
  resolved _ _ _ := id
  settled p s h := h

lemma log_of_not_watched {q : Seq} {h : TimerHistory} {e : Event} (he : ¬watchTimers.events e) :
    h.log q e = h := by
  cases e with
  | pushed cmd => cases cmd <;> first | rfl | exact absurd rfl he
  | settled p s =>
    have hp : p ≠ ⟨.timer, q⟩ := by
      rintro rfl
      exact he rfl
    simp [TimerHistory.log, hp]
  | fired seq => exact absurd trivial he
  | callback seq => exact absurd trivial he
  | cleared handle => exact absurd trivial he
  | cancelCalled scope => rfl
  | resolved type seq resolution => rfl
  | thrown error => rfl

lemma allowed_of_not_watched {log : List Event} {e : Event} (he : ¬watchTimers.events e) :
    TimerAllowed log e := by
  cases e with
  | pushed cmd =>
    cases cmd with
    | cancelTimer seq => exact absurd rfl he
    | _ => trivial
  | callback seq => exact absurd trivial he
  | _ => trivial

lemma timer_of_frame (hf : Frame watchTimers rt rt') (q : Seq) : rt'.timer q = rt.timer q := by
  obtain ⟨es, htrace, hes⟩ := hf.trace
  have hhistory : timerHistory q rt'.trace = timerHistory q rt.trace := by
    rw [htrace]
    clear htrace
    induction es using List.reverseRecOn with
    | nil => simp
    | append_singleton es e ih =>
      rw [← List.append_assoc, timerHistory_concat, log_of_not_watched (hes e (by simp))]
      exact ih fun e' he' => hes e' (by simp [he'])
  have hrejecting : rt'.loop.pending.countP (Reaction.rejectsTimer q ·) =
      rt.loop.pending.countP (Reaction.rejectsTimer q ·) := by
    refine hf.countP_pending fun r hr => ?_
    cases r <;> simp_all [Reaction.rejectsTimer, watchTimers]
  simp only [timer, hf.completions .timer rfl, hrejecting, hhistory,
    hf.pending (.timeoutCallback q) trivial]

/-! ### How the parts of a step change a timer -/

lemma timer_emit (e : Event) (q : Seq) :
    (rt.emit e).timer q =
      { rt.timer q with history := (rt.timer q).history.log q e } := by
  simp [timer, emit]

lemma timer_pushCommand (hc : rt.buffer.completed = false) (cmd : Command) (complete : Bool) (q : Seq) :
    (rt.pushCommand cmd complete).timer q =
      { rt.timer q with history := (rt.timer q).history.log q (.pushed cmd) } := by
  simp [timer, Runtime.pushCommand, CommandBuffer.accepts, hc]

lemma timer_setCompletion (q q' : Seq) (c : Completion) :
    (rt.setCompletion .timer q' c).timer q =
      if q = q' then { rt.timer q with completion := some c } else rt.timer q := by
  simp only [timer, setCompletion, Function.update_self, OrderedMap.lookup_set]
  split <;> rfl

lemma timer_deleteCompletion (q q' : Seq) :
    (rt.deleteCompletion .timer q').timer q =
      if q = q' then { rt.timer q with completion := none } else rt.timer q := by
  simp only [timer, deleteCompletion, Function.update_self]
  split
  · rename_i h
    rw [h, AList.lookup_erase]
  · rename_i h
    rw [AList.lookup_erase_ne h]

lemma settle_timer (q : Seq) (s : Settlement) :
    rt.settle ⟨.timer, q⟩ s = rt.emit (.settled ⟨.timer, q⟩ s) := by
  cases s <;> rfl

lemma timer_enqueue_callback (q q' : Seq) :
    ({ rt with loop := rt.loop.enqueue (.timeoutCallback q') } : Runtime).timer q =
      if q = q' then { rt.timer q with calling := (rt.timer q).calling + 1 } else rt.timer q := by
  simp only [timer, EventLoop.pending_enqueue, Multiset.countP_cons,
    Reaction.rejectsTimer_timeoutCallback, Multiset.count_cons, Reaction.timeoutCallback.injEq]
  by_cases h : q = q' <;> simp [h]

lemma timer_register_reject (hwf : rt.WellFormed) {scope : ScopeId} (hs : scope < rt.scopes.length)
    (q q' : Seq) : (rt.onCancelRequested scope (.reject scope ⟨.timer, q'⟩)).timer q =
      if q = q' then { rt.timer q with rejecting := (rt.timer q).rejecting + 1 } else rt.timer q := by
  have hp : scope < rt.loop.promises.length := hwf ▸ hs
  simp only [timer, onCancelRequested, EventLoop.pending_register _ hp, Multiset.countP_cons,
    Reaction.rejectsTimer_reject, Multiset.count_cons]
  by_cases h : q = q'
  · simp [h]
  · simp [h, Ne.symm h]

lemma timer_next_reject {scope : ScopeId} {q' : Seq} {loop : EventLoop Reaction}
    (hn : rt.loop.next = some (.reject scope ⟨.timer, q'⟩, loop)) (q : Seq) :
    rt.timer q = if q = q' then
        { ({ rt with loop := loop } : Runtime).timer q with
          rejecting := (({ rt with loop := loop } : Runtime).timer q).rejecting + 1 }
      else ({ rt with loop := loop } : Runtime).timer q := by
  simp only [timer, EventLoop.pending_next _ hn, Multiset.countP_cons,
    Reaction.rejectsTimer_reject, Multiset.count_cons]
  by_cases h : q = q'
  · simp [h]
  · simp [h, Ne.symm h]

lemma timer_next_callback {q' : Seq} {loop : EventLoop Reaction}
    (hn : rt.loop.next = some (.timeoutCallback q', loop)) (q : Seq) :
    rt.timer q = if q = q' then
        { ({ rt with loop := loop } : Runtime).timer q with
          calling := (({ rt with loop := loop } : Runtime).timer q).calling + 1 }
      else ({ rt with loop := loop } : Runtime).timer q := by
  simp only [timer, EventLoop.pending_next _ hn, Multiset.countP_cons,
    Reaction.rejectsTimer_timeoutCallback, Multiset.count_cons, Reaction.timeoutCallback.injEq]
  by_cases h : q = q' <;> simp [h]

end Runtime

/-! ### Phases -/

/-- `sleeping` and `waiting` are the live timers of `sleep` and of `setTimeout`. A `sleep` in a
cancelled scope is `rejecting`, without a timer, until its promise is rejected. -/
inductive TimerPhase
  | unused
  | sleeping
  | waiting
  | rejecting
  | settled
  | cancelled
  | calling
  | called
  | cleared

def TimerPhase.view : TimerPhase → TimerView
  | unused => ⟨none, 0, 0, ⟨false, 0, 0, 0, false⟩⟩
  | sleeping => ⟨some .promise, 0, 0, ⟨true, 0, 0, 0, false⟩⟩
  | waiting => ⟨some .callback, 0, 0, ⟨true, 0, 0, 0, false⟩⟩
  | rejecting => ⟨none, 1, 0, ⟨false, 0, 0, 0, false⟩⟩
  | settled => ⟨none, 0, 0, ⟨false, 0, 1, 0, false⟩⟩
  | cancelled => ⟨none, 0, 0, ⟨false, 1, 1, 0, false⟩⟩
  | calling => ⟨none, 0, 1, ⟨false, 0, 1, 0, false⟩⟩
  | called => ⟨none, 0, 0, ⟨false, 0, 1, 1, false⟩⟩
  | cleared => ⟨none, 0, 0, ⟨false, 1, 0, 0, true⟩⟩

namespace Runtime

structure TimersInv (rt : Runtime) : Prop where
  wellFormed : rt.WellFormed
  allowed : Admissible TimerAllowed rt.trace
  phase : ∀ q, ∃ phase : TimerPhase, rt.timer q = phase.view
  unused : ∀ q, rt.nextSeqs .timer ≤ q → rt.timer q = TimerPhase.unused.view

lemma TimersInv.init : TimersInv Runtime.init where
  wellFormed := rfl
  allowed := admissible_nil
  phase _ := ⟨.unused, rfl⟩
  unused _ _ := rfl

/-- The invariant gives what is claimed of the timers. -/
lemma TimersInv.lifecycle (hinv : TimersInv rt) : TimerLifecycle rt := by
  have hhistory : ∀ q, ∃ phase : TimerPhase, (rt.completions .timer).lookup q = phase.view.completion ∧
      timerHistory q rt.trace = phase.view.history := by
    intro q
    obtain ⟨phase, hphase⟩ := hinv.phase q
    exact ⟨phase, congrArg TimerView.completion hphase, congrArg TimerView.history hphase⟩
  refine ⟨fun q => ?_, hinv.allowed, fun q => ?_, fun q => ?_⟩
  · obtain ⟨phase, hc, hh⟩ := hhistory q
    rw [← AList.lookup_isSome, hc, hh]
    cases phase <;> decide
  · obtain ⟨phase, -, hh⟩ := hhistory q
    rw [hh]
    cases phase <;> decide
  · obtain ⟨phase, -, hh⟩ := hhistory q
    rw [hh]
    cases phase <;> decide

lemma TimersInv.frame (hinv : TimersInv rt) (hf : Frame watchTimers rt rt') : TimersInv rt' := by
  obtain ⟨es, htrace, hes⟩ := hf.trace
  refine ⟨hf.wellFormed hinv.wellFormed, ?_, fun q => ?_, fun q hq => ?_⟩
  · rw [htrace]
    exact hinv.allowed.append_of_forall fun e he before => allowed_of_not_watched (hes e he)
  · rw [timer_of_frame hf]
    exact hinv.phase q
  · rw [timer_of_frame hf]
    exact hinv.unused q ((hf.nextSeqs .timer rfl).symm.trans_le hq)

/-- A step that moves one timer to another phase. -/
lemma TimersInv.move (hinv : TimersInv rt) (hwf : rt'.WellFormed)
    (hallowed : Admissible TimerAllowed rt'.trace) (hseqs : rt'.nextSeqs = rt.nextSeqs) {q : Seq}
    (hlt : q < rt.nextSeqs .timer) (phase : TimerPhase) (hq : rt'.timer q = phase.view)
    (hothers : ∀ q', q' ≠ q → rt'.timer q' = rt.timer q') : TimersInv rt' := by
  refine ⟨hwf, hallowed, fun q' => ?_, fun q' h => ?_⟩
  · by_cases h : q' = q
    · exact ⟨phase, h ▸ hq⟩
    · rw [hothers q' h]
      exact hinv.phase q'
  · rw [hseqs] at h
    rw [hothers q' (hlt.trans_le h).ne']
    exact hinv.unused q' h

lemma TimersInv.nextSeq (hinv : TimersInv rt) : TimersInv (rt.nextSeq .timer) where
  wellFormed := hinv.wellFormed
  allowed := hinv.allowed
  phase := hinv.phase
  unused q hq := by
    refine hinv.unused q ?_
    exact (nextSeqs_le_nextSeq .timer .timer).trans hq

/-- A number that is in use is a phase other than `unused`. -/
lemma TimersInv.lt_of_phase (hinv : TimersInv rt) {q : Seq} {phase : TimerPhase}
    (hphase : rt.timer q = phase.view) (hne : phase.view ≠ TimerPhase.unused.view) :
    q < rt.nextSeqs .timer := by
  by_contra h
  exact hne (hphase ▸ hinv.unused q (not_lt.mp h))

/-! ### The steps -/

section Steps

variable {q : Seq}

lemma TimersInv.allowed_emit (hinv : TimersInv rt) {e : Event} (he : TimerAllowed rt.trace e) :
    Admissible TimerAllowed (rt.emit e).trace :=
  admissible_concat.mpr ⟨hinv.allowed, he⟩

lemma trace_pushCommand (hc : rt.buffer.completed = false) (cmd : Command) (complete : Bool) :
    (rt.pushCommand cmd complete).trace = rt.trace ++ [.pushed cmd] := by
  simp [Runtime.pushCommand, CommandBuffer.accepts, hc]

/-- A new timer is started, and its completion stored. -/
lemma TimersInv.start (hinv : TimersInv rt) (hc : rt.buffer.completed = false)
    (hlt : q < rt.nextSeqs .timer) (hunused : rt.timer q = TimerPhase.unused.view) (ts : Timestamp) :
    TimersInv ((rt.pushCommand (.startTimer q ts) false).setCompletion .timer q .promise) := by
  refine hinv.move hinv.wellFormed ?_ rfl hlt .sleeping ?_ fun q' h => ?_
  · show Admissible TimerAllowed (rt.pushCommand (.startTimer q ts) false).trace
    rw [trace_pushCommand hc]
    exact hinv.allowed_emit (e := .pushed (.startTimer q ts)) trivial
  · rw [timer_setCompletion, if_pos rfl, timer_pushCommand hc, hunused]
    simp [TimerHistory.log, TimerPhase.view]
  · rw [timer_setCompletion, if_neg h, timer_pushCommand hc]
    simp [TimerHistory.log, Ne.symm h]

lemma TimersInv.timerNextHandler (hinv : TimersInv rt) (hc : rt.buffer.completed = false)
    {scope : ScopeId} (hs : scope < rt.scopes.length) (hlt : q < rt.nextSeqs .timer)
    (hunused : rt.timer q = TimerPhase.unused.view) (durationMs : JsNumber) :
    TimersInv (rt.timerNextHandler scope q durationMs) := by
  unfold Runtime.timerNextHandler Runtime.executor
  split
  · refine hinv.move ?_ hinv.allowed rfl hlt .rejecting ?_ fun q' h => ?_
    · simpa [WellFormed, onCancelRequested] using hinv.wellFormed
    · rw [timer_register_reject hinv.wellFormed hs, if_pos rfl, hunused]
      rfl
    · rw [timer_register_reject hinv.wellFormed hs, if_neg h]
  · dsimp only
    generalize hrt₁ : (if (rt.scope scope).cancellable = true then
      rt.onCancelRequested scope (.cancelTimer scope q) else rt) = rt₁
    have hframe : Frame watchTimers rt rt₁ := by
      rw [← hrt₁]
      split
      · exact Frame.onCancelRequested (by simp [watchTimers])
      · exact Frame.refl _ rt
    have hc₁ : rt₁.buffer.completed = false := by
      rw [← hrt₁]
      split <;> exact hc
    have hinv₁ := hinv.frame hframe
    have hlt₁ : q < rt₁.nextSeqs .timer := (hframe.nextSeqs .timer rfl).symm ▸ hlt
    have hunused₁ : rt₁.timer q = TimerPhase.unused.view := (timer_of_frame hframe q).trans hunused
    cases msNumberToTs durationMs with
    | ok ts => exact hinv₁.start hc₁ hlt₁ hunused₁ ts
    | error err =>
      simp only [Except.map, settle_timer]
      refine hinv₁.move hinv₁.wellFormed (hinv₁.allowed_emit trivial) rfl hlt₁ .settled ?_
        fun q' h => ?_
      · rw [timer_emit, hunused₁]
        simp [TimerHistory.log, TimerPhase.view]
      · rw [timer_emit]
        simp [TimerHistory.log, Ne.symm h]

lemma TimersInv.sleep (hinv : TimersInv rt) (hc : rt.buffer.completed = false) {scope : ScopeId}
    (hs : scope < rt.scopes.length) {ms : Duration} : TimersInv (rt.sleep env scope ms) := by
  unfold Runtime.sleep
  cases msToNumber env.parseMs ms with
  | error err => exact hinv.nextSeq.frame (Frame.emit id)
  | ok ms =>
    refine hinv.nextSeq.timerNextHandler hc hs ?_ (hinv.unused _ le_rfl) _
    simp [Runtime.nextSeq]

lemma TimersInv.setTimeout (hinv : TimersInv rt) (hc : rt.buffer.completed = false) {ms : JsNumber}
    (hms : ms.max1.isFinite = true) : TimersInv (rt.setTimeout ms) := by
  unfold Runtime.setTimeout
  cases hts : msNumberToTs ms.max1 with
  | error err =>
    have hok := msNumberToTs_isOk ms.max1
    rw [hts, hms] at hok
    cases hok
  | ok ts =>
    dsimp only
    have hcs : ((rt.nextSeq .timer).setCompletion .timer (rt.nextSeqs .timer) .callback).buffer.completed =
      false := hc
    refine hinv.nextSeq.move (q := rt.nextSeqs .timer) hinv.wellFormed ?_ rfl
      (by simp [Runtime.nextSeq]) .waiting ?_ fun q' h => ?_
    · rw [trace_pushCommand hcs]
      exact hinv.allowed_emit (e := .pushed (.startTimer (rt.nextSeqs .timer) ts)) trivial
    · rw [timer_pushCommand hcs, timer_setCompletion, if_pos rfl]
      have hunused : (rt.nextSeq .timer).timer (rt.nextSeqs .timer) = TimerPhase.unused.view :=
        hinv.unused _ le_rfl
      rw [hunused]
      simp [TimerHistory.log, TimerPhase.view]
    · rw [timer_pushCommand hcs, timer_setCompletion, if_neg h]
      simp [TimerHistory.log, Ne.symm h]

/-- A timer in the map is live. -/
lemma TimersInv.live (hinv : TimersInv rt) (hq : q ∈ rt.completions .timer) :
    rt.timer q = TimerPhase.sleeping.view ∨ rt.timer q = TimerPhase.waiting.view := by
  obtain ⟨phase, hphase⟩ := hinv.phase q
  have hcompletion : (rt.completions .timer).lookup q = phase.view.completion :=
    congrArg TimerView.completion hphase
  have hsome := AList.lookup_isSome.mpr hq
  rw [hcompletion] at hsome
  cases phase with
  | sleeping => exact Or.inl hphase
  | waiting => exact Or.inr hphase
  | _ => cases hsome

/-- Cancelling a live timer, by its scope or by `clearTimeout`, takes it out of the map. -/
lemma TimersInv.allowed_cancel (hinv : TimersInv rt) (hc : rt.buffer.completed = false)
    (hq : q ∈ rt.completions .timer) : Admissible TimerAllowed
      ((rt.deleteCompletion .timer q).pushCommand (.cancelTimer q) false).trace := by
  have hcd : (rt.deleteCompletion .timer q).buffer.completed = false := hc
  rw [trace_pushCommand hcd]
  refine hinv.allowed_emit (e := .pushed (.cancelTimer q)) ?_
  have hhistory : timerHistory q rt.trace = (rt.timer q).history := rfl
  simp only [TimerAllowed, hhistory]
  rcases hinv.live hq with h | h <;> simp [h, TimerPhase.view]

lemma timer_cancel (hc : rt.buffer.completed = false) (q' : Seq) :
    ((rt.deleteCompletion .timer q).pushCommand (.cancelTimer q) false).timer q' =
      if q' = q then { rt.timer q with
        completion := none
        history := (rt.timer q).history.log q (.pushed (.cancelTimer q)) }
      else rt.timer q' := by
  have hcd : (rt.deleteCompletion .timer q).buffer.completed = false := hc
  rw [timer_pushCommand hcd, timer_deleteCompletion]
  by_cases h : q' = q
  · subst h
    simp
  · simp [h, TimerHistory.log, Ne.symm h]

lemma TimersInv.clearTimeout (hinv : TimersInv rt) (hc : rt.buffer.completed = false)
    (hq : q ∈ rt.completions .timer) : TimersInv (rt.clearTimeout q) := by
  have hcn : (rt.nextSeq .timer).buffer.completed = false := hc
  have hlt : q < (rt.nextSeq .timer).nextSeqs .timer := by
    rcases hinv.nextSeq.live hq with h | h
    · exact hinv.nextSeq.lt_of_phase h (by simp [TimerPhase.view])
    · exact hinv.nextSeq.lt_of_phase h (by simp [TimerPhase.view])
  refine hinv.nextSeq.move hinv.wellFormed ?_ rfl hlt .cleared ?_ fun q' h => ?_
  · exact admissible_concat.mpr ⟨hinv.nextSeq.allowed_cancel hcn hq, trivial⟩
  · unfold Runtime.clearTimeout
    rw [timer_emit, timer_cancel hcn, if_pos rfl]
    rcases hinv.nextSeq.live hq with h | h <;> simp [h, TimerHistory.log, TimerPhase.view]
  · unfold Runtime.clearTimeout
    rw [timer_emit, timer_cancel hcn, if_neg h]
    simp [TimerHistory.log, Ne.symm h]

/-- A job for a timer that is not in the map changes nothing. -/
lemma TimersInv.fire_unknown (hinv : TimersInv rt) (hq : (rt.completions .timer).lookup q = none) :
    TimersInv ((rt.deleteCompletion .timer q).emit (.fired q)) := by
  have htimer : ∀ q', ((rt.deleteCompletion .timer q).emit (.fired q)).timer q' = rt.timer q' := by
    intro q'
    rw [timer_emit, timer_deleteCompletion]
    by_cases h : q' = q
    · subst h
      have hcompletion : (rt.timer q').completion = none := hq
      obtain ⟨phase, hphase⟩ := hinv.phase q'
      rw [hphase] at hcompletion ⊢
      cases phase <;> simp_all [TimerHistory.log, TimerPhase.view]
    · simp [h, TimerHistory.log, Ne.symm h]
  refine ⟨hinv.wellFormed, hinv.allowed_emit trivial, fun q' => ?_, fun q' h => ?_⟩
  · rw [htimer]
    exact hinv.phase q'
  · rw [htimer]
    exact hinv.unused q' h

lemma TimersInv.fireTimer (hinv : TimersInv rt) {seq : Option Seq} : TimersInv (rt.fireTimer seq) := by
  cases seq with
  | none => exact hinv.frame (Frame.emit id)
  | some q =>
    simp only [Runtime.fireTimer, getSeq, maybeConsumeCompletion]
    cases hl : (rt.completions .timer).lookup q with
    | none => exact hinv.fire_unknown hl
    | some c =>
      have hcompletion : (rt.timer q).completion = some c := hl
      have hq : q ∈ rt.completions .timer := AList.lookup_isSome.mp (by simp [hl])
      rcases hinv.live hq with h | h
      · rw [h] at hcompletion
        cases hcompletion
        have hlt := hinv.lt_of_phase h (by simp [TimerPhase.view])
        simp only [resolveTimer, settle_timer]
        refine hinv.move hinv.wellFormed ?_ rfl hlt .settled ?_ fun q' h' => ?_
        · exact admissible_concat.mpr ⟨hinv.allowed_emit (e := .fired q) trivial, trivial⟩
        · rw [timer_emit, timer_emit, timer_deleteCompletion, if_pos rfl, h]
          simp [TimerHistory.log, TimerPhase.view]
        · rw [timer_emit, timer_emit, timer_deleteCompletion, if_neg h']
          simp [TimerHistory.log, Ne.symm h']
      · rw [h] at hcompletion
        cases hcompletion
        have hlt := hinv.lt_of_phase h (by simp [TimerPhase.view])
        simp only [resolveTimer, settle_timer]
        refine hinv.move hinv.wellFormed ?_ rfl hlt .calling ?_ fun q' h' => ?_
        · exact admissible_concat.mpr ⟨hinv.allowed_emit (e := .fired q) trivial, trivial⟩
        · rw [timer_enqueue_callback, if_pos rfl, timer_emit, timer_emit, timer_deleteCompletion,
            if_pos rfl, h]
          simp [TimerHistory.log, TimerPhase.view]
        · rw [timer_enqueue_callback, if_neg h', timer_emit, timer_emit, timer_deleteCompletion,
            if_neg h']
          simp [TimerHistory.log, Ne.symm h']

lemma TimersInv.cancelTimer (hinv : TimersInv rt) (hc : rt.buffer.completed = false) {scope : ScopeId} :
    TimersInv (rt.cancelTimer scope q) := by
  unfold Runtime.cancelTimer
  split
  · rename_i hq
    rw [settle_timer]
    have hlt : q < rt.nextSeqs .timer := by
      rcases hinv.live hq with h | h
      · exact hinv.lt_of_phase h (by simp [TimerPhase.view])
      · exact hinv.lt_of_phase h (by simp [TimerPhase.view])
    refine hinv.move hinv.wellFormed ?_ rfl hlt .cancelled ?_ fun q' h' => ?_
    · exact admissible_concat.mpr ⟨hinv.allowed_cancel hc hq, trivial⟩
    · rw [timer_emit, timer_cancel hc, if_pos rfl]
      rcases hinv.live hq with h | h <;> simp [h, TimerHistory.log, TimerPhase.view]
    · rw [timer_emit, timer_cancel hc, if_neg h']
      simp [TimerHistory.log, Ne.symm h']
  · exact hinv

variable {loop : EventLoop Reaction}

/-- The promise of a `sleep` in a cancelled scope is rejected. -/
lemma TimersInv.reject (hinv : TimersInv rt) {scope : ScopeId}
    (hn : rt.loop.next = some (.reject scope ⟨.timer, q⟩, loop)) :
    TimersInv (({ rt with loop := loop } : Runtime).react (.reject scope ⟨.timer, q⟩)) := by
  have hwf : ({ rt with loop := loop } : Runtime).WellFormed :=
    (Frame.next (w := .nothing) hn id).wellFormed hinv.wellFormed
  have hq := timer_next_reject hn q
  rw [if_pos rfl] at hq
  obtain ⟨phase, hphase⟩ := hinv.phase q
  have hrejecting : phase = .rejecting := by
    have h := congrArg TimerView.rejecting (hphase.symm.trans hq)
    cases phase <;> simp [TimerPhase.view] at h ⊢
  subst hrejecting
  rw [hphase] at hq
  simp only [react, settle_timer]
  refine hinv.move hwf (hinv.allowed_emit trivial) rfl
    (hinv.lt_of_phase hphase (by simp [TimerPhase.view])) .settled ?_ fun q' h' => ?_
  · rw [timer_emit]
    generalize ({ rt with loop := loop } : Runtime).timer q = view at hq ⊢
    obtain ⟨completion, rejecting, calling, history⟩ := view
    simp only [TimerPhase.view, TimerView.mk.injEq] at hq
    obtain ⟨rfl, hr, rfl, rfl⟩ := hq
    obtain rfl : rejecting = 0 := by omega
    simp [TimerHistory.log, TimerPhase.view]
  · have hq' := timer_next_reject hn q'
    rw [if_neg h'] at hq'
    rw [timer_emit, hq']
    simp [TimerHistory.log, Ne.symm h']

/-- A callback runs, once, and its timer has not been cleared. -/
lemma TimersInv.timeoutCallback (hinv : TimersInv rt)
    (hn : rt.loop.next = some (.timeoutCallback q, loop)) :
    TimersInv (({ rt with loop := loop } : Runtime).react (.timeoutCallback q)) := by
  have hwf : ({ rt with loop := loop } : Runtime).WellFormed :=
    (Frame.next (w := .nothing) hn id).wellFormed hinv.wellFormed
  have hq := timer_next_callback hn q
  rw [if_pos rfl] at hq
  obtain ⟨phase, hphase⟩ := hinv.phase q
  have hcalling : phase = .calling := by
    have h := congrArg TimerView.calling (hphase.symm.trans hq)
    cases phase <;> simp [TimerPhase.view] at h ⊢
  subst hcalling
  have hcleared : (timerHistory q rt.trace).cleared = false :=
    congrArg (fun view => view.history.cleared) hphase
  rw [hphase] at hq
  refine hinv.move hwf (hinv.allowed_emit (e := .callback q) hcleared) rfl
    (hinv.lt_of_phase hphase (by simp [TimerPhase.view])) .called ?_ fun q' h' => ?_
  · simp only [react, timer_emit]
    generalize ({ rt with loop := loop } : Runtime).timer q = view at hq ⊢
    obtain ⟨completion, rejecting, calling, history⟩ := view
    simp only [TimerPhase.view, TimerView.mk.injEq] at hq
    obtain ⟨rfl, rfl, hr, rfl⟩ := hq
    obtain rfl : calling = 0 := by omega
    simp [TimerHistory.log, TimerPhase.view]
  · have hq' := timer_next_callback hn q'
    rw [if_neg h'] at hq'
    simp only [react, timer_emit, hq']
    simp [TimerHistory.log, Ne.symm h']

end Steps

/-! ### Runs -/

lemma TimersInv.microtask (hinv : TimersInv rt) (hc : rt.buffer.completed = false)
    (hstep : rt.microtask = some rt') : TimersInv rt' := by
  unfold Runtime.microtask at hstep
  cases hn : rt.loop.next with
  | none => simp [hn] at hstep
  | some rl =>
    obtain ⟨r, loop⟩ := rl
    simp only [hn, Option.some.injEq] at hstep
    subst hstep
    cases r with
    | reject scope p =>
      by_cases hp : p.type = .timer
      · obtain ⟨type, q⟩ := p
        obtain rfl : type = .timer := hp
        exact hinv.reject hn
      · refine hinv.frame (Frame.react hn ?_)
        simpa only [Reaction.concern, if_neg hp, Watch.Ignores] using watchTimers_ignoresOperations
    | cancelTimer scope q =>
      exact (hinv.frame (Frame.next hn (by simp [watchTimers]))).cancelTimer hc
    | timeoutCallback q => exact hinv.timeoutCallback hn
    | propagate parent child => exact hinv.frame (Frame.react hn watchTimers_ignoresScopes)
    | cancel kind q => exact hinv.frame (Frame.react hn watchTimers_ignoresOperations)
    | rejectChild q err => exact hinv.frame (Frame.react hn watchTimers_ignoresOperations)

lemma TimersInv.step {input : Input V} (hinv : TimersInv rt) (hc : rt.buffer.completed = false)
    (hproper : TimerCallsProper rt input) (hstep : rt.step env input = some rt') : TimersInv rt' := by
  have hframe : watchTimers.Ignores (rt.concern input) → TimersInv rt' :=
    fun h => hinv.frame (Frame.step hstep h)
  cases input with
  | sleep scope ms =>
    obtain ⟨hs, rfl⟩ := eq_of_inScope hstep
    exact hinv.sleep hc hs
  | setTimeout ms =>
    cases hstep
    exact hinv.setTimeout hc (hproper hc)
  | clearTimeout handle =>
    cases hstep
    exact hinv.clearTimeout hc (hproper hc)
  | job job =>
    cases job with
    | fireTimer seq =>
      cases hstep
      exact hinv.fireTimer
    | cancelWorkflow => exact hframe watchTimers_ignoresScopes
    | _ => exact hframe watchTimers_ignoresOperations
  | microtask => exact hinv.microtask hc hstep
  | newScope cancellable parent => exact hframe watchTimers_ignoresScopes
  | cancel scope => exact hframe watchTimers_ignoresScopes
  | push cmd complete => exact hframe trivial
  | activate isReplaying => exact hframe trivial
  | scheduleActivity scope activityType args options => exact hframe watchTimers_ignoresOperations
  | scheduleLocalActivity scope activityType args options attempt originalScheduleTime =>
    exact hframe watchTimers_ignoresOperations
  | startChild scope workflowType options uuid => exact hframe watchTimers_ignoresOperations
  | signal scope target signalName args => exact hframe watchTimers_ignoresOperations

/-- A call that is not proper breaks the life cycle at once. -/
lemma not_lifecycle_of_not_proper {input : Input V} (hinv : TimersInv rt)
    (hc : rt.buffer.completed = false) (hproper : ¬TimerCallsProper rt input)
    (hstep : rt.step env input = some rt') : rt'.buffer.completed = false ∧ ¬TimerLifecycle rt' := by
  cases input with
  | clearTimeout handle =>
    cases hstep
    simp only [TimerCallsProper, hc, forall_const] at hproper
    have hcd : ((rt.nextSeq .timer).deleteCompletion .timer handle).buffer.completed = false := hc
    refine ⟨?_, fun h => ?_⟩
    · simp [Runtime.clearTimeout, emit, Runtime.pushCommand, CommandBuffer.pushCommand, hcd,
        CommandBuffer.accepts]
    · have hallowed := Admissible.of_append h.allowed
      rw [trace_pushCommand hcd] at hallowed
      have hlive := ((admissible_concat.mp hallowed).2).1
      exact hproper ((hinv.lifecycle.keys handle).mpr hlive)
  | setTimeout ms =>
    cases hstep
    simp only [TimerCallsProper, hc, forall_const, Bool.not_eq_true] at hproper
    cases hts : msNumberToTs ms.max1 with
    | ok ts =>
      have hok := msNumberToTs_isOk ms.max1
      rw [hts, hproper] at hok
      cases hok
    | error err =>
      have hstate : rt.setTimeout ms = ((rt.nextSeq .timer).setCompletion .timer (rt.nextSeqs .timer)
          .dead).settle ⟨.timer, rt.nextSeqs .timer⟩ (.rejected err) := by
        simp only [Runtime.setTimeout, hts]
      rw [hstate, settle_timer]
      refine ⟨hc, fun h => ?_⟩
      have hkey := h.keys (rt.nextSeqs .timer)
      have hunused := congrArg TimerView.history (hinv.unused (rt.nextSeqs .timer) le_rfl)
      have hhistory : timerHistory (rt.nextSeqs .timer) rt.trace = TimerPhase.unused.view.history :=
        hunused
      simp [emit, Runtime.setCompletion, OrderedMap.mem_set, Runtime.nextSeq, hhistory,
        TimerHistory.log, TimerPhase.view] at hkey
  | _ => exact absurd trivial hproper

/-- In every run, the timers behave as they should until the workflow completes exactly if
`clearTimeout` is only given live timers and `setTimeout` only finite numbers. -/
theorem timerLifecycle_iff (env : Env V) (inputs : List (Input V)) (rt : Runtime)
    (hrun : Transition.run (Runtime.step env) Runtime.init inputs = some rt) :
    Transition.Throughout (Runtime.step env)
        (fun s => s.buffer.completed = false → TimerLifecycle s) Runtime.init inputs ↔
      Transition.Meets (Runtime.step env) TimerCallsProper Runtime.init inputs := by
  refine Transition.throughout_iff_meets (I := fun s => s.buffer.completed = false → TimersInv s)
    ?_ ?_ ?_ (fun _ => TimersInv.init) hrun
  · exact fun s hinv hc => (hinv hc).lifecycle
  · intro s i t hinv hproper hstep hc
    have hcs := (step_frame hstep).completed hc
    exact (hinv hcs).step hcs hproper hstep
  · intro s i t hinv hproper hstep
    have hcs : s.buffer.completed = false := by
      by_contra hcs
      refine hproper ?_
      cases i <;> simp_all [TimerCallsProper]
    obtain ⟨hct, hbroken⟩ := not_lifecycle_of_not_proper (hinv hcs) hcs hproper hstep
    exact fun h => hbroken (h hct)

/-- A `sleep`, and a `setTimeout` that is cleared. -/
theorem timerLifecycle_iff_clearTimeout :
    ∃ rt, Transition.run (Runtime.step Env.raw) Runtime.init
        [.sleep 0 (.number (.finite 5)), .setTimeout (.finite 5), .clearTimeout 2] = some rt ∧
      (Transition.Throughout (Runtime.step Env.raw)
          (fun s => s.buffer.completed = false → TimerLifecycle s) Runtime.init
          [.sleep 0 (.number (.finite 5)), .setTimeout (.finite 5), .clearTimeout 2] ↔
        Transition.Meets (Runtime.step Env.raw) TimerCallsProper Runtime.init
          [.sleep 0 (.number (.finite 5)), .setTimeout (.finite 5), .clearTimeout 2]) :=
  ⟨_, rfl, timerLifecycle_iff _ _ _ rfl⟩

/-- A timer that has fired is cleared: a second end is reported for it, and its callback runs
after it was cleared. -/
theorem timerLifecycle_broken_by_clearTimeout :
    ∃ rt, Transition.run (Runtime.step Env.raw) Runtime.init
        [.setTimeout (.finite 5), .job (.fireTimer (some 1)), .clearTimeout 1, .microtask] = some rt ∧
      rt.buffer.completed = false ∧ ¬TimerLifecycle rt := by
  refine ⟨_, rfl, rfl, fun h => ?_⟩
  have hcallback : true = false := (admissible_concat.mp h.allowed).2
  cases hcallback

end Runtime

end TemporalSdk
