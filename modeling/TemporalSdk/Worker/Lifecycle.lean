import TemporalSdk.Common.Errors
import TemporalSdk.Library.Merge
import TemporalSdk.Library.Transition

/-!
# The life cycle of a worker

`Worker.state` is written by `run`, by `shutdown`, by the continuation of Core's acknowledgement,
and by the callbacks of two merged streams: that of the two pollers, and that of the errors, the
force-shutdown timer, the heartbeats and the pollers.
-/

namespace TemporalSdk

inductive WorkerState
  | initialized
  | running
  | stopping
  | draining
  | drained
  | stopped
  | failed
deriving DecidableEq

/-- The streams that `run` merges. -/
inductive WorkerStream
  | unexpectedErrors
  | forceShutdown
  | activityHeartbeats
  | pollers
deriving DecidableEq

inductive Poller
  | workflow
  | activity
deriving DecidableEq

/-- What `run` depends on: is there a force-shutdown time, and are there workflows and activities? -/
structure LifecycleOptions where
  shutdownForceTime : Bool
  workflows : Bool
  activities : Bool
deriving DecidableEq

/-- Without a force-shutdown time, the stream of the timer completes at once. -/
def LifecycleOptions.streams (options : LifecycleOptions) : List WorkerStream :=
  if options.shutdownForceTime then [.unexpectedErrors, .forceShutdown, .activityHeartbeats, .pollers]
  else [.unexpectedErrors, .activityHeartbeats, .pollers]

/-- What is not registered is not polled for. -/
def LifecycleOptions.pollers (options : LifecycleOptions) : List Poller :=
  (if options.workflows then [.workflow] else []) ++ (if options.activities then [.activity] else [])

/-- `states` are the values of `state` so far, in order. `initiateShutdown` says that Core has yet to
settle the promise, `forceTimer` that the timer is running. -/
structure Worker where
  options : LifecycleOptions
  state : WorkerState
  states : List WorkerState
  streams : Merge WorkerStream
  pollers : Merge Poller
  initiateShutdown : Bool
  forceTimer : Bool

/-- What happens to a worker. In `pollerCompletes`, `flushing` says whether heartbeats are still being
sent when the last poller completes. -/
inductive WorkerEvent
  | run
  | shutdown
  | shutdownAcknowledged
  | shutdownRejected
  | unexpectedError
  | forceTimerFires
  | pollerCompletes (poller : Poller) (flushing : Bool)
  | pollerFails (poller : Poller)
  | heartbeatsComplete
  | heartbeatsFail
deriving DecidableEq

namespace Worker

variable (w : Worker)

def create (options : LifecycleOptions) : Worker :=
  ⟨options, .initialized, [.initialized], ⟨[], true⟩, ⟨[], true⟩, false, false⟩

def setState (state : WorkerState) : Worker := { w with state, states := w.states ++ [state] }

/-- One of the merged streams completes; with the last one, the worker is stopped. -/
def completeStream (stream : WorkerStream) : Worker :=
  let (streams, completed) := w.streams.complete stream
  let w := { w with streams }
  if completed then w.setState .stopped else w

/-- One of the merged streams fails: the others are unsubscribed from, and the worker has failed. -/
def failStream (stream : WorkerStream) : Worker :=
  let (streams, failed) := w.streams.fail stream
  if failed then
    { w with streams, pollers := w.pollers.unsubscribe, forceTimer := false }.setState .failed
  else w

/-- Both pollers have completed. The streams that are taken until the worker is drained complete
before the stream of the pollers does. -/
def pollersComplete (flushing : Bool) : Worker :=
  let w := w.setState .drained
  let w := w.completeStream .unexpectedErrors
  let w := { w.completeStream .forceShutdown with forceTimer := false }
  let w := if flushing then w else w.completeStream .activityHeartbeats
  w.completeStream .pollers

def run : Except JsError Worker :=
  if w.state ≠ .initialized then .error (.illegalStateError "Poller was already started")
  else
    let w := w.setState .running
    let w := { w with
      streams := .subscribe w.options.streams
      pollers := .subscribe w.options.pollers }
    .ok (if w.pollers.ended then w.pollersComplete false else w)

def shutdown : Except JsError Worker :=
  if w.state ≠ .running then .error (.illegalStateError "Not running")
  else
    let w := w.setState .stopping
    .ok { w with
      initiateShutdown := true
      forceTimer := !w.streams.ended && w.streams.live.contains .forceShutdown }

def shutdownAcknowledged : Worker :=
  let w := { w with initiateShutdown := false }
  if w.state = .stopping then w.setState .draining else w

def pollerCompletes (poller : Poller) (flushing : Bool) : Worker :=
  let (pollers, completed) := w.pollers.complete poller
  let w := { w with pollers }
  if completed then w.pollersComplete flushing else w

def pollerFails (poller : Poller) : Worker :=
  if (w.pollers.fail poller).2 then w.failStream .pollers else w

/-- A call that throws has no effect. Heartbeats complete only once the worker is drained. -/
def step (w : Worker) : WorkerEvent → Option Worker
  | .run =>
    match w.run with
    | .ok w => some w
    | .error _ => some w
  | .shutdown =>
    match w.shutdown with
    | .ok w => some w
    | .error _ => some w
  | .shutdownAcknowledged => if w.initiateShutdown then some w.shutdownAcknowledged else none
  | .shutdownRejected =>
    if w.initiateShutdown then
      some ({ w with initiateShutdown := false }.failStream .unexpectedErrors)
    else none
  | .unexpectedError =>
    if w.state = .initialized then none else some (w.failStream .unexpectedErrors)
  | .forceTimerFires => if w.forceTimer then some (w.failStream .forceShutdown) else none
  | .pollerCompletes poller flushing => some (w.pollerCompletes poller flushing)
  | .pollerFails poller => some (w.pollerFails poller)
  | .heartbeatsComplete =>
    if w.state = .drained then some (w.completeStream .activityHeartbeats) else none
  | .heartbeatsFail => some (w.failStream .activityHeartbeats)

end Worker

/-! ### Paths through the states -/

namespace WorkerState

/-- The steps of the life cycle -/
def follows : WorkerState → WorkerState → Bool
  | initialized, running => true
  | running, stopping | running, drained | running, failed => true
  | stopping, draining | stopping, drained | stopping, failed => true
  | draining, drained | draining, failed => true
  | drained, stopped | drained, failed => true
  | _, _ => false

/-- The states of a worker up to a state: a path from `initialized`. -/
inductive Path : List WorkerState → WorkerState → Prop
  | start : Path [initialized] initialized
  | step {states : List WorkerState} {s t : WorkerState} (h : Path states s) (hst : s.follows t = true) :
    Path (states ++ [t]) t

end WorkerState

namespace Worker

open WorkerState

/-- The path of the states, and the streams that are subscribed to in each of them. -/
structure Inv (w : Worker) : Prop where
  path : WorkerState.Path w.states w.state
  subscribed : match w.state with
    | .initialized | .stopped | .failed => w.streams.ended = true ∧ w.pollers.ended = true
    | .running | .stopping | .draining =>
      w.streams.ended = false ∧ w.pollers.ended = false ∧ .pollers ∈ w.streams.live
    | .drained => w.streams.ended = false ∧ w.pollers.ended = true

variable {w w' : Worker}

lemma create_inv (options : LifecycleOptions) : (create options).Inv := ⟨.start, rfl, rfl⟩

/-- Where the merged streams are subscribed to, a failure is a step of the life cycle. -/
lemma Inv.follows_failed (hw : w.Inv) (h : w.streams.ended = false) :
    w.state.follows .failed = true := by
  have hs := hw.subscribed
  cases hstate : w.state with
  | initialized =>
    rw [hstate] at hs
    rw [hs.1] at h
    cases h
  | stopped =>
    rw [hstate] at hs
    rw [hs.1] at h
    cases h
  | failed =>
    rw [hstate] at hs
    rw [hs.1] at h
    cases h
  | running => rfl
  | stopping => rfl
  | draining => rfl
  | drained => rfl

lemma Inv.failStream (hw : w.Inv) (stream : WorkerStream) : (w.failStream stream).Inv := by
  unfold Worker.failStream
  cases hfail : (w.streams.fail stream).2 with
  | false =>
    simp only [hfail]
    exact hw
  | true =>
    obtain ⟨hbefore, hafter⟩ := w.streams.fail_eq_true stream hfail
    simp only [hfail, if_true]
    exact ⟨.step hw.path (hw.follows_failed hbefore), hafter, rfl⟩

/-- A drained worker stays so, or stops when its last stream completes. -/
lemma Inv.completeStream (hw : w.Inv) (hstate : w.state = .drained) (stream : WorkerStream) :
    (w.completeStream stream).Inv := by
  have hs := hw.subscribed
  rw [hstate] at hs
  unfold Worker.completeStream
  cases hcomplete : (w.streams.complete stream).2 with
  | false =>
    obtain ⟨hended, -⟩ := w.streams.complete_eq_false stream hcomplete
    simp only [hcomplete]
    refine ⟨hw.path, ?_⟩
    simp only [hstate]
    exact ⟨hended.trans hs.1, hs.2⟩
  | true =>
    obtain ⟨-, hended, -⟩ := w.streams.complete_eq_true stream hcomplete
    simp only [hcomplete, if_true]
    exact ⟨.step hw.path (by rw [hstate]; rfl), hended, hs.2⟩

/-- The streams that complete before that of the pollers leave the worker drained. -/
lemma Inv.completeStream_of_ne (hw : w.Inv) (hstate : w.state = .drained)
    (hlive : .pollers ∈ w.streams.live) (stream : WorkerStream) (hne : stream ≠ .pollers) :
    (w.completeStream stream).Inv ∧ (w.completeStream stream).state = .drained ∧
      .pollers ∈ (w.completeStream stream).streams.live := by
  refine ⟨hw.completeStream hstate stream, ?_⟩
  have hcomplete : (w.streams.complete stream).2 = false := by
    cases hc : (w.streams.complete stream).2 with
    | false => rfl
    | true => exact absurd ((w.streams.complete_eq_true stream hc).2.2 _ hlive).symm hne
  obtain ⟨-, hkeeps⟩ := w.streams.complete_eq_false stream hcomplete
  simp only [Worker.completeStream, hcomplete]
  exact ⟨hstate, hkeeps _ hne.symm hlive⟩

lemma Inv.stopForceTimer (hw : w.Inv) : Inv { w with forceTimer := false } :=
  ⟨hw.path, hw.subscribed⟩

/-- When both pollers have completed, the worker is drained, whichever step of the shutdown it had
reached. -/
lemma pollersComplete_inv (hpath : WorkerState.Path w.states w.state) (hstate : w.state.follows .drained = true)
    (hstreams : w.streams.ended = false) (hpollers : w.pollers.ended = true)
    (hlive : .pollers ∈ w.streams.live) (flushing : Bool) : (w.pollersComplete flushing).Inv := by
  have hdrained : (w.setState .drained).Inv := ⟨.step hpath hstate, hstreams, hpollers⟩
  obtain ⟨h₁, hstate₁, hlive₁⟩ :=
    hdrained.completeStream_of_ne rfl hlive .unexpectedErrors (by decide)
  obtain ⟨h₂, hstate₂, hlive₂⟩ :=
    h₁.completeStream_of_ne hstate₁ hlive₁ .forceShutdown (by decide)
  have h₃ := h₂.stopForceTimer
  unfold Worker.pollersComplete
  cases flushing with
  | true => exact h₃.completeStream hstate₂ .pollers
  | false =>
    obtain ⟨h₄, hstate₄, -⟩ :=
      h₃.completeStream_of_ne hstate₂ hlive₂ .activityHeartbeats (by decide)
    exact h₄.completeStream hstate₄ .pollers

lemma pollers_mem_streams (options : LifecycleOptions) : .pollers ∈ options.streams := by
  unfold LifecycleOptions.streams
  split <;> simp

lemma subscribe_streams (options : LifecycleOptions) :
    (Merge.subscribe options.streams).ended = false := by
  unfold LifecycleOptions.streams
  split <;> rfl

lemma Inv.run (hw : w.Inv) (h : w.run = .ok w') : w'.Inv := by
  unfold Worker.run at h
  split at h
  · cases h
  · rename_i hstate
    have hstate : w.state = .initialized := not_not.mp hstate
    have hpath : WorkerState.Path (w.states ++ [.running]) .running := .step hw.path (by rw [hstate]; rfl)
    have hlive := pollers_mem_streams w.options
    have hstreams := subscribe_streams w.options
    cases h
    split
    · rename_i hended
      exact pollersComplete_inv hpath rfl hstreams hended hlive false
    · rename_i hended
      exact ⟨hpath, hstreams, Bool.eq_false_iff.mpr hended, hlive⟩

lemma Inv.shutdown (hw : w.Inv) (h : w.shutdown = .ok w') : w'.Inv := by
  unfold Worker.shutdown at h
  split at h
  · cases h
  · rename_i hstate
    have hstate : w.state = .running := not_not.mp hstate
    have hs := hw.subscribed
    rw [hstate] at hs
    cases h
    exact ⟨.step hw.path (by rw [hstate]; rfl), hs⟩

/-- The acknowledgement moves the state on from `stopping`, and from no other state. -/
lemma Inv.shutdownAcknowledged (hw : w.Inv) : w.shutdownAcknowledged.Inv := by
  simp only [Worker.shutdownAcknowledged]
  split
  · rename_i hstate
    have hs := hw.subscribed
    rw [hstate] at hs
    exact ⟨.step hw.path (by rw [hstate]; rfl), hs⟩
  · exact ⟨hw.path, hw.subscribed⟩

/-- Where the pollers are subscribed to, their completion drains the worker. -/
lemma Inv.polling (hw : w.Inv) (h : w.pollers.ended = false) :
    w.state.follows .drained = true ∧ w.streams.ended = false ∧ .pollers ∈ w.streams.live := by
  have hs := hw.subscribed
  cases hstate : w.state with
  | initialized =>
    rw [hstate] at hs
    rw [hs.2] at h
    cases h
  | stopped =>
    rw [hstate] at hs
    rw [hs.2] at h
    cases h
  | failed =>
    rw [hstate] at hs
    rw [hs.2] at h
    cases h
  | drained =>
    rw [hstate] at hs
    rw [hs.2] at h
    cases h
  | running =>
    rw [hstate] at hs
    exact ⟨rfl, hs.1, hs.2.2⟩
  | stopping =>
    rw [hstate] at hs
    exact ⟨rfl, hs.1, hs.2.2⟩
  | draining =>
    rw [hstate] at hs
    exact ⟨rfl, hs.1, hs.2.2⟩

lemma Inv.pollerCompletes (hw : w.Inv) (poller : Poller) (flushing : Bool) :
    (w.pollerCompletes poller flushing).Inv := by
  unfold Worker.pollerCompletes
  cases hcomplete : (w.pollers.complete poller).2 with
  | false =>
    obtain ⟨hended, -⟩ := w.pollers.complete_eq_false poller hcomplete
    have hs := hw.subscribed
    rw [← hended] at hs
    simp only [hcomplete]
    exact ⟨hw.path, hs⟩
  | true =>
    obtain ⟨hbefore, hafter, -⟩ := w.pollers.complete_eq_true poller hcomplete
    obtain ⟨hstate, hstreams, hlive⟩ := hw.polling hbefore
    simp only [hcomplete, if_true]
    exact pollersComplete_inv (w := { w with pollers := (w.pollers.complete poller).1 })
      hw.path hstate hstreams hafter hlive flushing

lemma Inv.pollerFails (hw : w.Inv) (poller : Poller) : (w.pollerFails poller).Inv := by
  unfold Worker.pollerFails
  split
  · exact hw.failStream .pollers
  · exact hw

lemma step_inv (w : Worker) (event : WorkerEvent) (w' : Worker) (hw : w.Inv)
    (h : w.step event = some w') : w'.Inv := by
  cases event with
  | run =>
    simp only [step] at h
    split at h
    · rename_i hrun
      cases h
      exact hw.run hrun
    · cases h
      exact hw
  | shutdown =>
    simp only [step] at h
    split at h
    · rename_i hshutdown
      cases h
      exact hw.shutdown hshutdown
    · cases h
      exact hw
  | shutdownAcknowledged =>
    obtain ⟨-, h⟩ := Option.ite_none_right_eq_some.mp h
    cases h
    exact hw.shutdownAcknowledged
  | shutdownRejected =>
    obtain ⟨-, h⟩ := Option.ite_none_right_eq_some.mp h
    cases h
    have hsettled : Inv { w with initiateShutdown := false } := ⟨hw.path, hw.subscribed⟩
    exact hsettled.failStream .unexpectedErrors
  | unexpectedError =>
    obtain ⟨-, h⟩ := Option.ite_none_left_eq_some.mp h
    cases h
    exact hw.failStream .unexpectedErrors
  | forceTimerFires =>
    obtain ⟨-, h⟩ := Option.ite_none_right_eq_some.mp h
    cases h
    exact hw.failStream .forceShutdown
  | pollerCompletes poller flushing =>
    cases h
    exact hw.pollerCompletes poller flushing
  | pollerFails poller =>
    cases h
    exact hw.pollerFails poller
  | heartbeatsComplete =>
    obtain ⟨hstate, h⟩ := Option.ite_none_right_eq_some.mp h
    cases h
    exact hw.completeStream hstate .activityHeartbeats
  | heartbeatsFail =>
    cases h
    exact hw.failStream .activityHeartbeats

lemma run_inv {options : LifecycleOptions} {events : List WorkerEvent}
    (h : Transition.run step (create options) events = some w) : w.Inv :=
  Transition.invariant step_inv (create_inv options) h

/-! ### The last states -/

lemma shutdown_of_ne (h : w.state ≠ .running) :
    w.shutdown = .error (.illegalStateError "Not running") ∧ w.step .shutdown = some w := by
  have hshutdown : w.shutdown = .error (.illegalStateError "Not running") := if_pos h
  refine ⟨hshutdown, ?_⟩
  simp only [step, hshutdown]

lemma run_of_ne (h : w.state ≠ .initialized) :
    w.run = .error (.illegalStateError "Poller was already started") ∧ w.step .run = some w := by
  have hrun : w.run = .error (.illegalStateError "Poller was already started") := if_pos h
  refine ⟨hrun, ?_⟩
  simp only [step, hrun]

/-- Nothing is subscribed to any more, and the state is none that a call or the acknowledgement moves
on from. -/
def Over (w : Worker) : Prop :=
  (w.state = .stopped ∨ w.state = .failed) ∧ w.streams.ended = true ∧ w.pollers.ended = true

lemma Inv.over (hw : w.Inv) (h : w.state = .stopped ∨ w.state = .failed) : w.Over := by
  have hs := hw.subscribed
  refine ⟨h, ?_⟩
  rcases h with h | h
  · rw [h] at hs
    exact hs
  · rw [h] at hs
    exact hs

lemma failStream_of_ended (h : w.streams.ended = true) (stream : WorkerStream) :
    w.failStream stream = w := by
  simp [failStream, w.streams.fail_of_ended stream h]

lemma completeStream_of_ended (h : w.streams.ended = true) (stream : WorkerStream) :
    w.completeStream stream = w := by
  simp [completeStream, w.streams.complete_of_ended stream h]

/-- An event after the end changes nothing but that the promise of Core is settled. -/
lemma Over.step (hw : w.Over) {event : WorkerEvent} (h : w.step event = some w') :
    w' = w ∨ w' = { w with initiateShutdown := false } := by
  obtain ⟨hstate, hstreams, hpollers⟩ := hw
  have hne : ∀ state, state ≠ .stopped → state ≠ .failed → w.state ≠ state := by
    intro state hstopped hfailed heq
    rcases hstate with hs | hs
    · exact hstopped (heq.symm.trans hs)
    · exact hfailed (heq.symm.trans hs)
  cases event with
  | run =>
    rw [(run_of_ne (hne _ (by decide) (by decide))).2] at h
    cases h
    exact .inl rfl
  | shutdown =>
    rw [(shutdown_of_ne (hne _ (by decide) (by decide))).2] at h
    cases h
    exact .inl rfl
  | shutdownAcknowledged =>
    obtain ⟨-, h⟩ := Option.ite_none_right_eq_some.mp h
    cases h
    exact .inr (if_neg (hne .stopping (by decide) (by decide)))
  | shutdownRejected =>
    obtain ⟨-, h⟩ := Option.ite_none_right_eq_some.mp h
    cases h
    exact .inr (failStream_of_ended (w := { w with initiateShutdown := false }) hstreams _)
  | unexpectedError =>
    obtain ⟨-, h⟩ := Option.ite_none_left_eq_some.mp h
    cases h
    exact .inl (failStream_of_ended hstreams _)
  | forceTimerFires =>
    obtain ⟨-, h⟩ := Option.ite_none_right_eq_some.mp h
    cases h
    exact .inl (failStream_of_ended hstreams _)
  | pollerCompletes poller flushing =>
    cases h
    have hcomplete := w.pollers.complete_of_ended poller hpollers
    refine .inl ?_
    simp [pollerCompletes, hcomplete]
  | pollerFails poller =>
    cases h
    have hfail := w.pollers.fail_of_ended poller hpollers
    refine .inl ?_
    simp [pollerFails, hfail]
  | heartbeatsComplete =>
    obtain ⟨-, h⟩ := Option.ite_none_right_eq_some.mp h
    cases h
    exact .inl (completeStream_of_ended hstreams _)
  | heartbeatsFail =>
    cases h
    exact .inl (failStream_of_ended hstreams _)

lemma Over.run (hw : w.Over) {events : List WorkerEvent}
    (h : Transition.run Worker.step w events = some w') :
    w'.state = w.state ∧ w'.states = w.states := by
  have hinv : w'.Over ∧ w'.state = w.state ∧ w'.states = w.states := by
    refine Transition.invariant (I := fun u => u.Over ∧ u.state = w.state ∧ u.states = w.states)
      ?_ ⟨hw, rfl, rfl⟩ h
    rintro u event v ⟨hover, hstate, hstates⟩ hv
    rcases hover.step hv with rfl | rfl
    · exact ⟨hover, hstate, hstates⟩
    · exact ⟨hover, hstate, hstates⟩
  exact hinv.2

/-- The states of a worker are a path of the life cycle in every run. `stopped` and `failed` are
never left, and a call in the wrong state throws and has no effect. -/
theorem lifeCycle (options : LifecycleOptions) (events : List WorkerEvent) (w : Worker)
    (h : Transition.run step (create options) events = some w) :
    WorkerState.Path w.states w.state ∧
      (w.state = .stopped ∨ w.state = .failed → ∀ events' w',
        Transition.run step w events' = some w' → w'.state = w.state ∧ w'.states = w.states) ∧
      (w.state ≠ .running →
        w.shutdown = .error (.illegalStateError "Not running") ∧ w.step .shutdown = some w) ∧
      (w.state ≠ .initialized →
        w.run = .error (.illegalStateError "Poller was already started") ∧
          w.step .run = some w) := by
  have hw := run_inv h
  refine ⟨hw.path, ?_, shutdown_of_ne, run_of_ne⟩
  intro hover events' w' h'
  exact (hw.over hover).run h'

/-- Core acknowledges the shutdown after the pollers have completed: the worker stays drained, and
stops once the heartbeats are sent. -/
theorem lifeCycle_lateAcknowledgement :
    ∃ w, Transition.run step (create ⟨true, true, false⟩)
        [.run, .shutdown, .pollerCompletes .workflow true, .shutdownAcknowledged,
          .heartbeatsComplete] = some w ∧
      w.states = [.initialized, .running, .stopping, .drained, .stopped] ∧
      w.shutdown = .error (.illegalStateError "Not running") := by
  refine ⟨_, rfl, rfl, ?_⟩
  exact ((lifeCycle ⟨true, true, false⟩ [.run, .shutdown, .pollerCompletes .workflow true,
    .shutdownAcknowledged, .heartbeatsComplete] _ rfl).2.2.1 (by decide)).1

end Worker

end TemporalSdk
