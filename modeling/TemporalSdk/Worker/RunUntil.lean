import TemporalSdk.Library.TryFinally
import TemporalSdk.Worker.Lifecycle

/-!
# runUntil

What `run` does when its streams have ended, and `runUntil` on top of it: it shuts the worker down when the
inner promise settles, and waits for both.
-/

namespace TemporalSdk

/-! ### The end of run -/

inductive RunEffect
  | deregisterShutdownSignalCallback
  | finalizeShutdown
  | deleteReferenceHolder
  | closeConnection
  | destroyWorkflowCreator
  | flushCoreLogs
deriving DecidableEq

/-- What the calls at the end of `run` give. `Runtime.instance()` may have to create a runtime, and the logs are
flushed into the logger of the user. A replay worker has no connection, and only a connection that the worker has
created is closed by it. -/
structure RunCleanup (ε : Type) where
  deregisterShutdownSignalCallback : Except ε Unit
  finalizeShutdown : Except ε Unit
  hasConnection : Bool
  closeConnection : Option (Except ε Unit)
  destroyWorkflowCreator : Option (Except ε Unit)
  flushCoreLogs : Except ε Unit

variable {ε α : Type}

namespace RunCleanup

open Completion

variable (c : RunCleanup ε)

def releaseConnection : Completion RunEffect ε Unit :=
  if c.hasConnection then
    (perform .deleteReferenceHolder (.ok ())).andThen
      (match c.closeConnection with
      | some result => perform .closeConnection result
      | none => skip)
  else skip

def destroyCreator : Completion RunEffect ε Unit :=
  match c.destroyWorkflowCreator with
  | some result => perform .destroyWorkflowCreator result
  | none => skip

/-- The part before the outer `finally` -/
def finalize (streams : Except ε Unit) : Completion RunEffect ε Unit :=
  (tryFinally ⟨[], streams⟩ (perform .deregisterShutdownSignalCallback c.deregisterShutdownSignalCallback)).andThen
    (perform .finalizeShutdown c.finalizeShutdown)

/-- `run` from the end of its streams on -/
def afterStreams (streams : Except ε Unit) : Completion RunEffect ε Unit :=
  tryFinally (c.finalize streams)
    (tryFinally (c.releaseConnection.andThen c.destroyCreator) (perform .flushCoreLogs c.flushCoreLogs))

end RunCleanup

namespace RunCleanup

open Completion

variable {c : RunCleanup ε} {streams : Except ε Unit}

/-- The connection of the worker has been closed, if it is for the worker to do. -/
def Released (c : RunCleanup ε) : Prop :=
  c.hasConnection = true → ∀ result ∈ c.closeConnection, result = .ok ()

def Destroyed (c : RunCleanup ε) : Prop := ∀ result ∈ c.destroyWorkflowCreator, result = .ok ()

lemma releaseConnection_eq_ok : c.releaseConnection.result = .ok () ↔ c.Released := by
  unfold releaseConnection Released
  cases c.hasConnection with
  | false => simp [skip]
  | true =>
    cases c.closeConnection <;> simp [andThen, perform, skip]

lemma releaseConnection_eq_error {e : ε} :
    c.releaseConnection.result = .error e ↔ c.hasConnection = true ∧ c.closeConnection = some (.error e) := by
  unfold releaseConnection
  cases c.hasConnection with
  | false => simp [skip]
  | true =>
    cases c.closeConnection <;> simp [andThen, perform, skip]

lemma destroyCreator_eq_ok : c.destroyCreator.result = .ok () ↔ c.Destroyed := by
  unfold destroyCreator Destroyed
  cases c.destroyWorkflowCreator <;> simp [perform, skip]

lemma destroyCreator_eq_error {e : ε} :
    c.destroyCreator.result = .error e ↔ c.destroyWorkflowCreator = some (.error e) := by
  unfold destroyCreator
  cases c.destroyWorkflowCreator <;> simp [perform, skip]

/-- The error that is left when the streams end with `streams`: a later step hides the error of an earlier one. -/
def FailsWith (c : RunCleanup ε) (streams : Except ε Unit) (e : ε) : Prop :=
  c.flushCoreLogs = .error e ∨ c.flushCoreLogs = .ok () ∧
    (c.hasConnection = true ∧ c.closeConnection = some (.error e) ∨
      c.Released ∧ (c.destroyWorkflowCreator = some (.error e) ∨ c.Destroyed ∧
        (c.deregisterShutdownSignalCallback = .error e ∨ c.deregisterShutdownSignalCallback = .ok () ∧
          (streams = .error e ∨ streams = .ok () ∧ c.finalizeShutdown = .error e))))

/-- How a run ends: what is always done and what only sometimes, and which error is left. -/
structure Ends (c : RunCleanup ε) (streams : Except ε Unit) (run : Completion RunEffect ε Unit) : Prop where
  first : run.effects.head? = some .deregisterShutdownSignalCallback
  last : run.effects.getLast? = some .flushCoreLogs
  finalizes : .finalizeShutdown ∈ run.effects ↔
    streams = .ok () ∧ c.deregisterShutdownSignalCallback = .ok ()
  destroys : .destroyWorkflowCreator ∈ run.effects ↔ c.destroyWorkflowCreator.isSome = true ∧ c.Released
  succeeds : run.result = .ok () ↔
    streams = .ok () ∧ c.deregisterShutdownSignalCallback = .ok () ∧ c.finalizeShutdown = .ok () ∧
      c.Released ∧ c.Destroyed ∧ c.flushCoreLogs = .ok ()
  fails : ∀ e, run.result = .error e ↔ c.FailsWith streams e

lemma effects_finalize (c : RunCleanup ε) (streams : Except ε Unit) :
    ∃ rest, (c.finalize streams).effects = .deregisterShutdownSignalCallback :: rest := by
  unfold finalize
  cases hdone : (tryFinally (⟨[], streams⟩ : Completion RunEffect ε Unit)
      (perform .deregisterShutdownSignalCallback c.deregisterShutdownSignalCallback)).result with
  | ok value =>
    rw [andThen_of_ok hdone]
    exact ⟨_, rfl⟩
  | error e =>
    rw [andThen_of_error hdone]
    exact ⟨_, rfl⟩

lemma deregistered_eq_ok : (tryFinally (⟨[], streams⟩ : Completion RunEffect ε Unit)
    (perform .deregisterShutdownSignalCallback c.deregisterShutdownSignalCallback)).result = .ok () ↔
      streams = .ok () ∧ c.deregisterShutdownSignalCallback = .ok () :=
  tryFinally_eq_ok.trans and_comm

lemma mem_finalize {effect : RunEffect} :
    effect ∈ (c.finalize streams).effects ↔ effect = .deregisterShutdownSignalCallback ∨
      ((streams = .ok () ∧ c.deregisterShutdownSignalCallback = .ok ()) ∧ effect = .finalizeShutdown) := by
  rw [finalize, mem_andThen, deregistered_eq_ok]
  simp [Completion.tryFinally, perform]

lemma finalize_eq_ok : (c.finalize streams).result = .ok () ↔
    (streams = .ok () ∧ c.deregisterShutdownSignalCallback = .ok ()) ∧ c.finalizeShutdown = .ok () := by
  rw [finalize, andThen_eq_ok, deregistered_eq_ok]
  rfl

lemma finalize_eq_error {e : ε} : (c.finalize streams).result = .error e ↔
    c.deregisterShutdownSignalCallback = .error e ∨ c.deregisterShutdownSignalCallback = .ok () ∧
      (streams = .error e ∨ streams = .ok () ∧ c.finalizeShutdown = .error e) := by
  rw [finalize, andThen_eq_error, deregistered_eq_ok, tryFinally_eq_error]
  simp only [perform]
  tauto

lemma effects_afterStreams : (c.afterStreams streams).effects = (c.finalize streams).effects ++
    ((c.releaseConnection.andThen c.destroyCreator).effects ++ [.flushCoreLogs]) := rfl

lemma mem_releaseConnection {effect : RunEffect} (h : effect ∈ c.releaseConnection.effects) :
    effect = .deleteReferenceHolder ∨ effect = .closeConnection := by
  unfold releaseConnection at h
  cases hconnection : c.hasConnection with
  | false => simp [hconnection, skip] at h
  | true =>
    cases hclose : c.closeConnection with
    | none => exact Or.inl (by simpa [hconnection, hclose, andThen, perform, skip] using h)
    | some result => simpa [hconnection, hclose, andThen, perform] using h

lemma mem_destroyCreator {effect : RunEffect} :
    effect ∈ c.destroyCreator.effects ↔
      effect = .destroyWorkflowCreator ∧ c.destroyWorkflowCreator.isSome = true := by
  unfold destroyCreator
  cases c.destroyWorkflowCreator <;> simp [perform, skip]

lemma mem_afterStreams {effect : RunEffect} :
    effect ∈ (c.afterStreams streams).effects ↔
      effect ∈ (c.finalize streams).effects ∨ effect ∈ c.releaseConnection.effects ∨
        (c.Released ∧ effect ∈ c.destroyCreator.effects) ∨ effect = .flushCoreLogs := by
  rw [effects_afterStreams, List.mem_append, List.mem_append, mem_andThen, releaseConnection_eq_ok,
    List.mem_singleton, or_assoc]

lemma afterStreams_eq_ok : (c.afterStreams streams).result = .ok () ↔
    streams = .ok () ∧ c.deregisterShutdownSignalCallback = .ok () ∧ c.finalizeShutdown = .ok () ∧
      c.Released ∧ c.Destroyed ∧ c.flushCoreLogs = .ok () := by
  rw [afterStreams, tryFinally_eq_ok, tryFinally_eq_ok, andThen_eq_ok, releaseConnection_eq_ok,
    destroyCreator_eq_ok, finalize_eq_ok]
  simp only [perform]
  tauto

lemma afterStreams_eq_error {e : ε} : (c.afterStreams streams).result = .error e ↔ c.FailsWith streams e := by
  rw [afterStreams, tryFinally_eq_error, tryFinally_eq_error, tryFinally_eq_ok, andThen_eq_error, andThen_eq_ok,
    releaseConnection_eq_error, releaseConnection_eq_ok, destroyCreator_eq_error, destroyCreator_eq_ok,
    finalize_eq_error]
  simp only [perform, FailsWith]
  tauto

/-- **How `run` ends**: the callback is deregistered and the logs are flushed whatever happens, and an error of the
streams is hidden only by the deregistration, a connection or a workflow creator that fails to be closed, or the
logger that the logs are flushed into. -/
theorem ends_afterStreams (c : RunCleanup ε) (streams : Except ε Unit) :
    c.Ends streams (c.afterStreams streams) where
  first := by
    obtain ⟨rest, hrest⟩ := effects_finalize c streams
    rw [effects_afterStreams, hrest]
    rfl
  last := by
    rw [effects_afterStreams, ← List.append_assoc, List.getLast?_concat]
  finalizes := by
    rw [mem_afterStreams, mem_finalize]
    constructor
    · rintro ((h | ⟨h, -⟩) | h | ⟨-, h⟩ | h)
      · cases h
      · exact h
      · rcases mem_releaseConnection h with h | h <;> cases h
      · cases (mem_destroyCreator.mp h).1
      · cases h
    · exact fun h => Or.inl (Or.inr ⟨h, rfl⟩)
  destroys := by
    rw [mem_afterStreams, mem_finalize, mem_destroyCreator]
    constructor
    · rintro ((h | ⟨-, h⟩) | h | ⟨hreleased, -, h⟩ | h)
      · cases h
      · cases h
      · rcases mem_releaseConnection h with h | h <;> cases h
      · exact ⟨h, hreleased⟩
      · cases h
    · exact fun h => Or.inr (Or.inr (Or.inl ⟨h.2, rfl, h.1⟩))
  succeeds := afterStreams_eq_ok
  fails _ := afterStreams_eq_error

end RunCleanup

/-! ### runUntil -/

/-- What `runUntil` rejects with: one of the errors, or a `CombinedWorkerRunError` -/
inductive RunUntilError (ε : Type)
  | reason (error : ε)
  | combined (workerError innerError : ε)

/-- The worker, and how `run` and the inner promise have been settled -/
structure RunUntil (ε α : Type) where
  worker : Worker
  workerRunResult : Option (Except ε Unit)
  innerResult : Option (Except ε α)

inductive RunUntilEvent (ε α : Type)
  | worker (event : WorkerEvent)
  | innerSettles (result : Except ε α)
  | runSettles (streamsError : ε) (cleanup : RunCleanup ε)

namespace RunUntil

/-- `runUntil` up to its first await; `thrown` is what an error of the worker is as a reason. -/
def call (thrown : JsError → ε) (worker : Worker) : RunUntil ε α :=
  match worker.run with
  | .ok worker => ⟨worker, none, none⟩
  | .error e => ⟨worker, some (.error (thrown e)), none⟩

/-- The `finally` of the inner promise -/
def shutdownIfRunning (worker : Worker) : Worker :=
  if worker.state = .running then
    match worker.shutdown with
    | .ok worker => worker
    | .error _ => worker
  else worker

def step (s : RunUntil ε α) : RunUntilEvent ε α → Option (RunUntil ε α)
  | .worker event => (s.worker.step event).map fun worker => { s with worker }
  | .innerSettles result =>
    match s.innerResult with
    | some _ => none
    | none => some { s with worker := shutdownIfRunning s.worker, innerResult := some result }
  | .runSettles streamsError cleanup =>
    match s.workerRunResult, s.worker.state with
    | none, .stopped => some { s with workerRunResult := some (cleanup.afterStreams (.ok ())).result }
    | none, .failed =>
      some { s with workerRunResult := some (cleanup.afterStreams (.error streamsError)).result }
    | _, _ => none

/-- What `runUntil` settles with, once both promises have settled -/
def outcome (s : RunUntil ε α) : Option (Except (RunUntilError ε) α) :=
  match s.innerResult, s.workerRunResult with
  | some innerResult, some workerRunResult =>
    some (match workerRunResult, innerResult with
      | .error workerError, .error innerError => .error (.combined workerError innerError)
      | .error workerError, .ok _ => .error (.reason workerError)
      | .ok _, .error innerError => .error (.reason innerError)
      | .ok _, .ok value => .ok value)
  | _, _ => none

end RunUntil

/-! ### Runs of runUntil -/

namespace WorkerState

/-- How far the life cycle has come -/
def rank : WorkerState → ℕ
  | initialized => 0
  | running => 1
  | stopping => 2
  | draining => 3
  | drained => 4
  | stopped | failed => 5

lemma rank_le (s : WorkerState) : s.rank ≤ 5 := by cases s <;> decide

lemma one_le_rank {s : WorkerState} (h : s ≠ initialized) : 1 ≤ s.rank := by
  cases s <;> first | exact absurd rfl h | decide

lemma two_le_rank {s : WorkerState} (hle : 1 ≤ s.rank) (h : s ≠ running) : 2 ≤ s.rank := by
  cases s <;> first | exact absurd rfl h | revert hle; decide

lemma rank_lt_of_follows {s t : WorkerState} (h : s.follows t = true) : s.rank < t.rank := by
  revert h
  cases s <;> cases t <;> decide

end WorkerState

namespace Worker

open WorkerState

variable {w w' : Worker}

lemma rank_completeStream (w : Worker) (stream : WorkerStream) :
    w.state.rank ≤ (w.completeStream stream).state.rank := by
  unfold completeStream
  dsimp only
  split
  · exact rank_le w.state
  · exact Nat.le_refl _

lemma rank_failStream (w : Worker) (stream : WorkerStream) :
    w.state.rank ≤ (w.failStream stream).state.rank := by
  unfold failStream
  dsimp only
  split
  · exact rank_le w.state
  · exact Nat.le_refl _

lemma rank_pollersComplete (hstate : w.state.follows .drained = true) (flushing : Bool) :
    w.state.rank ≤ (w.pollersComplete flushing).state.rank := by
  have hdrained : w.state.rank ≤ (w.setState .drained).state.rank := (rank_lt_of_follows hstate).le
  unfold pollersComplete
  dsimp only
  refine le_trans ?_ (rank_completeStream _ _)
  have hforce : w.state.rank ≤
      { ((w.setState .drained).completeStream .unexpectedErrors).completeStream .forceShutdown with
        forceTimer := false }.state.rank :=
    hdrained.trans ((rank_completeStream _ _).trans (rank_completeStream _ _))
  cases flushing with
  | true => exact hforce
  | false => exact hforce.trans (rank_completeStream _ _)

lemma rank_run (h : w.run = .ok w') : 1 ≤ w'.state.rank := by
  unfold Worker.run at h
  split at h
  · cases h
  · cases h
    split
    · exact rank_pollersComplete (w := { w.setState .running with
        streams := .subscribe (w.setState .running).options.streams
        pollers := .subscribe (w.setState .running).options.pollers }) rfl false
    · exact Nat.le_refl 1

/-- A step never leads back. -/
lemma rank_step {event : WorkerEvent} (hw : w.Inv) (h : w.step event = some w') :
    w.state.rank ≤ w'.state.rank := by
  cases event with
  | run =>
    by_cases hstate : w.state = .initialized
    · rw [hstate]
      exact Nat.zero_le _
    · rw [(run_of_ne hstate).2] at h
      cases h
      exact Nat.le_refl _
  | shutdown =>
    by_cases hstate : w.state = .running
    · have hshutdown : w.step .shutdown = some { w.setState .stopping with
          initiateShutdown := true
          forceTimer := !(w.setState .stopping).streams.ended &&
            (w.setState .stopping).streams.live.contains .forceShutdown } := by
        simp only [step, shutdown, hstate, ne_eq, not_true, if_false]
      rw [hshutdown] at h
      cases h
      rw [hstate]
      exact Nat.le_succ 1
    · rw [(shutdown_of_ne hstate).2] at h
      cases h
      exact Nat.le_refl _
  | shutdownAcknowledged =>
    obtain ⟨-, h⟩ := Option.ite_none_right_eq_some.mp h
    cases h
    unfold shutdownAcknowledged
    dsimp only
    split
    · rename_i hstate
      rw [hstate]
      exact Nat.le_succ 2
    · exact Nat.le_refl _
  | shutdownRejected =>
    obtain ⟨-, h⟩ := Option.ite_none_right_eq_some.mp h
    cases h
    exact rank_failStream { w with initiateShutdown := false } .unexpectedErrors
  | unexpectedError =>
    obtain ⟨-, h⟩ := Option.ite_none_left_eq_some.mp h
    cases h
    exact rank_failStream w .unexpectedErrors
  | forceTimerFires =>
    obtain ⟨-, h⟩ := Option.ite_none_right_eq_some.mp h
    cases h
    exact rank_failStream w .forceShutdown
  | pollerCompletes poller flushing =>
    cases h
    unfold pollerCompletes
    cases hcomplete : (w.pollers.complete poller).2 with
    | false =>
      simp only [hcomplete]
      exact Nat.le_refl _
    | true =>
      obtain ⟨hbefore, -, -⟩ := w.pollers.complete_eq_true poller hcomplete
      simp only [hcomplete, if_true]
      exact rank_pollersComplete (w := { w with pollers := (w.pollers.complete poller).1 })
        (hw.polling hbefore).1 flushing
  | pollerFails poller =>
    cases h
    unfold pollerFails
    split
    · exact rank_failStream w .pollers
    · exact Nat.le_refl _
  | heartbeatsComplete =>
    obtain ⟨-, h⟩ := Option.ite_none_right_eq_some.mp h
    cases h
    exact rank_completeStream w .activityHeartbeats
  | heartbeatsFail =>
    cases h
    exact rank_failStream w .activityHeartbeats

end Worker

namespace RunUntil

variable {thrown : JsError → ε} {worker : Worker} {s s' : RunUntil ε α}

/-- The promise of a run that this call has started -/
def RunSettled (s : RunUntil ε α) (result : Except ε Unit) : Prop :=
  (s.worker.state = .stopped ∧ ∃ cleanup : RunCleanup ε, result = (cleanup.afterStreams (.ok ())).result) ∨
  (s.worker.state = .failed ∧ ∃ (cleanup : RunCleanup ε) (streamsError : ε),
    result = (cleanup.afterStreams (.error streamsError)).result)

structure Inv (thrown : JsError → ε) (worker : Worker) (s : RunUntil ε α) : Prop where
  worker_inv : s.worker.Inv
  started : 1 ≤ s.worker.state.rank
  shutDown : s.innerResult.isSome = true → 2 ≤ s.worker.state.rank
  run : worker.state = .initialized → ∀ result, s.workerRunResult = some result → s.RunSettled result
  notRun : worker.state ≠ .initialized →
    s.workerRunResult = some (.error (thrown (.illegalStateError "Poller was already started")))

lemma inv_call (hworker : worker.Inv) : Inv thrown worker (call thrown worker : RunUntil ε α) := by
  have hrun : worker.step .run = some (call thrown worker : RunUntil ε α).worker := by
    unfold call Worker.step
    cases worker.run <;> rfl
  have hinv := Worker.step_inv worker .run _ hworker hrun
  cases hresult : worker.run with
  | ok started =>
    have hstate : worker.state = .initialized := by
      by_contra hstate
      rw [(Worker.run_of_ne hstate).1] at hresult
      cases hresult
    refine ⟨hinv, ?_, fun h => ?_, fun _ result h => ?_, fun h => absurd hstate h⟩
    · rw [call, hresult]
      exact Worker.rank_run hresult
    · rw [call, hresult] at h
      cases h
    · rw [call, hresult] at h
      cases h
  | error e =>
    have hstate : worker.state ≠ .initialized := by
      intro hstate
      unfold Worker.run at hresult
      rw [if_neg (not_not.mpr hstate)] at hresult
      cases hresult
    obtain rfl : JsError.illegalStateError "Poller was already started" = e := by
      rw [(Worker.run_of_ne hstate).1] at hresult
      exact Except.error.inj hresult
    refine ⟨hinv, ?_, fun h => ?_, fun h => absurd h hstate, fun _ => ?_⟩
    · rw [call, hresult]
      exact WorkerState.one_le_rank hstate
    · rw [call, hresult] at h
      cases h
    · rw [call, hresult]

lemma step_shutdown (w : Worker) : w.step .shutdown = some (shutdownIfRunning w) := by
  unfold shutdownIfRunning
  split
  · unfold Worker.step
    cases w.shutdown <;> rfl
  · rename_i hstate
    exact (Worker.shutdown_of_ne hstate).2

/-- A worker that has stopped or failed stays so. -/
lemma RunSettled.step {result : Except ε Unit} {event : WorkerEvent} {w : Worker} (h : s.RunSettled result)
    (hinv : s.worker.Inv) (hstep : s.worker.step event = some w) : RunSettled { s with worker := w } result := by
  have hstate : s.worker.state = .stopped ∨ s.worker.state = .failed := h.imp And.left And.left
  have hsame : w.state = s.worker.state := by
    rcases (hinv.over hstate).step hstep with rfl | rfl
    · rfl
    · rfl
  unfold RunSettled
  rw [hsame]
  exact h

lemma Inv.workerStep {event : WorkerEvent} {w : Worker} (h : Inv thrown worker s)
    (hstep : s.worker.step event = some w) : Inv thrown worker { s with worker := w } := by
  have hrank := Worker.rank_step h.worker_inv hstep
  exact ⟨Worker.step_inv _ _ _ h.worker_inv hstep, h.started.trans hrank, fun hinner =>
    (h.shutDown hinner).trans hrank, fun hstate result hresult =>
    (h.run hstate result hresult).step h.worker_inv hstep, h.notRun⟩

lemma Inv.innerSettles (h : Inv thrown worker s) (result : Except ε α) :
    Inv thrown worker { s with worker := shutdownIfRunning s.worker, innerResult := some result } := by
  have hworker := h.workerStep (step_shutdown s.worker)
  refine ⟨hworker.worker_inv, hworker.started, fun _ => ?_, hworker.run, hworker.notRun⟩
  refine WorkerState.two_le_rank hworker.started ?_
  change (shutdownIfRunning s.worker).state ≠ .running
  unfold shutdownIfRunning
  split
  · rename_i hstate
    unfold Worker.shutdown
    rw [if_neg (not_not.mpr hstate)]
    exact WorkerState.noConfusion
  · assumption

lemma Inv.step {event : RunUntilEvent ε α} (h : Inv thrown worker s) (hstep : s.step event = some s') :
    Inv thrown worker s' := by
  cases event with
  | worker event =>
    obtain ⟨w, hw, rfl⟩ := Option.map_eq_some_iff.mp hstep
    exact h.workerStep hw
  | innerSettles result =>
    unfold RunUntil.step at hstep
    dsimp only at hstep
    split at hstep
    · cases hstep
    · cases hstep
      exact h.innerSettles result
  | runSettles streamsError cleanup =>
    unfold RunUntil.step at hstep
    dsimp only at hstep
    split at hstep
    · rename_i hnone hstopped
      cases hstep
      refine ⟨h.worker_inv, h.started, h.shutDown, fun _ result hresult => ?_, fun hstate => ?_⟩
      · exact Or.inl ⟨hstopped, cleanup, (Option.some_inj.mp hresult).symm⟩
      · have hrefused := h.notRun hstate
        rw [hnone] at hrefused
        cases hrefused
    · rename_i hnone hfailed
      cases hstep
      refine ⟨h.worker_inv, h.started, h.shutDown, fun _ result hresult => ?_, fun hstate => ?_⟩
      · exact Or.inr ⟨hfailed, cleanup, streamsError, (Option.some_inj.mp hresult).symm⟩
      · have hrefused := h.notRun hstate
        rw [hnone] at hrefused
        cases hrefused
    · cases hstep

/-- What a caller of `runUntil` relies on -/
structure Safe (thrown : JsError → ε) (worker : Worker) (s : RunUntil ε α) : Prop where
  shutDown : s.innerResult.isSome = true → s.worker.state ≠ .initialized ∧ s.worker.state ≠ .running
  ended : worker.state = .initialized → ∀ o, s.outcome = some o →
    s.worker.state = .stopped ∨ s.worker.state = .failed
  succeeds : ∀ value, s.outcome = some (.ok value) →
    s.innerResult = some (.ok value) ∧ s.worker.state = .stopped ∧ worker.state = .initialized
  innerError : ∀ e o, s.innerResult = some (.error e) → s.outcome = some o →
    o = .error (.reason e) ∨ ∃ workerError, o = .error (.combined workerError e)
  refused : worker.state ≠ .initialized → ∀ o, s.outcome = some o →
    o = .error (.reason (thrown (.illegalStateError "Poller was already started"))) ∨
      ∃ e, o = .error (.combined (thrown (.illegalStateError "Poller was already started")) e)

lemma outcome_eq_some {o : Except (RunUntilError ε) α} (h : s.outcome = some o) :
    ∃ innerResult workerRunResult, s.innerResult = some innerResult ∧
      s.workerRunResult = some workerRunResult ∧
      o = match workerRunResult, innerResult with
        | .error workerError, .error innerError => .error (.combined workerError innerError)
        | .error workerError, .ok _ => .error (.reason workerError)
        | .ok _, .error innerError => .error (.reason innerError)
        | .ok _, .ok value => .ok value := by
  unfold outcome at h
  split at h
  · rename_i innerResult workerRunResult hinner hrun
    exact ⟨innerResult, workerRunResult, hinner, hrun, (Option.some_inj.mp h).symm⟩
  · cases h

lemma Inv.safe (h : Inv thrown worker s) : Safe thrown worker s := by
  refine ⟨fun hinner => ?_, fun hstate o ho => ?_, fun value ho => ?_, fun e o he ho => ?_,
    fun hstate o ho => ?_⟩
  · have hrank := h.shutDown hinner
    constructor
    · intro hstate
      rw [hstate] at hrank
      cases hrank
    · intro hstate
      rw [hstate] at hrank
      revert hrank
      decide
  · obtain ⟨-, workerRunResult, -, hrun, -⟩ := outcome_eq_some ho
    exact (h.run hstate workerRunResult hrun).imp And.left And.left
  · obtain ⟨innerResult, workerRunResult, hinner, hrun, hmatch⟩ := outcome_eq_some ho
    cases workerRunResult with
    | error workerError => cases innerResult <;> cases hmatch
    | ok _ =>
      cases innerResult with
      | error innerError => cases hmatch
      | ok value' =>
        cases hmatch
        by_cases hstate : worker.state = .initialized
        · refine ⟨hinner, ?_, hstate⟩
          rcases h.run hstate _ hrun with ⟨hstopped, -⟩ | ⟨-, cleanup, streamsError, hresult⟩
          · exact hstopped
          · cases (RunCleanup.afterStreams_eq_ok.mp hresult.symm).1
        · rw [h.notRun hstate] at hrun
          cases hrun
  · obtain ⟨innerResult, workerRunResult, hinner, -, rfl⟩ := outcome_eq_some ho
    rw [he] at hinner
    cases hinner
    cases workerRunResult with
    | error workerError => exact Or.inr ⟨workerError, rfl⟩
    | ok _ => exact Or.inl rfl
  · obtain ⟨innerResult, workerRunResult, -, hrun, rfl⟩ := outcome_eq_some ho
    rw [h.notRun hstate] at hrun
    cases hrun
    cases innerResult with
    | error innerError => exact Or.inr ⟨innerError, rfl⟩
    | ok _ => exact Or.inl rfl

/-- **`runUntil` is safe**: however the worker, the inner promise and other callers act, it leaves no worker
running behind a settled inner promise, settles only after the worker that it has started has stopped or
failed, and hides no error of the inner promise. -/
theorem safe_of_run {options : LifecycleOptions} {before : List WorkerEvent}
    (hworker : Transition.run Worker.step (Worker.create options) before = some worker)
    {events : List (RunUntilEvent ε α)}
    (hrun : Transition.run step (call thrown worker) events = some s) : Safe thrown worker s := by
  have hinv : Inv thrown worker s := Transition.invariant (I := fun s => Inv thrown worker s)
    (fun _ _ _ h hstep => h.step hstep) (inv_call (Worker.run_inv hworker)) hrun
  exact hinv.safe

/-- The inner promise settles, and then the workflow poller completes. -/
def innerFirst : List (RunUntilEvent String ℕ) :=
  [.innerSettles (.ok 1), .worker .shutdownAcknowledged, .worker (.pollerCompletes .workflow false),
    .runSettles "" ⟨.ok (), .ok (), true, none, some (.ok ()), .ok ()⟩]

theorem safe_of_run_innerFirst :
    ∃ s, Transition.run step (call (fun _ => "already started") (Worker.create ⟨false, true, false⟩))
        innerFirst = some s ∧
      s.outcome = some (.ok 1) ∧
      Safe (fun _ => "already started") (Worker.create ⟨false, true, false⟩) s := by
  have hworker : Transition.run Worker.step (Worker.create ⟨false, true, false⟩) [] =
      some (Worker.create ⟨false, true, false⟩) := rfl
  obtain ⟨s, hs, houtcome⟩ : ∃ s, Transition.run step (call (fun _ => "already started")
      (Worker.create ⟨false, true, false⟩)) innerFirst = some s ∧ s.outcome = some (.ok 1) := ⟨_, rfl, rfl⟩
  exact ⟨s, hs, houtcome, safe_of_run hworker hs⟩

end RunUntil

end TemporalSdk
