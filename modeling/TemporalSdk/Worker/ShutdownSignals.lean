import TemporalSdk.Worker.Lifecycle

/-!
# Shutdown signals

The part of a `Runtime` that passes shutdown signals on to the workers that run on it. Workers are
numbered, and the callback of a worker stands under its number.
-/

namespace TemporalSdk

inductive RuntimeState
  | running
  | shuttingDown
deriving DecidableEq

/-- A runtime and its workers. `hooked` says that `startShutdownSequence` listens on the signals, and
`runs` are the runs that have yet to deregister their callback. `registered` are the registrations so
far, and `invoked` the callbacks that have been run, with what they returned or threw. -/
structure SignalRuntime where
  state : RuntimeState
  hooked : Bool
  shutdownSignalCallbacks : List ℕ
  microtasks : List ℕ
  workers : ℕ → Worker
  runs : List ℕ
  registered : List ℕ
  invoked : List (ℕ × Except JsError Unit)

inductive SignalEvent
  | signal
  | worker (worker : ℕ) (event : WorkerEvent)
  | deregister (worker : ℕ)
  | microtask
deriving DecidableEq

namespace SignalRuntime

variable (s : SignalRuntime)

def create (options : ℕ → LifecycleOptions) : SignalRuntime :=
  ⟨.running, true, [], [], fun worker => .create (options worker), [], [], []⟩

def registerShutdownSignalCallback (callback : ℕ) : SignalRuntime :=
  let s := { s with registered := s.registered ++ [callback] }
  if s.state = .running then
    if s.shutdownSignalCallbacks.contains callback then s
    else { s with shutdownSignalCallbacks := s.shutdownSignalCallbacks ++ [callback] }
  else { s with microtasks := s.microtasks ++ [callback] }

def deregisterShutdownSignalCallback (callback : ℕ) : SignalRuntime :=
  { s with shutdownSignalCallbacks := s.shutdownSignalCallbacks.erase callback }

/-- Every callback is queued and deregistered. -/
def startShutdownSequence : SignalRuntime :=
  { s with
    state := .shuttingDown
    hooked := false
    microtasks := s.microtasks ++ s.shutdownSignalCallbacks
    shutdownSignalCallbacks := [] }

def setWorker (worker : ℕ) (w : Worker) : SignalRuntime :=
  { s with workers := Function.update s.workers worker w }

/-- `Worker.run` with the registration of its callback -/
def run (worker : ℕ) : SignalRuntime :=
  match (s.workers worker).run with
  | .error _ => s
  | .ok w =>
    { s.registerShutdownSignalCallback worker with runs := s.runs ++ [worker] }.setWorker worker w

/-- The callback of a worker shuts it down. -/
def invoke (worker : ℕ) : SignalRuntime :=
  match (s.workers worker).shutdown with
  | .error err => { s with invoked := s.invoked ++ [(worker, Except.error err)] }
  | .ok w => { s with invoked := s.invoked ++ [(worker, Except.ok ())] }.setWorker worker w

/-- A run deregisters its callback once its streams have ended. -/
def step (s : SignalRuntime) : SignalEvent → Option SignalRuntime
  | .signal => some (if s.hooked then s.startShutdownSequence else s)
  | .worker worker .run => some (s.run worker)
  | .worker worker event => ((s.workers worker).step event).map (s.setWorker worker)
  | .deregister worker =>
    if s.runs.contains worker && (s.workers worker).streams.ended then
      some { s.deregisterShutdownSignalCallback worker with runs := s.runs.erase worker }
    else none
  | .microtask =>
    match s.microtasks with
    | [] => none
    | callback :: microtasks => some ({ s with microtasks }.invoke callback)

/-- No callback is invoked more often than it was registered, and no invocation throws. -/
structure NeverThrows (s : SignalRuntime) : Prop where
  once : ∀ worker, (s.invoked.map Prod.fst).count worker ≤ s.registered.count worker
  returned : ∀ invocation ∈ s.invoked, invocation.2 = .ok ()

/-- A signal finds the workers running whose callbacks are registered, and a worker whose callback
is queued is left running by whatever happens to it. -/
def Calm (s : SignalRuntime) : SignalEvent → Prop
  | .signal => s.hooked = true → ∀ worker ∈ s.shutdownSignalCallbacks, (s.workers worker).state = .running
  | .worker worker event => ∀ t ∈ s.step (.worker worker event),
      worker ∈ t.microtasks → (t.workers worker).state = .running
  | _ => True

instance (s : SignalRuntime) (event : SignalEvent) : Decidable (s.Calm event) := by
  unfold Calm
  split <;> infer_instance

end SignalRuntime

/-! ### Workers past running -/

namespace WorkerState

/-- The worker has been running and never will again. -/
def isPast : WorkerState → Bool
  | initialized | running => false
  | _ => true

lemma isPast_iff {state : WorkerState} : state.isPast = true ↔ state ≠ initialized ∧ state ≠ running := by
  cases state <;> simp [isPast]

end WorkerState

namespace Worker

variable {w w' : Worker}

lemma failStream_state (w : Worker) (stream : WorkerStream) :
    (w.failStream stream).state = w.state ∨ (w.failStream stream).state.isPast = true := by
  unfold failStream
  dsimp only
  split
  · exact Or.inr rfl
  · exact Or.inl rfl

lemma completeStream_state (w : Worker) (stream : WorkerStream) :
    (w.completeStream stream).state = w.state ∨ (w.completeStream stream).state.isPast = true := by
  unfold completeStream
  dsimp only
  split
  · exact Or.inr rfl
  · exact Or.inl rfl

lemma completeStream_isPast (h : w.state.isPast = true) (stream : WorkerStream) :
    (w.completeStream stream).state.isPast = true := by
  rcases completeStream_state w stream with heq | hpast
  · rw [heq]
    exact h
  · exact hpast

lemma pollersComplete_isPast (w : Worker) (flushing : Bool) :
    (w.pollersComplete flushing).state.isPast = true := by
  have hdrained : (w.setState .drained).state.isPast = true := rfl
  have hforce := completeStream_isPast (completeStream_isPast hdrained .unexpectedErrors) .forceShutdown
  unfold pollersComplete
  refine completeStream_isPast ?_ .pollers
  cases flushing with
  | true => exact hforce
  | false => exact completeStream_isPast (w := { completeStream _ _ with forceTimer := false }) hforce _

/-- What happens to a worker that has been started leaves it in its state or past running. -/
lemma step_state {event : WorkerEvent} (hevent : event ≠ .run) (h : w.step event = some w') :
    w'.state = w.state ∨ w'.state.isPast = true := by
  cases event with
  | run => exact absurd rfl hevent
  | shutdown =>
    simp only [step, shutdown] at h
    split at h
    · rename_i hshutdown
      split at hshutdown
      · cases hshutdown
      · cases hshutdown
        cases h
        exact Or.inr rfl
    · cases h
      exact Or.inl rfl
  | shutdownAcknowledged =>
    obtain ⟨-, h⟩ := Option.ite_none_right_eq_some.mp h
    cases h
    unfold shutdownAcknowledged
    dsimp only
    split
    · exact Or.inr rfl
    · exact Or.inl rfl
  | shutdownRejected =>
    obtain ⟨-, h⟩ := Option.ite_none_right_eq_some.mp h
    cases h
    exact failStream_state { w with initiateShutdown := false } _
  | unexpectedError =>
    obtain ⟨-, h⟩ := Option.ite_none_left_eq_some.mp h
    cases h
    exact failStream_state w _
  | forceTimerFires =>
    obtain ⟨-, h⟩ := Option.ite_none_right_eq_some.mp h
    cases h
    exact failStream_state w _
  | pollerCompletes poller flushing =>
    cases h
    unfold pollerCompletes
    dsimp only
    split
    · exact Or.inr (pollersComplete_isPast _ _)
    · exact Or.inl rfl
  | pollerFails poller =>
    cases h
    unfold pollerFails
    split
    · exact failStream_state w _
    · exact Or.inl rfl
  | heartbeatsComplete =>
    obtain ⟨-, h⟩ := Option.ite_none_right_eq_some.mp h
    cases h
    exact completeStream_state w _
  | heartbeatsFail =>
    cases h
    exact failStream_state w _

/-- Only a new worker is run, and it is running then or past that. -/
lemma run_state (h : w.run = .ok w') : w.state = .initialized ∧ w'.state ≠ .initialized := by
  unfold run at h
  split at h
  · cases h
  · rename_i hstate
    refine ⟨not_not.mp hstate, ?_⟩
    cases h
    split
    · exact (WorkerState.isPast_iff.mp (pollersComplete_isPast _ _)).1
    · simp [setState]

lemma shutdown_of_running (h : w.state = .running) :
    ∃ w', w.shutdown = .ok w' ∧ w'.state.isPast = true := by
  refine ⟨_, if_neg (not_not.mpr h), rfl⟩

end Worker

/-! ### Registrations -/

namespace SignalRuntime

variable {s t : SignalRuntime}

/-- Each registration is in the set, in the queue or invoked, and a worker is registered once, when it
starts to run. -/
structure Inv (s : SignalRuntime) : Prop where
  counted : ∀ worker, s.microtasks.count worker + s.shutdownSignalCallbacks.count worker +
    (s.invoked.map Prod.fst).count worker ≤ s.registered.count worker
  once : ∀ worker, s.registered.count worker ≤ 1
  started : ∀ worker, (s.workers worker).state = .initialized → s.registered.count worker = 0

/-- Every callback that is queued finds its worker running, and none has thrown. -/
structure Good (s : SignalRuntime) : Prop where
  inv : Inv s
  running : ∀ worker ∈ s.microtasks, (s.workers worker).state = .running
  returned : ∀ invocation ∈ s.invoked, invocation.2 = .ok ()

/-- A callback that is queued throws, or one has thrown. -/
structure Bad (s : SignalRuntime) : Prop where
  inv : Inv s
  thrown : (∃ worker ∈ s.microtasks, (s.workers worker).state.isPast = true) ∨
    ∃ invocation ∈ s.invoked, invocation.2 ≠ .ok ()

lemma Inv.registered_ne_zero (h : Inv s) {worker : ℕ}
    (hmem : worker ∈ s.microtasks ∨ worker ∈ s.shutdownSignalCallbacks) :
    s.registered.count worker ≠ 0 := by
  have hcounted := h.counted worker
  rcases hmem with hmem | hmem
  · have hpos := List.count_pos_iff.mpr hmem
    omega
  · have hpos := List.count_pos_iff.mpr hmem
    omega

/-- A worker whose callback is registered is running or past that. -/
lemma Inv.isPast (h : Inv s) {worker : ℕ}
    (hmem : worker ∈ s.microtasks ∨ worker ∈ s.shutdownSignalCallbacks)
    (hne : (s.workers worker).state ≠ .running) : (s.workers worker).state.isPast = true :=
  WorkerState.isPast_iff.mpr ⟨fun hinit => h.registered_ne_zero hmem (h.started worker hinit), hne⟩

lemma inv_create (options : ℕ → LifecycleOptions) : Inv (create options) :=
  ⟨fun _ => le_refl _, fun _ => Nat.zero_le _, fun _ _ => rfl⟩

/-- A worker is replaced by one that has started if it had. -/
lemma Inv.setWorker (h : Inv s) {worker : ℕ} {w : Worker}
    (hw : w.state = .initialized → (s.workers worker).state = .initialized) : Inv (s.setWorker worker w) where
  counted := h.counted
  once := h.once
  started i hi := by
    by_cases heq : i = worker
    · subst heq
      simp only [SignalRuntime.setWorker, Function.update_self] at hi
      exact h.started i (hw hi)
    · simp only [SignalRuntime.setWorker, Function.update_of_ne heq] at hi
      exact h.started i hi

lemma Inv.startShutdownSequence (h : Inv s) : Inv s.startShutdownSequence where
  counted worker := by
    have hcounted := h.counted worker
    simp only [SignalRuntime.startShutdownSequence, List.count_append, List.count_nil]
    omega
  once := h.once
  started := h.started

lemma Inv.deregister (h : Inv s) (worker : ℕ) (runs : List ℕ) :
    Inv { s.deregisterShutdownSignalCallback worker with runs } where
  counted i := by
    have hcounted := h.counted i
    have hle := (List.erase_sublist (a := worker) (l := s.shutdownSignalCallbacks)).count_le i
    simp only [deregisterShutdownSignalCallback]
    omega
  once := h.once
  started := h.started

/-- What `run` does with a new worker. -/
lemma run_cases (s : SignalRuntime) (worker : ℕ) : s.run worker = s ∨
    ∃ w, (s.workers worker).run = .ok w ∧
      (s.run worker).registered = s.registered ++ [worker] ∧
      (s.run worker).invoked = s.invoked ∧
      (s.run worker).workers = Function.update s.workers worker w ∧
      ((s.run worker).microtasks = s.microtasks ∧
          (∀ i, (s.run worker).shutdownSignalCallbacks.count i ≤
            s.shutdownSignalCallbacks.count i + [worker].count i) ∨
        (s.run worker).microtasks = s.microtasks ++ [worker] ∧
          (s.run worker).shutdownSignalCallbacks = s.shutdownSignalCallbacks) := by
  cases hrun : (s.workers worker).run with
  | error err =>
    simp only [run, hrun]
    exact Or.inl trivial
  | ok w =>
    refine Or.inr ⟨w, rfl, ?_⟩
    simp only [run, hrun, registerShutdownSignalCallback]
    split
    · split
      · exact ⟨rfl, rfl, rfl, Or.inl ⟨rfl, fun i => Nat.le_add_right _ _⟩⟩
      · exact ⟨rfl, rfl, rfl, Or.inl ⟨rfl, fun i => by rw [← List.count_append]; exact le_refl _⟩⟩
    · exact ⟨rfl, rfl, rfl, Or.inr ⟨rfl, rfl⟩⟩

lemma Inv.run (h : Inv s) (worker : ℕ) : Inv (s.run worker) := by
  rcases run_cases s worker with heq | ⟨w, hrun, hregistered, hinvoked, hworkers, hqueue⟩
  · rw [heq]
    exact h
  · obtain ⟨hinitialized, hstate⟩ := Worker.run_state hrun
    have hzero := h.started worker hinitialized
    refine ⟨fun i => ?_, fun i => ?_, fun i hi => ?_⟩
    · have hcounted := h.counted i
      rw [hregistered, hinvoked, List.count_append]
      rcases hqueue with ⟨hmicrotasks, hcallbacks⟩ | ⟨hmicrotasks, hcallbacks⟩
      · have hle := hcallbacks i
        rw [hmicrotasks]
        omega
      · rw [hmicrotasks, hcallbacks, List.count_append]
        omega
    · rw [hregistered, List.count_append]
      by_cases heq : i = worker
      · subst heq
        simp [hzero]
      · have hcount : [worker].count i = 0 := by simp [Ne.symm heq]
        rw [hcount]
        exact h.once i
    · rw [hworkers] at hi
      by_cases heq : i = worker
      · subst heq
        rw [Function.update_self] at hi
        exact absurd hi hstate
      · rw [Function.update_of_ne heq] at hi
        rw [hregistered, List.count_append, h.started i hi]
        simp [Ne.symm heq]

/-! ### Steps -/

lemma step_worker {worker : ℕ} {event : WorkerEvent} (h : s.step (.worker worker event) = some t) :
    event = .run ∧ t = s.run worker ∨
      event ≠ .run ∧ ∃ w, (s.workers worker).step event = some w ∧ t = s.setWorker worker w := by
  by_cases hevent : event = .run
  · subst hevent
    cases h
    exact Or.inl ⟨rfl, rfl⟩
  · have hmap : ((s.workers worker).step event).map (s.setWorker worker) = some t := by
      cases event with
      | run => exact absurd rfl hevent
      | _ => exact h
    obtain ⟨w, hw, heq⟩ := Option.map_eq_some_iff.mp hmap
    exact Or.inr ⟨hevent, w, hw, heq.symm⟩

/-- The first of the queue is invoked: it shuts a worker down that is running, and throws for
any other. -/
lemma step_microtask (h : s.step .microtask = some t) : ∃ worker,
    s.microtasks = worker :: t.microtasks ∧
    t.shutdownSignalCallbacks = s.shutdownSignalCallbacks ∧ t.registered = s.registered ∧
    ((s.workers worker).state = .running ∧ t.invoked = s.invoked ++ [(worker, Except.ok ())] ∧
        (∃ w : Worker, w.state.isPast = true ∧ t.workers = Function.update s.workers worker w) ∨
      (s.workers worker).state ≠ .running ∧ t.workers = s.workers ∧
        t.invoked = s.invoked ++ [(worker, Except.error (.illegalStateError "Not running"))]) := by
  simp only [step] at h
  split at h
  · cases h
  · rename_i worker microtasks hmicrotasks
    cases h
    refine ⟨worker, ?_⟩
    by_cases hstate : (s.workers worker).state = .running
    · obtain ⟨w, hshutdown, hpast⟩ := Worker.shutdown_of_running hstate
      have hinvoke : invoke { s with microtasks } worker =
          { s with microtasks, invoked := s.invoked ++ [(worker, Except.ok ())] }.setWorker worker w := by
        simp only [invoke, hshutdown]
      rw [hinvoke]
      exact ⟨hmicrotasks, rfl, rfl, Or.inl ⟨hstate, rfl, w, hpast, rfl⟩⟩
    · have hinvoke : invoke { s with microtasks } worker = { s with
          microtasks
          invoked := s.invoked ++ [(worker, Except.error (.illegalStateError "Not running"))] } := by
        simp only [invoke, (Worker.shutdown_of_ne hstate).1]
      rw [hinvoke]
      exact ⟨hmicrotasks, rfl, rfl, Or.inr ⟨hstate, rfl, rfl⟩⟩

lemma step_deregister {worker : ℕ} (h : s.step (.deregister worker) = some t) :
    ∃ runs, t = { s.deregisterShutdownSignalCallback worker with runs } := by
  simp only [step] at h
  split at h
  · cases h
    exact ⟨_, rfl⟩
  · cases h

lemma Inv.step {event : SignalEvent} (h : Inv s) (hstep : s.step event = some t) : Inv t := by
  cases event with
  | signal =>
    cases hstep
    split
    · exact h.startShutdownSequence
    · exact h
  | worker worker event =>
    rcases step_worker hstep with ⟨-, rfl⟩ | ⟨hevent, w, hw, rfl⟩
    · exact h.run worker
    · refine h.setWorker fun hinit => ?_
      rcases Worker.step_state hevent hw with heq | hpast
      · rw [← heq]
        exact hinit
      · rw [hinit] at hpast
        cases hpast
  | deregister worker =>
    obtain ⟨runs, rfl⟩ := step_deregister hstep
    exact h.deregister worker runs
  | microtask =>
    obtain ⟨worker, hmicrotasks, hcallbacks, hregistered, hinvoke⟩ := step_microtask hstep
    have hinvoked : ∃ result, t.invoked = s.invoked ++ [(worker, result)] := by
      rcases hinvoke with ⟨-, hinvoked, -⟩ | ⟨-, -, hinvoked⟩
      · exact ⟨_, hinvoked⟩
      · exact ⟨_, hinvoked⟩
    obtain ⟨result, hinvoked⟩ := hinvoked
    refine ⟨fun i => ?_, fun i => ?_, fun i hi => ?_⟩
    · have hcounted := h.counted i
      rw [hmicrotasks, List.count_cons] at hcounted
      rw [hcallbacks, hinvoked, hregistered, List.map_append, List.count_append, List.map_singleton,
        List.count_singleton]
      dsimp only
      omega
    · rw [hregistered]
      exact h.once i
    · rw [hregistered]
      refine h.started i ?_
      rcases hinvoke with ⟨-, -, w, hpast, hworkers⟩ | ⟨-, hworkers, -⟩
      · rw [hworkers] at hi
        by_cases heq : i = worker
        · subst heq
          rw [Function.update_self] at hi
          exact absurd hi (WorkerState.isPast_iff.mp hpast).1
        · rwa [Function.update_of_ne heq] at hi
      · rwa [hworkers] at hi

/-- What is in the queue stands there once. -/
lemma Inv.notMem_tail (h : Inv s) {worker : ℕ} {microtasks : List ℕ}
    (hmicrotasks : s.microtasks = worker :: microtasks) : worker ∉ microtasks := by
  intro hmem
  have hcounted := h.counted worker
  have honce := h.once worker
  have hpos := List.count_pos_iff.mpr hmem
  rw [hmicrotasks, List.count_cons_self] at hcounted
  omega

/-- What happens to one worker leaves the others, and the queue but for that worker. -/
lemma worker_frame {worker i : ℕ} {event : WorkerEvent} (h : s.step (.worker worker event) = some t)
    (hi : i ≠ worker) :
    (t.workers i).state = (s.workers i).state ∧ (i ∈ t.microtasks ↔ i ∈ s.microtasks) := by
  rcases step_worker h with ⟨-, rfl⟩ | ⟨-, w, -, rfl⟩
  · rcases run_cases s worker with heq | ⟨w, -, -, -, hworkers, hqueue⟩
    · rw [heq]
      exact ⟨rfl, Iff.rfl⟩
    · rw [hworkers, Function.update_of_ne hi]
      refine ⟨rfl, ?_⟩
      rcases hqueue with ⟨hmicrotasks, -⟩ | ⟨hmicrotasks, -⟩
      · rw [hmicrotasks]
      · rw [hmicrotasks, List.mem_append, List.mem_singleton]
        simp [hi]
  · refine ⟨?_, Iff.rfl⟩
    simp only [setWorker, Function.update_of_ne hi]

lemma worker_invoked {worker : ℕ} {event : WorkerEvent} (h : s.step (.worker worker event) = some t) :
    t.invoked = s.invoked := by
  rcases step_worker h with ⟨-, rfl⟩ | ⟨-, w, -, rfl⟩
  · rcases run_cases s worker with heq | ⟨w, -, -, hinvoked, -⟩
    · rw [heq]
    · exact hinvoked
  · rfl

/-- Only a microtask invokes a callback. -/
lemma invoked_of_ne {event : SignalEvent} (hne : event ≠ .microtask) (hstep : s.step event = some t) :
    t.invoked = s.invoked := by
  cases event with
  | signal =>
    cases hstep
    split <;> rfl
  | worker worker event => exact worker_invoked hstep
  | deregister worker =>
    obtain ⟨runs, rfl⟩ := step_deregister hstep
    rfl
  | microtask => exact absurd rfl hne

lemma Good.step {event : SignalEvent} (h : Good s) (hcalm : s.Calm event) (hstep : s.step event = some t) :
    Good t := by
  refine ⟨h.inv.step hstep, ?_, ?_⟩
  · intro i hi
    cases event with
    | signal =>
      cases hstep
      split at hi
      · rename_i hhooked
        rw [if_pos hhooked]
        rcases List.mem_append.mp hi with hqueued | hcallback
        · exact h.running i hqueued
        · exact hcalm hhooked i hcallback
      · rename_i hhooked
        rw [if_neg hhooked]
        exact h.running i hi
    | worker worker event =>
      by_cases heq : i = worker
      · subst heq
        exact hcalm t hstep hi
      · obtain ⟨hstate, hmem⟩ := worker_frame hstep heq
        rw [hstate]
        exact h.running i (hmem.mp hi)
    | deregister worker =>
      obtain ⟨runs, rfl⟩ := step_deregister hstep
      exact h.running i hi
    | microtask =>
      obtain ⟨worker, hmicrotasks, -, -, hinvoke⟩ := step_microtask hstep
      have hne : i ≠ worker := by
        rintro rfl
        exact h.inv.notMem_tail hmicrotasks hi
      have hrunning := h.running i (by rw [hmicrotasks]; exact List.mem_cons_of_mem _ hi)
      rcases hinvoke with ⟨-, -, w, -, hworkers⟩ | ⟨-, hworkers, -⟩
      · rw [hworkers, Function.update_of_ne hne]
        exact hrunning
      · rw [hworkers]
        exact hrunning
  · intro invocation hinvocation
    by_cases hne : event ≠ .microtask
    · rw [invoked_of_ne hne hstep] at hinvocation
      exact h.returned invocation hinvocation
    · obtain rfl : event = .microtask := not_not.mp hne
      obtain ⟨worker, hmicrotasks, -, -, hinvoke⟩ := step_microtask hstep
      have hrunning := h.running worker (by rw [hmicrotasks]; exact List.mem_cons_self)
      rcases hinvoke with ⟨-, hinvoked, -⟩ | ⟨hstate, -, -⟩
      · rw [hinvoked] at hinvocation
        rcases List.mem_append.mp hinvocation with hold | hnew
        · exact h.returned invocation hold
        · rw [List.mem_singleton.mp hnew]
      · exact absurd hrunning hstate

/-- A step that is not calm leaves a callback in the queue whose worker is past running. -/
lemma Inv.bad_of_not_calm {event : SignalEvent} (h : Inv s) (hcalm : ¬s.Calm event)
    (hstep : s.step event = some t) : Bad t := by
  refine ⟨h.step hstep, Or.inl ?_⟩
  cases event with
  | signal =>
    simp only [Calm, Classical.not_imp, not_forall] at hcalm
    obtain ⟨hhooked, worker, hmem, hne⟩ := hcalm
    cases hstep
    rw [if_pos hhooked]
    exact ⟨worker, List.mem_append_right _ hmem, h.isPast (Or.inr hmem) hne⟩
  | worker worker event =>
    simp only [Calm, Option.mem_def, Classical.not_imp, not_forall] at hcalm
    obtain ⟨u, hu, hmem, hne⟩ := hcalm
    rw [hstep] at hu
    cases hu
    exact ⟨worker, hmem, (h.step hstep).isPast (Or.inl hmem) hne⟩
  | deregister worker => exact absurd trivial hcalm
  | microtask => exact absurd trivial hcalm

/-- A callback whose worker is past running stays in the queue until it throws. -/
lemma Bad.step {event : SignalEvent} (h : Bad s) (hstep : s.step event = some t) : Bad t := by
  refine ⟨h.inv.step hstep, ?_⟩
  rcases h.thrown with ⟨i, hi, hpast⟩ | ⟨invocation, hmem, hne⟩
  · cases event with
    | signal =>
      cases hstep
      split
      · exact Or.inl ⟨i, List.mem_append_left _ hi, hpast⟩
      · exact Or.inl ⟨i, hi, hpast⟩
    | worker worker event =>
      by_cases heq : i = worker
      · subst heq
        rcases step_worker hstep with ⟨-, rfl⟩ | ⟨hevent, w, hw, rfl⟩
        · rcases run_cases s i with heq | ⟨w, hrun, -⟩
          · rw [heq]
            exact Or.inl ⟨i, hi, hpast⟩
          · rw [(Worker.run_state hrun).1] at hpast
            cases hpast
        · refine Or.inl ⟨i, hi, ?_⟩
          simp only [setWorker, Function.update_self]
          rcases Worker.step_state hevent hw with heq | hpast'
          · rw [heq]
            exact hpast
          · exact hpast'
      · obtain ⟨hstate, hmem⟩ := worker_frame hstep heq
        exact Or.inl ⟨i, hmem.mpr hi, by rw [hstate]; exact hpast⟩
    | deregister worker =>
      obtain ⟨runs, rfl⟩ := step_deregister hstep
      exact Or.inl ⟨i, hi, hpast⟩
    | microtask =>
      obtain ⟨worker, hmicrotasks, -, -, hinvoke⟩ := step_microtask hstep
      rw [hmicrotasks] at hi
      rcases List.mem_cons.mp hi with rfl | hrest
      · rcases hinvoke with ⟨hrunning, -⟩ | ⟨-, -, hinvoked⟩
        · exact absurd hrunning (WorkerState.isPast_iff.mp hpast).2
        · rw [hinvoked]
          exact Or.inr ⟨_, List.mem_concat_self, by simp⟩
      · have hne : i ≠ worker := by
          rintro rfl
          exact h.inv.notMem_tail hmicrotasks hrest
        refine Or.inl ⟨i, hrest, ?_⟩
        rcases hinvoke with ⟨-, -, w, -, hworkers⟩ | ⟨-, hworkers, -⟩
        · rw [hworkers, Function.update_of_ne hne]
          exact hpast
        · rw [hworkers]
          exact hpast
  · refine Or.inr ⟨invocation, ?_, hne⟩
    by_cases hmicrotask : event ≠ .microtask
    · rw [invoked_of_ne hmicrotask hstep]
      exact hmem
    · obtain rfl : event = .microtask := not_not.mp hmicrotask
      obtain ⟨worker, -, -, -, ⟨-, hinvoked, -⟩ | ⟨-, -, hinvoked⟩⟩ := step_microtask hstep
      · rw [hinvoked]
        exact List.mem_append_left _ hmem
      · rw [hinvoked]
        exact List.mem_append_left _ hmem

lemma Good.neverThrows (h : Good s) : NeverThrows s :=
  ⟨fun worker => le_trans (Nat.le_add_left _ _) (h.inv.counted worker), h.returned⟩

lemma Bad.not_neverThrows (h : Bad s) (hempty : s.microtasks = []) : ¬NeverThrows s := by
  intro hnever
  rcases h.thrown with ⟨worker, hmem, -⟩ | ⟨invocation, hmem, hne⟩
  · rw [hempty] at hmem
    cases hmem
  · exact hne (hnever.returned invocation hmem)

lemma good_create (options : ℕ → LifecycleOptions) : Good (create options) := by
  refine ⟨inv_create options, ?_, ?_⟩
  · intro worker hmem
    cases hmem
  · intro invocation hmem
    cases hmem

/-- In a run whose steps are calm no callback ever throws; and when the queue has been emptied and
none has thrown, all steps were calm. -/
theorem neverThrows_iff_calm (options : ℕ → LifecycleOptions) (events : List SignalEvent)
    (h : Transition.run step (create options) events = some s) :
    (Transition.Meets step Calm (create options) events →
      Transition.Throughout step NeverThrows (create options) events) ∧
    (s.microtasks = [] → (Transition.Throughout step NeverThrows (create options) events ↔
      Transition.Meets step Calm (create options) events)) := by
  have hmeets : Transition.Meets step Calm (create options) events →
      Transition.Throughout step NeverThrows (create options) events :=
    Transition.throughout_of_meets (I := Good) (fun _ => Good.neverThrows)
      (fun _ _ _ hs hC hstep => hs.step hC hstep) (good_create options)
  refine ⟨hmeets, fun hempty => ⟨fun hnever => ?_, hmeets⟩⟩
  have hbroken := Transition.meets_or_broken (I := Good) (B := Bad)
    (fun _ _ _ hs hC hstep => hs.step hC hstep)
    (fun _ _ _ hs hC hstep => hs.inv.bad_of_not_calm hC hstep)
    (fun _ _ _ hs hstep => hs.step hstep) (good_create options) h
  rcases hbroken with ⟨hmeets, -⟩ | ⟨-, hbad⟩
  · exact hmeets
  · exact absurd (hnever events (List.prefix_refl events) s h) (hbad.not_neverThrows hempty)

/-- A signal finds one worker running; another starts after the signal and is shut down at once. -/
theorem neverThrows_iff_calm_twoWorkers :
    Transition.Throughout step NeverThrows (create fun _ => ⟨false, true, true⟩)
      [.worker 0 .run, .signal, .worker 1 .run, .microtask, .microtask, .worker 0 .shutdownAcknowledged] :=
  (neverThrows_iff_calm (fun _ => ⟨false, true, true⟩) [.worker 0 .run, .signal, .worker 1 .run,
    .microtask, .microtask, .worker 0 .shutdownAcknowledged] rfl).1 (by decide)

/-- The user shuts a worker down, and its run has not ended when a signal comes. -/
theorem neverThrows_counterexample :
    ∃ s, Transition.run step (create fun _ => ⟨false, true, true⟩)
        [.worker 0 .run, .worker 0 .shutdown, .signal, .microtask] = some s ∧
      s.invoked = [(0, .error (.illegalStateError "Not running"))] ∧ ¬s.NeverThrows := by
  refine ⟨_, rfl, rfl, fun h => ?_⟩
  have hreturned := h.returned (0, .error (.illegalStateError "Not running")) List.mem_cons_self
  cases hreturned

end SignalRuntime

end TemporalSdk
