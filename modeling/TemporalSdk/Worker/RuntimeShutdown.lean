import Mathlib.Data.Finset.Basic
import Mathlib.Data.List.Count
import Mathlib.Tactic.Linarith
import TemporalSdk.Library.Transition

/-!
# The shutdown of an idle runtime

A `Runtime` counts the creations of native objects that are pending and tracks the objects that
exist. When neither is left it shuts the native runtime down. Objects are numbered in the order in
which their creations begin. `logPollPromise` settles without an error: that a logger throws while logs are
polled is left out.
-/

namespace TemporalSdk

/-- The native objects that a runtime tracks; a replay worker is tracked as its worker. -/
inductive NativeObject
  | client
  | worker
  | replayWorker
  | ephemeralServer
deriving DecidableEq

/-- What has become of a creation. In `created` the object is tracked but the promise of
`createNativeNoBackRef` is not settled yet, and in `shuttingDown` the native shutdown of an ephemeral
server is awaited. -/
inductive ObjectPhase
  | creating
  | created
  | opened
  | shuttingDown
  | closed
  | failed
deriving DecidableEq

namespace ObjectPhase

def isPending : ObjectPhase → Bool
  | creating | created => true
  | _ => false

def isTracked : ObjectPhase → Bool
  | created | opened | shuttingDown => true
  | _ => false

/-- The creation has failed, or the object was closed. -/
def isOver : ObjectPhase → Bool
  | closed | failed => true
  | _ => false

end ObjectPhase

/-- An instance of `Runtime`. `current` says that it is `Runtime._instance`, `logPolling` that
`logPollPromise` is not settled, `shutdowns` counts the calls of `shutdown` that wait for that promise,
and `runtimeShutdowns` the native shutdowns that were started. -/
structure RuntimeInstance where
  current : Bool
  pendingCreations : ℤ
  backRefs : Finset ℕ
  objects : List (NativeObject × ObjectPhase)
  logPolling : Bool
  shutdowns : ℕ
  runtimeShutdowns : ℕ

/-- What happens on a runtime. The promise of the native creation resolves (`nativeCreated`) or
rejects (`creationFailed`), and the one of an ephemeral server's shutdown likewise. -/
inductive RuntimeEvent
  | createNative (kind : NativeObject)
  | nativeCreated (object : ℕ)
  | creationReturned (object : ℕ)
  | creationFailed (object : ℕ)
  | closeNativeClient (object : ℕ)
  | deregisterWorker (object : ℕ)
  | shutdownEphemeralServer (object : ℕ)
  | ephemeralServerShutDown (object : ℕ)
  | ephemeralServerShutdownFailed (object : ℕ)
  | logPollSettled
  | logPollAwaited

namespace RuntimeInstance

variable (s : RuntimeInstance)

/-- A new instance; it polls for logs if it forwards them. -/
def create (isForwardingLogs : Bool) : RuntimeInstance := ⟨true, 0, ∅, [], isForwardingLogs, 0, 0⟩

def isIdle : Bool := s.pendingCreations = 0 && s.backRefs = ∅

/-- `shutdown` up to its `await` -/
def shutdown : RuntimeInstance := { s with current := false, shutdowns := s.shutdowns + 1 }

def shutdownIfIdle : RuntimeInstance := if s.isIdle then s.shutdown else s

def setPhase (object : ℕ) (kind : NativeObject) (phase : ObjectPhase) : RuntimeInstance :=
  { s with objects := s.objects.set object (kind, phase) }

/-- `createNative` up to the call of the native function -/
def createNative (kind : NativeObject) : RuntimeInstance :=
  { s with
    pendingCreations := s.pendingCreations + 1
    objects := s.objects ++ [(kind, .creating)] }

def nativeCreated (object : ℕ) (kind : NativeObject) : RuntimeInstance :=
  { s with backRefs := insert object s.backRefs }.setPhase object kind .created

def creationReturned (object : ℕ) (kind : NativeObject) : RuntimeInstance :=
  { s with pendingCreations := s.pendingCreations - 1 }.setPhase object kind .opened

def creationFailed (object : ℕ) (kind : NativeObject) : RuntimeInstance :=
  ({ s with pendingCreations := s.pendingCreations - 1 }.setPhase object kind .failed).shutdownIfIdle

/-- What closing a client, deregistering a worker and shutting an ephemeral server down end with -/
def close (object : ℕ) (kind : NativeObject) : RuntimeInstance :=
  ({ s with backRefs := s.backRefs.erase object }.setPhase object kind .closed).shutdownIfIdle

/-- Creations begin while the instance is current, and an object is closed once, after its creation
has returned it. -/
def step (s : RuntimeInstance) : RuntimeEvent → Option RuntimeInstance
  | .createNative kind => if s.current then some (s.createNative kind) else none
  | .nativeCreated object =>
    match s.objects[object]? with
    | some (kind, .creating) => some (s.nativeCreated object kind)
    | _ => none
  | .creationReturned object =>
    match s.objects[object]? with
    | some (kind, .created) => some (s.creationReturned object kind)
    | _ => none
  | .creationFailed object =>
    match s.objects[object]? with
    | some (kind, .creating) => some (s.creationFailed object kind)
    | _ => none
  | .closeNativeClient object =>
    match s.objects[object]? with
    | some (.client, .opened) => some (s.close object .client)
    | _ => none
  | .deregisterWorker object =>
    match s.objects[object]? with
    | some (.worker, .opened) => some (s.close object .worker)
    | some (.replayWorker, .opened) => some (s.close object .replayWorker)
    | _ => none
  | .shutdownEphemeralServer object =>
    match s.objects[object]? with
    | some (.ephemeralServer, .opened) => some (s.setPhase object .ephemeralServer .shuttingDown)
    | _ => none
  | .ephemeralServerShutDown object =>
    match s.objects[object]? with
    | some (.ephemeralServer, .shuttingDown) => some (s.close object .ephemeralServer)
    | _ => none
  | .ephemeralServerShutdownFailed object =>
    match s.objects[object]? with
    | some (.ephemeralServer, .shuttingDown) => some (s.setPhase object .ephemeralServer .opened)
    | _ => none
  | .logPollSettled => if s.logPolling then some { s with logPolling := false } else none
  | .logPollAwaited =>
    if s.shutdowns = 0 ∨ s.logPolling = true then none
    else some { s with shutdowns := s.shutdowns - 1, runtimeShutdowns := s.runtimeShutdowns + 1 }

/-- Every creation has failed or its object was closed. -/
def AllOver (s : RuntimeInstance) : Prop := ∀ object ∈ s.objects, object.2.isOver = true

/-- The native shutdown is started at most once, only when no creation is pending and no object
tracked; and when the last of the objects is closed or fails to be created, it is started, as
soon as the logs have been collected. -/
structure ShutdownOk (s : RuntimeInstance) : Prop where
  once : s.runtimeShutdowns ≤ 1
  onlyIdle : 0 < s.runtimeShutdowns → s.AllOver ∧ s.isIdle = true
  started : s.objects ≠ [] → s.AllOver →
    s.runtimeShutdowns = 1 ∨ s.runtimeShutdowns = 0 ∧ s.shutdowns = 1 ∧
      (s.logPolling = false → ∃ t, s.step .logPollAwaited = some t ∧ t.runtimeShutdowns = 1)

/-! ### The counter and the back references -/

variable {s t : RuntimeInstance} {object : ℕ} {kind : NativeObject} {phase phase' : ObjectPhase}

/-- The counter and the set agree with the phases of the objects. -/
structure Counted (s : RuntimeInstance) : Prop where
  pending : s.pendingCreations = s.objects.countP (·.2.isPending)
  tracked : ∀ id, id ∈ s.backRefs ↔ ∃ object, s.objects[id]? = some object ∧ object.2.isTracked = true

lemma Counted.setPhase (h : Counted s) (hobject : s.objects[object]? = some (kind, phase))
    {pendingCreations : ℤ} {backRefs : Finset ℕ}
    (hpending : pendingCreations = s.pendingCreations - phase.isPending.toInt + phase'.isPending.toInt)
    (hself : object ∈ backRefs ↔ phase'.isTracked = true)
    (hother : ∀ id, id ≠ object → (id ∈ backRefs ↔ id ∈ s.backRefs)) :
    Counted ({ s with pendingCreations, backRefs }.setPhase object kind phase') where
  pending := by
    obtain ⟨hlt, hget⟩ := List.getElem?_eq_some_iff.mp hobject
    have hpos : phase.isPending = true → 0 < s.objects.countP (·.2.isPending) := by
      intro hphase
      exact List.countP_pos_iff.mpr ⟨_, List.getElem_mem hlt, by rw [hget]; exact hphase⟩
    simp only [RuntimeInstance.setPhase, List.countP_set hlt, hget, hpending, h.pending]
    cases hphase : phase.isPending with
    | true =>
      have hle := hpos hphase
      cases phase'.isPending <;> simp <;> omega
    | false => cases phase'.isPending <;> simp
  tracked id := by
    obtain ⟨hlt, -⟩ := List.getElem?_eq_some_iff.mp hobject
    simp only [RuntimeInstance.setPhase, List.getElem?_set]
    by_cases hid : object = id
    · subst hid
      simp [hlt, hself]
    · simp only [hid, if_false]
      rw [hother id (Ne.symm hid)]
      exact h.tracked id

lemma isOver_iff (phase : ObjectPhase) :
    phase.isOver = true ↔ phase.isPending = false ∧ phase.isTracked = false := by
  cases phase <;> decide

lemma isOver_eq_false (h : phase.isTracked = true) : phase.isOver = false := by
  by_contra hover
  rw [Bool.not_eq_false, isOver_iff, h] at hover
  cases hover.2

/-- A runtime is idle when all of its objects are over. -/
lemma Counted.isIdle_iff (h : Counted s) : s.isIdle = true ↔ s.AllOver := by
  have hpending : s.pendingCreations = 0 ↔ ∀ object ∈ s.objects, object.2.isPending = false := by
    rw [h.pending, Nat.cast_eq_zero, List.countP_eq_zero]
    simp
  have htracked : s.backRefs = ∅ ↔ ∀ object ∈ s.objects, object.2.isTracked = false := by
    rw [Finset.eq_empty_iff_forall_notMem]
    constructor
    · intro hempty object hobject
      obtain ⟨id, hid⟩ := List.mem_iff_getElem?.mp hobject
      by_contra hne
      exact hempty id ((h.tracked id).mpr ⟨object, hid, by simpa using hne⟩)
    · intro hall id hmem
      obtain ⟨object, hid, hobject⟩ := (h.tracked id).mp hmem
      rw [hall object (List.mem_of_getElem? hid)] at hobject
      cases hobject
  unfold isIdle AllOver
  rw [Bool.and_eq_true, decide_eq_true_eq, decide_eq_true_eq, hpending, htracked]
  constructor
  · rintro ⟨hp, ht⟩ object hobject
    exact (isOver_iff _).mpr ⟨hp object hobject, ht object hobject⟩
  · intro hall
    exact ⟨fun object hobject => ((isOver_iff _).mp (hall object hobject)).1,
      fun object hobject => ((isOver_iff _).mp (hall object hobject)).2⟩

/-! ### Runs -/

/-- The instance is current, and no shutdown has been called. -/
structure Live (s : RuntimeInstance) : Prop where
  counted : Counted s
  current : s.current = true
  shutdowns : s.shutdowns = 0
  runtimeShutdowns : s.runtimeShutdowns = 0

/-- The instance shuts down, once. -/
structure Down (s : RuntimeInstance) : Prop where
  counted : Counted s
  current : s.current = false
  once : s.shutdowns + s.runtimeShutdowns = 1
  allOver : s.AllOver

/-- The instance is live, and has had no object yet or has one that is not over; or it shuts down. -/
def Inv (s : RuntimeInstance) : Prop := Live s ∧ (s.AllOver → s.objects = []) ∨ Down s

lemma Inv.shutdown_ok (h : Inv s) : ShutdownOk s := by
  rcases h with ⟨hlive, hempty⟩ | hdown
  · refine ⟨by rw [hlive.runtimeShutdowns]; exact Nat.zero_le 1, ?_, ?_⟩
    · intro hpos
      rw [hlive.runtimeShutdowns] at hpos
      exact absurd hpos (Nat.lt_irrefl 0)
    · intro hne hover
      exact absurd (hempty hover) hne
  · have hsum := hdown.once
    refine ⟨by omega, fun _ => ⟨hdown.allOver, hdown.counted.isIdle_iff.mpr hdown.allOver⟩, ?_⟩
    intro _ _
    by_cases hstarted : s.runtimeShutdowns = 1
    · exact Or.inl hstarted
    · have hshutdowns : s.shutdowns = 1 := by omega
      have hzero : s.runtimeShutdowns = 0 := by omega
      refine Or.inr ⟨hzero, hshutdowns, fun hlog => ?_⟩
      refine ⟨{ s with shutdowns := s.shutdowns - 1, runtimeShutdowns := s.runtimeShutdowns + 1 }, ?_, ?_⟩
      · simp [step, hshutdowns, hlog]
      · simp [hzero]

/-- An object that is not over is that of a live instance. -/
lemma Inv.live_of_object (h : Inv s) (hobject : s.objects[object]? = some (kind, phase))
    (hphase : phase.isOver = false) : Live s := by
  rcases h with ⟨hlive, -⟩ | hdown
  · exact hlive
  · have hover := hdown.allOver _ (List.mem_of_getElem? hobject)
    rw [hphase] at hover
    cases hover

/-- An object of a live instance moves to another phase. -/
lemma Live.setPhase (h : Live s) (hobject : s.objects[object]? = some (kind, phase))
    {pendingCreations : ℤ} {backRefs : Finset ℕ}
    (hpending : pendingCreations = s.pendingCreations - phase.isPending.toInt + phase'.isPending.toInt)
    (hself : object ∈ backRefs ↔ phase'.isTracked = true)
    (hother : ∀ id, id ≠ object → (id ∈ backRefs ↔ id ∈ s.backRefs)) :
    Live ({ s with pendingCreations, backRefs }.setPhase object kind phase') :=
  ⟨h.counted.setPhase hobject hpending hself hother, h.current, h.shutdowns, h.runtimeShutdowns⟩

/-- An object stays in the place of its creation, in a phase that is not over. -/
lemma Live.inv_of_phase (h : Live (s.setPhase object kind phase')) (hlt : object < s.objects.length)
    (hphase : phase'.isOver = false) : Inv (s.setPhase object kind phase') := by
  refine Or.inl ⟨h, fun hover => ?_⟩
  have hmem : (kind, phase') ∈ (s.setPhase object kind phase').objects := List.mem_set hlt _
  rw [hover _ hmem] at hphase
  cases hphase

/-- What is idle is shut down. -/
lemma Live.shutdownIfIdle (h : Live s) : Inv s.shutdownIfIdle := by
  unfold RuntimeInstance.shutdownIfIdle
  split
  · rename_i hidle
    refine Or.inr ⟨⟨h.counted.pending, h.counted.tracked⟩, rfl, ?_, h.counted.isIdle_iff.mp hidle⟩
    simp [shutdown, h.shutdowns, h.runtimeShutdowns]
  · rename_i hidle
    exact Or.inl ⟨h, fun hover => absurd (h.counted.isIdle_iff.mpr hover) hidle⟩

lemma Live.createNative (h : Live s) (kind : NativeObject) : Inv (s.createNative kind) := by
  refine Or.inl ⟨⟨⟨?_, fun id => ?_⟩, h.current, h.shutdowns, h.runtimeShutdowns⟩, fun hover => ?_⟩
  · simp [RuntimeInstance.createNative, h.counted.pending, ObjectPhase.isPending]
  · simp only [RuntimeInstance.createNative]
    rw [h.counted.tracked id, List.getElem?_append]
    split
    · rfl
    · rename_i hle
      have hnone : s.objects[id]? = none := List.getElem?_eq_none (Nat.le_of_not_lt hle)
      constructor
      · rintro ⟨object, hobject, -⟩
        rw [hnone] at hobject
        cases hobject
      · rintro ⟨object, hobject, htracked⟩
        rw [List.mem_singleton.mp (List.mem_of_getElem? hobject)] at htracked
        cases htracked
  · have hmem : (kind, ObjectPhase.creating) ∈ (s.createNative kind).objects := List.mem_concat_self
    exact absurd (hover _ hmem) (by simp [ObjectPhase.isOver])

/-- A closed object is no longer tracked. -/
lemma Inv.close (h : Inv s) (hobject : s.objects[object]? = some (kind, phase))
    (htracked : phase.isTracked = true) (hpending : phase.isPending = false) : Inv (s.close object kind) := by
  have hlive := h.live_of_object hobject (isOver_eq_false htracked)
  refine Live.shutdownIfIdle (hlive.setPhase hobject ?_ ?_ ?_)
  · have hclosed : ObjectPhase.closed.isPending = false := rfl
    rw [hpending, hclosed]
    simp
  · simp [ObjectPhase.isTracked]
  · intro id hid
    simp [hid]

/-- An ephemeral server that is shutting down stays tracked. -/
lemma Inv.betweenTracked (h : Inv s) (hobject : s.objects[object]? = some (kind, phase))
    (htracked : phase.isTracked = true) (hpending : phase.isPending = false)
    (htracked' : phase'.isTracked = true) (hpending' : phase'.isPending = false) :
    Inv (s.setPhase object kind phase') := by
  have hlive := h.live_of_object hobject (isOver_eq_false htracked)
  obtain ⟨hlt, -⟩ := List.getElem?_eq_some_iff.mp hobject
  refine Live.inv_of_phase (hlive.setPhase hobject (by simp [hpending, hpending']) ?_ fun id _ => Iff.rfl) hlt
    (isOver_eq_false htracked')
  rw [hlive.counted.tracked object, hobject]
  simp [htracked, htracked']

/-- A native object that exists is tracked before its creation returns. -/
lemma Inv.nativeCreated (h : Inv s) (hobject : s.objects[object]? = some (kind, .creating)) :
    Inv (s.nativeCreated object kind) := by
  have hlive := h.live_of_object hobject rfl
  obtain ⟨hlt, -⟩ := List.getElem?_eq_some_iff.mp hobject
  refine Live.inv_of_phase (hlive.setPhase hobject ?_ ?_ ?_) hlt rfl
  · simp [ObjectPhase.isPending]
  · simp [ObjectPhase.isTracked]
  · intro id hid
    simp [hid]

lemma Inv.creationReturned (h : Inv s) (hobject : s.objects[object]? = some (kind, .created)) :
    Inv (s.creationReturned object kind) := by
  have hlive := h.live_of_object hobject rfl
  obtain ⟨hlt, -⟩ := List.getElem?_eq_some_iff.mp hobject
  refine Live.inv_of_phase (hlive.setPhase hobject ?_ ?_ fun id _ => Iff.rfl) hlt rfl
  · simp [ObjectPhase.isPending]
  · have htracked := (hlive.counted.tracked object).mpr ⟨_, hobject, rfl⟩
    simp [ObjectPhase.isTracked, htracked]

lemma Inv.creationFailed (h : Inv s) (hobject : s.objects[object]? = some (kind, .creating)) :
    Inv (s.creationFailed object kind) := by
  have hlive := h.live_of_object hobject rfl
  refine Live.shutdownIfIdle (hlive.setPhase hobject ?_ ?_ fun id _ => Iff.rfl)
  · simp [ObjectPhase.isPending]
  · rw [hlive.counted.tracked object, hobject]
    simp [ObjectPhase.isTracked]

lemma Inv.logPollSettled (h : Inv s) : Inv { s with logPolling := false } := by
  rcases h with ⟨hlive, hempty⟩ | hdown
  · exact Or.inl ⟨⟨⟨hlive.counted.pending, hlive.counted.tracked⟩, hlive.current, hlive.shutdowns,
      hlive.runtimeShutdowns⟩, hempty⟩
  · exact Or.inr ⟨⟨hdown.counted.pending, hdown.counted.tracked⟩, hdown.current, hdown.once, hdown.allOver⟩

/-- A call of `shutdown` that has waited for the logs shuts the native runtime down. -/
lemma Inv.logPollAwaited (h : Inv s) (hwaits : s.shutdowns ≠ 0) :
    Inv { s with shutdowns := s.shutdowns - 1, runtimeShutdowns := s.runtimeShutdowns + 1 } := by
  rcases h with ⟨hlive, -⟩ | hdown
  · exact absurd hlive.shutdowns hwaits
  · have honce := hdown.once
    refine Or.inr ⟨⟨hdown.counted.pending, hdown.counted.tracked⟩, hdown.current, ?_, hdown.allOver⟩
    dsimp only
    omega

lemma Inv.step {event : RuntimeEvent} (h : Inv s) (hstep : s.step event = some t) : Inv t := by
  cases event with
  | createNative kind =>
    simp only [RuntimeInstance.step] at hstep
    split at hstep
    · rename_i hcurrent
      cases hstep
      rcases h with ⟨hlive, -⟩ | hdown
      · exact hlive.createNative kind
      · rw [hdown.current] at hcurrent
        cases hcurrent
    · cases hstep
  | nativeCreated object =>
    simp only [RuntimeInstance.step] at hstep
    split at hstep
    · rename_i kind hobject
      cases hstep
      exact h.nativeCreated hobject
    · cases hstep
  | creationReturned object =>
    simp only [RuntimeInstance.step] at hstep
    split at hstep
    · rename_i kind hobject
      cases hstep
      exact h.creationReturned hobject
    · cases hstep
  | creationFailed object =>
    simp only [RuntimeInstance.step] at hstep
    split at hstep
    · rename_i kind hobject
      cases hstep
      exact h.creationFailed hobject
    · cases hstep
  | closeNativeClient object =>
    simp only [RuntimeInstance.step] at hstep
    split at hstep
    · rename_i hobject
      cases hstep
      exact h.close hobject rfl rfl
    · cases hstep
  | deregisterWorker object =>
    simp only [RuntimeInstance.step] at hstep
    split at hstep
    · rename_i hobject
      cases hstep
      exact h.close hobject rfl rfl
    · rename_i hobject
      cases hstep
      exact h.close hobject rfl rfl
    · cases hstep
  | shutdownEphemeralServer object =>
    simp only [RuntimeInstance.step] at hstep
    split at hstep
    · rename_i hobject
      cases hstep
      exact h.betweenTracked hobject rfl rfl rfl rfl
    · cases hstep
  | ephemeralServerShutDown object =>
    simp only [RuntimeInstance.step] at hstep
    split at hstep
    · rename_i hobject
      cases hstep
      exact h.close hobject rfl rfl
    · cases hstep
  | ephemeralServerShutdownFailed object =>
    simp only [RuntimeInstance.step] at hstep
    split at hstep
    · rename_i hobject
      cases hstep
      exact h.betweenTracked hobject rfl rfl rfl rfl
    · cases hstep
  | logPollSettled =>
    simp only [RuntimeInstance.step] at hstep
    split at hstep
    · cases hstep
      exact h.logPollSettled
    · cases hstep
  | logPollAwaited =>
    simp only [RuntimeInstance.step] at hstep
    split at hstep
    · cases hstep
    · rename_i hwaits
      cases hstep
      exact h.logPollAwaited fun hzero => hwaits (Or.inl hzero)

lemma inv_create (isForwardingLogs : Bool) : Inv (create isForwardingLogs) :=
  Or.inl ⟨⟨⟨rfl, fun id => by simp [create]⟩, rfl, rfl, rfl⟩, fun _ => rfl⟩

end RuntimeInstance

end TemporalSdk
