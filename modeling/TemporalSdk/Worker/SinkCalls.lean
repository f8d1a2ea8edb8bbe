import TemporalSdk.Common.FailureConverter
import TemporalSdk.Library.Transition

/-!
# Sink calls

The calls of sinks that workflow code makes are buffered in its activator. After each activation the worker takes
them out and calls the injected functions, those without `callDuringReplay` only when the activation is not a
replayed one.
-/

namespace TemporalSdk

structure SinkCall where
  ifaceName : String
  fnName : String
  args : List JsValue

/-- How a call of an injected function ends; what it returns may be a promise that rejects. -/
inductive SinkOutcome
  | returns
  | throws
  | rejects

/-- What the worker knows of an injected function before it calls it -/
structure InjectedSinkFunction where
  callDuringReplay : Option Bool

/-- `sinks?.[ifaceName]?.[fnName]` -/
abbrev InjectedSinks := String → String → Option InjectedSinkFunction

/-- A call, the error log about a sink that is not registered, or the one about a function that failed -/
inductive SinkEffect
  | called (call : SinkCall)
  | unregistered (ifaceName fnName : String)
  | failed (call : SinkCall)

/-- What `processSinkCalls` does up to its `await`, and the calls whose promises reject; the errors of these are
logged when they do. -/
structure SinkPass where
  effects : List SinkEffect
  rejecting : List SinkCall

namespace SinkPass

def none : SinkPass := ⟨[], []⟩

def append (p q : SinkPass) : SinkPass := ⟨p.effects ++ q.effects, p.rejecting ++ q.rejecting⟩

def calls (p : SinkPass) : List SinkCall := p.effects.filterMap fun
  | .called call => some call
  | _ => Option.none

end SinkPass

namespace InjectedSinks

variable (sinks : InjectedSinks) (isReplaying : Bool)

/-- One of the functions that `processSinkCalls` maps over the calls -/
def processSinkCall (call : SinkCall) (outcome : SinkOutcome) : SinkPass :=
  match sinks call.ifaceName call.fnName with
  | none => ⟨[.unregistered call.ifaceName call.fnName], []⟩
  | some dep =>
    if dep.callDuringReplay.getD false || !isReplaying then
      match outcome with
      | .returns => ⟨[.called call], []⟩
      | .throws => ⟨[.called call, .failed call], []⟩
      | .rejects => ⟨[.called call], [call]⟩
    else .none

/-- The functions are all called before any of their promises is awaited. -/
def processSinkCalls : List SinkCall → List SinkOutcome → SinkPass
  | call :: externalCalls, outcome :: outcomes =>
    (sinks.processSinkCall isReplaying call outcome).append (processSinkCalls externalCalls outcomes)
  | call :: externalCalls, [] =>
    (sinks.processSinkCall isReplaying call .returns).append (processSinkCalls externalCalls [])
  | [], _ => .none

end InjectedSinks

/-- What the workflow code calls, when its modules are loaded, and in the activations of its history. It is
deterministic: each instance calls the same. -/
structure SinkProgram where
  created : List SinkCall
  activated : ℕ → List SinkCall

/-- An instance in the cache of the worker. It has been given a number of activations of the history, and it is
not activated again once it has `failed` to complete one. -/
structure CachedWorkflow where
  applied : ℕ
  sinkCalls : List SinkCall
  failed : Bool

/-- An activation after which sink calls were processed, and by which instance. It is `completed` when it is one of
the history, and its completion is accepted. -/
structure ProcessedActivation where
  instanceNumber : ℕ
  completed : Bool
  isReplaying : Bool
  pass : SinkPass

/-- A workflow run on a worker: the number of activations in its history, of instances that were created, the
instance in the cache, and what was processed. -/
structure SinkRun where
  history : ℕ
  created : ℕ
  workflow : Option CachedWorkflow
  processed : List ProcessedActivation

/-- The next activation of the instance, which is completed or is not; in the second case the code may have called
anything. A query may arrive when the instance has seen its history, and in the end the instance is evicted. -/
inductive SinkInput
  | activate (outcomes : List SinkOutcome)
  | activateFails (sinkCalls : List SinkCall) (outcomes : List SinkOutcome)
  | query (isReplaying : Bool) (sinkCalls : List SinkCall) (outcomes : List SinkOutcome)
  | evict

namespace CachedWorkflow

def push (w : CachedWorkflow) (sinkCalls : List SinkCall) : CachedWorkflow :=
  { w with sinkCalls := w.sinkCalls ++ sinkCalls }

def getAndResetSinkCalls (w : CachedWorkflow) : List SinkCall × CachedWorkflow :=
  (w.sinkCalls, { w with sinkCalls := [] })

end CachedWorkflow

namespace SinkRun

variable (sinks : InjectedSinks) (program : SinkProgram)

def initial : SinkRun := ⟨0, 0, none, []⟩

/-- The instance in the cache, or a new one if there is none -/
def getOrCreate (s : SinkRun) : SinkRun × CachedWorkflow :=
  match s.workflow with
  | some w => (s, w)
  | none => ({ s with created := s.created + 1 }, ⟨0, program.created, false⟩)

/-- The `finally` block of an activation -/
def extract (s : SinkRun) (w : CachedWorkflow) (completed isReplaying : Bool) (outcomes : List SinkOutcome) :
    SinkRun :=
  let (externalCalls, w) := w.getAndResetSinkCalls
  { s with
    workflow := some w
    processed := s.processed ++
      [⟨s.created, completed, isReplaying, sinks.processSinkCalls isReplaying externalCalls outcomes⟩] }

/-- An activation of the history is replayed if it was completed before. -/
def step (s : SinkRun) : SinkInput → Option SinkRun
  | .activate outcomes =>
    let (s, w) := s.getOrCreate program
    if w.failed then none
    else
      let t := s.extract sinks { w.push (program.activated w.applied) with applied := w.applied + 1 } true
        (w.applied < s.history) outcomes
      some { t with history := max s.history (w.applied + 1) }
  | .activateFails sinkCalls outcomes =>
    let (s, w) := s.getOrCreate program
    if w.failed then none
    else some (s.extract sinks { w.push sinkCalls with failed := true } false (w.applied < s.history) outcomes)
  | .query isReplaying sinkCalls outcomes =>
    match s.workflow with
    | none => none
    | some w =>
      if w.failed || w.applied ≠ s.history then none
      else some (s.extract sinks (w.push sinkCalls) false isReplaying outcomes)
  | .evict => some { s with workflow := none }

end SinkRun

/-- The calls of the first activations of the history -/
def SinkProgram.calls (program : SinkProgram) : ℕ → List SinkCall
  | 0 => []
  | 1 => program.created ++ program.activated 0
  | n + 2 => program.calls (n + 1) ++ program.activated (n + 1)

/-- The function of the call is called during replay, or it is not. -/
def InjectedSinks.CallsDuringReplay (sinks : InjectedSinks) (during : Bool) (call : SinkCall) : Bool :=
  match sinks call.ifaceName call.fnName with
  | none => false
  | some dep => dep.callDuringReplay.getD false == during

namespace InjectedSinks

variable {sinks : InjectedSinks} {isReplaying : Bool}

lemma calls_append (p q : SinkPass) : (p.append q).calls = p.calls ++ q.calls := List.filterMap_append

lemma calls_processSinkCall (call : SinkCall) (outcome : SinkOutcome) (during : Bool) :
    (sinks.processSinkCall isReplaying call outcome).calls.filter (sinks.CallsDuringReplay during) =
      if during || !isReplaying then [call].filter (sinks.CallsDuringReplay during) else [] := by
  unfold processSinkCall CallsDuringReplay
  cases hdep : sinks call.ifaceName call.fnName with
  | none => cases during <;> cases isReplaying <;> simp [SinkPass.calls, hdep]
  | some dep =>
    cases hduring : dep.callDuringReplay.getD false <;> cases during <;> cases isReplaying <;>
      cases outcome <;> simp [SinkPass.calls, SinkPass.none, hdep, hduring]

/-- The functions are called in order, and during replay only some. -/
lemma calls_processSinkCalls (externalCalls : List SinkCall) (outcomes : List SinkOutcome) (during : Bool) :
    (sinks.processSinkCalls isReplaying externalCalls outcomes).calls.filter (sinks.CallsDuringReplay during) =
      if during || !isReplaying then externalCalls.filter (sinks.CallsDuringReplay during) else [] := by
  induction externalCalls generalizing outcomes with
  | nil => cases outcomes <;> simp [processSinkCalls, SinkPass.calls, SinkPass.none]
  | cons call externalCalls ih =>
    have hcons (outcome : SinkOutcome) (outcomes : List SinkOutcome) :
        ((sinks.processSinkCall isReplaying call outcome).append
          (sinks.processSinkCalls isReplaying externalCalls outcomes)).calls.filter (sinks.CallsDuringReplay during) =
        if during || !isReplaying then (call :: externalCalls).filter (sinks.CallsDuringReplay during) else [] := by
      rw [calls_append, List.filter_append, calls_processSinkCall, ih]
      split
      · rw [← List.filter_append, List.singleton_append]
      · rfl
    cases outcomes with
    | nil => exact hcons .returns []
    | cons outcome outcomes => exact hcons outcome outcomes

end InjectedSinks

namespace SinkRun

variable {sinks : InjectedSinks} {program : SinkProgram} {s t : SinkRun}

/-- The calls that were made by completed activations of the history, of one instance or of all -/
def completedCalls (s : SinkRun) (p : ProcessedActivation → Bool) : List SinkCall :=
  ((s.processed.filter fun entry => entry.completed && p entry).map fun entry => entry.pass.calls).flatten

/-- What the calls that were made have to do with those of the workflow code. -/
structure Delivers (sinks : InjectedSinks) (program : SinkProgram) (s : SinkRun) : Prop where
  once : (s.completedCalls fun entry => !entry.isReplaying).filter (sinks.CallsDuringReplay false) =
    (program.calls s.history).filter (sinks.CallsDuringReplay false)
  notReplayed : ∀ entry ∈ s.processed, entry.isReplaying = true →
    entry.pass.calls.filter (sinks.CallsDuringReplay false) = []
  eachInstance : ∀ w, s.workflow = some w →
    (s.completedCalls fun entry => entry.instanceNumber == s.created).filter (sinks.CallsDuringReplay true) =
      (program.calls w.applied).filter (sinks.CallsDuringReplay true)

/-- An instance that can be activated has no calls left, and has been given part of the history. -/
structure Inv (sinks : InjectedSinks) (program : SinkProgram) (s : SinkRun) : Prop where
  delivers : s.Delivers sinks program
  numbered : ∀ entry ∈ s.processed, entry.instanceNumber ≤ s.created
  taken : ∀ w, s.workflow = some w → w.sinkCalls = []
  applied : ∀ w, s.workflow = some w → w.applied ≤ s.history
  started : ∀ w, s.workflow = some w → w.failed = false → 0 < w.applied

/-- An instance that the worker is going to activate, be it new or not -/
structure Ready (sinks : InjectedSinks) (program : SinkProgram) (s : SinkRun) (w : CachedWorkflow) : Prop where
  once : (s.completedCalls fun entry => !entry.isReplaying).filter (sinks.CallsDuringReplay false) =
    (program.calls s.history).filter (sinks.CallsDuringReplay false)
  notReplayed : ∀ entry ∈ s.processed, entry.isReplaying = true →
    entry.pass.calls.filter (sinks.CallsDuringReplay false) = []
  eachInstance : (s.completedCalls fun entry => entry.instanceNumber == s.created).filter
    (sinks.CallsDuringReplay true) = (program.calls w.applied).filter (sinks.CallsDuringReplay true)
  numbered : ∀ entry ∈ s.processed, entry.instanceNumber ≤ s.created
  applied : w.applied ≤ s.history
  calls : w.failed = false → program.calls w.applied ++ w.sinkCalls ++ program.activated w.applied =
    program.calls (w.applied + 1)

lemma completedCalls_append {p : ProcessedActivation → Bool} {entry : ProcessedActivation}
    (h : t.processed = s.processed ++ [entry]) :
    t.completedCalls p = s.completedCalls p ++ if entry.completed && p entry then entry.pass.calls else [] := by
  unfold completedCalls
  rw [h, List.filter_append]
  cases hentry : entry.completed && p entry <;> simp [hentry]

lemma completedCalls_eq_nil {p : ProcessedActivation → Bool} (h : ∀ entry ∈ s.processed, p entry = false) :
    s.completedCalls p = [] := by
  have hfilter : (s.processed.filter fun entry => entry.completed && p entry) = [] := by
    apply List.filter_eq_nil_iff.mpr
    intro entry hmem
    simp [h entry hmem]
  rw [completedCalls, hfilter]
  rfl

lemma inv_initial : initial.Inv sinks program where
  delivers :=
    { once := rfl
      notReplayed := fun _ hmem => by cases hmem
      eachInstance := fun _ h => by cases h }
  numbered _ hmem := by cases hmem
  taken _ h := by cases h
  applied _ h := by cases h
  started _ h := by cases h

lemma Inv.ready (hs : s.Inv sinks program) :
    (s.getOrCreate program).1.Ready sinks program (s.getOrCreate program).2 := by
  unfold getOrCreate
  cases hw : s.workflow with
  | some w =>
    refine ⟨hs.delivers.once, hs.delivers.notReplayed, hs.delivers.eachInstance w hw, hs.numbered, hs.applied w hw, ?_⟩
    intro hfailed
    rw [hs.taken w hw, List.append_nil]
    obtain ⟨n, hn⟩ := Nat.exists_eq_succ_of_ne_zero (hs.started w hw hfailed).ne'
    rw [hn]
    rfl
  | none =>
    refine ⟨hs.delivers.once, hs.delivers.notReplayed, ?_,
      fun entry hmem => (hs.numbered entry hmem).trans (Nat.le_succ _), Nat.zero_le _, fun _ => rfl⟩
    have hnone := completedCalls_eq_nil (s := s) (p := fun entry => entry.instanceNumber == s.created + 1) (by
      intro entry hmem
      exact beq_false_of_ne (Nat.lt_succ_of_le (hs.numbered entry hmem)).ne)
    exact congrArg _ hnone

lemma Ready.numbered_extract {w v : CachedWorkflow} (hs : s.Ready sinks program w) {completed isReplaying : Bool}
    {outcomes : List SinkOutcome} :
    ∀ entry ∈ (s.extract sinks v completed isReplaying outcomes).processed, entry.instanceNumber ≤ s.created := by
  intro entry hmem
  rcases List.mem_append.mp hmem with hmem | hmem
  · exact hs.numbered entry hmem
  · rw [List.mem_singleton.mp hmem]

lemma Ready.notReplayed_extract {w v : CachedWorkflow} (hs : s.Ready sinks program w) {completed isReplaying : Bool}
    {outcomes : List SinkOutcome} :
    ∀ entry ∈ (s.extract sinks v completed isReplaying outcomes).processed, entry.isReplaying = true →
      entry.pass.calls.filter (sinks.CallsDuringReplay false) = [] := by
  intro entry hmem hreplaying
  rcases List.mem_append.mp hmem with hmem | hmem
  · exact hs.notReplayed entry hmem hreplaying
  · rw [List.mem_singleton.mp hmem] at hreplaying ⊢
    rw [InjectedSinks.calls_processSinkCalls, if_neg]
    simpa using hreplaying

/-- What an attempt that is not completed leaves behind -/
lemma Ready.extract_fails {w v : CachedWorkflow} (hs : s.Ready sinks program w) (isReplaying : Bool)
    (outcomes : List SinkOutcome) (happlied : v.applied = w.applied) (hv : v.failed = false → 0 < v.applied) :
    (s.extract sinks v false isReplaying outcomes).Inv sinks program := by
  have hcalls (p : ProcessedActivation → Bool) :
      (s.extract sinks v false isReplaying outcomes).completedCalls p = s.completedCalls p :=
    (completedCalls_append rfl).trans (List.append_nil _)
  refine ⟨⟨?_, hs.notReplayed_extract, ?_⟩, hs.numbered_extract, ?_, ?_, ?_⟩
  · rw [hcalls]
    exact hs.once
  · intro u hu
    cases hu
    rw [hcalls]
    exact hs.eachInstance.trans (congrArg (fun n => (program.calls n).filter _) happlied.symm)
  · intro u hu
    cases hu
    rfl
  · intro u hu
    cases hu
    exact happlied.trans_le hs.applied
  · intro u hu
    cases hu
    exact hv

/-- A completed activation is the next one of the history or is replayed. -/
lemma Ready.extract_completes {w : CachedWorkflow} (hs : s.Ready sinks program w) (hw : w.failed = false)
    (outcomes : List SinkOutcome) :
    ({ s.extract sinks { w.push (program.activated w.applied) with applied := w.applied + 1 } true
        (w.applied < s.history) outcomes with history := max s.history (w.applied + 1) }).Inv sinks program := by
  have hcalls (p : ProcessedActivation → Bool) := completedCalls_append (s := s) (p := p)
    (t := { s.extract sinks { w.push (program.activated w.applied) with applied := w.applied + 1 } true
      (w.applied < s.history) outcomes with history := max s.history (w.applied + 1) }) rfl
  have hpushed : program.calls (w.applied + 1) =
      program.calls w.applied ++ (w.push (program.activated w.applied)).sinkCalls := by
    rw [← hs.calls hw, List.append_assoc]
    rfl
  refine ⟨⟨?_, hs.notReplayed_extract, ?_⟩, hs.numbered_extract, ?_, ?_, ?_⟩
  · rw [hcalls, List.filter_append, hs.once]
    by_cases hreplaying : w.applied < s.history
    · have hmax : max s.history (w.applied + 1) = s.history := max_eq_left hreplaying
      simp only [hmax]
      simp [hreplaying]
    · have heq : w.applied = s.history := Nat.le_antisymm hs.applied (Nat.le_of_not_lt hreplaying)
      have hmax : max s.history (w.applied + 1) = w.applied + 1 := max_eq_right (by omega)
      simp only [hmax]
      rw [hpushed, List.filter_append, heq]
      simp only [Nat.lt_irrefl, decide_false, Bool.not_false, Bool.and_true, if_true]
      rw [InjectedSinks.calls_processSinkCalls]
      rfl
  · intro u hu
    cases hu
    rw [hcalls, List.filter_append, hpushed, List.filter_append]
    refine congrArg₂ _ hs.eachInstance ?_
    refine (congrArg (List.filter _) (if_pos (beq_self_eq_true s.created))).trans ?_
    rw [InjectedSinks.calls_processSinkCalls]
    rfl
  · intro u hu
    cases hu
    rfl
  · intro u hu
    cases hu
    exact le_max_right _ _
  · intro u hu
    cases hu
    exact fun _ => Nat.succ_pos _

lemma Inv.step {input : SinkInput} (hs : s.Inv sinks program) (h : s.step sinks program input = some t) :
    t.Inv sinks program := by
  have hready := hs.ready
  cases input with
  | activate outcomes =>
    simp only [SinkRun.step] at h
    split at h
    · cases h
    · rename_i hfailed
      cases h
      exact hready.extract_completes (Bool.eq_false_iff.mpr hfailed) outcomes
  | activateFails sinkCalls outcomes =>
    simp only [SinkRun.step] at h
    split at h
    · cases h
    · cases h
      exact hready.extract_fails _ _ rfl (fun h => by cases h)
  | query isReplaying sinkCalls outcomes =>
    cases hw : s.workflow with
    | none =>
      simp only [SinkRun.step, hw] at h
      cases h
    | some w =>
      simp only [SinkRun.step, hw] at h
      split at h
      · cases h
      · cases h
        have hof : s.getOrCreate program = (s, w) := by rw [getOrCreate, hw]
        rw [hof] at hready
        exact hready.extract_fails _ _ rfl (hs.started w hw)
  | evict =>
    cases h
    exact
      { delivers := ⟨hs.delivers.once, hs.delivers.notReplayed, fun _ h => by cases h⟩
        numbered := hs.numbered
        taken := fun _ h => by cases h
        applied := fun _ h => by cases h
        started := fun _ h => by cases h }

/-- **Sink calls are exported once**: whenever a workflow is evicted and replayed, and however its activations
fail in between, each call of its code in the history has been made by one completed activation, in order, if its
function is not to be called during replay. It is then not called by replayed activations at all, and the other
functions are called once by each instance. -/
theorem delivers_of_run {inputs : List SinkInput}
    (h : Transition.run (SinkRun.step sinks program) initial inputs = some s) : s.Delivers sinks program :=
  (Transition.invariant (fun _ _ _ hs hstep => Inv.step hs hstep) inv_initial h).delivers

/-- A logger that is silent during replay, and a tracer that is not -/
def loggerAndTracer : InjectedSinks
  | "logger", "info" => some ⟨none⟩
  | "tracer", "export" => some ⟨some true⟩
  | _, _ => none

/-- The code logs and traces in each activation. -/
def chattyProgram : SinkProgram where
  created := [⟨"metrics", "loaded", []⟩]
  activated n := [⟨"logger", "info", [.string (toString n)]⟩, ⟨"tracer", "export", []⟩]

/-- The second activation fails at first, and the instance that has completed it is evicted. -/
def retriedAndReplayed : List SinkInput :=
  [.activate [], .activateFails [⟨"logger", "info", []⟩] [.throws], .evict, .activate [],
    .activate [.returns, .rejects], .evict, .activate [], .activate []]

theorem delivers_of_run_retriedAndReplayed :
    ∃ s, Transition.run (SinkRun.step loggerAndTracer chattyProgram) initial retriedAndReplayed = some s ∧
      s.Delivers loggerAndTracer chattyProgram :=
  ⟨_, rfl, delivers_of_run
    (show Transition.run (SinkRun.step loggerAndTracer chattyProgram) initial retriedAndReplayed = some _ from rfl)⟩

end SinkRun

end TemporalSdk
