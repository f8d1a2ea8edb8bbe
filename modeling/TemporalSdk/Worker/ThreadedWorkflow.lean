import Mathlib.Data.List.Basic
import TemporalSdk.Common.FailureConverter
import TemporalSdk.Library.Simulation
import TemporalSdk.Worker.WorkerThread

/-!
# Workflows in worker threads

A worker runs its workflows in threads, or in its own when it is debugged. In a thread the workflows of many runs
are called in turn: a request starts to be handled when it arrives, is answered later, and others are handled in
between. What the caller of one workflow sees is what it sees of a workflow that it calls directly. This is about
workflows that each have a V8 context of their own, as `VMWorkflowCreator` creates it; with `reuseV8Context` the
workflows of a thread share one, which `ReusableVM` is about.
-/

namespace TemporalSdk

/-- An error that is thrown, with what of it a message can carry -/
structure ThrownError where
  name : String
  message : String
  stack : String
deriving DecidableEq

/-- What the calls into the context of a workflow do, which no other workflow shares. The code of the workflow is not
known. -/
structure WorkflowContext (V O A C K : Type) where
  create : O → Except ThrownError V
  activate : V → A → V × Except ThrownError C
  getAndResetSinkCalls : V → V × Except ThrownError K
  dispose : V → V × Except ThrownError Unit
  failed : V → ErrorValue → C

structure BaseVMWorkflow (V : Type) where
  context : V
  unhandledRejection : ErrorValue

/-- The calls of a `WorkflowCreator` and of a `Workflow` -/
inductive VMCall (O A : Type)
  | createWorkflow (options : O)
  | activate (activation : A)
  | getAndResetSinkCalls
  | dispose

/-- `WorkerThreadOutput` -/
inductive VMOutput (C K : Type)
  | activationCompletion (completion : C)
  | sinkCalls (calls : K)
  | none

/-- A call between its first `await` and its result -/
inductive VMPending (O C K : Type)
  | creating (options : O)
  | activated (completion : Except ThrownError C)
  | ready (result : Except ThrownError (VMOutput C K))

variable {V O A C K : Type}

namespace VMCall

def isCreate : VMCall O A → Bool
  | createWorkflow _ => true
  | _ => false

/-- The output type that the proxy expects -/
def accepts : VMCall O A → VMOutput C K → Bool
  | activate _, .activationCompletion _ => true
  | getAndResetSinkCalls, .sinkCalls _ => true
  | createWorkflow _, _ => true
  | dispose, _ => true
  | _, _ => false

/-- Whether there is a workflow after the call -/
def isLive {ε : Type} : VMCall O A → Except ε (VMOutput C K) → Bool → Bool
  | createWorkflow _, .ok _, _ => true
  | dispose, .ok _, _ => false
  | _, _, live => live

end VMCall

namespace WorkflowContext

variable (ctx : WorkflowContext V O A C K)

def notRunning (verb runId : String) : ThrownError :=
  ⟨"IllegalStateError", s!"Tried to {verb} non running workflow with runId: {runId}", ""⟩

/-- A call up to its first `await`, on the workflow of the run, if there is one. The context for a new workflow is
awaited, and the activation waits for rejections that nobody handles. -/
def begin (runId : String) : Option (BaseVMWorkflow V) → VMCall O A → Option (BaseVMWorkflow V) × VMPending O C K
  | w, .createWorkflow options => (w, .creating options)
  | some w, .activate activation =>
    let (context, completion) := ctx.activate w.context activation
    (some { w with context }, .activated completion)
  | some w, .getAndResetSinkCalls =>
    let (context, calls) := ctx.getAndResetSinkCalls w.context
    (some { w with context }, .ready (calls.map .sinkCalls))
  | some w, .dispose =>
    match ctx.dispose w.context with
    | (_, .ok _) => (none, .ready (.ok .none))
    | (context, .error err) => (some { w with context }, .ready (.error err))
  | none, .dispose => (none, .ready (.error (notRunning "dispose" runId)))
  | none, _ => (none, .ready (.error (notRunning "activate" runId)))

/-- The rest of the call -/
def finish : Option (BaseVMWorkflow V) → VMPending O C K →
    Option (BaseVMWorkflow V) × Except ThrownError (VMOutput C K)
  | w, .creating options =>
    match ctx.create options with
    | .ok context => (some ⟨context, .undefined⟩, .ok .none)
    | .error err => (w, .error err)
  | w, .activated (.error err) => (w, .error err)
  | some w, .activated (.ok completion) =>
    (some w, .ok (.activationCompletion
      (if w.unhandledRejection.truthy then ctx.failed w.context w.unhandledRejection else completion)))
  | none, .activated (.ok completion) => (none, .ok (.activationCompletion completion))
  | w, .ready result => (w, result)

end WorkflowContext

def BaseVMWorkflow.setUnhandledRejection (w : BaseVMWorkflow V) (err : ErrorValue) : BaseVMWorkflow V :=
  { w with unhandledRejection := err }

/-! ### Workflows that are called directly -/

/-- The workflow of a run, the call that it is in, and the results of its calls -/
structure DirectWorkflow (V O A C K : Type) where
  workflow : Option (BaseVMWorkflow V)
  running : Option (VMCall O A × VMPending O C K)
  results : List (VMCall O A × Except ThrownError (VMOutput C K))

/-- What happens to a workflow that is called directly -/
inductive DirectInput (O A : Type)
  | begin (call : VMCall O A)
  | unhandledRejection (err : ErrorValue)
  | finish

namespace DirectWorkflow

def initial : DirectWorkflow V O A C K := ⟨none, none, []⟩

/-- The next call is made when the last one has settled, and a workflow is created when there is none. -/
def step (ctx : WorkflowContext V O A C K) (runId : String) (d : DirectWorkflow V O A C K) :
    DirectInput O A → Option (DirectWorkflow V O A C K)
  | .begin call =>
    match d.running with
    | some _ => none
    | none =>
      if call.isCreate = d.workflow.isSome then none
      else
        let (workflow, pending) := ctx.begin runId d.workflow call
        some { d with workflow, running := some (call, pending) }
  | .unhandledRejection err =>
    match d.workflow with
    | none => none
    | some w => some { d with workflow := some (w.setUnhandledRejection err) }
  | .finish =>
    match d.running with
    | none => none
    | some (call, pending) =>
      let (workflow, result) := ctx.finish d.workflow pending
      some ⟨workflow, none, d.results ++ [(call, result)]⟩

end DirectWorkflow

/-! ### Workflows in a thread -/

/-- Where a request is: on its way to the thread, handled there, or on its way back; then its promise is settled. -/
inductive RequestStage (O C K : Type)
  | posted
  | handling (pending : VMPending O C K)
  | responded (result : WorkerThreadResult (VMOutput C K))
  | settled

structure VMRequest (O A C K : Type) where
  runId : String
  call : VMCall O A
  stage : RequestStage O C K

/-- What a proxy's promise is rejected with: an error from the thread, or that its response is not of the type that
was expected -/
inductive ProxyError
  | rejected (err : ThreadError)
  | invalidOutput

/-- A thread with its client. The id of a request is its position. A run has a proxy when its workflow has been
created, and `results` are those that its caller has seen. -/
structure ThreadedWorkflows (V O A C K : Type) where
  workflowByRunId : String → Option (BaseVMWorkflow V)
  requests : List (VMRequest O A C K)
  proxies : String → Bool
  results : String → List (VMCall O A × Except ProxyError (VMOutput C K))

inductive ThreadedWorkflowInput (O A : Type)
  | call (runId : String) (call : VMCall O A)
  | receive (requestId : ℕ)
  | unhandledRejection (runId : String) (err : ErrorValue)
  | respond (requestId : ℕ)
  | deliver (requestId : ℕ)

def ThrownError.result (err : ThrownError) : WorkerThreadResult (VMOutput C K) :=
  .error err.name err.message err.stack

/-- The result in the response -/
def threadResult : Except ThrownError (VMOutput C K) → WorkerThreadResult (VMOutput C K)
  | .ok output => .ok output
  | .error err => err.result

/-- What the proxy makes of a response -/
def VMCall.received (call : VMCall O A) (result : WorkerThreadResult (VMOutput C K)) :
    Except ProxyError (VMOutput C K) :=
  match result.outcome with
  | .error err => .error (.rejected err)
  | .ok output => if call.accepts output then .ok output else .error .invalidOutput

namespace RequestStage

def isSettled : RequestStage O C K → Bool
  | settled => true
  | _ => false

end RequestStage

namespace ThreadedWorkflows

variable (ctx : WorkflowContext V O A C K) (s : ThreadedWorkflows V O A C K)

def initial : ThreadedWorkflows V O A C K := ⟨fun _ => none, [], fun _ => false, fun _ => []⟩

def isIdle (runId : String) : Bool := s.requests.all fun request => request.runId ≠ runId || request.stage.isSettled

def setStage (requestId : ℕ) (request : VMRequest O A C K) (stage : RequestStage O C K) : ThreadedWorkflows V O A C K :=
  { s with requests := s.requests.set requestId { request with stage } }

def setWorkflow (runId : String) (w : Option (BaseVMWorkflow V)) : ThreadedWorkflows V O A C K :=
  { s with workflowByRunId := Function.update s.workflowByRunId runId w }

/-- `WorkerThreadClient.send` -/
def post (runId : String) (call : VMCall O A) : ThreadedWorkflows V O A C K :=
  { s with requests := s.requests ++ [⟨runId, call, .posted⟩] }

/-- `handleRequest` up to its `await` -/
def receive (requestId : ℕ) (request : VMRequest O A C K) : ThreadedWorkflows V O A C K :=
  let (workflow, pending) := ctx.begin request.runId (s.workflowByRunId request.runId) request.call
  (s.setWorkflow request.runId workflow).setStage requestId request (.handling pending)

/-- The rest of `handleRequest`, and the response -/
def respond (requestId : ℕ) (request : VMRequest O A C K) (pending : VMPending O C K) :
    ThreadedWorkflows V O A C K :=
  let (workflow, result) := ctx.finish (s.workflowByRunId request.runId) pending
  (s.setWorkflow request.runId workflow).setStage requestId request (.responded (threadResult result))

/-- The response settles the promise of its request. -/
def deliver (requestId : ℕ) (request : VMRequest O A C K) (result : WorkerThreadResult (VMOutput C K)) :
    ThreadedWorkflows V O A C K :=
  let outcome := request.call.received result
  { s.setStage requestId request .settled with
    proxies := Function.update s.proxies request.runId (request.call.isLive outcome (s.proxies request.runId))
    results := Function.update s.results request.runId (s.results request.runId ++ [(request.call, outcome)]) }

/-- A run is called when its last call has settled. The order in which messages arrive is not used. A rejection for
which there is no workflow is the end of the thread. -/
def step (s : ThreadedWorkflows V O A C K) : ThreadedWorkflowInput O A → Option (ThreadedWorkflows V O A C K)
  | .call runId call =>
    if s.isIdle runId && call.isCreate != s.proxies runId then some (s.post runId call) else none
  | .receive requestId =>
    match s.requests[requestId]? with
    | some ⟨runId, call, .posted⟩ => some (s.receive ctx requestId ⟨runId, call, .posted⟩)
    | _ => none
  | .unhandledRejection runId err =>
    match s.workflowByRunId runId with
    | none => none
    | some w => some (s.setWorkflow runId (some (w.setUnhandledRejection err)))
  | .respond requestId =>
    match s.requests[requestId]? with
    | some ⟨runId, call, .handling pending⟩ => some (s.respond ctx requestId ⟨runId, call, .handling pending⟩ pending)
    | _ => none
  | .deliver requestId =>
    match s.requests[requestId]? with
    | some ⟨runId, call, .responded result⟩ => some (s.deliver requestId ⟨runId, call, .responded result⟩ result)
    | _ => none

end ThreadedWorkflows

/-! ### What one call does -/

/-- The result of a call is of the type that is expected, and says whether there is a workflow. -/
def VMCall.Settles (call : VMCall O A) (result : Except ThrownError (VMOutput C K)) (live : Bool)
    (w : Option (BaseVMWorkflow V)) : Prop :=
  (∀ output, result = .ok output → call.accepts output = true) ∧ call.isLive result live = w.isSome

/-- What is known of a call that waits, where `live` says whether there was a workflow before it. -/
def VMPending.Fits (pending : VMPending O C K) (call : VMCall O A) (live : Bool) (w : Option (BaseVMWorkflow V)) :
    Prop :=
  match pending with
  | .creating _ => call.isCreate = true ∧ live = false ∧ w = none
  | .activated _ => (∃ activation, call = .activate activation) ∧ live = true ∧ w.isSome = true
  | .ready result => call.Settles result live w

namespace WorkflowContext

variable {ctx : WorkflowContext V O A C K} {runId : String} {w : Option (BaseVMWorkflow V)} {call : VMCall O A}

lemma fits_begin (h : call.isCreate ≠ w.isSome) :
    (ctx.begin runId w call).2.Fits call w.isSome (ctx.begin runId w call).1 := by
  cases call with
  | createWorkflow options =>
    cases w with
    | some w => exact absurd rfl h
    | none => exact ⟨rfl, rfl, rfl⟩
  | activate activation =>
    cases w with
    | some w => exact ⟨⟨activation, rfl⟩, rfl, rfl⟩
    | none => exact absurd rfl h
  | getAndResetSinkCalls =>
    cases w with
    | some w =>
      refine ⟨fun output houtput => ?_, rfl⟩
      change (ctx.getAndResetSinkCalls w.context).2.map VMOutput.sinkCalls = .ok output at houtput
      cases hcalls : (ctx.getAndResetSinkCalls w.context).2 with
      | error err =>
        rw [hcalls] at houtput
        cases houtput
      | ok calls =>
        rw [hcalls] at houtput
        cases houtput
        rfl
    | none => exact absurd rfl h
  | dispose =>
    cases w with
    | some w =>
      cases hdispose : ctx.dispose w.context with
      | mk context result =>
        cases result with
        | ok value =>
          have hbegin : ctx.begin runId (some w) (VMCall.dispose (O := O) (A := A)) = (none, .ready (.ok .none)) := by
            simp only [begin, hdispose]
          rw [hbegin]
          exact ⟨fun _ _ => rfl, rfl⟩
        | error err =>
          have hbegin : ctx.begin runId (some w) (VMCall.dispose (O := O) (A := A)) =
              (some { w with context }, .ready (.error err)) := by
            simp only [begin, hdispose]
          rw [hbegin]
          exact ⟨fun _ houtput => (by cases houtput), rfl⟩
    | none => exact absurd rfl h

lemma settles_finish {pending : VMPending O C K} {live : Bool} (h : pending.Fits call live w) :
    call.Settles (ctx.finish w pending).2 live (ctx.finish w pending).1 := by
  cases pending with
  | creating options =>
    obtain ⟨hcreate, rfl, rfl⟩ := h
    cases call with
    | createWorkflow options' =>
      cases hctx : ctx.create options with
      | ok context =>
        have hfinish : ctx.finish none (VMPending.creating options) = (some ⟨context, .undefined⟩, .ok .none) := by
          simp only [finish, hctx]
        rw [hfinish]
        exact ⟨fun _ _ => rfl, rfl⟩
      | error err =>
        have hfinish : ctx.finish none (VMPending.creating options) = (none, .error err) := by
          simp only [finish, hctx]
        rw [hfinish]
        exact ⟨fun _ houtput => (by cases houtput), rfl⟩
    | activate _ => cases hcreate
    | getAndResetSinkCalls => cases hcreate
    | dispose => cases hcreate
  | activated completion =>
    obtain ⟨⟨activation, rfl⟩, rfl, hsome⟩ := h
    obtain ⟨w, rfl⟩ := Option.isSome_iff_exists.mp hsome
    cases completion with
    | error err => exact ⟨fun _ houtput => (by cases houtput), rfl⟩
    | ok completion =>
      refine ⟨fun output houtput => ?_, rfl⟩
      cases houtput
      rfl
  | ready result => exact h

end WorkflowContext

/-- A rejection is noted, whatever the call is that waits. -/
lemma VMPending.Fits.rejection {pending : VMPending O C K} {call : VMCall O A} {live : Bool} {w : BaseVMWorkflow V}
    (h : pending.Fits call live (some w)) (err : ErrorValue) :
    pending.Fits call live (some (w.setUnhandledRejection err)) := by
  cases pending with
  | creating options => exact absurd h.2.2 nofun
  | activated completion => exact h
  | ready result => exact h

/-! ### The simulation -/

/-- The result of a direct call, when it has been sent by a thread -/
def sentByThread : Except ThrownError (VMOutput C K) → Except ProxyError (VMOutput C K)
  | .ok output => .ok output
  | .error err => .error (.rejected ⟨errorNameToClass err.name, err.message, some err.stack⟩)

/-- A proxy that gets the output that it expects gives the result as it was sent. -/
lemma VMCall.Settles.received {call : VMCall O A} {result : Except ThrownError (VMOutput C K)} {live : Bool}
    {w : Option (BaseVMWorkflow V)} (h : call.Settles result live w) :
    call.received (threadResult result) = sentByThread result := by
  cases result with
  | ok output => exact if_pos (h.1 output rfl)
  | error err => rfl

lemma isLive_sentByThread (call : VMCall O A) (result : Except ThrownError (VMOutput C K)) (live : Bool) :
    call.isLive (sentByThread result) live = call.isLive result live := by
  cases call <;> cases result <;> rfl

/-- The results of the direct calls, as a caller of a proxy sees them -/
def DirectWorkflow.seen (d : DirectWorkflow V O A C K) : List (VMCall O A × Except ProxyError (VMOutput C K)) :=
  d.results.map fun call => (call.1, sentByThread call.2)

namespace ThreadedWorkflows

variable {ctx : WorkflowContext V O A C K} {runId : String} {s t : ThreadedWorkflows V O A C K}
  {d : DirectWorkflow V O A C K}

/-- How far a direct call is, when the request for it is at the stage -/
def Matches (s : ThreadedWorkflows V O A C K) (d : DirectWorkflow V O A C K) (request : VMRequest O A C K) : Prop :=
  match request.stage with
  | .posted => d.running = none ∧ s.results request.runId = d.seen ∧ s.proxies request.runId = d.workflow.isSome ∧
      request.call.isCreate ≠ d.workflow.isSome
  | .handling pending => d.running = some (request.call, pending) ∧ s.results request.runId = d.seen ∧
      pending.Fits request.call (s.proxies request.runId) d.workflow
  | .responded response => d.running = none ∧ ∃ result, response = threadResult result ∧
      d.seen = s.results request.runId ++ [(request.call, sentByThread result)] ∧
      request.call.Settles result (s.proxies request.runId) d.workflow
  | .settled => False

/-- No request of the run is on its way. -/
structure Rests (runId : String) (s : ThreadedWorkflows V O A C K) (d : DirectWorkflow V O A C K) : Prop where
  settled : ∀ (id : ℕ) (request : VMRequest O A C K), s.requests[id]? = some request → request.runId = runId →
    request.stage.isSettled = true
  running : d.running = none
  results : s.results runId = d.seen
  proxies : s.proxies runId = d.workflow.isSome

/-- One request of the run is on its way. -/
structure Waits (runId : String) (s : ThreadedWorkflows V O A C K) (d : DirectWorkflow V O A C K) (id : ℕ)
    (request : VMRequest O A C K) : Prop where
  found : s.requests[id]? = some request
  of : request.runId = runId
  only : ∀ (id' : ℕ) (request' : VMRequest O A C K), s.requests[id']? = some request' → request'.runId = runId →
    request'.stage.isSettled = false → id' = id
  matched : s.Matches d request

/-- The workflow of the run and the one that is called directly have got to the same point. -/
def Tracks (runId : String) (s : ThreadedWorkflows V O A C K) (d : DirectWorkflow V O A C K) : Prop :=
  s.workflowByRunId runId = d.workflow ∧ (s.Rests runId d ∨ ∃ id request, s.Waits runId d id request)

/-- What is not changed for a run -/
structure SameFor (runId : String) (s t : ThreadedWorkflows V O A C K) : Prop where
  workflow : t.workflowByRunId runId = s.workflowByRunId runId
  proxies : t.proxies runId = s.proxies runId
  results : t.results runId = s.results runId
  requests : ∀ (id : ℕ) (request : VMRequest O A C K), request.runId = runId →
    (t.requests[id]? = some request ↔ s.requests[id]? = some request)

lemma Tracks.of_same (h : s.Tracks runId d) (hsame : SameFor runId s t) : t.Tracks runId d := by
  obtain ⟨hworkflow, hrests | ⟨id, request, hwaits⟩⟩ := h
  · refine ⟨hsame.workflow.trans hworkflow, .inl ⟨fun id request hrequest hof => ?_, hrests.running,
      hsame.results.trans hrests.results, hsame.proxies.trans hrests.proxies⟩⟩
    exact hrests.settled id request ((hsame.requests id request hof).mp hrequest) hof
  · refine ⟨hsame.workflow.trans hworkflow, .inr ⟨id, request, (hsame.requests id request hwaits.of).mpr hwaits.found,
      hwaits.of, fun id' request' hrequest' hof => ?_, ?_⟩⟩
    · exact hwaits.only id' request' ((hsame.requests id' request' hof).mp hrequest') hof
    · have hmatched := hwaits.matched
      obtain ⟨of, call, stage⟩ := request
      obtain rfl : of = runId := hwaits.of
      unfold Matches at hmatched ⊢
      cases stage with
      | settled => exact hmatched
      | posted => simpa only [hsame.results, hsame.proxies] using hmatched
      | handling pending => simpa only [hsame.results, hsame.proxies] using hmatched
      | responded response => simpa only [hsame.results, hsame.proxies] using hmatched

/-- The requests of other runs are as before. -/
lemma getElem?_set_of_ne {id id' : ℕ} {request request' : VMRequest O A C K} {stage : RequestStage O C K}
    (hrequest : s.requests[id]? = some request) (hne : request.runId ≠ runId) (hof : request'.runId = runId) :
    (s.requests.set id { request with stage })[id']? = some request' ↔ s.requests[id']? = some request' := by
  by_cases hid : id = id'
  · subst hid
    have hlt : id < s.requests.length := (List.getElem?_eq_some_iff.mp hrequest).1
    rw [List.getElem?_set_self hlt, hrequest]
    constructor
    · intro h
      cases h
      exact absurd hof hne
    · intro h
      cases h
      exact absurd hof hne
  · rw [List.getElem?_set_ne hid]

lemma Waits.setStage {id : ℕ} {request : VMRequest O A C K} {stage : RequestStage O C K} {d' : DirectWorkflow V O A C K}
    (h : s.Waits runId d id request) (ht : t.requests = s.requests.set id { request with stage })
    (hmatched : t.Matches d' { request with stage }) : t.Waits runId d' id { request with stage } := by
  have hlt : id < s.requests.length := (List.getElem?_eq_some_iff.mp h.found).1
  refine ⟨by rw [ht, List.getElem?_set_self hlt], h.of, fun id' request' hrequest' hof hopen => ?_, hmatched⟩
  by_contra hid
  rw [ht, List.getElem?_set_ne (Ne.symm hid)] at hrequest'
  exact hid (h.only id' request' hrequest' hof hopen)

/-- When the request of a run has settled, all of its requests have. -/
lemma Waits.settle {id : ℕ} {request : VMRequest O A C K} (h : s.Waits runId d id request)
    (ht : t.requests = s.requests.set id { request with stage := .settled }) (id' : ℕ) (request' : VMRequest O A C K)
    (hrequest' : t.requests[id']? = some request') (hof : request'.runId = runId) :
    request'.stage.isSettled = true := by
  rw [ht] at hrequest'
  by_cases hid : id = id'
  · subst hid
    have hlt : id < s.requests.length := (List.getElem?_eq_some_iff.mp h.found).1
    rw [List.getElem?_set_self hlt] at hrequest'
    cases hrequest'
    rfl
  · rw [List.getElem?_set_ne hid] at hrequest'
    by_contra hopen
    exact hid (h.only id' request' hrequest' hof (Bool.eq_false_iff.mpr hopen)).symm

/-- A request that has not settled is the one that its run waits for. -/
lemma Tracks.waits {id : ℕ} {request : VMRequest O A C K} (h : s.Tracks request.runId d)
    (hrequest : s.requests[id]? = some request) (hopen : request.stage.isSettled = false) :
    s.Waits request.runId d id request := by
  obtain ⟨-, hrests | ⟨id', request', hwaits⟩⟩ := h
  · rw [hrests.settled id request hrequest rfl] at hopen
    cases hopen
  · obtain rfl := hwaits.only id request hrequest rfl hopen
    have hfound := hwaits.found
    rw [hrequest] at hfound
    cases hfound
    exact hwaits

lemma rests_of_isIdle {d : DirectWorkflow V O A C K} (h : s.Tracks runId d) (hidle : s.isIdle runId = true) :
    s.Rests runId d := by
  have hall : ∀ (id : ℕ) (request : VMRequest O A C K), s.requests[id]? = some request → request.runId = runId →
      request.stage.isSettled = true := by
    intro id request hrequest hof
    have hsettled := List.all_eq_true.mp hidle request (List.mem_of_getElem? hrequest)
    simpa [hof] using hsettled
  obtain ⟨-, hrests | ⟨id, request, hwaits⟩⟩ := h
  · exact hrests
  · have hsettled := hall id request hwaits.found hwaits.of
    have hmatched := hwaits.matched
    obtain ⟨of, call, stage⟩ := request
    cases stage with
    | settled => exact hmatched.elim
    | posted => cases hsettled
    | handling pending => cases hsettled
    | responded response => cases hsettled

lemma tracks_initial : (initial : ThreadedWorkflows V O A C K).Tracks runId DirectWorkflow.initial :=
  ⟨rfl, .inl ⟨fun _ _ h => (by cases h), rfl, rfl, rfl⟩⟩

/-- A request is posted: the direct call is made when it arrives. -/
lemma Tracks.post {call : VMCall O A} (h : s.Tracks runId d) (hidle : s.isIdle runId = true)
    (hcall : call.isCreate ≠ s.proxies runId) : (s.post runId call).Tracks runId d := by
  have hrests := rests_of_isIdle h hidle
  have hmatched : (s.post runId call).Matches d ⟨runId, call, .posted⟩ :=
    ⟨hrests.running, hrests.results, hrests.proxies, hrests.proxies ▸ hcall⟩
  refine ⟨h.1, .inr ⟨s.requests.length, ⟨runId, call, .posted⟩, ?_, rfl, fun id request hrequest hof hopen => ?_,
    hmatched⟩⟩
  · exact List.getElem?_concat_length
  · change (s.requests ++ [⟨runId, call, .posted⟩])[id]? = some request at hrequest
    by_cases hlt : id < s.requests.length
    · rw [List.getElem?_append_left hlt] at hrequest
      rw [hrests.settled id request hrequest hof] at hopen
      cases hopen
    · have hbound := (List.getElem?_eq_some_iff.mp hrequest).1
      rw [List.length_append, List.length_singleton] at hbound
      omega

/-- The request arrives: this is when the direct call is made. -/
lemma Tracks.receive {id : ℕ} {call : VMCall O A} (h : s.Tracks runId d)
    (hrequest : s.requests[id]? = some ⟨runId, call, .posted⟩) :
    ∃ d', d.step ctx runId (.begin call) = some d' ∧ (s.receive ctx id ⟨runId, call, .posted⟩).Tracks runId d' := by
  have hwaits : s.Waits runId d id ⟨runId, call, .posted⟩ := h.waits hrequest rfl
  obtain ⟨hrunning, hresults, hproxies, hcall⟩ := hwaits.matched
  let begun := ctx.begin runId d.workflow call
  refine ⟨{ d with workflow := begun.1, running := some (call, begun.2) }, ?_, ?_⟩
  · simp only [DirectWorkflow.step, hrunning, if_neg hcall]
    rfl
  · have hfits : begun.2.Fits call d.workflow.isSome begun.1 := WorkflowContext.fits_begin hcall
    have hreceive : s.receive ctx id ⟨runId, call, .posted⟩ =
        (s.setWorkflow runId begun.1).setStage id ⟨runId, call, .posted⟩ (.handling begun.2) := by
      rw [ThreadedWorkflows.receive]
      simp only [h.1]
      rfl
    rw [hreceive]
    refine ⟨Function.update_self _ _ _, .inr ⟨id, ⟨runId, call, .handling begun.2⟩, hwaits.setStage rfl ?_⟩⟩
    refine ⟨rfl, hresults, ?_⟩
    change begun.2.Fits call (s.proxies runId) begun.1
    rw [hproxies]
    exact hfits

/-- The thread answers: the direct call ends. -/
lemma Tracks.respond {id : ℕ} {call : VMCall O A} {pending : VMPending O C K} (h : s.Tracks runId d)
    (hrequest : s.requests[id]? = some ⟨runId, call, .handling pending⟩) :
    ∃ d', d.step ctx runId .finish = some d' ∧
      (s.respond ctx id ⟨runId, call, .handling pending⟩ pending).Tracks runId d' := by
  have hwaits : s.Waits runId d id ⟨runId, call, .handling pending⟩ := h.waits hrequest rfl
  obtain ⟨hrunning, hresults, hfits⟩ := hwaits.matched
  let finished := ctx.finish d.workflow pending
  refine ⟨⟨finished.1, none, d.results ++ [(call, finished.2)]⟩, ?_, ?_⟩
  · simp only [DirectWorkflow.step, hrunning]
    rfl
  · have hsettles : call.Settles finished.2 (s.proxies runId) finished.1 := WorkflowContext.settles_finish hfits
    have hrespond : s.respond ctx id ⟨runId, call, .handling pending⟩ pending =
        (s.setWorkflow runId finished.1).setStage id ⟨runId, call, .handling pending⟩
          (.responded (threadResult finished.2)) := by
      rw [ThreadedWorkflows.respond]
      simp only [h.1]
      rfl
    rw [hrespond]
    refine ⟨Function.update_self _ _ _, .inr ⟨id, ⟨runId, call, .responded (threadResult finished.2)⟩,
      hwaits.setStage rfl ?_⟩⟩
    refine ⟨rfl, finished.2, rfl, ?_, hsettles⟩
    rw [DirectWorkflow.seen, List.map_append]
    exact congrArg (· ++ _) hresults.symm

/-- The response arrives. -/
lemma Tracks.deliver {id : ℕ} {call : VMCall O A} {response : WorkerThreadResult (VMOutput C K)}
    (h : s.Tracks runId d) (hrequest : s.requests[id]? = some ⟨runId, call, .responded response⟩) :
    (s.deliver id ⟨runId, call, .responded response⟩ response).Tracks runId d := by
  have hwaits : s.Waits runId d id ⟨runId, call, .responded response⟩ := h.waits hrequest rfl
  obtain ⟨hrunning, result, rfl, hseen, hsettles⟩ := hwaits.matched
  refine ⟨h.1, .inl ⟨hwaits.settle rfl, hrunning, ?_, ?_⟩⟩
  · rw [hseen, ← hsettles.received]
    exact Function.update_self _ _ _
  · have hlive : call.isLive (call.received (threadResult result)) (s.proxies runId) = d.workflow.isSome := by
      rw [hsettles.received, isLive_sentByThread]
      exact hsettles.2
    exact (Function.update_self _ _ _).trans hlive

lemma Tracks.rejection {w : BaseVMWorkflow V} (h : s.Tracks runId d) (hw : s.workflowByRunId runId = some w)
    (err : ErrorValue) : ∃ d', d.step ctx runId (.unhandledRejection err) = some d' ∧
      (s.setWorkflow runId (some (w.setUnhandledRejection err))).Tracks runId d' := by
  have hd : d.workflow = some w := h.1.symm.trans hw
  refine ⟨{ d with workflow := some (w.setUnhandledRejection err) }, by simp only [DirectWorkflow.step, hd],
    Function.update_self _ _ _, ?_⟩
  obtain ⟨-, hrests | ⟨id, request, hwaits⟩⟩ := h
  · exact .inl ⟨hrests.settled, hrests.running, hrests.results, hrests.proxies.trans (by rw [hd]; rfl)⟩
  · refine .inr ⟨id, request, hwaits.found, hwaits.of, hwaits.only, ?_⟩
    have hmatched := hwaits.matched
    obtain ⟨of, call, stage⟩ := request
    cases stage with
    | settled => exact hmatched
    | posted =>
      obtain ⟨hrunning, hresults, hproxies, hcall⟩ := hmatched
      rw [hd] at hproxies hcall
      exact ⟨hrunning, hresults, hproxies, hcall⟩
    | handling pending =>
      obtain ⟨hrunning, hresults, hfits⟩ := hmatched
      rw [hd] at hfits
      exact ⟨hrunning, hresults, hfits.rejection err⟩
    | responded response =>
      obtain ⟨hrunning, result, hresponse, hseen, hsettles⟩ := hmatched
      rw [hd] at hsettles
      exact ⟨hrunning, result, hresponse, hseen, hsettles⟩

/-! ### Other runs -/

lemma sameFor_post {runId' : String} {call : VMCall O A} (hne : runId' ≠ runId) :
    SameFor runId s (s.post runId' call) := by
  refine ⟨rfl, rfl, rfl, fun id request hof => ?_⟩
  change (s.requests ++ [⟨runId', call, .posted⟩])[id]? = some request ↔ _
  rw [List.getElem?_append]
  split
  · rfl
  · rename_i hge
    rw [List.getElem?_eq_none (Nat.le_of_not_lt hge), List.getElem?_singleton]
    refine iff_of_false (fun h => ?_) nofun
    split at h
    · cases h
      exact hne hof
    · cases h

lemma sameFor_setWorkflow {runId' : String} (hne : runId' ≠ runId) (w : Option (BaseVMWorkflow V)) :
    SameFor runId s (s.setWorkflow runId' w) :=
  ⟨Function.update_of_ne (Ne.symm hne) _ _, rfl, rfl, fun _ _ _ => Iff.rfl⟩

lemma sameFor_setBoth {id : ℕ} {request : VMRequest O A C K} (hrequest : s.requests[id]? = some request)
    (hne : request.runId ≠ runId) (w : Option (BaseVMWorkflow V)) (stage : RequestStage O C K) :
    SameFor runId s ((s.setWorkflow request.runId w).setStage id request stage) :=
  ⟨Function.update_of_ne (Ne.symm hne) _ _, rfl, rfl, fun _ _ hof => getElem?_set_of_ne hrequest hne hof⟩

lemma sameFor_deliver {id : ℕ} {request : VMRequest O A C K} (hrequest : s.requests[id]? = some request)
    (hne : request.runId ≠ runId) (result : WorkerThreadResult (VMOutput C K)) :
    SameFor runId s (s.deliver id request result) :=
  ⟨rfl, Function.update_of_ne (Ne.symm hne) _ _, Function.update_of_ne (Ne.symm hne) _ _,
    fun _ _ hof => getElem?_set_of_ne hrequest hne hof⟩

/-- Each step of the thread is a step of the workflow that is called directly, or none of its. -/
theorem simulates (ctx : WorkflowContext V O A C K) (runId : String) :
    Transition.Simulates (DirectWorkflow.step ctx runId) (step ctx) (Tracks runId) := by
  intro s input t d htracks hstep
  have hsilent (h : t.Tracks runId d) :
      ∃ js d', Transition.run (DirectWorkflow.step ctx runId) d js = some d' ∧ t.Tracks runId d' := ⟨[], d, rfl, h⟩
  have hone {js : DirectInput O A} {d' : DirectWorkflow V O A C K} (hd : d.step ctx runId js = some d')
      (h : t.Tracks runId d') :
      ∃ js d', Transition.run (DirectWorkflow.step ctx runId) d js = some d' ∧ t.Tracks runId d' :=
    ⟨[js], d', Transition.run_cons_eq_some.mpr ⟨d', hd, rfl⟩, h⟩
  cases input with
  | call runId' call =>
    obtain ⟨hcond, ht⟩ := Option.ite_none_right_eq_some.mp hstep
    cases ht
    obtain ⟨hidle, hcall⟩ := Bool.and_eq_true_iff.mp hcond
    by_cases hrun : runId' = runId
    · subst hrun
      exact hsilent (htracks.post hidle (bne_iff_ne.mp hcall))
    · exact hsilent (htracks.of_same (sameFor_post hrun))
  | receive id =>
    simp only [step] at hstep
    split at hstep
    case h_2 => cases hstep
    case h_1 runId' call hrequest =>
      cases hstep
      by_cases hrun : runId' = runId
      · subst hrun
        obtain ⟨d', hd, h⟩ := htracks.receive hrequest
        exact hone hd h
      · exact hsilent (htracks.of_same (sameFor_setBoth hrequest hrun _ _))
  | unhandledRejection runId' err =>
    simp only [step] at hstep
    split at hstep
    case h_1 => cases hstep
    case h_2 w hw =>
      cases hstep
      by_cases hrun : runId' = runId
      · subst hrun
        obtain ⟨d', hd, h⟩ := htracks.rejection hw err
        exact hone hd h
      · exact hsilent (htracks.of_same (sameFor_setWorkflow hrun _))
  | respond id =>
    simp only [step] at hstep
    split at hstep
    case h_2 => cases hstep
    case h_1 runId' call pending hrequest =>
      cases hstep
      by_cases hrun : runId' = runId
      · subst hrun
        obtain ⟨d', hd, h⟩ := htracks.respond hrequest
        exact hone hd h
      · exact hsilent (htracks.of_same (sameFor_setBoth hrequest hrun _ _))
  | deliver id =>
    simp only [step] at hstep
    split at hstep
    case h_2 => cases hstep
    case h_1 runId' call response hrequest =>
      cases hstep
      by_cases hrun : runId' = runId
      · subst hrun
        exact hsilent (htracks.deliver hrequest)
      · exact hsilent (htracks.of_same (sameFor_deliver hrequest hrun response))

/-- The results that the caller of a run has seen are those of a workflow that is called directly, and that is in the
same state when no call is on its way. -/
structure Agrees (ctx : WorkflowContext V O A C K) (runId : String) (s : ThreadedWorkflows V O A C K)
    (inputs : List (DirectInput O A)) (d : DirectWorkflow V O A C K) : Prop where
  run : Transition.run (DirectWorkflow.step ctx runId) DirectWorkflow.initial inputs = some d
  results : s.results runId <+: d.seen
  workflow : s.workflowByRunId runId = d.workflow
  idle : s.isIdle runId = true → s.results runId = d.seen ∧ d.running = none

/-- A workflow that counts its activations, and rejects the second one -/
def countingContext : WorkflowContext ℕ ℕ Unit ℕ (List ℕ) where
  create options := .ok options
  activate n _ := (n + 1, if n = 1 then .error ⟨"Error", "second", ""⟩ else .ok n)
  getAndResetSinkCalls n := (n, .ok [n])
  dispose n := (n, .ok ())
  failed _ _ := 0

/-- Two workflows share the thread, and the calls of both are on their way at once. -/
def twoWorkflows : List (ThreadedWorkflowInput ℕ Unit) :=
  [.call "a" (.createWorkflow 0), .call "b" (.createWorkflow 5), .receive 1, .receive 0, .respond 0, .deliver 0,
    .call "a" (.activate ()), .respond 1, .receive 2, .deliver 1, .call "b" .getAndResetSinkCalls, .receive 3,
    .unhandledRejection "a" (.plain "boom" true), .respond 3, .respond 2, .deliver 2, .deliver 3]

end ThreadedWorkflows

end TemporalSdk
