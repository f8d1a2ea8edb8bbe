import Mathlib.Data.List.Enum
import TemporalSdk.Library.Keyed
import TemporalSdk.Worker.OperatorCounters
import TemporalSdk.Worker.WorkerThread

/-!
# The threads of a worker

`ThreadedVMWorkflowCreator` creates a workflow in the thread whose client counts the fewest. A
client counts a workflow from the request to create it until the request to dispose of it. Threads that
exit while the operator runs are left out.
-/

namespace TemporalSdk

variable {C : Type}

/-- A worker thread: the workflows of its `workflowCreator` by their run, and the instances that
have been created in it and not been disposed of. -/
structure WorkflowThread where
  workflowByRunId : String → Option WorkflowInstance
  alive : List WorkflowInstance

namespace WorkflowThread

def initial : WorkflowThread := ⟨fun _ => none, []⟩

/-- `handleRequest` for the requests of a workflow: `result` is what the isolate makes of it. An
error that is made here has no stack. -/
def handleRequest (t : WorkflowThread) (input : WorkerThreadInput) (workflow : WorkflowInstance)
    (result : WorkerThreadResult C) : WorkflowThread × WorkerThreadResult C :=
  match input with
  | .init | .destroy => (t, result)
  | .createWorkflow =>
    match result with
    | .error _ _ _ => (t, result)
    | .ok _ =>
      ({ t with
        workflowByRunId := Function.update t.workflowByRunId workflow.runId (some workflow)
        alive := t.alive ++ [workflow] }, result)
  | .activateWorkflow | .extractSinkCalls =>
    match t.workflowByRunId workflow.runId with
    | none => (t, .error "IllegalStateError"
        s!"Tried to activate non running workflow with runId: {workflow.runId}" "")
    | some _ => (t, result)
  | .disposeWorkflow =>
    match t.workflowByRunId workflow.runId with
    | none => (t, .error "IllegalStateError"
        s!"Tried to dispose non running workflow with runId: {workflow.runId}" "")
    | some disposed =>
      match result with
      | .error _ _ _ => (t, result)
      | .ok _ =>
        ({ t with
          workflowByRunId := Function.update t.workflowByRunId workflow.runId none
          alive := t.alive.erase disposed }, result)

end WorkflowThread

def ThreadError.toJsError (error : ThreadError) : JsError :=
  match error.ctor with
  | .illegalStateError => .illegalStateError error.message
  | .unexpectedError => .unexpectedError error.message
  | .error => .other error.message

structure PooledThread (C : Type) where
  client : WorkerThreadClient C
  thread : WorkflowThread

namespace PooledThread

def initial : PooledThread C := ⟨.create, .initial⟩

def send (p : PooledThread C) (input : WorkerThreadInput) : PooledThread C :=
  { p with client := p.client.send input }

/-- The thread handles a request, and its response arrives. -/
def respond (p : PooledThread C) (requestId : ℕ) (input : WorkerThreadInput) (workflow : WorkflowInstance)
    (result : WorkerThreadResult C) : Except ThreadError (PooledThread C × WorkerThreadResult C) :=
  let handled := p.thread.handleRequest input workflow result
  (p.client.onMessage requestId handled.2).map fun client => (⟨client, handled.1⟩, handled.2)

end PooledThread

/-- `Array.prototype.reduce` without an initial value: `none` is its error for an empty array. -/
def reduce {α : Type} (f : α → α → α) : List α → Option α
  | [] => none
  | a :: l => some (l.foldl f a)

/-- The client that `createWorkflow` picks, by its position. -/
def createWorkflow (workerThreadClients : List (WorkerThreadClient C)) : Option ℕ :=
  (reduce (fun prev curr => if prev.1.activeWorkflowCount < curr.1.activeWorkflowCount then prev else curr)
    workerThreadClients.zipIdx).map Prod.snd

namespace HandlerStage

/-- The request that the handler makes of a thread and waits for. -/
def request : HandlerStage C → Option WorkerThreadInput
  | disposing (some _) => some .disposeWorkflow
  | creating => some .createWorkflow
  | activating _ => some .activateWorkflow
  | sinkCalls _ _ => some .extractSinkCalls
  | disposing none | describing | decoding _ | encoding _ | failing _ _ | rejected _ _ => none

/-- The proxy that the handler may still make requests through. -/
def proxy : HandlerStage C → Option WorkflowInstance
  | disposing state => state
  | decoding workflow | activating workflow | encoding workflow | sinkCalls workflow _ => some workflow
  | describing | creating | failing _ _ | rejected _ _ => none

lemma caught_proxy (state : Option WorkflowInstance) (error : JsError) :
    (caught (C := C) state error).proxy = none := by
  unfold caught
  split <;> rfl

lemma activationFailed_proxy {workflow i : WorkflowInstance} {error : JsError}
    (h : (activationFailed (C := C) workflow error).proxy = some i) : workflow = i := by
  unfold activationFailed at h
  split at h
  · cases h
  · exact Option.some.inj h

end HandlerStage

def WorkflowRun.stage (r : WorkflowRun C) : Option (HandlerStage C) :=
  r.group.bind fun g => g.current.map Handler.stage

/-- An outstanding request, by the position of its client. -/
structure ThreadRequest where
  thread : ℕ
  requestId : ℕ
  input : WorkerThreadInput

/-- The operator over its pool of threads: `proxies` has the client of each workflow's proxy, and
`awaited` the request whose promise the handler of a run waits for. -/
structure ThreadedOperator (C : Type) where
  operator : OperatorState C
  pool : List (PooledThread C)
  proxies : WorkflowInstance → Option ℕ
  awaited : String → Option ThreadRequest

/-- `response` is a thread's answer to the request of a run. -/
inductive ThreadedInput (C : Type)
  | operator (input : OperatorInput C)
  | response (runId : String) (result : WorkerThreadResult C)

namespace ThreadedOperator

def initial (threadPoolSize : ℕ) : ThreadedOperator C :=
  ⟨.initial, List.replicate threadPoolSize .initial, fun _ => none, fun _ => none⟩

variable (w : ThreadedOperator C)

def send (runId : String) (thread : ℕ) (input : WorkerThreadInput) : ThreadedOperator C :=
  match w.pool[thread]? with
  | none => w
  | some p =>
    { w with
      pool := w.pool.set thread (p.send input)
      awaited := Function.update w.awaited runId (some ⟨thread, p.client.requestIdx, input⟩) }

/-- The handler of a run enters a stage. A workflow is created through a client that is picked
now, and what else is asked of it through its proxy's. -/
def enter (runId : String) (stage : HandlerStage C) : ThreadedOperator C :=
  match stage.request with
  | none => w
  | some input =>
    let thread := if input = .createWorkflow then createWorkflow (w.pool.map PooledThread.client)
      else stage.proxy.bind w.proxies
    match thread with
    | none => w
    | some thread => w.send runId thread input

/-- The operator has made a step in which the handler of the run went on. -/
def proceed (runId : String) (operator : OperatorState C) : ThreadedOperator C :=
  match (operator.runs runId).stage with
  | none => { w with operator }
  | some stage => { w with operator }.enter runId stage

/-- An item that arrives for a run does not disturb its handler. -/
def arrive (runId : String) (operator : OperatorState C) : ThreadedOperator C :=
  if (w.operator.runs runId).stage.isSome then { w with operator } else w.proceed runId operator

/-- What the handler goes on with when it waits for no thread: without threads none can be picked. -/
def unpicked (runId : String) (outcome : Except JsError C) : Except JsError C :=
  match (w.operator.runs runId).stage with
  | some .creating => .error (.typeError "Reduce of empty array with no initial value")
  | _ => outcome

/-- The response to a request of the run: a new proxy has the client of the request. -/
def answered (runId : String) (request : ThreadRequest) (p : PooledThread C)
    (result : WorkerThreadResult C) : ThreadedOperator C :=
  { w with
    pool := w.pool.set request.thread p
    proxies := match request.input, result with
      | .createWorkflow, .ok _ => Function.update w.proxies
          ⟨runId, (w.operator.runs runId).created⟩ (some request.thread)
      | _, _ => w.proxies
    awaited := Function.update w.awaited runId none }

def step (w : ThreadedOperator C) : ThreadedInput C → Option (ThreadedOperator C)
  | .operator (.poll activation) =>
    (w.operator.step (.poll activation)).map (w.arrive activation.runId)
  | .operator .shutdown => (w.operator.step .shutdown).map fun operator => { w with operator }
  | .operator (.evict runId) => (w.operator.step (.evict runId)).map (w.arrive runId)
  | .operator (.advance runId outcome) =>
    match w.awaited runId with
    | some _ => none
    | none => (w.operator.step (.advance runId (w.unpicked runId outcome))).map (w.proceed runId)
  | .response runId result =>
    match w.awaited runId with
    | none => none
    | some request =>
      match w.pool[request.thread]? with
      | none => none
      | some p =>
        match p.respond request.requestId request.input ⟨runId, (w.operator.runs runId).created⟩ result with
        | .error _ => none
        | .ok (p, result) =>
          (w.operator.step (.advance runId (result.outcome.mapError ThreadError.toJsError))).map
            ((w.answered runId request p result).proceed runId)

end ThreadedOperator

/-! ### The clients' counts -/

namespace WorkerThreadClient

/-- The number of requests of a type that have been settled in a way. -/
def requests (c : WorkerThreadClient C) (input : WorkerThreadInput)
    (p : Option (Except ThreadError C) → Bool) : ℕ :=
  c.posted.countP fun request => decide (request.2 = input) && p (c.settled request.1)

def succeeded : Option (Except ThreadError C) → Bool
  | some (.ok _) => true
  | _ => false

def failed : Option (Except ThreadError C) → Bool
  | some (.error _) => true
  | _ => false

variable {c c' : WorkerThreadClient C}

/-- A request is pending, or has succeeded, or has failed. -/
lemma requests_split (input : WorkerThreadInput) :
    c.requests input (fun _ => true) =
      c.requests input Option.isNone + c.requests input succeeded + c.requests input failed := by
  unfold requests
  generalize c.posted = posted
  induction posted with
  | nil => rfl
  | cons request posted ih =>
    simp only [List.countP_cons, ih]
    rcases c.settled request.1 with - | error | output <;> by_cases hinput : request.2 = input <;>
      simp [hinput, succeeded, failed] <;> omega

lemma Inv.requests_send (h : Inv c) (input input' : WorkerThreadInput)
    (p : Option (Except ThreadError C) → Bool) :
    (c.send input).requests input' p = c.requests input' p + (decide (input = input') && p none).toNat := by
  have hfresh : c.settled c.requestIdx = none := by
    rw [h.next]
    exact h.fresh _ (le_refl _)
  unfold requests
  simp only [WorkerThreadClient.send, List.countP_append, List.countP_singleton, hfresh]
  cases decide (input = input') && p none <;> rfl

/-- A response settles the request with its id, and leaves the rest of the client. -/
lemma Inv.onMessage_eq (h : Inv c) {requestId : ℕ} {result : WorkerThreadResult C}
    (hc : c.onMessage requestId result = .ok c') :
    (∃ input, (requestId, input) ∈ c.posted) ∧ c.settled requestId = none ∧
      c'.settled = Function.update c.settled requestId (some result.outcome) ∧ c'.posted = c.posted ∧
      c'.activeWorkflowCount = c.activeWorkflowCount ∧
      c'.requestIdToCompletion = c.requestIdToCompletion.erase requestId := by
  unfold WorkerThreadClient.onMessage at hc
  split at hc
  · cases hc
  · rename_i completion hlookup
    obtain ⟨rfl, hlt, hnone⟩ := (h.outstanding _ _).mp hlookup
    obtain ⟨input, hposted⟩ := h.exists_posted hlt
    cases hc
    refine ⟨⟨input, List.mem_of_getElem? hposted⟩, hnone, ?_⟩
    simp [settle, hnone]

lemma Inv.requests_onMessage (h : Inv c) {requestId : ℕ} {result : WorkerThreadResult C}
    {input : WorkerThreadInput} (input' : WorkerThreadInput) (hposted : (requestId, input) ∈ c.posted)
    (hc : c.onMessage requestId result = .ok c') (p : Option (Except ThreadError C) → Bool) :
    c'.requests input' p + (decide (input = input') && p none).toNat =
      c.requests input' p + (decide (input = input') && p (some result.outcome)).toNat := by
  obtain ⟨-, hnone, hsettled, hposted', -⟩ := h.onMessage_eq hc
  have hnodup : (c.posted.map Prod.fst).Nodup := by
    rw [h.ids]
    exact List.nodup_range
  have hcount := Keyed.countP_update hnodup hposted c.settled (some result.outcome)
    fun input settled => decide (input = input') && p settled
  rw [hnone] at hcount
  unfold requests
  rw [hposted', hsettled]
  exact hcount

end WorkerThreadClient

namespace WorkflowThread

variable {t t' : WorkflowThread} {input : WorkerThreadInput} {workflow : WorkflowInstance}
  {result result' : WorkerThreadResult C}

/-- A thread changes when it has created or disposed of a workflow, and not when it fails to. -/
lemma handleRequest_cases (h : t.handleRequest input workflow result = (t', result')) :
    (t' = t ∧ (input = .createWorkflow ∨ input = .disposeWorkflow →
        ∃ name message stack, result' = .error name message stack)) ∨
      (input = .createWorkflow ∧ (∃ output, result' = .ok output) ∧
        t' = { t with
          workflowByRunId := Function.update t.workflowByRunId workflow.runId (some workflow)
          alive := t.alive ++ [workflow] }) ∨
      (input = .disposeWorkflow ∧ (∃ output, result' = .ok output) ∧
        ∃ disposed, t.workflowByRunId workflow.runId = some disposed ∧
          t' = { t with
            workflowByRunId := Function.update t.workflowByRunId workflow.runId none
            alive := t.alive.erase disposed }) := by
  unfold handleRequest at h
  cases input with
  | init =>
    cases h
    exact Or.inl ⟨rfl, by simp⟩
  | destroy =>
    cases h
    exact Or.inl ⟨rfl, by simp⟩
  | createWorkflow =>
    cases result with
    | ok output =>
      cases h
      exact Or.inr (Or.inl ⟨rfl, ⟨output, rfl⟩, rfl⟩)
    | error name message stack =>
      cases h
      exact Or.inl ⟨rfl, fun _ => ⟨name, message, stack, rfl⟩⟩
  | activateWorkflow =>
    refine Or.inl ⟨?_, by simp⟩
    cases hrunning : t.workflowByRunId workflow.runId with
    | none =>
      rw [hrunning] at h
      exact (Prod.ext_iff.mp h).1.symm
    | some i =>
      rw [hrunning] at h
      exact (Prod.ext_iff.mp h).1.symm
  | extractSinkCalls =>
    refine Or.inl ⟨?_, by simp⟩
    cases hrunning : t.workflowByRunId workflow.runId with
    | none =>
      rw [hrunning] at h
      exact (Prod.ext_iff.mp h).1.symm
    | some i =>
      rw [hrunning] at h
      exact (Prod.ext_iff.mp h).1.symm
  | disposeWorkflow =>
    cases hrunning : t.workflowByRunId workflow.runId with
    | none =>
      rw [hrunning] at h
      cases h
      exact Or.inl ⟨rfl, fun _ => ⟨_, _, _, rfl⟩⟩
    | some disposed =>
      rw [hrunning] at h
      cases result with
      | ok output =>
        cases h
        exact Or.inr (Or.inr ⟨rfl, ⟨output, rfl⟩, disposed, rfl, rfl⟩)
      | error name message stack =>
        cases h
        exact Or.inl ⟨rfl, fun _ => ⟨name, message, stack, rfl⟩⟩

lemma handleRequest_workflowByRunId_of_ne (h : t.handleRequest input workflow result = (t', result'))
    {runId : String} (hne : runId ≠ workflow.runId) : t'.workflowByRunId runId = t.workflowByRunId runId := by
  rcases handleRequest_cases h with ⟨rfl, -⟩ | ⟨-, -, rfl⟩ | ⟨-, -, disposed, -, rfl⟩
  · rfl
  · exact Function.update_of_ne hne _ _
  · exact Function.update_of_ne hne _ _

/-- What is found under a run is a workflow of that run, and alive. -/
lemma handleRequest_tracked (h : t.handleRequest input workflow result = (t', result'))
    (htracked : ∀ runId i, t.workflowByRunId runId = some i → i ∈ t.alive ∧ i.runId = runId)
    (runId : String) (i : WorkflowInstance) (hi : t'.workflowByRunId runId = some i) :
    i ∈ t'.alive ∧ i.runId = runId := by
  by_cases hrun : runId = workflow.runId
  · subst hrun
    rcases handleRequest_cases h with ⟨rfl, -⟩ | ⟨-, -, rfl⟩ | ⟨-, -, disposed, -, rfl⟩
    · exact htracked _ i hi
    · dsimp only at hi
      rw [Function.update_self, Option.some.injEq] at hi
      subst hi
      exact ⟨List.mem_concat_self, rfl⟩
    · dsimp only at hi
      rw [Function.update_self] at hi
      cases hi
  · rw [handleRequest_workflowByRunId_of_ne h hrun] at hi
    obtain ⟨hmem, hrunId⟩ := htracked runId i hi
    refine ⟨?_, hrunId⟩
    rcases handleRequest_cases h with ⟨rfl, -⟩ | ⟨-, -, rfl⟩ | ⟨-, -, disposed, hrunning, rfl⟩
    · exact hmem
    · exact List.mem_append_left _ hmem
    · refine (List.mem_erase_of_ne ?_).mpr hmem
      rintro rfl
      exact hrun (hrunId.symm.trans (htracked _ _ hrunning).2)

end WorkflowThread

namespace PooledThread

open WorkerThreadClient (succeeded failed)

/-- The client's count is the balance of its requests, and what is alive in the thread the balance
of those that have succeeded. -/
structure Ok (p : PooledThread C) : Prop where
  client : p.client.Inv
  count : p.client.activeWorkflowCount =
    p.client.requests .createWorkflow (fun _ => true) - p.client.requests .disposeWorkflow fun _ => true
  alive : p.thread.alive.length + p.client.requests .disposeWorkflow succeeded =
    p.client.requests .createWorkflow succeeded
  tracked : ∀ runId i, p.thread.workflowByRunId runId = some i → i ∈ p.thread.alive ∧ i.runId = runId

/-- The workflows that are alive or being created, less those that are being disposed of. -/
def load (p : PooledThread C) : ℤ :=
  p.thread.alive.length + p.client.requests .createWorkflow Option.isNone -
    p.client.requests .disposeWorkflow Option.isNone

/-- No creation and no disposal has failed. -/
def NoneFailed (p : PooledThread C) : Prop :=
  p.client.requests .createWorkflow failed = 0 ∧ p.client.requests .disposeWorkflow failed = 0

variable {p p' : PooledThread C} {requestId : ℕ} {input : WorkerThreadInput} {workflow : WorkflowInstance}
  {result result' : WorkerThreadResult C}

lemma ok_initial : Ok (initial : PooledThread C) where
  client := WorkerThreadClient.inv_create
  count := rfl
  alive := rfl
  tracked runId i h := by cases h

/-- The client counts the creations that failed, and does not count what could not be disposed of. -/
lemma Ok.activeWorkflowCount_eq (h : Ok p) :
    p.client.activeWorkflowCount = p.load + p.client.requests .createWorkflow failed -
      p.client.requests .disposeWorkflow failed := by
  rw [h.count, WorkerThreadClient.requests_split, WorkerThreadClient.requests_split, load]
  have halive := h.alive
  push_cast
  omega

lemma Ok.activeWorkflowCount_eq_load (h : Ok p) (hnone : NoneFailed p) :
    p.client.activeWorkflowCount = p.load := by
  rw [h.activeWorkflowCount_eq, hnone.1, hnone.2]
  simp

/-- When no request is outstanding, the load is what is alive. -/
lemma Ok.load_eq (h : Ok p) (hquiet : p.client.requestIdToCompletion.keys = []) :
    p.load = p.thread.alive.length := by
  have hsettled (input : WorkerThreadInput) : p.client.requests input Option.isNone = 0 := by
    unfold WorkerThreadClient.requests
    rw [List.countP_eq_zero]
    intro request hrequest hpending
    obtain ⟨promise, hpromise, hget⟩ := List.mem_iff_getElem.mp hrequest
    have hid : request.1 = promise := by
      have hids := congrArg (fun ids => ids[promise]?) h.client.ids
      simp only [List.getElem?_map, List.getElem?_eq_getElem hpromise, hget, Option.map_some,
        List.getElem?_range hpromise, Option.some.injEq] at hids
      exact hids
    have hnone : p.client.settled promise = none := by
      rw [← hid]
      simpa using (Bool.and_eq_true_iff.mp hpending).2
    have hlookup := (h.client.outstanding promise promise).mpr ⟨rfl, hpromise, hnone⟩
    have hmem : promise ∈ p.client.requestIdToCompletion.keys :=
      AList.mem_keys.mpr (AList.lookup_isSome.mp (by rw [hlookup]; rfl))
    rw [hquiet] at hmem
    cases hmem
  simp [load, hsettled]

lemma Ok.send (h : Ok p) (input : WorkerThreadInput) : Ok (p.send input) where
  client := h.client.send input
  count := by
    simp only [PooledThread.send, h.client.requests_send]
    cases input <;> simp [WorkerThreadClient.send, h.count] <;> omega
  alive := by
    simp only [PooledThread.send, h.client.requests_send]
    simpa [succeeded] using h.alive
  tracked := h.tracked

lemma NoneFailed.send (hnone : NoneFailed p) (h : Ok p) (input : WorkerThreadInput) :
    NoneFailed (p.send input) := by
  simp only [NoneFailed, PooledThread.send, h.client.requests_send]
  simpa [NoneFailed, failed] using hnone

lemma respond_eq (h : p.respond requestId input workflow result = .ok (p', result')) :
    p.thread.handleRequest input workflow result = (p'.thread, result') ∧
      p.client.onMessage requestId result' = .ok p'.client := by
  unfold respond at h
  dsimp only at h
  cases hclient : p.client.onMessage requestId (p.thread.handleRequest input workflow result).2 with
  | error error =>
    rw [hclient] at h
    cases h
  | ok client =>
    rw [hclient] at h
    cases h
    exact ⟨rfl, hclient⟩

lemma Ok.respond (h : Ok p) (hposted : (requestId, input) ∈ p.client.posted)
    (hp' : p.respond requestId input workflow result = .ok (p', result')) : Ok p' := by
  obtain ⟨hhandle, hmessage⟩ := respond_eq hp'
  obtain ⟨-, -, -, -, hcount, -⟩ := h.client.onMessage_eq hmessage
  have hrequests := h.client.requests_onMessage .createWorkflow hposted hmessage
  have hdisposes := h.client.requests_onMessage .disposeWorkflow hposted hmessage
  refine ⟨(h.client.onMessage hmessage).1, ?_, ?_, WorkflowThread.handleRequest_tracked hhandle h.tracked⟩
  · have hcreate := hrequests fun _ => true
    have hdispose := hdisposes fun _ => true
    rw [Nat.add_right_cancel_iff] at hcreate hdispose
    rw [hcount, hcreate, hdispose]
    exact h.count
  · have hcreate := hrequests succeeded
    have hdispose := hdisposes succeeded
    have halive := h.alive
    rcases WorkflowThread.handleRequest_cases hhandle with
      ⟨hthread, herror⟩ | ⟨rfl, ⟨output, rfl⟩, hthread⟩ | ⟨rfl, ⟨output, rfl⟩, disposed, hrunning, hthread⟩
    · rw [hthread]
      by_cases hinput : input = .createWorkflow ∨ input = .disposeWorkflow
      · obtain ⟨name, message, stack, rfl⟩ := herror hinput
        simp only [succeeded, WorkerThreadResult.outcome, Bool.and_false, Bool.toNat_false, add_zero]
          at hcreate hdispose
        rw [hcreate, hdispose]
        exact halive
      · rw [not_or] at hinput
        simp only [hinput, decide_false, Bool.false_and, Bool.toNat_false, add_zero] at hcreate hdispose
        rw [hcreate, hdispose]
        exact halive
    · have hcreate' : p'.client.requests .createWorkflow succeeded =
          p.client.requests .createWorkflow succeeded + 1 := by
        simpa [succeeded, WorkerThreadResult.outcome] using hcreate
      have hdispose' : p'.client.requests .disposeWorkflow succeeded =
          p.client.requests .disposeWorkflow succeeded := by
        simpa [succeeded, WorkerThreadResult.outcome] using hdispose
      rw [hthread, hcreate', hdispose', List.length_append, List.length_singleton]
      omega
    · have hcreate' : p'.client.requests .createWorkflow succeeded =
          p.client.requests .createWorkflow succeeded := by
        simpa [succeeded, WorkerThreadResult.outcome] using hcreate
      have hdispose' : p'.client.requests .disposeWorkflow succeeded =
          p.client.requests .disposeWorkflow succeeded + 1 := by
        simpa [succeeded, WorkerThreadResult.outcome] using hdispose
      have hmem := (h.tracked _ _ hrunning).1
      have hpos := List.length_pos_of_mem hmem
      rw [hthread, hcreate', hdispose', List.length_erase_of_mem hmem]
      omega

/-- A response that is not an error fails nothing. -/
lemma NoneFailed.respond (hnone : NoneFailed p) (h : Ok p) (hposted : (requestId, input) ∈ p.client.posted)
    (hp' : p.respond requestId input workflow result = .ok (p', result'))
    (hresult : input = .createWorkflow ∨ input = .disposeWorkflow → ∃ output, result' = .ok output) :
    NoneFailed p' := by
  obtain ⟨-, hmessage⟩ := respond_eq hp'
  have hcount {input' : WorkerThreadInput} (hinput' : input' = .createWorkflow ∨ input' = .disposeWorkflow) :
      p'.client.requests input' failed = p.client.requests input' failed := by
    have hrequests := h.client.requests_onMessage input' hposted hmessage failed
    by_cases hinput : input = input'
    · obtain ⟨output, rfl⟩ := hresult (hinput ▸ hinput')
      simpa [failed, WorkerThreadResult.outcome] using hrequests
    · simpa [hinput] using hrequests
  rw [NoneFailed, hcount (Or.inl rfl), hcount (Or.inr rfl)]
  exact hnone

end PooledThread

/-! ### The least count -/

section Reduce

variable {α : Type} {f : α → α → α} (m : α → ℤ)

lemma foldl_least (hf : ∀ prev curr, f prev curr = if m prev < m curr then prev else curr) (l : List α) (a : α) :
    l.foldl f a ∈ a :: l ∧ ∀ b ∈ a :: l, m (l.foldl f a) ≤ m b := by
  induction l generalizing a with
  | nil => simp
  | cons b l ih =>
    obtain ⟨hmem, hleast⟩ := ih (f a b)
    have hle : m (f a b) ≤ m a ∧ m (f a b) ≤ m b ∧ (f a b = a ∨ f a b = b) := by
      rw [hf]
      split
      · rename_i hlt
        exact ⟨le_refl _, le_of_lt hlt, Or.inl rfl⟩
      · rename_i hle
        exact ⟨not_lt.mp hle, le_refl _, Or.inr rfl⟩
    rw [List.foldl_cons]
    constructor
    · rcases List.mem_cons.mp hmem with heq | hmem
      · rw [heq]
        rcases hle.2.2 with hfab | hfab <;> rw [hfab] <;> simp
      · exact List.mem_cons_of_mem _ (List.mem_cons_of_mem _ hmem)
    · intro c hc
      have hbest := hleast (f a b) List.mem_cons_self
      rcases List.mem_cons.mp hc with rfl | hc
      · exact le_trans hbest hle.1
      rcases List.mem_cons.mp hc with rfl | hc
      · exact le_trans hbest hle.2.1
      · exact hleast c (List.mem_cons_of_mem _ hc)

lemma reduce_least (hf : ∀ prev curr, f prev curr = if m prev < m curr then prev else curr) {l : List α} {a : α}
    (h : reduce f l = some a) : a ∈ l ∧ ∀ b ∈ l, m a ≤ m b := by
  cases l with
  | nil => cases h
  | cons b l =>
    rw [reduce, Option.some.injEq] at h
    subst h
    exact foldl_least m hf l b

end Reduce

/-- The picked client has the least count. -/
lemma createWorkflow_least {clients : List (WorkerThreadClient C)} {thread : ℕ}
    (h : createWorkflow clients = some thread) : ∃ client, clients[thread]? = some client ∧
      ∀ client' ∈ clients, client.activeWorkflowCount ≤ client'.activeWorkflowCount := by
  obtain ⟨⟨client, thread'⟩, hreduce, rfl⟩ := Option.map_eq_some_iff.mp h
  obtain ⟨hmem, hleast⟩ := reduce_least (fun entry : WorkerThreadClient C × ℕ => entry.1.activeWorkflowCount)
    (fun _ _ => rfl) hreduce
  refine ⟨client, List.mk_mem_zipIdx_iff_getElem?.mp hmem, fun client' hclient' => ?_⟩
  obtain ⟨thread, hthread⟩ := List.mem_iff_getElem?.mp hclient'
  exact hleast (client', thread) (List.mk_mem_zipIdx_iff_getElem?.mpr hthread)

/-! ### The proxies of the handlers -/

namespace Handler

variable {h : Handler C} {created : ℕ} {outcome : Except JsError C} {state : Option WorkflowInstance}

lemma start_proxy (item : ActivationItem) : (start (C := C) state item).1.stage.proxy = state := by
  unfold start
  dsimp only
  split
  · rfl
  · cases state with
    | some workflow => rfl
    | none =>
      unfold startStage
      dsimp only
      repeat' split
      all_goals rfl

/-- From one `await` to the next the handler keeps its proxy, unless the request was to dispose of the
workflow, and a workflow that has been created gets one. -/
lemma advance_proxy {stage : HandlerStage C} {calls : List WorkflowCall} {i : WorkflowInstance}
    (hadvance : h.advance created outcome = some (.await stage calls)) (hi : stage.proxy = some i) :
    (h.stage.proxy = some i ∧ h.stage.request ≠ some .disposeWorkflow ∧
        h.stage.request ≠ some .createWorkflow) ∨
      h.stage.request = some .createWorkflow ∧ (∃ output, outcome = .ok output) ∧
        i = ⟨h.item.activation.runId, created⟩ := by
  -- What is thrown before the inner `try` block leaves no proxy.
  have hcaught {state : Option WorkflowInstance} {err : JsError}
      (hcaught : (HandlerStage.caught (C := C) state err).proxy = some i) : False := by
    rw [HandlerStage.caught_proxy] at hcaught
    cases hcaught
  unfold advance at hadvance
  cases hstage : h.stage with
  | disposing state =>
    rw [hstage] at hadvance
    rcases state with - | workflow
    · dsimp only at hadvance
      split at hadvance
      · cases hadvance
        cases hi
      · split at hadvance <;> cases hadvance
    · rcases outcome with err | output
      · cases hadvance
        exact (hcaught hi).elim
      · dsimp only at hadvance
        split at hadvance
        · cases hadvance
          cases hi
        · split at hadvance <;> cases hadvance
  | describing =>
    rw [hstage] at hadvance
    rcases outcome with err | output
    · cases hadvance
      exact (hcaught hi).elim
    · dsimp only at hadvance
      split at hadvance <;> cases hadvance <;> cases hi
  | creating =>
    rw [hstage] at hadvance
    rcases outcome with err | output
    · cases hadvance
      exact (hcaught hi).elim
    · cases hadvance
      cases hi
      exact Or.inr ⟨rfl, ⟨output, rfl⟩, rfl⟩
  | decoding workflow =>
    rw [hstage] at hadvance
    rcases outcome with err | output <;> cases hadvance
    · obtain rfl := HandlerStage.activationFailed_proxy hi
      exact Or.inl ⟨rfl, by simp [HandlerStage.request], by simp [HandlerStage.request]⟩
    · cases hi
      exact Or.inl ⟨rfl, by simp [HandlerStage.request], by simp [HandlerStage.request]⟩
  | activating workflow =>
    rw [hstage] at hadvance
    rcases outcome with err | output <;> cases hadvance
    · obtain rfl := HandlerStage.activationFailed_proxy hi
      exact Or.inl ⟨rfl, by simp [HandlerStage.request], by simp [HandlerStage.request]⟩
    · cases hi
      exact Or.inl ⟨rfl, by simp [HandlerStage.request], by simp [HandlerStage.request]⟩
  | encoding workflow =>
    rw [hstage] at hadvance
    rcases outcome with err | output <;> cases hadvance
    · obtain rfl := HandlerStage.activationFailed_proxy hi
      exact Or.inl ⟨rfl, by simp [HandlerStage.request], by simp [HandlerStage.request]⟩
    · cases hi
      exact Or.inl ⟨rfl, by simp [HandlerStage.request], by simp [HandlerStage.request]⟩
  | sinkCalls workflow result =>
    rw [hstage] at hadvance
    rcases outcome with err | output
    · cases hadvance
      exact (hcaught hi).elim
    · rcases result with err | completion
      · cases hadvance
        exact (hcaught hi).elim
      · cases hadvance
  | failing state error =>
    rw [hstage] at hadvance
    rcases outcome with err | output <;> cases hadvance
    cases hi
  | rejected state error =>
    rw [hstage] at hadvance
    cases hadvance

end Handler

namespace WorkflowRun

/-- The proxy that the operator may still make requests of a run through. -/
def proxy (r : WorkflowRun C) : Option WorkflowInstance :=
  r.group.bind fun g => match g.current with
    | none => g.state
    | some h => h.stage.proxy

variable {r r' : WorkflowRun C} {g : ActivationGroup C} {runId : String} {effect : OperatorEffect C}

lemma proxy_call (item : ActivationItem) : (r.call g item).proxy = g.state :=
  Handler.start_proxy item

lemma proxy_callNext (hcurrent : g.current = none) : (r.callNext g).proxy = g.state := by
  unfold callNext
  split
  · simp [proxy, hcurrent]
  · exact proxy_call _

lemma proxy_of_stage {stage : HandlerStage C} (h : r.stage = some stage) : r.proxy = stage.proxy := by
  obtain ⟨g, hgroup, hg⟩ := Option.bind_eq_some_iff.mp h
  obtain ⟨handler, hcurrent, rfl⟩ := Option.map_eq_some_iff.mp hg
  simp [proxy, hgroup, hcurrent]

/-- An item that arrives leaves the proxy, and the stage of a handler that is running. -/
lemma proxy_receive (item : ActivationItem) :
    (r.receive g item).proxy = ({ r with group := some g } : WorkflowRun C).proxy ∧
      (g.current.isSome = true → (r.receive g item).stage = g.current.map Handler.stage) := by
  unfold receive
  cases hcurrent : g.current with
  | none => exact ⟨by rw [proxy_call]; simp [proxy, hcurrent], fun h => by cases h⟩
  | some h => exact ⟨by simp [proxy, hcurrent], fun _ => by simp [stage]⟩

/-- Polled activations and evictions leave the proxy, and the stage of a handler that is running. -/
lemma proxy_arrive {input : RunInput C} (hinput : ∀ outcome, input ≠ .advance outcome)
    (hstep : r.step runId input = some (r', effect)) :
    r'.proxy = r.proxy ∧ (r.stage.isSome = true → r'.stage = r.stage) := by
  cases input with
  | poll activation =>
    obtain ⟨-, rfl, -⟩ := step_poll hstep
    obtain ⟨hproxy, hstage⟩ := proxy_receive (r := { r with
      outstanding := true, polled := r.polled ++ [activation] })
      (g := r.group.getD ⟨none, none, [], false⟩) ⟨activation, false⟩
    rw [hproxy]
    unfold proxy stage at *
    cases hgroup : r.group with
    | none => simp
    | some g =>
      rw [hgroup] at hstage
      exact ⟨rfl, fun h => hstage (by simpa using h)⟩
  | evict =>
    obtain ⟨g, hgroup, -, rfl, -⟩ := step_evict hstep
    obtain ⟨hproxy, hstage⟩ := proxy_receive (r := r) (g := { g with evicted := true })
      ⟨selfInducedShutdownEviction runId, true⟩
    rw [hproxy]
    unfold proxy stage at *
    rw [hgroup]
    exact ⟨rfl, fun h => hstage (by simpa using h)⟩
  | advance outcome => exact absurd rfl (hinput outcome)

/-- When the handler goes on, the run keeps its proxy, unless the request was to dispose of the
workflow, and a workflow that has been created gets one. -/
lemma proxy_advance (hok : r.Ok runId) {outcome : Except JsError C}
    (hstep : r.step runId (.advance outcome) = some (r', effect)) {i : WorkflowInstance}
    (hi : r'.proxy = some i) :
    (r.proxy = some i ∧ r.stage.bind HandlerStage.request ≠ some .disposeWorkflow ∧
        r.stage.bind HandlerStage.request ≠ some .createWorkflow) ∨
      r.stage.bind HandlerStage.request = some .createWorkflow ∧ (∃ output, outcome = .ok output) ∧
        i = ⟨runId, r.created⟩ := by
  obtain ⟨g, h, hgroup, hcurrent, hresult⟩ := step_advance hstep
  have hrun := ((hok.group g hgroup).handler h hcurrent).forRun
  have hproxy : r.proxy = h.stage.proxy ∧ r.stage = some h.stage := by
    simp [proxy, stage, hgroup, hcurrent]
  rw [hproxy.1, hproxy.2, ← hrun]
  rcases hresult with ⟨stage, calls, hadvance, rfl, -⟩ | ⟨state, close, completion, hadvance, rfl, -⟩
  · exact Handler.advance_proxy hadvance hi
  · cases close with
    | true => cases hi
    | false =>
      rcases Handler.advance_done hadvance with
        ⟨-, -, hclose, -⟩ | ⟨workflow, result, hstage, rfl, -, -⟩ | ⟨-, -, -, -, hclose, -⟩
      · cases hclose
      · refine Or.inl ?_
        rw [hstage]
        have hnext : (r.finish g h.item (some workflow) false completion).proxy = some workflow :=
          proxy_callNext rfl
        rw [hnext] at hi
        exact ⟨hi, by simp [HandlerStage.request], by simp [HandlerStage.request]⟩
      · cases hclose

end WorkflowRun

/-- The workflow of a run runs in a thread. -/
def RunsIn (pool : List (PooledThread C)) (thread : ℕ) (i : WorkflowInstance) : Prop :=
  ∃ p, pool[thread]? = some p ∧ p.thread.workflowByRunId i.runId = some i

section Pool

variable {pool : List (PooledThread C)} {thread thread' : ℕ} {p p' q : PooledThread C}

lemma getElem?_pool_set (hp : pool[thread]? = some p) (hq : (pool.set thread p')[thread']? = some q) :
    (thread' = thread ∧ q = p') ∨ pool[thread']? = some q ∧ thread' ≠ thread := by
  by_cases hthread : thread' = thread
  · subst hthread
    rw [List.getElem?_set_self (List.getElem?_eq_some_iff.mp hp).1, Option.some.injEq] at hq
    exact Or.inl ⟨rfl, hq.symm⟩
  · rw [List.getElem?_set_ne (Ne.symm hthread)] at hq
    exact Or.inr ⟨hq, hthread⟩

lemma forall_pool_set {P : PooledThread C → Prop} (h : ∀ q ∈ pool, P q) (hp' : P p') :
    ∀ q ∈ pool.set thread p', P q := by
  intro q hq
  rcases List.mem_or_eq_of_mem_set hq with hold | rfl
  · exact h q hold
  · exact hp'

lemma exists_pool_set {P : PooledThread C → Prop} (h : ∃ q, pool[thread']? = some q ∧ P q)
    (hp : pool[thread]? = some p) (hkeep : P p → P p') :
    ∃ q, (pool.set thread p')[thread']? = some q ∧ P q := by
  obtain ⟨q, hq, hPq⟩ := h
  by_cases hthread : thread' = thread
  · subst hthread
    rw [hp, Option.some.injEq] at hq
    subst hq
    exact ⟨p', List.getElem?_set_self (List.getElem?_eq_some_iff.mp hp).1, hkeep hPq⟩
  · exact ⟨q, by rw [List.getElem?_set_ne (Ne.symm hthread), hq], hPq⟩

lemma RunsIn.set {i : WorkflowInstance} (h : RunsIn pool thread' i) (hp : pool[thread]? = some p)
    (hsame : p'.thread.workflowByRunId i.runId = p.thread.workflowByRunId i.runId) :
    RunsIn (pool.set thread p') thread' i :=
  exists_pool_set h hp fun hruns => hsame.trans hruns

end Pool

namespace ThreadedOperator

/-- Where the handler of a run waits for a thread, it waits for the request of its stage, and what it
has a proxy for runs in the thread of the proxy. -/
structure Inv (w : ThreadedOperator C) : Prop where
  operator : w.operator.Inv
  pool : ∀ p ∈ w.pool, p.Ok
  awaited : ∀ runId request, w.awaited runId = some request →
    (w.operator.runs runId).stage.bind HandlerStage.request = some request.input ∧
      (∃ p, w.pool[request.thread]? = some p ∧ (request.requestId, request.input) ∈ p.client.posted) ∧
      (request.input = .disposeWorkflow →
        (w.operator.runs runId).proxy.bind w.proxies = some request.thread)
  pending : ∀ thread p, w.pool[thread]? = some p → ∀ requestId ∈ p.client.requestIdToCompletion,
    ∃ runId request, w.awaited runId = some request ∧ request.thread = thread ∧
      request.requestId = requestId
  running : ∀ runId i, (w.operator.runs runId).proxy = some i →
    i.runId = runId ∧ ∃ thread, w.proxies i = some thread ∧ RunsIn w.pool thread i

variable {w w' : ThreadedOperator C} {runId : String} {operator : OperatorState C}

lemma inv_initial (threadPoolSize : ℕ) : Inv (initial threadPoolSize : ThreadedOperator C) where
  operator := OperatorState.inv_initial
  pool p hp := by
    rw [List.eq_of_mem_replicate hp]
    exact PooledThread.ok_initial
  awaited runId request h := by cases h
  pending thread p hp requestId hrequestId := by
    rw [List.eq_of_mem_replicate (List.mem_of_getElem? hp)] at hrequestId
    exact absurd hrequestId (AList.notMem_empty _)
  running runId i h := by cases h

lemma Inv.send (h : Inv w) {thread : ℕ} {input : WorkerThreadInput} (hawaited : w.awaited runId = none)
    (hstage : (w.operator.runs runId).stage.bind HandlerStage.request = some input)
    (hdispose : input = .disposeWorkflow → (w.operator.runs runId).proxy.bind w.proxies = some thread) :
    Inv (w.send runId thread input) := by
  unfold ThreadedOperator.send
  cases hp : w.pool[thread]? with
  | none => exact h
  | some p =>
    have hok := h.pool p (List.mem_of_getElem? hp)
    have hself : (w.pool.set thread (p.send input))[thread]? = some (p.send input) :=
      List.getElem?_set_self (List.getElem?_eq_some_iff.mp hp).1
    refine ⟨h.operator, forall_pool_set h.pool (hok.send input), ?_, ?_, ?_⟩
    · intro runId' request hrequest
      by_cases hrun : runId' = runId
      · subst hrun
        simp only [Function.update_self, Option.some.injEq] at hrequest
        subst hrequest
        refine ⟨hstage, ⟨p.send input, hself, ?_⟩, hdispose⟩
        exact List.mem_concat_self
      · simp only [Function.update_of_ne hrun] at hrequest
        obtain ⟨hstage', hposted, hdispose'⟩ := h.awaited runId' request hrequest
        exact ⟨hstage', exists_pool_set hposted hp fun hmem => List.mem_append_left _ hmem, hdispose'⟩
    · intro thread' q hq requestId hrequestId
      have hold {q : PooledThread C} (hq : w.pool[thread']? = some q)
          (hrequestId : requestId ∈ q.client.requestIdToCompletion) : ∃ runId' request,
          Function.update w.awaited runId (some ⟨thread, p.client.requestIdx, input⟩) runId' = some request ∧
            request.thread = thread' ∧ request.requestId = requestId := by
        obtain ⟨runId', request, hrequest, heq⟩ := h.pending thread' q hq requestId hrequestId
        refine ⟨runId', request, ?_, heq⟩
        rw [Function.update_of_ne, hrequest]
        rintro rfl
        rw [hawaited] at hrequest
        cases hrequest
      rcases getElem?_pool_set hp hq with ⟨rfl, rfl⟩ | ⟨hq, -⟩
      · rcases (OrderedMap.mem_set _).mp hrequestId with rfl | hrequestId
        · exact ⟨runId, _, Function.update_self .., rfl, rfl⟩
        · exact hold hp hrequestId
      · exact hold hq hrequestId
    · intro runId' i hi
      obtain ⟨hrunId, thread', hproxies, hruns⟩ := h.running runId' i hi
      exact ⟨hrunId, thread', hproxies, hruns.set hp rfl⟩

lemma Inv.enter (h : Inv w) {stage : HandlerStage C} (hawaited : w.awaited runId = none)
    (hstage : (w.operator.runs runId).stage = some stage) : Inv (w.enter runId stage) := by
  unfold ThreadedOperator.enter
  cases hrequest : stage.request with
  | none => exact h
  | some input =>
    have hbind : (w.operator.runs runId).stage.bind HandlerStage.request = some input := by
      rw [hstage, Option.bind_some, hrequest]
    dsimp only
    split
    · exact h
    · rename_i thread hthread
      refine h.send hawaited hbind fun hdispose => ?_
      rw [hdispose, if_neg (by simp)] at hthread
      rw [WorkflowRun.proxy_of_stage hstage, hthread]

lemma Inv.proceed (h : Inv { w with operator }) (hawaited : w.awaited runId = none) :
    Inv (w.proceed runId operator) := by
  unfold ThreadedOperator.proceed
  cases hstage : (operator.runs runId).stage with
  | none => exact h
  | some stage => exact h.enter hawaited hstage

/-- The operator has made a step of a run, whose handler did not wait for a thread or has not gone on. -/
lemma Inv.withOperator (h : Inv w) (hoperator : operator.Inv)
    (hruns : ∀ runId', runId' ≠ runId → operator.runs runId' = w.operator.runs runId')
    (hproxy : ∀ i, (operator.runs runId).proxy = some i → (w.operator.runs runId).proxy = some i)
    (hawaited : w.awaited runId = none ∨ (operator.runs runId).stage = (w.operator.runs runId).stage ∧
      (operator.runs runId).proxy = (w.operator.runs runId).proxy) :
    Inv { w with operator } := by
  refine ⟨hoperator, h.pool, ?_, h.pending, ?_⟩
  · intro runId' request hrequest
    have hsame : (operator.runs runId').stage = (w.operator.runs runId').stage ∧
        (operator.runs runId').proxy = (w.operator.runs runId').proxy := by
      by_cases hrun : runId' = runId
      · subst hrun
        rcases hawaited with hnone | hsame
        · rw [hnone] at hrequest
          cases hrequest
        · exact hsame
      · rw [hruns runId' hrun]
        exact ⟨rfl, rfl⟩
    rw [hsame.1, hsame.2]
    exact h.awaited runId' request hrequest
  · intro runId' i hi
    by_cases hrun : runId' = runId
    · subst hrun
      exact h.running runId' i (hproxy i hi)
    · rw [hruns runId' hrun] at hi
      exact h.running runId' i hi

/-- Without a running handler no request of the run is outstanding. -/
lemma Inv.awaited_eq_none (h : Inv w) (hstage : (w.operator.runs runId).stage = none) :
    w.awaited runId = none := by
  by_contra hne
  obtain ⟨request, hrequest⟩ := Option.ne_none_iff_exists'.mp hne
  obtain ⟨hinput, -⟩ := h.awaited runId request hrequest
  rw [hstage] at hinput
  cases hinput

lemma Inv.arrive (h : Inv w) {r : WorkflowRun C} {effect : OperatorEffect C} {input : RunInput C}
    (hoperator : operator.Inv) (hinput : ∀ outcome, input ≠ .advance outcome)
    (hrun : (w.operator.runs runId).step runId input = some (r, effect))
    (hupdate : w.operator.update runId r effect = operator) : Inv (w.arrive runId operator) := by
  subst hupdate
  obtain ⟨hproxy, hstage⟩ := WorkflowRun.proxy_arrive hinput hrun
  have hnext (hawaited : w.awaited runId = none ∨ r.stage = (w.operator.runs runId).stage) :
      Inv { w with operator := w.operator.update runId r effect } := by
    refine h.withOperator hoperator (fun runId' hne => OperatorState.update_runs_of_ne _ _ _ hne) ?_ ?_
    · intro i hi
      rw [OperatorState.update_runs_self, hproxy] at hi
      exact hi
    · rw [OperatorState.update_runs_self]
      exact hawaited.imp_right fun hsame => ⟨hsame, hproxy⟩
  unfold ThreadedOperator.arrive
  split
  · rename_i hrunning
    exact hnext (Or.inr (hstage hrunning))
  · rename_i hidle
    have hnone := h.awaited_eq_none (by simpa using hidle)
    exact (hnext (Or.inl hnone)).proceed hnone

/-- The handler goes on without having waited for a thread. -/
lemma Inv.advance (h : Inv w) {outcome : Except JsError C} (hawaited : w.awaited runId = none)
    (hstep : w.operator.step (.advance runId (w.unpicked runId outcome)) = some operator) :
    Inv (w.proceed runId operator) := by
  obtain ⟨r, effect, hrun, rfl⟩ := OperatorState.stepRun_eq_some.mp (OperatorState.step_advance hstep)
  refine Inv.proceed (h.withOperator (h.operator.step hstep)
    (fun runId' hne => OperatorState.update_runs_of_ne _ _ _ hne) (fun i hi => ?_) (Or.inl hawaited)) hawaited
  rw [OperatorState.update_runs_self] at hi
  rcases WorkflowRun.proxy_advance (h.operator.runs runId) hrun hi with
    ⟨hproxy, -⟩ | ⟨hcreating, ⟨output, houtcome⟩, -⟩
  · exact hproxy
  · unfold unpicked at houtcome
    obtain ⟨stage, hstage, hrequest⟩ := Option.bind_eq_some_iff.mp hcreating
    have hstage' : stage = .creating := by
      cases stage with
      | creating => rfl
      | disposing state => cases state <;> cases hrequest
      | _ => cases hrequest
    rw [hstage, hstage'] at houtcome
    cases houtcome

section Answered

variable {request : ThreadRequest} {p p' : PooledThread C} {result result' : WorkerThreadResult C}
  {i : WorkflowInstance}

lemma answered_proxies_of_runId (h : i.runId ≠ runId) :
    (w.answered runId request p result).proxies i = w.proxies i := by
  have hne : i ≠ ⟨runId, (w.operator.runs runId).created⟩ := by
    rintro rfl
    exact h rfl
  unfold answered
  cases hinput : request.input with
  | createWorkflow =>
    cases result with
    | ok output => exact Function.update_of_ne hne _ _
    | error name message stack => rfl
  | _ => rfl

lemma answered_proxies_of_input (h : request.input ≠ .createWorkflow) :
    (w.answered runId request p result).proxies = w.proxies := by
  unfold answered
  cases hinput : request.input with
  | createWorkflow => exact absurd hinput h
  | _ => rfl

/-- A request that is not the one that is answered is still awaited. -/
lemma Inv.awaited_other (h : Inv w) (hawaited : w.awaited runId = some request) {thread requestId : ℕ}
    {q : PooledThread C} (hq : w.pool[thread]? = some q)
    (hrequestId : requestId ∈ q.client.requestIdToCompletion)
    (hother : ¬(thread = request.thread ∧ requestId = request.requestId)) :
    ∃ runId' request', Function.update w.awaited runId none runId' = some request' ∧
      request'.thread = thread ∧ request'.requestId = requestId := by
  obtain ⟨runId', request', hrequest', hthread, hid⟩ := h.pending thread q hq requestId hrequestId
  refine ⟨runId', request', ?_, hthread, hid⟩
  rw [Function.update_of_ne, hrequest']
  rintro rfl
  rw [hawaited, Option.some.injEq] at hrequest'
  subst hrequest'
  exact hother ⟨hthread.symm, hid.symm⟩

/-- The workflow that the run has a proxy for when its handler has gone on -/
lemma Inv.runsIn_answered (h : Inv w) (hawaited : w.awaited runId = some request)
    (hp : w.pool[request.thread]? = some p)
    (hhandle : p.thread.handleRequest request.input ⟨runId, (w.operator.runs runId).created⟩ result =
      (p'.thread, result'))
    {r : WorkflowRun C} {effect : OperatorEffect C}
    (hrun : (w.operator.runs runId).step runId (.advance (result'.outcome.mapError ThreadError.toJsError)) =
      some (r, effect)) (hi : r.proxy = some i) :
    i.runId = runId ∧ ∃ thread, (w.answered runId request p' result').proxies i = some thread ∧
      RunsIn (w.pool.set request.thread p') thread i := by
  obtain ⟨hstage, -, -⟩ := h.awaited runId request hawaited
  have hself : (w.pool.set request.thread p')[request.thread]? = some p' :=
    List.getElem?_set_self (List.getElem?_eq_some_iff.mp hp).1
  rcases WorkflowRun.proxy_advance (h.operator.runs runId) hrun hi with
    ⟨hproxy, hdispose, hcreate⟩ | ⟨hcreate, ⟨output, houtput⟩, rfl⟩
  · rw [hstage, ne_eq, Option.some.injEq] at hdispose hcreate
    obtain ⟨hrunId, thread, hproxies, hruns⟩ := h.running runId i hproxy
    refine ⟨hrunId, thread, ?_, ?_⟩
    · rw [← hproxies]
      exact congrFun (answered_proxies_of_input (p := p') hcreate) i
    · rcases WorkflowThread.handleRequest_cases hhandle with ⟨hthread, -⟩ | ⟨hinput, -⟩ | ⟨hinput, -⟩
      · exact hruns.set hp (by rw [hthread])
      · exact absurd hinput hcreate
      · exact absurd hinput hdispose
  · rw [hstage, Option.some.injEq] at hcreate
    rcases result' with output' | ⟨name, message, stack⟩
    · refine ⟨rfl, request.thread, ?_, p', hself, ?_⟩
      · simp [ThreadedOperator.answered, hcreate]
      · rcases WorkflowThread.handleRequest_cases hhandle with ⟨-, herror⟩ | ⟨-, -, hthread⟩ | ⟨hinput, -⟩
        · obtain ⟨name, message, stack, herror⟩ := herror (Or.inl hcreate)
          cases herror
        · rw [hthread]
          exact Function.update_self ..
        · rw [hcreate] at hinput
          cases hinput
    · cases houtput

/-- The response to a request of a run arrives, and its handler goes on. -/
lemma Inv.answered (h : Inv w) (hawaited : w.awaited runId = some request)
    (hp : w.pool[request.thread]? = some p)
    (hrespond : p.respond request.requestId request.input ⟨runId, (w.operator.runs runId).created⟩ result =
      .ok (p', result'))
    (hstep : w.operator.step (.advance runId (result'.outcome.mapError ThreadError.toJsError)) =
      some operator) :
    Inv { w.answered runId request p' result' with operator } := by
  obtain ⟨-, ⟨q, hq, hposted⟩, -⟩ := h.awaited runId request hawaited
  rw [hp, Option.some.injEq] at hq
  subst hq
  have hok := h.pool p (List.mem_of_getElem? hp)
  obtain ⟨hhandle, hmessage⟩ := PooledThread.respond_eq hrespond
  obtain ⟨-, -, -, hposted', -, herase⟩ := hok.client.onMessage_eq hmessage
  obtain ⟨r, effect, hrun, rfl⟩ := OperatorState.stepRun_eq_some.mp (OperatorState.step_advance hstep)
  refine ⟨h.operator.step hstep, forall_pool_set h.pool (hok.respond hposted hrespond), ?_, ?_, ?_⟩
  · intro runId' request' hrequest'
    have hne : runId' ≠ runId := by
      rintro rfl
      simp only [ThreadedOperator.answered, Function.update_self] at hrequest'
      cases hrequest'
    simp only [ThreadedOperator.answered, Function.update_of_ne hne] at hrequest'
    obtain ⟨hstage', hold, hdispose⟩ := h.awaited runId' request' hrequest'
    simp only [OperatorState.update_runs_of_ne _ _ _ hne]
    refine ⟨hstage', exists_pool_set hold hp fun hmem => hposted' ▸ hmem, fun hinput => ?_⟩
    obtain ⟨i, hi, hproxies⟩ := Option.bind_eq_some_iff.mp (hdispose hinput)
    rw [hi, Option.bind_some, answered_proxies_of_runId, hproxies]
    rw [(h.running runId' i hi).1]
    exact hne
  · intro thread q hq requestId hrequestId
    rcases getElem?_pool_set hp hq with ⟨rfl, rfl⟩ | ⟨hq, hthread⟩
    · rw [herase, AList.mem_erase] at hrequestId
      exact h.awaited_other hawaited hp hrequestId.2 fun heq => hrequestId.1 heq.2
    · exact h.awaited_other hawaited hq hrequestId fun heq => hthread heq.1
  · intro runId' i hi
    by_cases hrunId : runId' = runId
    · subst hrunId
      rw [OperatorState.update_runs_self] at hi
      exact h.runsIn_answered hawaited hp hhandle hrun hi
    · rw [OperatorState.update_runs_of_ne _ _ _ hrunId] at hi
      obtain ⟨hi', thread, hproxies, hruns⟩ := h.running runId' i hi
      have hne : i.runId ≠ runId := by
        rw [hi']
        exact hrunId
      exact ⟨hi', thread, by rw [← hproxies]; exact answered_proxies_of_runId (p := p') hne,
        hruns.set hp (WorkflowThread.handleRequest_workflowByRunId_of_ne hhandle hne)⟩

end Answered

lemma step_response {runId : String} {result : WorkerThreadResult C}
    (hstep : w.step (.response runId result) = some w') :
    ∃ request p p' result' operator, w.awaited runId = some request ∧ w.pool[request.thread]? = some p ∧
      p.respond request.requestId request.input ⟨runId, (w.operator.runs runId).created⟩ result =
        .ok (p', result') ∧
      w.operator.step (.advance runId (result'.outcome.mapError ThreadError.toJsError)) = some operator ∧
      (w.answered runId request p' result').proceed runId operator = w' := by
  simp only [step] at hstep
  split at hstep
  · cases hstep
  · rename_i request hawaited
    split at hstep
    · cases hstep
    · rename_i p hp
      split at hstep
      · cases hstep
      · rename_i p' result' hrespond
        obtain ⟨operator, hoperator, hw'⟩ := Option.map_eq_some_iff.mp hstep
        exact ⟨request, p, p', result', operator, hawaited, hp, hrespond, hoperator, hw'⟩

lemma step_advance {runId : String} {outcome : Except JsError C}
    (hstep : w.step (.operator (.advance runId outcome)) = some w') : w.awaited runId = none ∧
      ∃ operator, w.operator.step (.advance runId (w.unpicked runId outcome)) = some operator ∧
        w.proceed runId operator = w' := by
  simp only [step] at hstep
  split at hstep
  · cases hstep
  · rename_i hawaited
    exact ⟨hawaited, Option.map_eq_some_iff.mp hstep⟩

lemma Inv.step (h : Inv w) {input : ThreadedInput C} (hstep : w.step input = some w') : Inv w' := by
  match input with
  | .operator (.poll activation) =>
    obtain ⟨operator, hoperator, rfl⟩ := Option.map_eq_some_iff.mp hstep
    obtain ⟨r, effect, hrun, hupdate⟩ := OperatorState.stepRun_eq_some.mp (OperatorState.step_poll hoperator).2
    exact h.arrive (h.operator.step hoperator) (fun _ heq => by cases heq) hrun hupdate
  | .operator .shutdown =>
    obtain ⟨operator, hoperator, rfl⟩ := Option.map_eq_some_iff.mp hstep
    have hinv := h.operator.step hoperator
    obtain ⟨-, rfl⟩ := OperatorState.step_shutdown hoperator
    exact ⟨hinv, h.pool, h.awaited, h.pending, h.running⟩
  | .operator (.evict runId) =>
    obtain ⟨operator, hoperator, rfl⟩ := Option.map_eq_some_iff.mp hstep
    obtain ⟨r, effect, hrun, hupdate⟩ := OperatorState.stepRun_eq_some.mp (OperatorState.step_evict hoperator).2
    exact h.arrive (h.operator.step hoperator) (fun _ heq => by cases heq) hrun hupdate
  | .operator (.advance runId outcome) =>
    obtain ⟨hawaited, operator, hoperator, rfl⟩ := step_advance hstep
    exact h.advance hawaited hoperator
  | .response runId result =>
    obtain ⟨request, p, p', result', operator, hawaited, hp, hrespond, hoperator, rfl⟩ := step_response hstep
    exact (h.answered hawaited hp hrespond hoperator).proceed (Function.update_self ..)

/-! ### Runs without failures -/

/-- The isolate fails to create a workflow, or to dispose of one. -/
def failsRequest (w : ThreadedOperator C) : ThreadedInput C → Bool
  | .response runId (.error _ _ _) => (w.awaited runId).any fun request =>
      request.input == .createWorkflow || request.input == .disposeWorkflow
  | _ => false

/-- No request has been left unanswered. -/
def Quiescent (w : ThreadedOperator C) : Prop :=
  ∀ p ∈ w.pool, p.client.requestIdToCompletion.keys = []

/-- The counts are those of the workflows that are alive, and a workflow would be created where the
fewest are. -/
structure LeastLoaded (w : ThreadedOperator C) : Prop where
  count : w.Quiescent → ∀ p ∈ w.pool, p.client.activeWorkflowCount = p.thread.alive.length
  nonneg : w.Quiescent → ∀ p ∈ w.pool, 0 ≤ p.client.activeWorkflowCount
  fewest : w.Quiescent → ∀ thread, createWorkflow (w.pool.map PooledThread.client) = some thread →
    ∃ p, w.pool[thread]? = some p ∧ ∀ p' ∈ w.pool, p.thread.alive.length ≤ p'.thread.alive.length
  fewestLoad : ∀ thread, createWorkflow (w.pool.map PooledThread.client) = some thread →
    ∃ p, w.pool[thread]? = some p ∧ ∀ p' ∈ w.pool, p.load ≤ p'.load

def NoneFailed (w : ThreadedOperator C) : Prop := ∀ p ∈ w.pool, p.NoneFailed

/-- When no handler is running, no request is outstanding. -/
lemma Inv.quiescent (h : Inv w) (hquiescent : w.operator.Quiescent) : w.Quiescent := by
  intro p hp
  obtain ⟨thread, hthread⟩ := List.mem_iff_getElem?.mp hp
  refine List.eq_nil_iff_forall_not_mem.mpr fun requestId hrequestId => ?_
  obtain ⟨runId, request, hrequest, -⟩ := h.pending thread p hthread requestId (AList.mem_keys.mp hrequestId)
  have hstage : (w.operator.runs runId).stage = none := by
    have hitem := hquiescent runId
    unfold WorkflowRun.currentItem at hitem
    unfold WorkflowRun.stage
    cases hgroup : (w.operator.runs runId).group with
    | none => rfl
    | some g =>
      rw [hgroup] at hitem
      simpa using hitem
  rw [h.awaited_eq_none hstage] at hrequest
  cases hrequest

lemma Inv.leastLoaded (h : Inv w) (hnone : NoneFailed w) : LeastLoaded w := by
  have hload : ∀ p ∈ w.pool, p.client.activeWorkflowCount = p.load := fun p hp =>
    (h.pool p hp).activeWorkflowCount_eq_load (hnone p hp)
  have hcount (hquiescent : w.Quiescent) : ∀ p ∈ w.pool,
      p.client.activeWorkflowCount = p.thread.alive.length := fun p hp => by
    rw [hload p hp, (h.pool p hp).load_eq (hquiescent p hp)]
  have hpicked : ∀ thread, createWorkflow (w.pool.map PooledThread.client) = some thread →
      ∃ p, w.pool[thread]? = some p ∧ ∀ p' ∈ w.pool,
        p.client.activeWorkflowCount ≤ p'.client.activeWorkflowCount := by
    intro thread hthread
    obtain ⟨client, hclient, hleast⟩ := createWorkflow_least hthread
    rw [List.getElem?_map] at hclient
    obtain ⟨p, hp, rfl⟩ := Option.map_eq_some_iff.mp hclient
    exact ⟨p, hp, fun p' hp' => hleast _ (List.mem_map_of_mem hp')⟩
  refine ⟨hcount, fun hquiescent p hp => ?_, fun hquiescent thread hthread => ?_, fun thread hthread => ?_⟩
  · rw [hcount hquiescent p hp]
    exact Int.natCast_nonneg _
  · obtain ⟨p, hp, hleast⟩ := hpicked thread hthread
    refine ⟨p, hp, fun p' hp' => ?_⟩
    have hle := hleast p' hp'
    rw [hcount hquiescent p (List.mem_of_getElem? hp), hcount hquiescent p' hp'] at hle
    exact Int.ofNat_le.mp hle
  · obtain ⟨p, hp, hleast⟩ := hpicked thread hthread
    refine ⟨p, hp, fun p' hp' => ?_⟩
    rw [← hload p (List.mem_of_getElem? hp), ← hload p' hp']
    exact hleast p' hp'

lemma NoneFailed.proceed (hnone : NoneFailed w) (hok : ∀ p ∈ w.pool, p.Ok) :
    NoneFailed (w.proceed runId operator) := by
  unfold ThreadedOperator.proceed
  split
  · exact hnone
  · rename_i stage _
    unfold enter
    dsimp only
    split
    · exact hnone
    · rename_i input _
      split
      · exact hnone
      · rename_i thread _
        unfold ThreadedOperator.send
        split
        · exact hnone
        · rename_i p hp
          have hmem := List.mem_of_getElem? hp
          exact forall_pool_set hnone ((hnone p hmem).send (hok p hmem) input)

lemma NoneFailed.arrive (hnone : NoneFailed w) (hok : ∀ p ∈ w.pool, p.Ok) :
    NoneFailed (w.arrive runId operator) := by
  unfold ThreadedOperator.arrive
  split
  · exact hnone
  · exact hnone.proceed hok

/-- What the operator disposes of runs in the thread of its proxy, so that only the isolate can
fail to dispose of it. -/
lemma Inv.responds (h : Inv w) {request : ThreadRequest} {p p' : PooledThread C}
    {result result' : WorkerThreadResult C} (hawaited : w.awaited runId = some request)
    (hp : w.pool[request.thread]? = some p)
    (hrespond : p.respond request.requestId request.input ⟨runId, (w.operator.runs runId).created⟩ result =
      .ok (p', result'))
    (hfails : w.failsRequest (.response runId result) = false)
    (hinput : request.input = .createWorkflow ∨ request.input = .disposeWorkflow) :
    ∃ output, result' = .ok output := by
  obtain ⟨hhandle, -⟩ := PooledThread.respond_eq hrespond
  rcases result with output | ⟨name, message, stack⟩
  · rcases hinput with hcreate | hdispose
    · rw [hcreate] at hhandle
      exact ⟨output, (Prod.ext_iff.mp hhandle).2.symm⟩
    · obtain ⟨-, -, hproxy⟩ := h.awaited runId request hawaited
      obtain ⟨i, hi, hproxies⟩ := Option.bind_eq_some_iff.mp (hproxy hdispose)
      obtain ⟨hrunId, thread, hthread, q, hq, hruns⟩ := h.running runId i hi
      rw [hproxies, Option.some.injEq] at hthread
      subst hthread
      rw [hp, Option.some.injEq] at hq
      subst hq
      rw [hrunId] at hruns
      simp only [hdispose, WorkflowThread.handleRequest, hruns] at hhandle
      exact ⟨output, (Prod.ext_iff.mp hhandle).2.symm⟩
  · simp only [failsRequest, hawaited, Option.any_some, Bool.or_eq_false_iff, beq_eq_false_iff_ne] at hfails
    rcases hinput with hcreate | hdispose
    · exact absurd hcreate hfails.1
    · exact absurd hdispose hfails.2

lemma NoneFailed.step (hnone : NoneFailed w) (h : Inv w) {input : ThreadedInput C}
    (hfails : w.failsRequest input = false) (hstep : w.step input = some w') : NoneFailed w' := by
  match input with
  | .operator (.poll activation) =>
    obtain ⟨operator, -, rfl⟩ := Option.map_eq_some_iff.mp hstep
    exact hnone.arrive h.pool
  | .operator .shutdown =>
    obtain ⟨operator, -, rfl⟩ := Option.map_eq_some_iff.mp hstep
    exact hnone
  | .operator (.evict runId) =>
    obtain ⟨operator, -, rfl⟩ := Option.map_eq_some_iff.mp hstep
    exact hnone.arrive h.pool
  | .operator (.advance runId outcome) =>
    obtain ⟨-, operator, -, rfl⟩ := step_advance hstep
    exact hnone.proceed h.pool
  | .response runId result =>
    obtain ⟨request, p, p', result', operator, hawaited, hp, hrespond, hoperator, rfl⟩ := step_response hstep
    obtain ⟨-, ⟨q, hq, hposted⟩, -⟩ := h.awaited runId request hawaited
    rw [hp, Option.some.injEq] at hq
    subst hq
    have hmem := List.mem_of_getElem? hp
    have hp' := (hnone p hmem).respond (h.pool p hmem) hposted hrespond (h.responds hawaited hp hrespond hfails)
    exact NoneFailed.proceed (forall_pool_set hnone hp') (h.answered hawaited hp hrespond hoperator).pool

lemma noneFailed_initial (threadPoolSize : ℕ) : NoneFailed (initial threadPoolSize : ThreadedOperator C) := by
  intro p hp
  rw [List.eq_of_mem_replicate hp]
  exact ⟨rfl, rfl⟩

/-- As long as no thread fails to create or to dispose of a workflow, the counts are right whenever
no request is outstanding, whatever activations fail, and a workflow is created where the
fewest are. -/
theorem leastLoaded_of_none_fails (threadPoolSize : ℕ) (inputs : List (ThreadedInput C))
    (h : Transition.Meets step (fun w input => failsRequest w input = false) (initial threadPoolSize) inputs) :
    Transition.Throughout step LeastLoaded (initial threadPoolSize) inputs :=
  Transition.throughout_of_meets (I := fun w => Inv w ∧ NoneFailed w)
    (fun _ hw => hw.1.leastLoaded hw.2)
    (fun _ _ _ hw hfails hstep => ⟨hw.1.step hstep, hw.2.step hw.1 hfails hstep⟩)
    ⟨inv_initial threadPoolSize, noneFailed_initial threadPoolSize⟩ h

/-- When no handler is running, the counts are right if and only if in each thread as many disposals as
creations have failed. -/
theorem count_iff_failed (threadPoolSize : ℕ) (inputs : List (ThreadedInput C))
    (hrun : Transition.run step (initial threadPoolSize) inputs = some w)
    (hquiescent : w.operator.Quiescent) :
    (∀ p ∈ w.pool, p.client.activeWorkflowCount = p.thread.alive.length) ↔
      ∀ p ∈ w.pool, p.client.requests .createWorkflow WorkerThreadClient.failed =
        p.client.requests .disposeWorkflow WorkerThreadClient.failed := by
  have hinv := Transition.invariant (I := Inv) (fun _ _ _ h hstep => h.step hstep)
    (inv_initial threadPoolSize) hrun
  refine forall₂_congr fun p hp => ?_
  have hok := hinv.pool p hp
  rw [hok.activeWorkflowCount_eq, hok.load_eq (hinv.quiescent hquiescent p hp)]
  omega

/-- A run is polled for the first time, its attributes are decoded, and the response comes. -/
def requestCreation (runId : String) (result : WorkerThreadResult Unit) : List (ThreadedInput Unit) :=
  [.operator (.poll ⟨runId, some ⟨0, 0⟩,
      [.startWorkflow ⟨some "w", some "t", some 1, some "r", some 1, some ⟨0, 0⟩⟩]⟩),
    .operator (.advance runId (.ok ())), .response runId result]

def createdAndActivated (runId : String) : List (ThreadedInput Unit) :=
  requestCreation runId (.ok ()) ++ [.operator (.advance runId (.ok ())), .response runId (.ok ()),
    .operator (.advance runId (.ok ())), .response runId (.ok ())]

def failedCreation : List (ThreadedInput Unit) :=
  requestCreation "a" (.error "TypeError" "m" "s") ++ [.operator (.advance "a" (.ok ()))]

theorem count_iff_failed_creation :
    ∃ w : ThreadedOperator Unit, Transition.run step (initial 2) failedCreation = some w ∧
      ((∀ p ∈ w.pool, p.client.activeWorkflowCount = p.thread.alive.length) ↔
        ∀ p ∈ w.pool, p.client.requests .createWorkflow WorkerThreadClient.failed =
          p.client.requests .disposeWorkflow WorkerThreadClient.failed) := by
  refine ⟨_, rfl, count_iff_failed 2 failedCreation rfl fun runId => ?_⟩
  rcases eq_or_ne runId "a" with rfl | hne
  · rfl
  · -- Every step of the run updates the handler of this run only.
    have hupdate (runs : String → WorkflowRun Unit) (r : WorkflowRun Unit) :
        Function.update runs "a" r runId = runs runId := Function.update_of_ne hne r runs
    exact congrArg WorkflowRun.currentItem
      ((hupdate _ _).trans ((hupdate _ _).trans ((hupdate _ _).trans (hupdate _ _))))

theorem leastLoaded_of_none_fails_evicted :
    Transition.Throughout step LeastLoaded (initial 2 : ThreadedOperator Unit)
      (createdAndActivated "a" ++ createdAndActivated "b" ++
        [.operator (.poll ⟨"a", none, [.removeFromCache "cache full"]⟩), .response "a" (.ok ())]) :=
  leastLoaded_of_none_fails 2 _ (by decide)

/-- Two creations fail in the second thread. The next workflow would join the one of the first thread,
where the second has none. -/
theorem not_leastLoaded_failed :
    ∃ w : ThreadedOperator Unit, Transition.run step (initial 2)
        (requestCreation "a" (.error "TypeError" "m" "s") ++ createdAndActivated "b" ++
          requestCreation "c" (.error "TypeError" "m" "s")) = some w ∧
      (w.pool.map fun p => (p.client.activeWorkflowCount, p.thread.alive.length)) = [(1, 1), (2, 0)] ∧
      createWorkflow (w.pool.map PooledThread.client) = some 0 ∧ ¬LeastLoaded w := by
  refine ⟨_, rfl, rfl, rfl, fun h => ?_⟩
  have hquiescent := h.count (by unfold Quiescent; decide)
  revert hquiescent
  decide

end ThreadedOperator

end TemporalSdk
