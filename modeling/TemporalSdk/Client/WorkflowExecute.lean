import Mathlib.Logic.Function.Basic
import Mathlib.Logic.Relation
import TemporalSdk.Client.WorkflowResult
import TemporalSdk.Library.Transition

/-!
# Executing a workflow

`WorkflowClient.execute` starts a workflow and reads its result, as `start` and the `result` of the
handle do, while other clients start, terminate and reset runs under the same workflow id. The service
keeps the runs of each workflow id, with the last one first.
-/

namespace TemporalSdk

/-- A run, with its close event once it is closed -/
structure ServiceRun where
  runId : String
  close : Option EventAttributes

/-- The page tokens of the service: that of an empty page names the run that it belongs to. -/
structure RunTokens where
  token : String → PageToken
  runOf : PageToken → Option String
  runOf_token : ∀ runId, runOf (token runId) = some runId

namespace EventAttributes

instance : DecidablePred IsClose := fun event => by
  cases event <;> unfold IsClose <;> infer_instance

end EventAttributes

/-- What happens to the runs of a workflow id: a run is started, the open one closes, by itself or
because it is terminated or cancelled, or a new run is reset from one of the past. -/
inductive ServiceAction
  | start (runId : String)
  | close (event : EventAttributes)
  | reset (runId : String)

namespace ServiceRun

/-- A run id that no run of the list has -/
def Fresh (runs : List ServiceRun) (runId : String) : Prop :=
  runId ≠ "" ∧ ∀ run ∈ runs, run.runId ≠ runId

instance (runs : List ServiceRun) (runId : String) : Decidable (Fresh runs runId) :=
  inferInstanceAs (Decidable (_ ∧ _))

def find (runs : List ServiceRun) (runId : String) : Option ServiceRun :=
  runs.find? (·.runId = runId)

/-- A new run, which is possible while no run is open -/
def startRun (runs : List ServiceRun) (runId : String) : Option (List ServiceRun) :=
  match runs with
  | ⟨_, none⟩ :: _ => none
  | runs => if Fresh runs runId then some (⟨runId, none⟩ :: runs) else none

/-- The open run closes, and the run that follows it in its chain is started. -/
def closeRun (runs : List ServiceRun) (event : EventAttributes) : Option (List ServiceRun) :=
  match runs with
  | ⟨runId, none⟩ :: older =>
    let closed := ⟨runId, some event⟩ :: older
    if event.IsClose then
      match event.nextRunId with
      | none => some closed
      | some next => startRun closed next
    else none
  | _ => none

/-- The open run, if there is one, is terminated, and a new chain begins. -/
def resetRun (runs : List ServiceRun) (runId : String) : Option (List ServiceRun) :=
  startRun ((closeRun runs (.terminated (some "Workflow reset"))).getD runs) runId

end ServiceRun

def ServiceAction.apply (runs : List ServiceRun) : ServiceAction → Option (List ServiceRun)
  | .start runId => ServiceRun.startRun runs runId
  | .close event => ServiceRun.closeRun runs event
  | .reset runId => ServiceRun.resetRun runs runId

/-- The runs of each workflow id -/
abbrev WorkflowService := String → List ServiceRun

namespace WorkflowService

variable (service : WorkflowService) (tokens : RunTokens)

/-- The run that a request is about: that of its page token, the one that it names, or the current run
of the workflow id. -/
def requestedRun (request : HistoryRequest) : Option ServiceRun :=
  match request.nextPageToken with
  | some token => (tokens.runOf token).bind (ServiceRun.find (service request.workflowId))
  | none =>
    match runIdIfAny request.runId with
    | some runId => ServiceRun.find (service request.workflowId) runId
    | none => (service request.workflowId).head?

/-- `getWorkflowExecutionHistory` with a long poll for the close event: an empty page while the run is
open -/
def history (request : HistoryRequest) : Except RpcError HistoryResponse :=
  match service.requestedRun tokens request with
  | none => .error (.grpc notFoundCode none none)
  | some ⟨runId, none⟩ => .ok ⟨some [], some (tokens.token runId)⟩
  | some ⟨_, some event⟩ => .ok ⟨some [event], none⟩

end WorkflowService

/-- How a client starts a workflow and gets its result -/
inductive ResultEntry
  | execute
  | startAndResult
deriving DecidableEq

/-- The run id that `result` is called with, after the start of a run -/
def ResultEntry.runIdForResult : ResultEntry → String → Option String
  | execute, _ => none
  | startAndResult, runId => some runId

/-- The arguments of the call and the fields of the client that it uses -/
structure ExecuteCall where
  converter : LoadedDataConverter
  requestNamespace : String
  workflowId : String
  workflowType : String
  followRuns : Option Bool

inductive CallState
  | starting
  | reading (request : HistoryRequest)
  | done (outcome : Except ClientError JsValue)

/-- The service and a client, with the run that the client's start request has created -/
structure ExecuteState where
  service : WorkflowService
  startedRunId : Option String
  call : CallState

/-- An action of anybody else, the answer to the start request, or that to the next history request -/
inductive ExecuteInput
  | other (workflowId : String) (action : ServiceAction)
  | startRejected (error : RpcError)
  | started (runId : String)
  | poll

def alreadyExistsCode : ℕ := 6

namespace WorkflowClient

/-- What `_startWorkflowHandler` throws for an error of the service -/
def startError (workflowId workflowType : String) (err : RpcError) : ClientError :=
  let rethrown := rethrowGrpcError "Failed to start Workflow" workflowId none err
  match err with
  | .grpc code _ _ =>
    if code = alreadyExistsCode then
      .js (.workflowExecutionAlreadyStarted "Workflow execution already started" workflowId workflowType)
    else rethrown
  | .other => rethrown

end WorkflowClient

namespace ExecuteState

variable (tokens : RunTokens) (c : ExecuteCall) (entry : ResultEntry)

def initial : ExecuteState := ⟨fun _ => [], none, .starting⟩

/-- The next history request is answered. -/
def poll (s : ExecuteState) (request : HistoryRequest) : ExecuteState :=
  let turn := WorkflowClient.turn c.converter (c.followRuns.getD true)
    (s.startedRunId.bind entry.runIdForResult) request (s.service.history tokens request)
  match turn with
  | .next runId nextPageToken => { s with call := .reading { request with runId, nextPageToken } }
  | .done outcome => { s with call := .done outcome }

def step (s : ExecuteState) : ExecuteInput → Option ExecuteState
  | .other workflowId action =>
    match action.apply (s.service workflowId) with
    | none => none
    | some runs => some { s with service := Function.update s.service workflowId runs }
  | .startRejected err =>
    match s.call with
    | .starting =>
      some { s with call := .done (.error (WorkflowClient.startError c.workflowId c.workflowType err)) }
    | _ => none
  | .started runId =>
    match s.call, ServiceRun.startRun (s.service c.workflowId) runId with
    | .starting, some runs => some
        { service := Function.update s.service c.workflowId runs
          startedRunId := some runId
          call := .reading
            (WorkflowClient.historyRequest c.requestNamespace c.workflowId (entry.runIdForResult runId) none) }
    | _, _ => none
  | .poll =>
    match s.call with
    | .reading request => some (s.poll tokens c entry request)
    | _ => none

end ExecuteState

/-! ### Chains in the service -/

namespace ServiceRun

/-- The run `next` follows the closed run `runId` in its chain. -/
def Next (runs : List ServiceRun) (runId next : String) : Prop :=
  ∃ event, find runs runId = some ⟨runId, some event⟩ ∧ event.nextRunId = some next

/-- The runs of the chain that begins with `first` whose histories are read -/
def InChain (followRuns : Bool) (runs : List ServiceRun) (first runId : String) : Prop :=
  if followRuns then Relation.ReflTransGen (Next runs) first runId else runId = first

/-- The outcome of the chain that begins with a run: that of its last run, or of its first one if
runs are not followed. -/
inductive ChainOutcome (converter : LoadedDataConverter) (followRuns : Bool) (runs : List ServiceRun) :
    String → Except ClientError JsValue → Prop
  | last {runId : String} {event : EventAttributes} (hclose : find runs runId = some ⟨runId, some event⟩)
      (hlast : followRuns = true → event.nextRunId = none) :
      ChainOutcome converter followRuns runs runId (Run.outcome converter ⟨some runId, [], event⟩)
  | next {runId next : String} {outcome : Except ClientError JsValue} (hfollow : followRuns = true)
      (hnext : Next runs runId next) : ChainOutcome converter followRuns runs next outcome →
      ChainOutcome converter followRuns runs runId outcome

end ServiceRun

namespace ExecuteState

variable (tokens : RunTokens) (c : ExecuteCall) (entry : ResultEntry)

/-- The current run, at a request that names none, is one of the chain that the call has started. -/
def OwnChain (s : ExecuteState) : ExecuteInput → Prop
  | .poll => ∀ request, s.call = .reading request → request.runId = none → request.nextPageToken = none →
      ∀ first, s.startedRunId = some first → ∀ run, (s.service c.workflowId).head? = some run →
        ServiceRun.InChain (c.followRuns.getD true) (s.service c.workflowId) first run.runId
  | _ => True

/-- The call returns or throws the outcome of the chain that its own start request has created, or
throws what the start request was rejected with; and once that chain has an outcome, the answers to a
number of history requests settle the call with it. -/
structure Agrees (s : ExecuteState) : Prop where
  settled : ∀ outcome, s.call = .done outcome →
    (∃ first, s.startedRunId = some first ∧ ServiceRun.ChainOutcome c.converter (c.followRuns.getD true)
      (s.service c.workflowId) first outcome) ∨
    s.startedRunId = none ∧ ∃ err, outcome = .error (WorkflowClient.startError c.workflowId c.workflowType err)
  settles : ∀ request first outcome, s.call = .reading request → s.startedRunId = some first →
    s.OwnChain c .poll → ServiceRun.ChainOutcome c.converter (c.followRuns.getD true)
      (s.service c.workflowId) first outcome →
    ∃ polls t, Transition.run (step tokens c entry) s (List.replicate polls .poll) = some t ∧
      t.call = .done outcome

end ExecuteState

/-! ### What happens to the runs of a workflow id -/

namespace ServiceRun

variable {runs runs' runs'' : List ServiceRun} {run : ServiceRun} {runId next first : String}
  {event : EventAttributes} {converter : LoadedDataConverter} {followRuns : Bool}
  {outcome : Except ClientError JsValue}

lemma runId_of_find (h : find runs runId = some run) : run.runId = runId := by
  simpa using List.find?_some h

lemma find_cons_self (runId : String) (close : Option EventAttributes) (runs : List ServiceRun) :
    find (⟨runId, close⟩ :: runs) runId = some ⟨runId, close⟩ := by
  simp [find]

lemma find_cons_of_ne (h : run.runId ≠ runId) : find (run :: runs) runId = find runs runId := by
  simp [find, h]

/-- No run is lost, and a closed run stays as it is. -/
def Grows (runs runs' : List ServiceRun) : Prop :=
  ∀ runId run, find runs runId = some run →
    ∃ run', find runs' runId = some run' ∧ (run.close ≠ none → run' = run)

lemma Grows.refl (runs : List ServiceRun) : Grows runs runs := fun _ run h => ⟨run, h, fun _ => rfl⟩

lemma Grows.trans (h : Grows runs runs') (h' : Grows runs' runs'') : Grows runs runs'' := by
  intro runId run hrun
  obtain ⟨run', hrun', hclosed⟩ := h runId run hrun
  obtain ⟨run'', hrun'', hclosed'⟩ := h' runId run' hrun'
  refine ⟨run'', hrun'', fun hclose => ?_⟩
  have heq := hclosed hclose
  rw [hclosed' (by rw [heq]; exact hclose), heq]

/-- Closed runs have close events, and the runs that follow them exist. -/
structure WellFormed (runs : List ServiceRun) : Prop where
  named : ∀ run ∈ runs, run.runId ≠ ""
  isClose : ∀ runId event, find runs runId = some ⟨runId, some event⟩ → event.IsClose
  next : ∀ runId next, Next runs runId next → ∃ run, find runs next = some run

lemma wellFormed_nil : WellFormed [] where
  named run hrun := by cases hrun
  isClose runId event h := by cases h
  next runId next h := by
    obtain ⟨event, h, -⟩ := h
    cases h

lemma startRun_eq_some (h : startRun runs runId = some runs') :
    Fresh runs runId ∧ runs' = ⟨runId, none⟩ :: runs := by
  unfold startRun at h
  split at h
  · cases h
  · obtain ⟨hfresh, heq⟩ := Option.ite_none_right_eq_some.mp h
    cases heq
    exact ⟨hfresh, rfl⟩

lemma Fresh.find_eq_none (h : Fresh runs runId) : find runs runId = none := by
  rw [find, List.find?_eq_none]
  intro run hrun
  simpa using h.2 run hrun

lemma Fresh.ne_of_find (h : Fresh runs next) (hrun : find runs runId = some run) : next ≠ runId := by
  rintro rfl
  rw [h.find_eq_none] at hrun
  cases hrun

lemma Fresh.grows (h : Fresh runs runId) : Grows runs (⟨runId, none⟩ :: runs) := by
  intro runId' run hrun
  exact ⟨run, by rw [find_cons_of_ne (h.ne_of_find hrun)]; exact hrun, fun _ => rfl⟩

/-- The run that is added is open, and every other run is found as before. -/
lemma find_closed_of_cons {runId' : String}
    (hrun : find (⟨runId, none⟩ :: runs) runId' = some ⟨runId', some event⟩) :
    find runs runId' = some ⟨runId', some event⟩ := by
  by_cases heq : runId = runId'
  · subst heq
    rw [find_cons_self] at hrun
    cases hrun
  · rwa [find_cons_of_ne heq] at hrun

lemma WellFormed.fresh (hwf : WellFormed runs) (h : Fresh runs runId) :
    WellFormed (⟨runId, none⟩ :: runs) where
  named := List.forall_mem_cons.mpr ⟨h.1, hwf.named⟩
  isClose runId' event hrun := hwf.isClose runId' event (find_closed_of_cons hrun)
  next runId' next := by
    rintro ⟨event, hrun, hnext⟩
    obtain ⟨run, hfound⟩ := hwf.next runId' next ⟨event, find_closed_of_cons hrun, hnext⟩
    obtain ⟨run', hfound', -⟩ := h.grows next run hfound
    exact ⟨run', hfound'⟩

/-- The head of the runs closes. -/
lemma grows_closed (runId : String) (event : EventAttributes) (runs : List ServiceRun) :
    Grows (⟨runId, none⟩ :: runs) (⟨runId, some event⟩ :: runs) := by
  intro runId' run hrun
  by_cases heq : runId = runId'
  · subst heq
    rw [find_cons_self] at hrun
    cases hrun
    exact ⟨_, find_cons_self runId (some event) runs, fun hclose => absurd rfl hclose⟩
  · rw [find_cons_of_ne heq] at hrun
    exact ⟨run, by rw [find_cons_of_ne heq]; exact hrun, fun _ => rfl⟩

lemma closeRun_eq_some (h : closeRun runs event = some runs') : ∃ runId older,
    runs = ⟨runId, none⟩ :: older ∧ event.IsClose ∧
      (event.nextRunId = none ∧ runs' = ⟨runId, some event⟩ :: older ∨
        ∃ next, event.nextRunId = some next ∧ Fresh (⟨runId, some event⟩ :: older) next ∧
          runs' = ⟨next, none⟩ :: ⟨runId, some event⟩ :: older) := by
  unfold closeRun at h
  split at h
  · rename_i runId older
    obtain ⟨hclose, h⟩ := Option.ite_none_right_eq_some.mp h
    refine ⟨runId, older, rfl, hclose, ?_⟩
    cases hnext : event.nextRunId with
    | none =>
      rw [hnext] at h
      cases h
      exact Or.inl ⟨rfl, rfl⟩
    | some next =>
      rw [hnext] at h
      obtain ⟨hfresh, heq⟩ := startRun_eq_some h
      exact Or.inr ⟨next, rfl, hfresh, heq⟩
  · cases h

/-- The closed head of the runs, whose next run is `next`, if it has one -/
lemma WellFormed.closed {older : List ServiceRun} (hwf : WellFormed (⟨runId, none⟩ :: older))
    (hclose : event.IsClose) (added : List ServiceRun)
    (hadded : ∀ run ∈ added, run.close = none ∧ run.runId ≠ runId ∧ run.runId ≠ "")
    (hgrows : Grows (⟨runId, some event⟩ :: older) (added ++ ⟨runId, some event⟩ :: older))
    (hnext : ∀ next, event.nextRunId = some next →
      ∃ run, find (added ++ ⟨runId, some event⟩ :: older) next = some run) :
    WellFormed (added ++ ⟨runId, some event⟩ :: older) := by
  have hfind : ∀ runId' event', find (added ++ ⟨runId, some event⟩ :: older) runId' = some ⟨runId', some event'⟩ →
      runId' = runId ∧ event' = event ∨
        find (⟨runId, none⟩ :: older) runId' = some ⟨runId', some event'⟩ := by
    intro runId' event' h
    rw [find, List.find?_append] at h
    rcases Option.or_eq_some_iff.mp h with hleft | ⟨-, hright⟩
    · have hopen := (hadded _ (List.mem_of_find?_eq_some hleft)).1
      cases hopen
    · by_cases heq : runId = runId'
      · subst heq
        have hself := find_cons_self runId (some event) older
        rw [find, hright] at hself
        cases hself
        exact Or.inl ⟨rfl, rfl⟩
      · refine Or.inr ?_
        rw [find_cons_of_ne heq]
        rw [← find, find_cons_of_ne heq] at hright
        exact hright
  refine ⟨?_, ?_, ?_⟩
  · intro run hrun
    rcases List.mem_append.mp hrun with hnew | hold
    · exact (hadded run hnew).2.2
    · rcases List.mem_cons.mp hold with rfl | hold
      · exact hwf.named ⟨runId, none⟩ List.mem_cons_self
      · exact hwf.named run (List.mem_cons_of_mem _ hold)
  · intro runId' event' h
    rcases hfind runId' event' h with ⟨-, rfl⟩ | hold
    · exact hclose
    · exact hwf.isClose runId' event' hold
  · rintro runId' next ⟨event', h, hnext'⟩
    rcases hfind runId' event' h with ⟨-, rfl⟩ | hold
    · exact hnext next hnext'
    · obtain ⟨run, hrun⟩ := hwf.next runId' next ⟨event', hold, hnext'⟩
      obtain ⟨run', hrun', -⟩ := ((grows_closed runId event older).trans hgrows) next run hrun
      exact ⟨run', hrun'⟩

lemma WellFormed.closeRun (hwf : WellFormed runs) (h : closeRun runs event = some runs') :
    WellFormed runs' ∧ Grows runs runs' := by
  obtain ⟨runId, older, rfl, hclose, ⟨hnext, rfl⟩ | ⟨next, hnext, hfresh, rfl⟩⟩ := closeRun_eq_some h
  · refine ⟨hwf.closed hclose [] (by simp) (Grows.refl _) ?_, grows_closed runId event older⟩
    intro next hsome
    rw [hnext] at hsome
    cases hsome
  · refine ⟨hwf.closed hclose [⟨next, none⟩] ?_ hfresh.grows ?_,
      (grows_closed runId event older).trans hfresh.grows⟩
    · intro run hrun
      rw [List.mem_singleton] at hrun
      subst hrun
      exact ⟨rfl, Ne.symm (hfresh.2 _ List.mem_cons_self), hfresh.1⟩
    · intro next' hsome
      rw [hnext] at hsome
      cases hsome
      exact ⟨_, find_cons_self next none _⟩

lemma WellFormed.startRun (hwf : WellFormed runs) (h : startRun runs runId = some runs') :
    WellFormed runs' ∧ Grows runs runs' := by
  obtain ⟨hfresh, rfl⟩ := startRun_eq_some h
  exact ⟨hwf.fresh hfresh, hfresh.grows⟩

lemma WellFormed.apply (hwf : WellFormed runs) {action : ServiceAction} (h : action.apply runs = some runs') :
    WellFormed runs' ∧ Grows runs runs' := by
  cases action with
  | start runId => exact hwf.startRun h
  | close event => exact hwf.closeRun h
  | reset runId =>
    change resetRun runs runId = some runs' at h
    unfold resetRun at h
    cases hclose : ServiceRun.closeRun runs (.terminated (some "Workflow reset")) with
    | none =>
      rw [hclose] at h
      exact hwf.startRun h
    | some closed =>
      rw [hclose] at h
      obtain ⟨hwf', hgrows⟩ := hwf.closeRun hclose
      obtain ⟨hwf'', hgrows'⟩ := hwf'.startRun h
      exact ⟨hwf'', hgrows.trans hgrows'⟩

/-! ### Chains -/

lemma Grows.find_closed (h : Grows runs runs') (hrun : find runs runId = some ⟨runId, some event⟩) :
    find runs' runId = some ⟨runId, some event⟩ := by
  obtain ⟨run', hrun', hclosed⟩ := h runId _ hrun
  rw [hrun', hclosed (by simp)]

lemma Grows.follows (h : Grows runs runs') (hnext : Next runs runId next) : Next runs' runId next := by
  obtain ⟨event, hrun, hevent⟩ := hnext
  exact ⟨event, h.find_closed hrun, hevent⟩

lemma Grows.inChain (h : Grows runs runs') (hchain : InChain followRuns runs first runId) :
    InChain followRuns runs' first runId := by
  unfold InChain at hchain ⊢
  cases followRuns with
  | false => exact hchain
  | true =>
    have hpath : Relation.ReflTransGen (Next runs) first runId := hchain
    exact Relation.ReflTransGen.mono (fun _ _ => h.follows) _ _ hpath

lemma Grows.chainOutcome (h : Grows runs runs')
    (houtcome : ChainOutcome converter followRuns runs runId outcome) :
    ChainOutcome converter followRuns runs' runId outcome := by
  induction houtcome with
  | last hclose hlast => exact .last (h.find_closed hclose) hlast
  | next hfollow hnext _ ih => exact .next hfollow (h.follows hnext) ih

lemma InChain.refl (followRuns : Bool) (runs : List ServiceRun) (first : String) :
    InChain followRuns runs first first := by
  cases followRuns with
  | false => rfl
  | true => exact Relation.ReflTransGen.refl

lemma InChain.tail (h : InChain true runs first runId) (hnext : Next runs runId next) :
    InChain true runs first next := Relation.ReflTransGen.tail h hnext

/-- The runs of a chain exist. -/
lemma WellFormed.found (hwf : WellFormed runs) (hfirst : ∃ run, find runs first = some run)
    (h : InChain followRuns runs first runId) : ∃ run, find runs runId = some run := by
  cases followRuns with
  | false =>
    have heq : runId = first := h
    rw [heq]
    exact hfirst
  | true =>
    have hchain : Relation.ReflTransGen (Next runs) first runId := h
    cases hchain with
    | refl => exact hfirst
    | tail _ hnext => exact hwf.next _ _ hnext

lemma chainOutcome_of_inChain (h : InChain followRuns runs first runId)
    (houtcome : ChainOutcome converter followRuns runs runId outcome) :
    ChainOutcome converter followRuns runs first outcome := by
  cases followRuns with
  | false =>
    have heq : runId = first := h
    rwa [← heq]
  | true =>
    have hchain : Relation.ReflTransGen (Next runs) first runId := h
    clear h
    induction hchain using Relation.ReflTransGen.head_induction_on with
    | refl => exact houtcome
    | head hnext _ ih => exact .next rfl hnext ih

lemma Next.unique {next' : String} (h : Next runs runId next) (h' : Next runs runId next') : next = next' := by
  obtain ⟨event, hrun, hnext⟩ := h
  obtain ⟨event', hrun', hnext'⟩ := h'
  rw [hrun] at hrun'
  cases hrun'
  rw [hnext] at hnext'
  cases hnext'
  rfl

lemma ChainOutcome.eq_of_last (houtcome : ChainOutcome converter followRuns runs runId outcome)
    (hclose : find runs runId = some ⟨runId, some event⟩) (hlast : event.nextRunId = none) :
    outcome = Run.outcome converter ⟨some runId, [], event⟩ := by
  cases houtcome with
  | last hclose' _ =>
    rw [hclose] at hclose'
    cases hclose'
    rfl
  | next _ hnext _ =>
    obtain ⟨event', hrun, hsome⟩ := hnext
    rw [hclose] at hrun
    cases hrun
    rw [hlast] at hsome
    cases hsome

/-- The outcome of a chain is that of each of its parts. -/
lemma ChainOutcome.of_inChain (houtcome : ChainOutcome converter followRuns runs first outcome)
    (h : InChain followRuns runs first runId) : ChainOutcome converter followRuns runs runId outcome := by
  cases followRuns with
  | false =>
    have heq : runId = first := h
    rwa [heq]
  | true =>
    have hchain : Relation.ReflTransGen (Next runs) first runId := h
    clear h
    induction hchain with
    | refl => exact houtcome
    | tail _ hnext ih =>
      cases ih with
      | last hclose hlast =>
        obtain ⟨event, hrun, hsome⟩ := hnext
        rw [hclose] at hrun
        cases hrun
        rw [hlast rfl] at hsome
        cases hsome
      | next _ hnext' houtcome' => rwa [hnext.unique hnext']

end ServiceRun

/-! ### The calls -/

namespace ExecuteState

variable {tokens : RunTokens} {c : ExecuteCall} {entry : ResultEntry} {s t : ExecuteState}
  {request : HistoryRequest} {first runId : String} {outcome : Except ClientError JsValue}

/-- The request names a run, by its id or by the page token. -/
def Names (tokens : RunTokens) (request : HistoryRequest) (runId : String) : Prop :=
  request.nextPageToken = none ∧ request.runId = some runId ∧ runId ≠ "" ∨
    request.nextPageToken = some (tokens.token runId)

lemma requestedRun_of_names (h : Names tokens request runId) :
    s.service.requestedRun tokens request = ServiceRun.find (s.service request.workflowId) runId := by
  unfold WorkflowService.requestedRun
  rcases h with ⟨htoken, hrunId, hne⟩ | htoken
  · have hsome : runIdIfAny (some runId) = some runId := by
      unfold runIdIfAny
      split
      · rename_i heq
        cases heq
      · rename_i heq
        cases heq
        exact absurd rfl hne
      · rename_i heq
        exact heq.symm
    simp only [htoken, hrunId, hsome]
  · simp only [htoken, tokens.runOf_token, Option.bind_some]

/-- The request is about a run of the chain that the call has started. -/
structure Reads (tokens : RunTokens) (c : ExecuteCall) (s : ExecuteState) (request : HistoryRequest)
    (first runId : String) : Prop where
  workflowId : request.workflowId = c.workflowId
  requested : s.service.requestedRun tokens request = ServiceRun.find (s.service c.workflowId) runId
  found : ∃ run, ServiceRun.find (s.service c.workflowId) runId = some run
  inChain : ServiceRun.InChain (c.followRuns.getD true) (s.service c.workflowId) first runId

/-- While it reads, the call has asked for a run of its chain, or it is `execute` and has not yet been
answered. -/
structure Reading (tokens : RunTokens) (c : ExecuteCall) (entry : ResultEntry) (s : ExecuteState)
    (request : HistoryRequest) (first : String) : Prop where
  workflowId : request.workflowId = c.workflowId
  found : ∃ run, ServiceRun.find (s.service c.workflowId) first = some run
  names : entry = .execute ∧ request.runId = none ∧ request.nextPageToken = none ∨
    ∃ runId, ServiceRun.InChain (c.followRuns.getD true) (s.service c.workflowId) first runId ∧
      Names tokens request runId

def Phase (tokens : RunTokens) (c : ExecuteCall) (entry : ResultEntry) (s : ExecuteState) : Prop :=
  match s.call with
  | .starting => s.startedRunId = none
  | .reading request => ∃ first, s.startedRunId = some first ∧ Reading tokens c entry s request first
  | .done outcome =>
    (∃ first, s.startedRunId = some first ∧ ServiceRun.ChainOutcome c.converter (c.followRuns.getD true)
      (s.service c.workflowId) first outcome) ∨
    s.startedRunId = none ∧ ∃ err, outcome = .error (WorkflowClient.startError c.workflowId c.workflowType err)

structure Inv (tokens : RunTokens) (c : ExecuteCall) (entry : ResultEntry) (s : ExecuteState) : Prop where
  wellFormed : ∀ workflowId, ServiceRun.WellFormed (s.service workflowId)
  phase : Phase tokens c entry s

lemma inv_initial : Inv tokens c entry initial := ⟨fun _ => ServiceRun.wellFormed_nil, rfl⟩

/-- The first request of `execute` is about the current run, and each other one is about the run that
it names. -/
lemma Reading.reads (h : Reading tokens c entry s request first)
    (hwf : ServiceRun.WellFormed (s.service c.workflowId)) (hcall : s.call = .reading request)
    (hstarted : s.startedRunId = some first) (hown : s.OwnChain c .poll) :
    ∃ runId, Reads tokens c s request first runId := by
  rcases h.names with ⟨-, hrunId, htoken⟩ | ⟨runId, hchain, hnames⟩
  · obtain ⟨run, hrun⟩ := h.found
    cases hruns : s.service c.workflowId with
    | nil =>
      rw [hruns] at hrun
      cases hrun
    | cons current older =>
      have hhead : (s.service c.workflowId).head? = some current := by rw [hruns, List.head?_cons]
      have hcurrent : ServiceRun.find (s.service c.workflowId) current.runId = some current := by
        rw [hruns]
        exact ServiceRun.find_cons_self current.runId current.close older
      refine ⟨current.runId, h.workflowId, ?_, ⟨current, hcurrent⟩,
        hown request hcall hrunId htoken first hstarted current hhead⟩
      have hnone : runIdIfAny none = none := rfl
      simp only [WorkflowService.requestedRun, htoken, hrunId, hnone, h.workflowId, hhead, hcurrent]
  · refine ⟨runId, h.workflowId, ?_, hwf.found h.found hchain, hchain⟩
    rw [requestedRun_of_names hnames, h.workflowId]

/-- What an answer does: the call goes on with the same run, or with the next one of the chain, or it
is settled with the outcome of the chain. -/
lemma Reads.poll (entry : ResultEntry) (h : Reads tokens c s request first runId)
    (hwf : ServiceRun.WellFormed (s.service c.workflowId)) :
    (ServiceRun.find (s.service c.workflowId) runId = some ⟨runId, none⟩ ∧
      ∃ request', s.poll tokens c entry request = { s with call := .reading request' } ∧
        Reads tokens c s request' first runId ∧ Names tokens request' runId) ∨
    (∃ next, c.followRuns.getD true = true ∧ ServiceRun.Next (s.service c.workflowId) runId next ∧
      ∃ request', s.poll tokens c entry request = { s with call := .reading request' } ∧
        Reads tokens c s request' first next ∧ Names tokens request' next) ∨
    ∃ event, ServiceRun.find (s.service c.workflowId) runId = some ⟨runId, some event⟩ ∧
      (c.followRuns.getD true = true → event.nextRunId = none) ∧
      s.poll tokens c entry request =
        { s with call := .done (Run.outcome c.converter ⟨some runId, [], event⟩) } := by
  obtain ⟨⟨runId', close⟩, hrun⟩ := h.found
  obtain rfl : runId' = runId := ServiceRun.runId_of_find hrun
  have hrequested := h.requested
  rw [hrun] at hrequested
  cases close with
  | none =>
    refine Or.inl ⟨hrun, { request with nextPageToken := some (tokens.token runId') }, ?_, ?_, Or.inr rfl⟩
    · simp only [ExecuteState.poll, WorkflowService.history, hrequested, WorkflowClient.turn]
    · refine ⟨h.workflowId, ?_, h.found, h.inChain⟩
      rw [requestedRun_of_names (Or.inr rfl), h.workflowId]
  | some event =>
    have hclose := hwf.isClose runId' event hrun
    by_cases hlast : c.followRuns.getD true = true → event.nextRunId = none
    · refine Or.inr (Or.inr ⟨event, hrun, hlast, ?_⟩)
      have hdone : WorkflowClient.handleEvent c.converter (c.followRuns.getD true)
          (.next request.runId request.nextPageToken) (Run.close ⟨some runId', [], event⟩) =
          .done (Run.outcome c.converter ⟨some runId', [], event⟩) :=
        WorkflowClient.handleEvent_done (.next request.runId request.nextPageToken) hclose hlast
      simp only at hdone
      simp only [ExecuteState.poll, WorkflowService.history, hrequested, WorkflowClient.turn, hdone]
    · rw [Classical.not_imp] at hlast
      obtain ⟨hfollow, hsome⟩ := hlast
      obtain ⟨next, hnext⟩ := Option.ne_none_iff_exists'.mp hsome
      have hchain : ServiceRun.Next (s.service c.workflowId) runId' next := ⟨event, hrun, hnext⟩
      obtain ⟨run, hfound⟩ := hwf.next runId' next hchain
      have hne : next ≠ "" := by
        rw [← ServiceRun.runId_of_find hfound]
        exact hwf.named run (List.mem_of_find?_eq_some hfound)
      have hnames : Names tokens { request with runId := some next, nextPageToken := none } next :=
        Or.inl ⟨rfl, rfl, hne⟩
      have hinChain := h.inChain
      refine Or.inr (Or.inl ⟨next, hfollow, hchain,
        { request with runId := some next, nextPageToken := none }, ?_, ⟨h.workflowId, ?_, ⟨run, hfound⟩, ?_⟩, hnames⟩)
      · have hturn : WorkflowClient.handleEvent c.converter true
            (.next request.runId request.nextPageToken) event = .next (some next) none :=
          WorkflowClient.handleEvent_next (.next request.runId request.nextPageToken) hnext
        simp only [ExecuteState.poll, WorkflowService.history, hrequested, WorkflowClient.turn, hfollow, hturn]
      · rw [requestedRun_of_names hnames, h.workflowId]
      · rw [hfollow] at hinChain ⊢
        exact hinChain.tail hchain

lemma step_poll (hcall : s.call = .reading request) :
    step tokens c entry s .poll = some (s.poll tokens c entry request) := by
  simp only [step, hcall]

/-- Once the chain has an outcome, each answer is that of a closed run, and the last one settles
the call. -/
lemma Reads.exists_polls {runs : List ServiceRun}
    (houtcome : ServiceRun.ChainOutcome c.converter (c.followRuns.getD true) runs runId outcome)
    (hruns : s.service c.workflowId = runs) (hwf : ServiceRun.WellFormed runs)
    (hcall : s.call = .reading request) (h : Reads tokens c s request first runId) :
    ∃ polls t, Transition.run (step tokens c entry) s (List.replicate polls .poll) = some t ∧
      t.call = .done outcome := by
  induction houtcome generalizing s request with
  | last hclose hlast =>
    have hwf' := hwf
    rw [← hruns] at hwf'
    rcases h.poll entry hwf' with ⟨hopen, -⟩ | ⟨next, hfollow, ⟨event, hrun, hnext⟩, -⟩ |
      ⟨event, hrun, -, hdone⟩
    · rw [hruns, hclose] at hopen
      cases hopen
    · rw [hruns, hclose] at hrun
      cases hrun
      rw [hlast hfollow] at hnext
      cases hnext
    · rw [hruns, hclose] at hrun
      cases hrun
      exact ⟨1, _, Transition.run_cons_eq_some.mpr ⟨_, step_poll hcall, rfl⟩, by rw [hdone]⟩
  | next hfollow hnext _ ih =>
    have hwf' := hwf
    rw [← hruns] at hwf'
    rcases h.poll entry hwf' with ⟨hopen, -⟩ | ⟨next, -, hnext', request', hpoll, hreads, -⟩ |
      ⟨event, hrun, hlast, -⟩
    · obtain ⟨event, hrun, -⟩ := hnext
      rw [hruns, hrun] at hopen
      cases hopen
    · rw [hruns] at hnext'
      rw [hnext'.unique hnext] at hreads
      obtain ⟨polls, t, hrun, hdone⟩ := ih (s := { s with call := .reading request' })
        hruns rfl ⟨hreads.workflowId, hreads.requested, hreads.found, hreads.inChain⟩
      refine ⟨polls + 1, t, Transition.run_cons_eq_some.mpr ⟨_, step_poll hcall, ?_⟩, hdone⟩
      rw [hpoll]
      exact hrun
    · obtain ⟨event', hrun', hnext⟩ := hnext
      rw [hruns, hrun'] at hrun
      cases hrun
      rw [hlast hfollow] at hnext
      cases hnext

lemma Inv.agrees (h : Inv tokens c entry s) : Agrees tokens c entry s where
  settled outcome hcall := by
    have hphase := h.phase
    unfold Phase at hphase
    rw [hcall] at hphase
    exact hphase
  settles request first outcome hcall hstarted hown houtcome := by
    have hphase := h.phase
    unfold Phase at hphase
    rw [hcall] at hphase
    obtain ⟨first', hstarted', hreading⟩ := hphase
    rw [hstarted] at hstarted'
    cases hstarted'
    obtain ⟨runId, hreads⟩ := hreading.reads (h.wellFormed _) hcall hstarted hown
    exact hreads.exists_polls (houtcome.of_inChain hreads.inChain) rfl (h.wellFormed _) hcall

/-- What others do to the runs leaves the call where it is. -/
lemma Inv.grows (h : Inv tokens c entry s) {service : WorkflowService}
    (hservice : ∀ workflowId, ServiceRun.WellFormed (service workflowId) ∧
      ServiceRun.Grows (s.service workflowId) (service workflowId)) :
    Inv tokens c entry { s with service } := by
  refine ⟨fun workflowId => (hservice workflowId).1, ?_⟩
  have hgrows := (hservice c.workflowId).2
  have hphase := h.phase
  unfold Phase at hphase ⊢
  cases hcall : s.call with
  | starting =>
    rw [hcall] at hphase
    exact hphase
  | reading request =>
    rw [hcall] at hphase
    obtain ⟨first, hstarted, hworkflowId, ⟨run, hrun⟩, hnames⟩ := hphase
    obtain ⟨run', hrun', -⟩ := hgrows first run hrun
    refine ⟨first, hstarted, hworkflowId, ⟨run', hrun'⟩, hnames.imp_right ?_⟩
    rintro ⟨runId, hchain, hnames⟩
    exact ⟨runId, hgrows.inChain hchain, hnames⟩
  | done outcome =>
    rw [hcall] at hphase
    refine hphase.imp_left ?_
    rintro ⟨first, hstarted, houtcome⟩
    exact ⟨first, hstarted, hgrows.chainOutcome houtcome⟩

/-- The runs of one workflow id change. -/
lemma Inv.update (h : Inv tokens c entry s) {workflowId : String} {runs : List ServiceRun}
    (hruns : ServiceRun.WellFormed runs ∧ ServiceRun.Grows (s.service workflowId) runs) :
    Inv tokens c entry { s with service := Function.update s.service workflowId runs } := by
  refine h.grows fun workflowId' => ?_
  by_cases heq : workflowId' = workflowId
  · subst heq
    rw [Function.update_self]
    exact hruns
  · rw [Function.update_of_ne heq]
    exact ⟨h.wellFormed workflowId', ServiceRun.Grows.refl _⟩

/-- The start request is answered with the id of a new run, which is then asked for, or not named. -/
lemma Inv.started (h : Inv tokens c entry s) {runs : List ServiceRun}
    (hstart : ServiceRun.startRun (s.service c.workflowId) runId = some runs) :
    Inv tokens c entry
      { service := Function.update s.service c.workflowId runs
        startedRunId := some runId
        call := .reading
          (WorkflowClient.historyRequest c.requestNamespace c.workflowId (entry.runIdForResult runId) none) } := by
  have hwf := (h.update ((h.wellFormed _).startRun hstart)).wellFormed
  obtain ⟨hfresh, rfl⟩ := ServiceRun.startRun_eq_some hstart
  refine ⟨hwf, runId, rfl, rfl, ⟨⟨runId, none⟩, ?_⟩, ?_⟩
  · simp only [Function.update_self]
    exact ServiceRun.find_cons_self _ _ _
  · cases entry with
    | execute => exact Or.inl ⟨rfl, rfl, rfl⟩
    | startAndResult => exact Or.inr ⟨runId, ServiceRun.InChain.refl _ _ _, Or.inl ⟨rfl, rfl, hfresh.1⟩⟩

lemma Inv.poll (h : Inv tokens c entry s) (hcall : s.call = .reading request) (hown : s.OwnChain c .poll) :
    Inv tokens c entry (s.poll tokens c entry request) := by
  have hphase := h.phase
  unfold Phase at hphase
  rw [hcall] at hphase
  obtain ⟨first, hstarted, hreading⟩ := hphase
  obtain ⟨runId, hreads⟩ := hreading.reads (h.wellFormed _) hcall hstarted hown
  rcases hreads.poll entry (h.wellFormed _) with ⟨-, request', hpoll, hreads', hnames⟩ |
    ⟨next, -, -, request', hpoll, hreads', hnames⟩ | ⟨event, hrun, hlast, hpoll⟩
  · rw [hpoll]
    exact ⟨h.wellFormed, first, hstarted, hreads'.workflowId, hreading.found, Or.inr ⟨_, hreads'.inChain, hnames⟩⟩
  · rw [hpoll]
    exact ⟨h.wellFormed, first, hstarted, hreads'.workflowId, hreading.found, Or.inr ⟨_, hreads'.inChain, hnames⟩⟩
  · rw [hpoll]
    exact ⟨h.wellFormed, Or.inl ⟨first, hstarted,
      ServiceRun.chainOutcome_of_inChain hreads.inChain (.last hrun hlast)⟩⟩

lemma Inv.step {input : ExecuteInput} (h : Inv tokens c entry s) (hown : s.OwnChain c input)
    (hstep : step tokens c entry s input = some t) : Inv tokens c entry t := by
  cases input with
  | other workflowId action =>
    simp only [ExecuteState.step] at hstep
    split at hstep
    · cases hstep
    · rename_i runs hruns
      cases hstep
      exact h.update ((h.wellFormed workflowId).apply hruns)
  | startRejected err =>
    simp only [ExecuteState.step] at hstep
    split at hstep
    · rename_i hcall
      have hphase := h.phase
      unfold Phase at hphase
      rw [hcall] at hphase
      cases hstep
      exact ⟨h.wellFormed, Or.inr ⟨hphase, err, rfl⟩⟩
    · cases hstep
  | started runId =>
    simp only [ExecuteState.step] at hstep
    split at hstep
    · rename_i runs hcall hruns
      cases hstep
      exact h.started hruns
    · cases hstep
  | poll =>
    simp only [ExecuteState.step] at hstep
    split at hstep
    · rename_i request hcall
      cases hstep
      exact h.poll hcall hown
    · cases hstep

/-- The handle of `start` names the run in each request. -/
lemma ownChain_startAndResult {inputs : List ExecuteInput} (h : Inv tokens c .startAndResult s) :
    Transition.Meets (ExecuteState.step tokens c .startAndResult) (OwnChain c) s inputs := by
  induction inputs generalizing s with
  | nil => trivial
  | cons input inputs ih =>
    have hown : OwnChain c s input := by
      cases input with
      | poll =>
        intro request hcall hrunId htoken first hstarted run hrun
        have hphase := h.phase
        unfold Phase at hphase
        rw [hcall] at hphase
        obtain ⟨first', -, hreading⟩ := hphase
        rcases hreading.names with ⟨hentry, -⟩ | ⟨runId, -, ⟨-, hsome, -⟩ | hsome⟩
        · cases hentry
        · rw [hrunId] at hsome
          cases hsome
        · rw [htoken] at hsome
          cases hsome
      | other workflowId action => trivial
      | startRejected err => trivial
      | started runId => trivial
    exact ⟨hown, fun t hstep => ih (h.step hown hstep)⟩

/-- `start` and the `result` of its handle agree with the chain that was started, whatever the others
do; and `execute` does so in every run in which the first history requests find the current run in
that chain. -/
theorem execute_agrees (tokens : RunTokens) (c : ExecuteCall) (inputs : List ExecuteInput) :
    (Transition.Meets (ExecuteState.step tokens c .execute) (OwnChain c) initial inputs →
      Transition.Throughout (ExecuteState.step tokens c .execute) (Agrees tokens c .execute) initial inputs) ∧
    Transition.Throughout (ExecuteState.step tokens c .startAndResult) (Agrees tokens c .startAndResult)
      initial inputs :=
  ⟨Transition.throughout_of_meets (I := Inv tokens c .execute) (fun _ => Inv.agrees)
      (fun _ _ _ hs hown hstep => hs.step hown hstep) inv_initial,
    Transition.throughout_of_meets (I := Inv tokens c .startAndResult) (fun _ => Inv.agrees)
      (fun _ _ _ hs hown hstep => hs.step hown hstep) inv_initial (ownChain_startAndResult inv_initial)⟩

/-- The token of an empty page is the run id. -/
def utf8Tokens : RunTokens where
  token runId := runId.toByteArray.data.toList
  runOf token := String.fromUTF8? ⟨token.toArray⟩
  runOf_token runId := by
    have hvalid : runId.toByteArray.IsValidUTF8 := runId.isValidUTF8
    simp only [Array.toArray_toList, String.fromUTF8?, Option.dite_none_right_eq_some]
    exact ⟨hvalid, rfl⟩

def greetCall : ExecuteCall :=
  ⟨⟨⟨false, FailureConverter.jsonConverter⟩, []⟩, "default", "greeting", "greet", none⟩

def greeted (text : String) : EventAttributes :=
  .completed none (some ⟨some [FailureConverter.jsonPayload text]⟩)

/-- The first answer is a page of the run that `execute` has started, and another run is started once
that run is closed. -/
theorem execute_agrees_page :
    Transition.Throughout (ExecuteState.step utf8Tokens greetCall .execute)
      (Agrees utf8Tokens greetCall .execute) initial
      [.started "first", .poll, .other "greeting" (.close (greeted "\"hello\"")),
        .other "greeting" (.start "second"), .poll] := by
  refine (execute_agrees utf8Tokens greetCall _).1 ?_
  refine ⟨trivial, fun s hs => ⟨?_, fun t ht => ⟨trivial, fun u hu => ⟨trivial, fun v hv => ⟨?_, ?_⟩⟩⟩⟩⟩
  · cases hs
    intro request _ _ _ first hfirst run hrun
    cases hfirst
    cases hrun
    exact ServiceRun.InChain.refl _ _ _
  · cases hs
    cases ht
    cases hu
    cases hv
    intro request hcall _ htoken
    cases hcall
    cases htoken
  · exact fun _ _ => trivial

/-- The run of `execute` is terminated and another run completes before the first history request:
`execute` returns the result of the other run, where the handle of `start` throws. -/
theorem execute_counterexample :
    ∃ s t, Transition.run (ExecuteState.step utf8Tokens greetCall .execute) initial
        [.started "first", .other "greeting" (.close (.terminated (some "stop"))),
          .other "greeting" (.start "second"), .other "greeting" (.close (greeted "\"hello\"")), .poll] =
        some s ∧
      Transition.run (ExecuteState.step utf8Tokens greetCall .startAndResult) initial
        [.started "first", .other "greeting" (.close (.terminated (some "stop"))),
          .other "greeting" (.start "second"), .other "greeting" (.close (greeted "\"hello\"")), .poll] =
        some t ∧
      s.call = .done (.ok (.string "hello")) ∧
      t.call = .done (.error (.workflowFailed "stop"
        (.temporal .terminatedFailure "stop" (some "") none .undefined) .nonRetryableFailure)) ∧
      ¬Agrees utf8Tokens greetCall .execute s := by
  refine ⟨_, _, rfl, rfl, rfl, rfl, fun h => ?_⟩
  rcases h.settled _ rfl with ⟨first, hfirst, houtcome⟩ | ⟨hnone, -⟩
  · cases hfirst
    have hterminated := houtcome.eq_of_last rfl rfl
    cases hterminated
  · cases hnone

end ExecuteState

end TemporalSdk
