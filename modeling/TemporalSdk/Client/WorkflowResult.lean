import TemporalSdk.Common.FailureRoundTrip

/-!
# The result of a workflow

`WorkflowClient.result` reads the close event of a run from the history service, which answers a
long poll with an empty page until the run is closed, and goes on with the next run of the chain.
The service is a function from requests to responses.
-/

namespace TemporalSdk

abbrev PageToken := List UInt8

/-- `GetWorkflowExecutionHistoryRequest` -/
structure HistoryRequest where
  requestNamespace : String
  workflowId : String
  runId : Option String
  skipArchival : Bool
  waitNewEvent : Bool
  closeEventFilter : Bool
  nextPageToken : Option PageToken
deriving DecidableEq

/-- The attributes of a close event; `other` are the attributes of all other events. -/
inductive EventAttributes
  | completed (newExecutionRunId : Option String) (result : Option Payloads)
  | failed (newExecutionRunId : Option String) (failure : Option Failure)
      (retryState : Option RetryState)
  | canceled (details : Option Payloads)
  | terminated (reason : Option String)
  | timedOut (newExecutionRunId : Option String) (retryState : Option RetryState)
  | continuedAsNew (newExecutionRunId : Option String)
  | other

structure HistoryResponse where
  events : Option (List EventAttributes)
  nextPageToken : Option PageToken

/-- Errors of the gRPC client; `namespaceNotFound` is a namespace in the details of the status. -/
inductive RpcError
  | grpc (code : ℕ) (details : Option String) (namespaceNotFound : Option String)
  | other

inductive ClientError
  | namespaceNotFound (missing : String)
  | workflowNotFound (message workflowId : String) (runId : Option String)
  | serviceError (message : String)
  | workflowFailed (message : String) (cause : ErrorValue) (retryState : RetryState)
  | workflowContinuedAsNew (message newExecutionRunId : String)
  | js (error : JsError)

abbrev HistoryService := HistoryRequest → Except RpcError HistoryResponse

def notFoundCode : ℕ := 5

def rethrowGrpcError (fallbackMessage workflowId : String) (runId : Option String) :
    RpcError → ClientError
  | .grpc _ _ (some missing) => .namespaceNotFound missing
  | .grpc code details none =>
    if code = notFoundCode then .workflowNotFound (details.getD "Workflow not found") workflowId runId
    else .serviceError fallbackMessage
  | .other => .serviceError "Unexpected error while making gRPC request"

/-- `x || y` for strings -/
def orString (x : Option String) (y : String) : String :=
  match x with
  | none | some "" => y
  | some x => x

/-- A run id that is true in a condition. -/
def runIdIfAny : Option String → Option String
  | none | some "" => none
  | some runId => some runId

namespace WorkflowClient

/-- What one turn of the loop does: it sets the run and the page of the next request, or ends. -/
inductive Turn
  | next (runId : Option String) (nextPageToken : Option PageToken)
  | done (outcome : Except ClientError JsValue)

variable (converter : LoadedDataConverter) (followRuns : Bool)

def failWith (message : String) (cause : Except JsError ErrorValue) (retryState : RetryState) : Turn :=
  match cause with
  | .ok cause => .done (.error (.workflowFailed message cause retryState))
  | .error err => .done (.error (.js err))

/-- `followRuns && newExecutionRunId` -/
def followedRunId (newExecutionRunId : Option String) : Option String :=
  if followRuns then runIdIfAny newExecutionRunId else none

/-- One close event; `again` is another turn with the same request. -/
def handleEvent (again : Turn) : EventAttributes → Turn
  | .completed newExecutionRunId result =>
    match followedRunId followRuns newExecutionRunId with
    | some newExecutionRunId => .next (some newExecutionRunId) none
    | none =>
      match converter.decodeArrayFromPayloads (result.bind Payloads.payloads) with
      | .ok values => .done (.ok (values.head?.getD .undefined))
      | .error err => .done (.error (.js err))
  | .failed newExecutionRunId failure retryState =>
    match followedRunId followRuns newExecutionRunId with
    | some newExecutionRunId => .next (some newExecutionRunId) none
    | none =>
      failWith "Workflow execution failed" (converter.decodeOptionalFailureToOptionalError failure)
        (retryState.getD .unspecified)
  | .canceled details =>
    let cause := (converter.decodeArrayFromPayloads (details.bind Payloads.payloads)).map fun details =>
      .temporal (.cancelledFailure details) "Workflow canceled" (some "") none .undefined
    failWith "Workflow execution cancelled" cause .nonRetryableFailure
  | .terminated reason =>
    let message := orString reason "Workflow execution terminated"
    failWith message (.ok (.temporal .terminatedFailure message (some "") none .undefined))
      .nonRetryableFailure
  | .timedOut newExecutionRunId retryState =>
    match followedRunId followRuns newExecutionRunId with
    | some newExecutionRunId => .next (some newExecutionRunId) none
    | none =>
      failWith "Workflow execution timed out"
        (.ok (.temporal (.timeoutFailure .undefined .startToClose) "Workflow execution timed out"
          (some "") none .undefined))
        (retryState.getD .unspecified)
  | .continuedAsNew newExecutionRunId =>
    match runIdIfAny newExecutionRunId with
    | none =>
      .done (.error (.js (.typeError
        "Expected service to return newExecutionRunId for WorkflowExecutionContinuedAsNewEvent")))
    | some newExecutionRunId =>
      if followRuns then .next (some newExecutionRunId) none
      else .done (.error
        (.workflowContinuedAsNew "Workflow execution continued as new" newExecutionRunId))
  | .other => again

/-- One turn of the loop, from the response to the request. `runId` is the argument of `result`. -/
def turn (runId : Option String) (request : HistoryRequest) :
    Except RpcError HistoryResponse → Turn
  | .error err =>
    .done (.error (rethrowGrpcError "Failed to get Workflow execution history" request.workflowId runId
      err))
  | .ok response =>
    match response.events with
    | none | some [] => .next request.runId response.nextPageToken
    | some [event] =>
      handleEvent converter followRuns (.next request.runId request.nextPageToken) event
    | some events =>
      .done (.error (.js (.other
        ("Expected at most 1 close event(s), got: " ++ toString events.length))))

/-- The loop, for at most `fuel` turns, with the requests it sends. -/
def resultLoop (service : HistoryService) (runId : Option String) :
    ℕ → HistoryRequest → List HistoryRequest × Option (Except ClientError JsValue)
  | 0, _ => ([], none)
  | fuel + 1, request =>
    match turn converter followRuns runId request (service request) with
    | .next runId' nextPageToken =>
      let (requests, outcome) :=
        resultLoop service runId fuel { request with runId := runId', nextPageToken }
      (request :: requests, outcome)
    | .done outcome => ([request], some outcome)

def historyRequest (requestNamespace workflowId : String) (runId : Option String)
    (nextPageToken : Option PageToken) : HistoryRequest :=
  ⟨requestNamespace, workflowId, runId, true, true, true, nextPageToken⟩

/-- `WorkflowClient.result`; `followRuns` is the option of the call, if it has one. -/
def result (followRuns : Option Bool) (service : HistoryService)
    (requestNamespace workflowId : String) (runId : Option String) (fuel : ℕ) :
    List HistoryRequest × Option (Except ClientError JsValue) :=
  resultLoop converter (followRuns.getD true) service runId fuel
    (historyRequest requestNamespace workflowId runId none)

end WorkflowClient

/-! ### Chains of runs -/

/-- A run: what it is called in requests, the tokens of the empty pages that precede its close event,
and that event. -/
structure Run where
  runId : Option String
  pages : List PageToken
  close : EventAttributes

namespace EventAttributes

/-- The run that follows in the chain. -/
def nextRunId : EventAttributes → Option String
  | completed newExecutionRunId _ => runIdIfAny newExecutionRunId
  | failed newExecutionRunId _ _ => runIdIfAny newExecutionRunId
  | canceled _ => none
  | terminated _ => none
  | timedOut newExecutionRunId _ => runIdIfAny newExecutionRunId
  | continuedAsNew newExecutionRunId => runIdIfAny newExecutionRunId
  | other => none

/-- A run that is continued as new has a next one. -/
def IsClose : EventAttributes → Prop
  | continuedAsNew newExecutionRunId => (runIdIfAny newExecutionRunId).isSome
  | other => False
  | _ => True

end EventAttributes

namespace Run

/-- Every run but the last names the next one in its close event, and the last names none. -/
def IsChain : Run → List Run → Prop
  | run, [] => run.close.IsClose ∧ run.close.nextRunId = none
  | run, next :: rest =>
    run.close.IsClose ∧ run.close.nextRunId.isSome ∧ run.close.nextRunId = next.runId ∧
      IsChain next rest

/-- The service answers each request for the run with an empty page that has the token of the next
page, and after the last of them with the close event. -/
def ServesPages (service : HistoryService) (request : Option PageToken → HistoryRequest)
    (close : EventAttributes) : Option PageToken → List PageToken → Prop
  | token, [] => ∃ nextPageToken, service (request token) = .ok ⟨some [close], nextPageToken⟩
  | token, next :: pages =>
    (∃ events, (events = none ∨ events = some []) ∧
      service (request token) = .ok ⟨events, some next⟩) ∧
    ServesPages service request close (some next) pages

def ServedBy (service : HistoryService) (requestNamespace workflowId : String) (run : Run) : Prop :=
  ServesPages service (WorkflowClient.historyRequest requestNamespace workflowId run.runId) run.close
    none run.pages

/-- The requests that read a run: the first without a page token, each other one with the token of the
page before it. -/
def requests (requestNamespace workflowId : String) (run : Run) : List HistoryRequest :=
  (none :: run.pages.map some).map (WorkflowClient.historyRequest requestNamespace workflowId run.runId)

/-- What the caller is to get for a run: the first decoded result, an error made from the close event,
or the id of the run that it was continued as. -/
def outcome (converter : LoadedDataConverter) (run : Run) : Except ClientError JsValue :=
  match run.close with
  | .completed _ result => do
    let values ← (converter.decodeArrayFromPayloads (result.bind Payloads.payloads)).mapError .js
    return values.head?.getD .undefined
  | .failed _ failure retryState => do
    let cause ← (converter.decodeOptionalFailureToOptionalError failure).mapError .js
    throw (.workflowFailed "Workflow execution failed" cause (retryState.getD .unspecified))
  | .canceled details => do
    let details ← (converter.decodeArrayFromPayloads (details.bind Payloads.payloads)).mapError .js
    let cause := .temporal (.cancelledFailure details) "Workflow canceled" (some "") none .undefined
    throw (.workflowFailed "Workflow execution cancelled" cause .nonRetryableFailure)
  | .terminated reason =>
    let message := orString reason "Workflow execution terminated"
    let cause := .temporal .terminatedFailure message (some "") none .undefined
    throw (.workflowFailed message cause .nonRetryableFailure)
  | .timedOut _ retryState =>
    let cause := .temporal (.timeoutFailure .undefined .startToClose) "Workflow execution timed out"
      (some "") none .undefined
    throw (.workflowFailed "Workflow execution timed out" cause (retryState.getD .unspecified))
  | .continuedAsNew newExecutionRunId =>
    throw (.workflowContinuedAsNew "Workflow execution continued as new" (newExecutionRunId.getD ""))
  | .other => throw (.js .undefined)

/-- The runs whose histories are read. -/
def readRuns (followRuns : Bool) (first : Run) (rest : List Run) : List Run :=
  if followRuns then first :: rest else [first]

def lastRead (followRuns : Bool) (first : Run) (rest : List Run) : Run :=
  if followRuns then rest.getLastD first else first

end Run

namespace WorkflowClient

variable {converter : LoadedDataConverter} {followRuns : Bool} {service : HistoryService}

lemma runIdIfAny_eq_some {x : Option String} {runId : String} (h : runIdIfAny x = some runId) :
    x = some runId := by
  unfold runIdIfAny at h
  split at h
  · cases h
  · cases h
  · exact h

/-- The loop goes on with the next run of the chain. -/
lemma handleEvent_next {close : EventAttributes} {runId : String} (again : Turn)
    (h : close.nextRunId = some runId) :
    handleEvent converter true again close = .next (some runId) none := by
  cases close with
  | completed newExecutionRunId result =>
    have hnext : followedRunId true newExecutionRunId = some runId := h
    simp only [handleEvent, hnext]
  | failed newExecutionRunId failure retryState =>
    have hnext : followedRunId true newExecutionRunId = some runId := h
    simp only [handleEvent, hnext]
  | canceled details => cases h
  | terminated reason => cases h
  | timedOut newExecutionRunId retryState =>
    have hnext : followedRunId true newExecutionRunId = some runId := h
    simp only [handleEvent, hnext]
  | continuedAsNew newExecutionRunId =>
    have hnext : runIdIfAny newExecutionRunId = some runId := h
    simp only [handleEvent, hnext, if_true]
  | other => cases h

/-- The loop ends with the outcome of a run that it does not follow. -/
lemma handleEvent_done {run : Run} (again : Turn) (hclose : run.close.IsClose)
    (h : followRuns = true → run.close.nextRunId = none) :
    handleEvent converter followRuns again run.close = .done (run.outcome converter) := by
  have hfollowed : ∀ newExecutionRunId, run.close.nextRunId = runIdIfAny newExecutionRunId →
      followedRunId followRuns newExecutionRunId = none := by
    intro newExecutionRunId hnext
    unfold followedRunId
    split
    · rename_i hfollow
      rw [← hnext, h hfollow]
    · rfl
  unfold Run.outcome
  cases hc : run.close with
  | completed newExecutionRunId result =>
    rw [hc] at hfollowed
    simp only [handleEvent, hfollowed newExecutionRunId rfl]
    cases converter.decodeArrayFromPayloads (result.bind Payloads.payloads) <;> rfl
  | failed newExecutionRunId failure retryState =>
    rw [hc] at hfollowed
    simp only [handleEvent, hfollowed newExecutionRunId rfl]
    cases converter.decodeOptionalFailureToOptionalError failure <;> rfl
  | canceled details =>
    simp only [handleEvent]
    cases converter.decodeArrayFromPayloads (details.bind Payloads.payloads) <;> rfl
  | terminated reason => rfl
  | timedOut newExecutionRunId retryState =>
    rw [hc] at hfollowed
    simp only [handleEvent, hfollowed newExecutionRunId rfl]
    rfl
  | continuedAsNew newExecutionRunId =>
    rw [hc] at hclose h
    obtain ⟨runId, hrunId⟩ := Option.isSome_iff_exists.mp hclose
    have hfalse : followRuns = false := by
      by_contra hfollow
      have hnone : runIdIfAny newExecutionRunId = none := h (by simpa using hfollow)
      rw [hrunId] at hnone
      cases hnone
    have hsome := runIdIfAny_eq_some hrunId
    subst hsome
    simp only [handleEvent, hrunId, hfalse]
    rfl
  | other =>
    rw [hc] at hclose
    exact hclose.elim

/-- What the loop does after the requests so far, for a turn. -/
def afterTurn (loop : HistoryRequest → List HistoryRequest × Option (Except ClientError JsValue))
    (requestNamespace workflowId : String) (requests : List HistoryRequest) :
    Turn → List HistoryRequest × Option (Except ClientError JsValue)
  | .next runId nextPageToken =>
    let (later, outcome) := loop (historyRequest requestNamespace workflowId runId nextPageToken)
    (requests ++ later, outcome)
  | .done outcome => (requests, some outcome)

/-- Reading a run: its requests in order, and then what the loop does with the close event. -/
lemma resultLoop_pages {requestNamespace workflowId : String} {runId argument : Option String}
    {close : EventAttributes} {token : Option PageToken} {pages : List PageToken} {next : Turn}
    (hserved : Run.ServesPages service (historyRequest requestNamespace workflowId runId) close token pages)
    (hnext : ∀ again, handleEvent converter followRuns again close = next) (fuel : ℕ) :
    resultLoop converter followRuns service argument (pages.length + 1 + fuel)
        (historyRequest requestNamespace workflowId runId token) =
      afterTurn (resultLoop converter followRuns service argument fuel) requestNamespace workflowId
        ((token :: pages.map some).map (historyRequest requestNamespace workflowId runId)) next := by
  induction pages generalizing token with
  | nil =>
    obtain ⟨nextPageToken, hservice⟩ := hserved
    have hfuel : ([] : List PageToken).length + 1 + fuel = fuel + 1 := by
      simp only [List.length_nil]
      omega
    rw [hfuel, resultLoop, hservice]
    simp only [turn, hnext]
    cases next <;> rfl
  | cons page pages ih =>
    obtain ⟨⟨events, hevents, hservice⟩, hserved⟩ := hserved
    have hfuel : (page :: pages).length + 1 + fuel = (pages.length + 1 + fuel) + 1 := by
      simp only [List.length_cons]
      omega
    have hturn : turn converter followRuns argument
        (historyRequest requestNamespace workflowId runId token) (.ok ⟨events, some page⟩) =
        .next runId (some page) := by
      rcases hevents with rfl | rfl <;> rfl
    rw [hfuel, resultLoop, hservice, hturn]
    have hrest := ih hserved
    simp only [historyRequest] at hrest ⊢
    rw [hrest]
    cases next <;> rfl

/-- A run that is not followed is the last one to be read. -/
lemma resultLoop_last {requestNamespace workflowId : String} {argument : Option String} {run : Run}
    (hclose : run.close.IsClose) (hlast : followRuns = true → run.close.nextRunId = none)
    (hserved : run.ServedBy service requestNamespace workflowId) {fuel : ℕ}
    (hfuel : run.pages.length + 1 ≤ fuel) :
    resultLoop converter followRuns service argument fuel
        (historyRequest requestNamespace workflowId run.runId none) =
      (run.requests requestNamespace workflowId, some (run.outcome converter)) := by
  obtain ⟨extra, rfl⟩ := Nat.exists_eq_add_of_le hfuel
  exact resultLoop_pages hserved (fun again => handleEvent_done again hclose hlast) extra

/-- The runs are read one after the other, and the result is the outcome of the last one read. -/
lemma resultLoop_chain {requestNamespace workflowId : String} {argument : Option String}
    (first : Run) (rest : List Run) (hchain : first.IsChain rest)
    (hserved : ∀ run ∈ first :: rest, run.ServedBy service requestNamespace workflowId) :
    ∃ bound, ∀ fuel, bound ≤ fuel →
      resultLoop converter followRuns service argument fuel
        (historyRequest requestNamespace workflowId first.runId none) =
      ((Run.readRuns followRuns first rest).flatMap (Run.requests requestNamespace workflowId),
        some ((Run.lastRead followRuns first rest).outcome converter)) := by
  induction rest generalizing first with
  | nil =>
    obtain ⟨hclose, hnext⟩ := hchain
    refine ⟨first.pages.length + 1, fun fuel hfuel => ?_⟩
    rw [resultLoop_last hclose (fun _ => hnext) (hserved first (by simp)) hfuel]
    cases followRuns <;> simp [Run.readRuns, Run.lastRead]
  | cons next rest ih =>
    obtain ⟨hclose, hsome, hnext, hrest⟩ := hchain
    cases hfollow : followRuns with
    | false =>
      refine ⟨first.pages.length + 1, fun fuel hfuel => ?_⟩
      have hlast : followRuns = true → first.close.nextRunId = none := by
        rw [hfollow]
        intro h
        cases h
      have hread : resultLoop converter followRuns service argument fuel
          (historyRequest requestNamespace workflowId first.runId none) = _ :=
        resultLoop_last hclose hlast (hserved first (by simp)) hfuel
      rw [hfollow] at hread
      rw [hread]
      simp [Run.readRuns, Run.lastRead]
    | true =>
      rw [hfollow] at ih
      obtain ⟨bound, hbound⟩ := ih next hrest (fun run hmem => hserved run (by simp [hmem]))
      refine ⟨first.pages.length + 1 + bound, fun fuel hfuel => ?_⟩
      obtain ⟨extra, rfl⟩ := Nat.exists_eq_add_of_le hfuel
      obtain ⟨runId, hrunId⟩ := Option.isSome_iff_exists.mp hsome
      have hpages : resultLoop converter true service argument
          (first.pages.length + 1 + (bound + extra))
          (historyRequest requestNamespace workflowId first.runId none) = _ :=
        resultLoop_pages (hserved first (by simp)) (fun again => handleEvent_next again hrunId) _
      rw [hrunId] at hnext
      rw [← Nat.add_assoc] at hpages
      rw [hpages, afterTurn, hnext, hbound (bound + extra) (by omega)]
      simp only [Run.readRuns, Run.lastRead, if_true, List.flatMap_cons, List.getLastD_cons,
        Run.requests]

/-- With a service that answers each run of a chain with empty pages and then its close event,
`result` ends. It sends the requests of the runs that it reads, in order, and has the outcome of the
last run of the chain or, without following runs, of the first. -/
theorem result_eq (converter : LoadedDataConverter) (followRuns : Option Bool) (service : HistoryService)
    (requestNamespace workflowId : String) (first : Run) (rest : List Run)
    (hchain : first.IsChain rest)
    (hserved : ∀ run ∈ first :: rest, run.ServedBy service requestNamespace workflowId) :
    ∃ bound, ∀ fuel, bound ≤ fuel →
      result converter followRuns service requestNamespace workflowId first.runId fuel =
        ((Run.readRuns (followRuns.getD true) first rest).flatMap
            (Run.requests requestNamespace workflowId),
          some ((Run.lastRead (followRuns.getD true) first rest).outcome converter)) :=
  resultLoop_chain first rest hchain hserved

def continuedRun : Run := ⟨none, [[1]], .continuedAsNew (some "next")⟩

def completedRun : Run := ⟨some "next", [[1]], .completed none (some ⟨some [FailureConverter.jsonPayload "\"done\""]⟩)⟩

/-- A service with a run that is continued as new and then completes -/
def continuedAsNewService : HistoryService := fun request =>
  match request.runId, request.nextPageToken with
  | none, none => .ok ⟨none, some [1]⟩
  | none, some [1] => .ok ⟨some [continuedRun.close], some []⟩
  | some "next", none => .ok ⟨some [], some [1]⟩
  | some "next", some [1] => .ok ⟨some [completedRun.close], none⟩
  | _, _ => .error .other

theorem result_eq_continuedAsNew :
    ∃ bound, ∀ fuel, bound ≤ fuel →
      result ⟨⟨false, FailureConverter.jsonConverter⟩, []⟩ none continuedAsNewService "default" "workflow" none fuel =
        (continuedRun.requests "default" "workflow" ++ completedRun.requests "default" "workflow",
          some (.ok (.string "done"))) := by
  have hserved : ∀ run ∈ [continuedRun, completedRun],
      run.ServedBy continuedAsNewService "default" "workflow" := by
    intro run hmem
    rcases List.mem_pair.mp hmem with rfl | rfl
    · exact ⟨⟨none, .inl rfl, rfl⟩, _, rfl⟩
    · exact ⟨⟨some [], .inr rfl, rfl⟩, _, rfl⟩
  exact result_eq ⟨⟨false, FailureConverter.jsonConverter⟩, []⟩ none continuedAsNewService "default" "workflow"
    continuedRun [completedRun] ⟨rfl, rfl, rfl, trivial, rfl⟩ hserved

end WorkflowClient

end TemporalSdk
