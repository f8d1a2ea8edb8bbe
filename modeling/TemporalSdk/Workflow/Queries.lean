import TemporalSdk.Common.PayloadConversion
import TemporalSdk.Workflow.CommandLog

/-!
# The answers to queries

A query job is buffered until the workflow function has been called. Its arguments are decoded
synchronously, its handler runs, and the response is pushed in a reaction to the promise of the
handler's result, which follows a thenable. An error in the first of these leaves `activate`, or the
loop over the buffered queries; one in the reaction is an unhandled rejection, and so is one of a
promise that the handler has returned.
-/

namespace TemporalSdk

variable {σ V : Type}

def WorkflowJob.query? : WorkflowJob → Option QueryWorkflow
  | .queryWorkflow query => some query
  | _ => none

def queriesOf (jobs : List WorkflowJob) : List QueryWorkflow := jobs.filterMap WorkflowJob.query?

def Command.response? : Command → Option String
  | .respondToQuery queryId _ => some queryId
  | _ => none

/-- The ids of the queries that the commands respond to -/
def responsesIn (commands : List Command) : List String := commands.filterMap Command.response?

/-- The attributes of the query are there, and its arguments can be decoded. -/
def Converters.accepts (c : Converters V) (query : QueryWorkflow) : Bool :=
  query.queryType.any (· != "") && query.queryId.any (· != "") &&
    (query.arguments.mapM c.fromPayload).isOk

namespace VMWorkflow

variable (c : Converters V) (w w' : VMWorkflow σ V)

/-- The step handles a query, or queries that were buffered. -/
def handlesQuery : VMInput σ V → Bool
  | .nextJob _ => w.phase.isBeforeQuery
  | .code .workflowCalled => true
  | .code (.settlesQuery _ _) => true
  | .code (.rejectsReturnedPromise _) => true
  | .answer => true
  | _ => false

/-- Between the states, the activation has failed or is bound to, or the workflow has completed. -/
def disturbed : Bool :=
  w.records != w'.records ||
    (w'.activator.truthyRejection.isSome &&
      w.activator.truthyRejection != w'.activator.truthyRejection) ||
    w.activator.buffer.completed != w'.activator.buffer.completed

/-- What was pushed in a step -/
def pushed : List Command := w'.activator.buffer.commands.drop w.activator.buffer.commands.length

/-- The condition on a step: queries have their attributes and arguments that can be decoded, what
handlers return or throw can be encoded, a promise that a handler has returned is not rejected with
a value that counts as true, and an activation with queries does not fail because of something else. -/
def queriesHandled : VMInput σ V → Bool
  | .enterBatch => (queriesOf w.jobs).isEmpty || w.activation.historyLength.isSome
  | .nextJob thrown =>
    match w.phase with
    | .jobs (.queryWorkflow query :: _) _ _ _ =>
      !w.activator.workflowFunctionWasCalled || c.accepts query
    | .jobs (job :: _) _ _ _ =>
      (queriesOf w.jobs).isEmpty || (job != .unset && w.activator.buffer.completed) ||
        (w.activator.applyJob c job thrown).isOk
    | _ => true
  | .code .workflowCalled => w.activator.bufferedQueries.all c.accepts
  | .code (.rejectsReturnedPromise err) => !err.isTruthy
  | .answer => w.activator.answers.head?.all fun answer => c.converts answer.2
  | _ => true

end VMWorkflow

def VMInput.received : VMInput σ V → List QueryWorkflow
  | .activate activation => queriesOf (activation.jobs.getD [])
  | _ => []

/-- An instance, with the query jobs that it has received, the ids in the responses that it has pushed,
and whether the handling of a query has made an activation or the workflow fail. -/
structure QueryTrace (σ V : Type) where
  workflow : VMWorkflow σ V
  received : List QueryWorkflow
  responses : List String
  disturbed : Bool

namespace QueryTrace

def create (rest : σ) : QueryTrace σ V := ⟨.create rest, [], [], false⟩

def step (c : Converters V) (t : QueryTrace σ V) (input : VMInput σ V) : Option (QueryTrace σ V) :=
  (t.workflow.step c input).map fun w =>
    { workflow := w
      received := t.received ++ input.received
      responses := t.responses ++ responsesIn (t.workflow.pushed w)
      disturbed := t.disturbed || (t.workflow.handlesQuery input && t.workflow.disturbed w) }

/-- Between activations, exactly one response has been pushed for every query, unless the query waits
for the workflow function to be called or for its thenable to settle; and no query has made anything
else fail. -/
structure EveryQueryAnswered (t : QueryTrace σ V) : Prop where
  answered : t.workflow.phase = .idle → t.workflow.activator.answers = [] →
    (t.responses.map some ++ t.workflow.activator.adopted.map some ++
      t.workflow.activator.bufferedQueries.map (·.queryId)).Perm (t.received.map (·.queryId))
  called : t.workflow.activator.workflowFunctionWasCalled = true →
    t.workflow.activator.bufferedQueries = []
  undisturbed : t.disturbed = false

end QueryTrace

/-! ### Query jobs -/

@[simp] lemma queriesOf_nil : queriesOf [] = [] := rfl

@[simp] lemma queriesOf_append (jobs jobs' : List WorkflowJob) :
    queriesOf (jobs ++ jobs') = queriesOf jobs ++ queriesOf jobs' := List.filterMap_append

lemma query?_of_isQueryWorkflow {job : WorkflowJob} (h : job.isQueryWorkflow = false) :
    job.query? = none := by
  cases job with
  | queryWorkflow query => cases h
  | _ => rfl

lemma queriesOf_eq_nil {jobs : List WorkflowJob} (h : ∀ job ∈ jobs, job.isQueryWorkflow = false) :
    queriesOf jobs = [] := by
  unfold queriesOf
  rw [List.filterMap_eq_nil_iff]
  intro job hjob
  exact query?_of_isQueryWorkflow (h job hjob)

lemma queriesOf_cons_of_not {job : WorkflowJob} (jobs : List WorkflowJob)
    (h : job.isQueryWorkflow = false) : queriesOf (job :: jobs) = queriesOf jobs := by
  unfold queriesOf
  rw [List.filterMap_cons_none (query?_of_isQueryWorkflow h)]

lemma queriesOf_orderedJobs (jobs : List WorkflowJob) : queriesOf (orderedJobs jobs) = queriesOf jobs := by
  rw [orderedJobs, queriesOf_append, queriesOf_eq_nil nonQueryJobs_isQueryWorkflow, List.nil_append, queryJobs]
  induction jobs with
  | nil => rfl
  | cons job jobs ih =>
    cases hjob : job.isQueryWorkflow with
    | false => rw [List.filter_cons_of_neg (by simp [hjob]), ih, queriesOf_cons_of_not jobs hjob]
    | true =>
      rw [List.filter_cons_of_pos hjob]
      unfold queriesOf at ih ⊢
      rw [List.filterMap_cons, List.filterMap_cons, ih]

lemma except_isOk {ε α : Type} {x : Except ε α} (h : x.isOk = true) : ∃ y, x = .ok y := by
  cases x with
  | ok y => exact ⟨y, rfl⟩
  | error err => cases h

lemma perm_append_append {α : Type} (l₁ l₂ l₃ l₄ : List α) :
    (l₁ ++ l₂ ++ (l₃ ++ l₄)).Perm (l₁ ++ l₃ ++ (l₂ ++ l₄)) := by
  rw [List.append_assoc, List.append_assoc]
  exact (List.perm_append_comm_assoc _ _ _).append_left _

/-! ### What the activator does with queries -/

namespace Activator

variable {c : Converters V} {a a' a'' : Activator σ V}

/-- The queries that have been taken in and not been answered -/
def waiting (a : Activator σ V) : List (Option String) :=
  a.answers.map (some ·.1) ++ a.adopted.map some ++ a.bufferedQueries.map (·.queryId)

/-- A query that is accepted runs its handler, and waits for the reaction to its answer or for a
thenable. -/
lemma queryWorkflow_of_accepts {query : QueryWorkflow} (hcalled : a.workflowFunctionWasCalled = true)
    (haccepts : c.accepts query = true) :
    ∃ answers adopted rest returnedPromises,
      answers.map (some ·.1) ++ adopted.map some = [query.queryId] ∧
      a.queryWorkflow c query = .ok { a with
        answers := a.answers ++ answers
        adopted := a.adopted ++ adopted
        rest
        returnedPromises } := by
  simp only [Converters.accepts, Bool.and_eq_true] at haccepts
  obtain ⟨⟨htype, hid⟩, hargs⟩ := haccepts
  obtain ⟨queryType, hqueryType, htype⟩ := (Option.any_eq_true _ _).mp htype
  obtain ⟨queryId, hqueryId, hid⟩ := (Option.any_eq_true _ _).mp hid
  obtain ⟨args, hargs⟩ := except_isOk hargs
  obtain ⟨rest, returnedPromises, hrest⟩ := queryWorkflowNextHandler_snd a queryType args
  have hattributes : queryType ≠ "" ∧ queryId ≠ "" := ⟨by simpa using htype, by simpa using hid⟩
  simp only [queryWorkflow, hcalled, hqueryType, hqueryId, hargs, Bool.not_true, Bool.false_eq_true,
    if_false]
  split
  · simp_all
  · simp_all
  · simp_all
  · simp_all
  · rename_i htype hid
    cases htype
    cases hid
    generalize a.queryWorkflowNextHandler queryType args = next at hrest ⊢
    obtain ⟨answer | answer, b⟩ := next
    · obtain rfl : b = { a with rest, returnedPromises } := hrest
      exact ⟨[], [queryId], rest, returnedPromises, rfl, by simp [hcalled]⟩
    · obtain rfl : b = { a with rest, returnedPromises } := hrest
      exact ⟨[(queryId, answer)], [], rest, returnedPromises, rfl, by simp [hcalled]⟩

lemma queryWorkflow_of_not_called {query : QueryWorkflow} (h : a.workflowFunctionWasCalled = false) :
    a.queryWorkflow c query = .ok { a with bufferedQueries := a.bufferedQueries ++ [query] } := by
  simp [queryWorkflow, h]

/-- When every query is accepted, the loop over the buffered queries takes all of them. -/
lemma queryBuffered_of_accepts {queries : List QueryWorkflow}
    (hcalled : a.workflowFunctionWasCalled = true) (haccepts : ∀ query ∈ queries, c.accepts query = true) :
    ∃ answers adopted rest returnedPromises,
      (answers.map (some ·.1) ++ adopted.map some).Perm (queries.map (·.queryId)) ∧
      a.queryBuffered c queries = { a with
        answers := a.answers ++ answers
        adopted := a.adopted ++ adopted
        rest
        returnedPromises } := by
  induction queries generalizing a with
  | nil => exact ⟨[], [], a.rest, a.returnedPromises, .refl _, by simp [queryBuffered]⟩
  | cons query queries ih =>
    obtain ⟨answers, adopted, rest, returnedPromises, hid, hquery⟩ :=
      queryWorkflow_of_accepts hcalled (haccepts query List.mem_cons_self)
    obtain ⟨answers', adopted', rest', returnedPromises', hids, hqueries⟩ :=
      ih (a := { a with
        answers := a.answers ++ answers
        adopted := a.adopted ++ adopted
        rest
        returnedPromises }) hcalled fun query' hquery' => haccepts query' (List.mem_cons_of_mem _ hquery')
    refine ⟨answers ++ answers', adopted ++ adopted', rest', returnedPromises', ?_, ?_⟩
    · rw [List.map_cons, List.map_append, List.map_append, ← List.singleton_append, ← hid]
      refine List.Perm.trans ?_ (hids.append_left _)
      rw [List.append_assoc, List.append_assoc]
      exact (List.perm_append_comm_assoc _ _ _).append_left _
    · rw [queryBuffered, hquery]
      simp only [hqueries, List.append_assoc]

/-- An answer that can be encoded is pushed as one response. -/
lemma answer_of_converts {queryId : String} {result : Except JsError V}
    {answers : List (String × Except JsError V)} (hanswers : a.answers = (queryId, result) :: answers)
    (hconverts : c.converts result = true) :
    ∃ response, a.answer c =
      some ({ a with answers }.pushCommand (.respondToQuery queryId response) false) := by
  cases result with
  | ok value =>
    obtain ⟨payload, hpayload⟩ := except_isOk hconverts
    refine ⟨.succeeded payload, ?_⟩
    simp only [answer, hanswers, completeQuery, hpayload]
  | error err =>
    obtain ⟨failure, hfailure⟩ := except_isOk hconverts
    refine ⟨.failed failure, ?_⟩
    simp only [answer, hanswers, failQuery, hfailure]

/-- What operations that have nothing to do with queries leave as it is -/
structure LeavesQueries (a a' : Activator σ V) : Prop where
  answers : a'.answers = a.answers
  adopted : a'.adopted = a.adopted
  bufferedQueries : a'.bufferedQueries = a.bufferedQueries
  called : a'.workflowFunctionWasCalled = a.workflowFunctionWasCalled
  pushed : ∃ commands, a'.buffer.commands = a.buffer.commands ++ commands ∧ responsesIn commands = []

namespace LeavesQueries

lemma of_buffer (hanswers : a'.answers = a.answers) (hadopted : a'.adopted = a.adopted)
    (hqueries : a'.bufferedQueries = a.bufferedQueries)
    (hcalled : a'.workflowFunctionWasCalled = a.workflowFunctionWasCalled)
    (hbuffer : a'.buffer = a.buffer) : LeavesQueries a a' :=
  ⟨hanswers, hadopted, hqueries, hcalled, [], by rw [hbuffer, List.append_nil], rfl⟩

lemma refl (a : Activator σ V) : LeavesQueries a a := .of_buffer rfl rfl rfl rfl rfl

lemma pushCommand {cmd : Command} {complete : Bool} (h : cmd.response? = none) :
    LeavesQueries a (a.pushCommand cmd complete) := by
  refine ⟨rfl, rfl, rfl, rfl, ?_⟩
  unfold Activator.pushCommand CommandBuffer.pushCommand
  split
  · exact ⟨[cmd], rfl, by simp [responsesIn, h]⟩
  · exact ⟨[], (List.append_nil _).symm, rfl⟩

lemma setUnhandledRejection {err : JsError} : LeavesQueries a (a.setUnhandledRejection err) :=
  .of_buffer rfl rfl rfl rfl rfl

lemma handleWorkflowFailure {err : JsError} : LeavesQueries a (a.handleWorkflowFailure c err) := by
  unfold Activator.handleWorkflowFailure
  split
  · exact pushCommand rfl
  · split
    · exact pushCommand rfl
    · split
      · exact setUnhandledRejection
      · split
        · exact pushCommand rfl
        · exact setUnhandledRejection

lemma completeWorkflow {result : V} : LeavesQueries a (a.completeWorkflow c result) := by
  unfold Activator.completeWorkflow
  split
  · exact pushCommand rfl
  · exact setUnhandledRejection

lemma header (activation : Activation) : LeavesQueries a (a.header activation).2 := by
  unfold Activator.header
  refine .of_buffer ?_ ?_ ?_ ?_ ?_ <;>
    (cases activation.timestamp <;> cases activation.historyLength <;> rfl)

lemma applyJob {job : WorkflowJob} {thrown : Option JsError} (hjob : job.isQueryWorkflow = false)
    (h : a.applyJob c job thrown = .ok a') : LeavesQueries a a' := by
  unfold Activator.applyJob at h
  split at h
  · cases h
  · cases h
  · cases h
  · cases h
    exact refl a
  · cases h
  · cases h
  · cases hjob
  · cases h
    exact .of_buffer rfl rfl rfl rfl rfl
  · split at h
    · cases h
    · cases h
      exact .of_buffer rfl rfl rfl rfl rfl
  · split at h
    · cases h
    · cases h
      exact refl a
  · split at h
    · cases h
    · cases h
      exact refl a

lemma runCode {code : WorkflowCode σ V} (hcode : code ≠ .workflowCalled)
    (hsettles : ∀ queryId answer, code ≠ .settlesQuery queryId answer)
    (h : a.runCode c code = some a') : LeavesQueries a a' := by
  cases code with
  | modify f =>
    cases h
    exact .of_buffer rfl rfl rfl rfl rfl
  | push cmd =>
    simp only [Activator.runCode] at h
    split at h
    · cases h
    · rename_i hcmd
      cases h
      refine pushCommand ?_
      cases cmd with
      | respondToQuery queryId result => simp [Command.isRespondToQuery] at hcmd
      | _ => rfl
  | setQueryHandler name handler =>
    cases handler with
    | none =>
      cases h
      exact .of_buffer rfl rfl rfl rfl rfl
    | some fn =>
      cases h
      exact .of_buffer rfl rfl rfl rfl rfl
  | workflowCalled => exact (hcode rfl).elim
  | workflowReturns result =>
    simp only [Activator.runCode] at h
    split at h
    · cases h
      exact completeWorkflow
    · cases h
  | fails err =>
    cases h
    exact handleWorkflowFailure
  | rejects err =>
    cases h
    exact setUnhandledRejection
  | settlesQuery queryId answer => exact (hsettles queryId answer rfl).elim
  | rejectsReturnedPromise err =>
    simp only [Activator.runCode, Activator.rejectReturnedPromise] at h
    split at h
    · cases h
    · cases h
      exact .of_buffer rfl rfl rfl rfl rfl

lemma waiting (h : LeavesQueries a a') : a'.waiting = a.waiting := by
  rw [Activator.waiting, h.answers, h.adopted, h.bufferedQueries, Activator.waiting]

end LeavesQueries

end Activator

/-! ### Runs -/

namespace VMWorkflow

/-- Every query that was received has been responded to, waits in the activator, or is still to come in
the current activation. -/
structure QueryInv (received : List QueryWorkflow) (responses : List String) (w : VMWorkflow σ V) :
    Prop where
  ids : (responses.map some ++ w.activator.waiting ++ (queriesOf w.phase.todo).map (·.queryId)).Perm
    (received.map (·.queryId))
  called : w.activator.workflowFunctionWasCalled = true → w.activator.bufferedQueries = []
  noQueries : queriesOf w.jobs = [] → queriesOf w.phase.todo = []
  batches : ∀ batch ∈ w.phase.batches, Homogeneous batch
  quiet : ∀ later batchIndex, w.phase = .between later batchIndex → w.activator.answers = []

variable {c : Converters V} {w w' : VMWorkflow σ V} {received : List QueryWorkflow}
  {responses : List String}

lemma queryInv_create (rest : σ) : QueryInv [] [] (create rest : VMWorkflow σ V) where
  ids := .refl _
  called _ := rfl
  noQueries _ := rfl
  batches := by simp [create, Phase.batches]
  quiet _ _ h := by cases h

/-- The responses that are pushed when the activator adds some commands -/
lemma responsesIn_pushed (commands : List Command)
    (h : w'.activator.buffer.commands = w.activator.buffer.commands ++ commands) :
    responsesIn (w.pushed w') = responsesIn commands := by
  rw [pushed, h, List.drop_left]

lemma responsesIn_pushed_of_eq (h : w'.activator.buffer.commands = w.activator.buffer.commands) :
    responsesIn (w.pushed w') = [] :=
  responsesIn_pushed [] (by rw [h, List.append_nil])

/-- Steps that leave the queries as they are and move on within the activation, or end it when it has
no queries. -/
lemma QueryInv.move (h : QueryInv received responses w) (hjobs : w'.jobs = w.jobs)
    (hleaves : w.activator.LeavesQueries w'.activator)
    (htodo : queriesOf w'.phase.todo = queriesOf w.phase.todo)
    (hbatches : ∀ batch ∈ w'.phase.batches, Homogeneous batch)
    (hquiet : ∀ later batchIndex, w'.phase = .between later batchIndex → w.activator.answers = []) :
    QueryInv received (responses ++ responsesIn (w.pushed w')) w' where
  ids := by
    obtain ⟨commands, hcommands, hresponses⟩ := hleaves.pushed
    rw [responsesIn_pushed commands hcommands, hresponses, List.append_nil, hleaves.waiting, htodo]
    exact h.ids
  called hcalled := hleaves.bufferedQueries.trans (h.called (hleaves.called ▸ hcalled))
  noQueries hnone := htodo.trans (h.noQueries (hjobs ▸ hnone))
  batches := hbatches
  quiet later batchIndex hphase := hleaves.answers.trans (hquiet later batchIndex hphase)

/-- An activation without queries may fail. -/
lemma QueryInv.throw (h : QueryInv received responses w) {activator : Activator σ V}
    (hleaves : w.activator.LeavesQueries activator) (hnone : queriesOf w.jobs = []) (err : JsError) :
    QueryInv received (responses ++ responsesIn (w.pushed ({ w with activator }.throw err)))
      ({ w with activator }.throw err) := by
  exact h.move rfl hleaves (h.noQueries hnone).symm (by simp [VMWorkflow.throw, Phase.batches])
    fun _ _ hphase => by cases hphase

lemma QueryInv.activate (h : QueryInv received responses w) (activation : Activation)
    (hidle : w.phase = .idle) (hanswers : w.activator.answers = []) :
    QueryInv (received ++ queriesOf (activation.jobs.getD []))
      (responses ++ responsesIn (w.pushed (w.activate activation))) (w.activate activation) := by
  have hids := h.ids
  rw [hidle, Phase.todo, queriesOf_nil, List.map_nil, List.append_nil] at hids
  have hpushed : responsesIn (w.pushed (w.activate activation)) = [] := by
    apply responsesIn_pushed_of_eq
    unfold VMWorkflow.activate
    split <;> rfl
  rw [hpushed, List.append_nil]
  cases hjobs : activation.jobs with
  | none =>
    have hactivate : w.activate activation =
        { w with activation := activation, applied := [], lateQueries := [], lost := [] }.throw
          (.other "Expected workflow activation jobs to be defined") := by
      simp only [VMWorkflow.activate, hjobs]
    rw [hactivate]
    refine ⟨?_, h.called, fun _ => rfl, by simp [VMWorkflow.throw, Phase.batches],
      fun _ _ hphase => by cases hphase⟩
    simpa [VMWorkflow.throw, Phase.todo] using hids
  | some jobs =>
    have hactivate : w.activate activation =
        { w with activation := activation, applied := [], lateQueries := [], lost := [],
                 phase := .between (jobBatches jobs) 0 } := by
      simp only [VMWorkflow.activate, hjobs]
    have htodo : queriesOf (Phase.between (jobBatches jobs) 0).todo = queriesOf jobs := by
      rw [Phase.todo, flatten_jobBatches, queriesOf_orderedJobs]
    rw [hactivate]
    refine ⟨?_, h.called, fun hnone => ?_, homogeneous_jobBatches jobs, fun _ _ _ => hanswers⟩
    · simp only [htodo, List.map_append, Option.getD_some]
      exact hids.append_right _
    · rw [htodo]
      simpa [VMWorkflow.jobs, hjobs] using hnone

lemma QueryInv.enterBatch (h : QueryInv received responses w) {batch : List WorkflowJob}
    {later : List (List WorkflowJob)} {batchIndex : ℕ}
    (hphase : w.phase = .between (batch :: later) batchIndex)
    (hhistory : queriesOf w.jobs = [] ∨ w.activation.historyLength.isSome = true) :
    QueryInv received (responses ++ responsesIn (w.pushed (w.enterBatch batch later batchIndex)))
      (w.enterBatch batch later batchIndex) := by
  have hleaves := Activator.LeavesQueries.header (a := w.activator) w.activation
  have hbatches : ∀ batch' ∈ batch :: later, Homogeneous batch' := by
    have hbatches := h.batches
    rw [hphase] at hbatches
    exact hbatches
  have henter : ∀ {activator : Activator σ V} {unblock : Bool}, w.activator.LeavesQueries activator →
      QueryInv received
        (responses ++ responsesIn (w.pushed
          { w with activator, phase := .jobs batch unblock later (batchIndex + 1) }))
        { w with activator, phase := .jobs batch unblock later (batchIndex + 1) } := by
    intro activator unblock hleaves
    refine h.move rfl hleaves ?_ hbatches (by simp)
    rw [hphase, Phase.todo, Phase.todo, List.flatten_cons]
  unfold VMWorkflow.enterBatch
  split
  · split
    · rename_i hheader
      have hmissing : w.activation.historyLength.isSome = false := by
        cases hhistory : w.activation.historyLength with
        | none => rfl
        | some historyLength => simp [Activator.header, hhistory] at hheader
      rw [hheader] at hleaves
      refine h.throw hleaves (hhistory.resolve_right ?_) _
      rw [hmissing]
      exact Bool.false_ne_true
    · rename_i hheader
      rw [hheader] at hleaves
      exact henter hleaves
  · exact henter (.refl _)

lemma nextJob_of_query {query : QueryWorkflow} {activator : Activator σ V}
    (hquery : w.activator.queryWorkflow c query = .ok activator) (todo : List WorkflowJob)
    (unblock : Bool) (later : List (List WorkflowJob)) (batchIndex : ℕ) (thrown : Option JsError) :
    ∃ lateQueries, w.nextJob c (.queryWorkflow query) todo unblock later batchIndex thrown =
      { w with activator, phase := .jobs todo unblock later batchIndex,
               applied := w.applied ++ [.queryWorkflow query], lateQueries } := by
  refine ⟨if w.activator.buffer.completed then w.lateQueries ++ [query] else w.lateQueries, ?_⟩
  simp only [VMWorkflow.nextJob, WorkflowJob.isQueryWorkflow, Activator.applyJob, hquery, Bool.not_true,
    Bool.false_eq_true, and_false, if_false]

/-- A query that the activator takes in leaves the jobs of the activation. -/
lemma QueryInv.take (h : QueryInv received responses w) {query : QueryWorkflow}
    {todo : List WorkflowJob} {unblock : Bool} {later : List (List WorkflowJob)} {batchIndex : ℕ}
    {thrown : Option JsError}
    (hphase : w.phase = .jobs (.queryWorkflow query :: todo) unblock later batchIndex)
    {activator : Activator σ V} (hquery : w.activator.queryWorkflow c query = .ok activator)
    (hwaiting : activator.waiting.Perm (w.activator.waiting ++ [query.queryId]))
    (hcalled : activator.workflowFunctionWasCalled = true → activator.bufferedQueries = [])
    (hbuffer : activator.buffer = w.activator.buffer)
    (hrejection : activator.unhandledRejection = w.activator.unhandledRejection) :
    QueryInv received
        (responses ++ responsesIn (w.pushed
          (w.nextJob c (.queryWorkflow query) todo unblock later batchIndex thrown)))
        (w.nextJob c (.queryWorkflow query) todo unblock later batchIndex thrown) ∧
      w.disturbed (w.nextJob c (.queryWorkflow query) todo unblock later batchIndex thrown) = false := by
  obtain ⟨lateQueries, hnext⟩ := nextJob_of_query hquery todo unblock later batchIndex thrown
  have hpushed : responsesIn (w.pushed
      (w.nextJob c (.queryWorkflow query) todo unblock later batchIndex thrown)) = [] := by
    apply responsesIn_pushed_of_eq
    rw [hnext, hbuffer]
  have hids := h.ids
  have hbatches := h.batches
  have hqueries : queriesOf w.jobs ≠ [] := by
    intro hnone
    have htodo := h.noQueries hnone
    simp [hphase, Phase.todo, queriesOf, WorkflowJob.query?] at htodo
  rw [hphase] at hids hbatches
  rw [hpushed, List.append_nil, hnext]
  refine ⟨⟨?_, hcalled, fun hnone => absurd hnone hqueries, ?_, by simp⟩, ?_⟩
  · have htodo : queriesOf (Phase.jobs (.queryWorkflow query :: todo) unblock later batchIndex).todo =
        query :: queriesOf (todo ++ later.flatten) := rfl
    rw [htodo, List.map_cons, ← List.singleton_append, ← List.append_assoc, List.append_assoc _ _ [_]] at hids
    exact (((hwaiting.append_left _).append_right _)).trans hids
  · intro batch hbatch
    rcases List.mem_cons.mp hbatch with rfl | hbatch
    · exact (hbatches _ List.mem_cons_self).imp
        (fun h job hjob => h job (List.mem_cons_of_mem _ hjob))
        (fun h job hjob => h job (List.mem_cons_of_mem _ hjob))
    · exact hbatches batch (List.mem_cons_of_mem _ hbatch)
  · simp [disturbed, Activator.truthyRejection, hbuffer, hrejection]

/-- A query job is buffered, or its handler runs. -/
lemma QueryInv.nextQuery (h : QueryInv received responses w) {query : QueryWorkflow}
    {todo : List WorkflowJob} {unblock : Bool} {later : List (List WorkflowJob)} {batchIndex : ℕ}
    (hphase : w.phase = .jobs (.queryWorkflow query :: todo) unblock later batchIndex)
    (thrown : Option JsError)
    (haccepts : w.activator.workflowFunctionWasCalled = true → c.accepts query = true) :
    QueryInv received
        (responses ++ responsesIn (w.pushed
          (w.nextJob c (.queryWorkflow query) todo unblock later batchIndex thrown)))
        (w.nextJob c (.queryWorkflow query) todo unblock later batchIndex thrown) ∧
      w.disturbed (w.nextJob c (.queryWorkflow query) todo unblock later batchIndex thrown) = false := by
  cases hcalled : w.activator.workflowFunctionWasCalled with
  | false =>
    refine h.take hphase (Activator.queryWorkflow_of_not_called hcalled) (.of_eq ?_) ?_ rfl rfl
    · simp [Activator.waiting]
    · intro hcalled'
      exact absurd (hcalled'.symm.trans hcalled) Bool.noConfusion
  | true =>
    have hbuffered := h.called hcalled
    obtain ⟨answers, adopted, rest, returnedPromises, hid, hquery⟩ :=
      Activator.queryWorkflow_of_accepts hcalled (haccepts hcalled)
    refine h.take hphase hquery ?_ h.called rfl rfl
    simp only [Activator.waiting, hbuffered, List.map_nil, List.append_nil, List.map_append, ← hid]
    exact perm_append_append _ _ _ _

/-- Another job leaves the queries as they are. If it throws, the activation has none. -/
lemma QueryInv.nextOther (h : QueryInv received responses w) {job : WorkflowJob}
    {todo : List WorkflowJob} {unblock : Bool} {later : List (List WorkflowJob)} {batchIndex : ℕ}
    {thrown : Option JsError} (hjob : job.isQueryWorkflow = false)
    (hphase : w.phase = .jobs (job :: todo) unblock later batchIndex)
    (hthrows : queriesOf w.jobs = [] ∨ (job ≠ .unset ∧ w.activator.buffer.completed = true) ∨
      ∃ a, w.activator.applyJob c job thrown = .ok a) :
    QueryInv received
      (responses ++ responsesIn (w.pushed (w.nextJob c job todo unblock later batchIndex thrown)))
      (w.nextJob c job todo unblock later batchIndex thrown) := by
  have hbatches := h.batches
  rw [hphase] at hbatches
  have hbatch : ∀ job' ∈ job :: todo, job'.isQueryWorkflow = false := by
    refine (hbatches _ List.mem_cons_self).resolve_left fun hqueries => ?_
    rw [hqueries job List.mem_cons_self] at hjob
    cases hjob
  have htodo : queriesOf todo = [] :=
    queriesOf_eq_nil fun job' hjob' => hbatch job' (List.mem_cons_of_mem _ hjob')
  have hrest : queriesOf w.phase.todo = queriesOf later.flatten := by
    rw [hphase, Phase.todo, queriesOf_append, queriesOf_eq_nil hbatch, List.nil_append]
  unfold VMWorkflow.nextJob
  dsimp only
  split
  · refine h.move rfl (.refl _) hrest.symm (fun batch hbatch => ?_) (by simp)
    exact hbatches batch (List.mem_cons_of_mem _ hbatch)
  · rename_i hskip
    split
    · rename_i err herr
      rcases hthrows with hnone | ⟨hset, hcompleted⟩ | ⟨a, ha⟩
      · exact h.throw (.refl _) hnone err
      · exact absurd ⟨hset, hcompleted, by rw [hjob]; rfl⟩ hskip
      · rw [herr] at ha
        cases ha
    · rename_i activator hactivator
      refine h.move rfl (.applyJob hjob hactivator) ?_ (fun batch hmem => ?_) (by simp)
      · rw [hrest, Phase.todo, queriesOf_append, htodo, List.nil_append]
      · rcases List.mem_cons.mp hmem with rfl | hmem
        · exact Or.inr fun job' hjob' => hbatch job' (List.mem_cons_of_mem _ hjob')
        · exact hbatches batch (List.mem_cons_of_mem _ hmem)

/-- The workflow function is called, and all buffered queries run their handlers. -/
lemma QueryInv.workflowCalled (h : QueryInv received responses w)
    (haccepts : ∀ query ∈ w.activator.bufferedQueries, c.accepts query = true)
    (hquiet : ∀ later batchIndex, w.phase ≠ .between later batchIndex) :
    QueryInv received
        (responses ++ responsesIn (w.pushed { w with activator := w.activator.workflowCalled c }))
        { w with activator := w.activator.workflowCalled c } ∧
      w.disturbed { w with activator := w.activator.workflowCalled c } = false := by
  obtain ⟨answers, adopted, rest, returnedPromises, hids, hbuffered⟩ :=
    Activator.queryBuffered_of_accepts (c := c)
      (a := { w.activator with
        workflowFunctionWasCalled := true
        startPending := false
        bufferedQueries := [] }) rfl haccepts
  have hactivator : w.activator.workflowCalled c =
      { w.activator with
        workflowFunctionWasCalled := true
        startPending := false
        bufferedQueries := []
        answers := w.activator.answers ++ answers
        adopted := w.activator.adopted ++ adopted
        rest
        returnedPromises } := hbuffered
  have hwaiting : (w.activator.workflowCalled c).waiting.Perm w.activator.waiting := by
    rw [hactivator]
    simp only [Activator.waiting, List.map_nil, List.append_nil, List.map_append]
    exact (perm_append_append _ _ _ _).trans (hids.append_left _)
  have hempty : (w.activator.workflowCalled c).bufferedQueries = [] := by rw [hactivator]
  have hbuffer : (w.activator.workflowCalled c).buffer = w.activator.buffer := by rw [hactivator]
  have hrejection : (w.activator.workflowCalled c).unhandledRejection = w.activator.unhandledRejection := by
    rw [hactivator]
  have hpushed :
      responsesIn (w.pushed { w with activator := w.activator.workflowCalled c }) = [] := by
    apply responsesIn_pushed_of_eq
    rw [hbuffer]
  rw [hpushed, List.append_nil]
  refine ⟨⟨?_, fun _ => hempty, h.noQueries, h.batches,
    fun later batchIndex hbetween => absurd hbetween (hquiet later batchIndex)⟩, ?_⟩
  · exact ((hwaiting.append_left _).append_right _).trans h.ids
  · simp [disturbed, Activator.truthyRejection, hbuffer, hrejection]

/-- A thenable that settles gives its query an answer. -/
lemma QueryInv.settlesQuery (h : QueryInv received responses w) {queryId : String}
    {answer : Except JsError V} {activator : Activator σ V}
    (hquiet : ∀ later batchIndex, w.phase ≠ .between later batchIndex)
    (hactivator : w.activator.settleQuery queryId answer = some activator) :
    QueryInv received (responses ++ responsesIn (w.pushed { w with activator })) { w with activator } ∧
      w.disturbed { w with activator } = false := by
  unfold Activator.settleQuery at hactivator
  split at hactivator
  · rename_i hmem
    cases hactivator
    have hpushed : responsesIn (w.pushed { w with activator := { w.activator with
        adopted := w.activator.adopted.erase queryId
        answers := w.activator.answers ++ [(queryId, answer)] } }) = [] := responsesIn_pushed_of_eq rfl
    rw [hpushed, List.append_nil]
    refine ⟨⟨?_, h.called, h.noQueries, h.batches,
      fun later batchIndex hbetween => absurd hbetween (hquiet later batchIndex)⟩, ?_⟩
    · refine List.Perm.trans ((List.Perm.append_left _ ?_).append_right _) h.ids
      simp only [Activator.waiting, List.map_append, List.map_cons, List.map_nil, List.append_assoc,
        List.singleton_append]
      refine List.Perm.append_left _ ?_
      exact (((List.perm_cons_erase hmem).map some).symm.append_right _)
    · simp [disturbed, Activator.truthyRejection]
  · cases hactivator

/-- The first answer becomes one response. -/
lemma QueryInv.answer (h : QueryInv received responses w) {activator : Activator σ V} {lost : List String}
    (hconverts : w.activator.answers.head?.all fun answer => c.converts answer.2)
    (hactivator : w.activator.answer c = some activator) :
    QueryInv received (responses ++ responsesIn (w.pushed { w with activator, lost })) { w with activator, lost } ∧
      w.disturbed { w with activator, lost } = false := by
  cases hanswers : w.activator.answers with
  | nil =>
    simp only [Activator.answer, hanswers] at hactivator
    cases hactivator
  | cons answer answers =>
    obtain ⟨queryId, result⟩ := answer
    rw [hanswers] at hconverts
    obtain ⟨response, hresponse⟩ :=
      Activator.answer_of_converts hanswers (by simpa using hconverts)
    have haccepts : w.activator.buffer.accepts (.respondToQuery queryId response) = true := by
      simp [CommandBuffer.accepts, Command.isRespondToQuery]
    have hbuffer : activator.buffer =
        ⟨w.activator.buffer.commands ++ [.respondToQuery queryId response],
          w.activator.buffer.completed⟩ := by
      rw [hresponse] at hactivator
      cases hactivator
      simp [Activator.pushCommand, CommandBuffer.pushCommand, haccepts]
    obtain ⟨hrest, hadopted, hbuffered, hcalled, hrejection⟩ : activator.answers = answers ∧
        activator.adopted = w.activator.adopted ∧
        activator.bufferedQueries = w.activator.bufferedQueries ∧
        activator.workflowFunctionWasCalled = w.activator.workflowFunctionWasCalled ∧
        activator.unhandledRejection = w.activator.unhandledRejection := by
      rw [hresponse] at hactivator
      cases hactivator
      exact ⟨rfl, rfl, rfl, rfl, rfl⟩
    have hpushed : responsesIn (w.pushed { w with activator, lost }) = [queryId] :=
      responsesIn_pushed [.respondToQuery queryId response] (by rw [hbuffer])
    have hids := h.ids
    rw [Activator.waiting, hanswers] at hids
    rw [hpushed]
    refine ⟨⟨?_, fun hcall => hbuffered.trans (h.called (hcalled ▸ hcall)), h.noQueries, h.batches,
      fun later batchIndex hbetween => ?_⟩, ?_⟩
    · refine List.Perm.trans (.of_eq ?_) hids
      simp [Activator.waiting, hrest, hadopted, hbuffered]
    · have hnone := h.quiet later batchIndex hbetween
      rw [hanswers] at hnone
      cases hnone
    · simp [disturbed, Activator.truthyRejection, hbuffer, hrejection]

lemma QueryInv.conclude (h : QueryInv received responses w) {batchIndex : ℕ}
    (hphase : w.phase = .between [] batchIndex) :
    QueryInv received (responses ++ responsesIn (w.pushed w.conclude)) w.conclude := by
  have hids := h.ids
  rw [hphase] at hids
  have hpushed : w.pushed w.conclude = [] := by simp [pushed, VMWorkflow.conclude,
    CommandBuffer.getAndResetCommands]
  rw [hpushed]
  refine ⟨?_, h.called, fun _ => rfl, by simp [VMWorkflow.conclude, Phase.batches],
    by simp [VMWorkflow.conclude]⟩
  simpa [Phase.todo, Activator.waiting, VMWorkflow.conclude, responsesIn] using hids

lemma QueryInv.code (h : QueryInv received responses w) {code : WorkflowCode σ V}
    {activator : Activator σ V} (hquiet : ∀ later batchIndex, w.phase ≠ .between later batchIndex)
    (hhandled : w.queriesHandled c (.code code) = true)
    (hactivator : w.activator.runCode c code = some activator) :
    QueryInv received (responses ++ responsesIn (w.pushed { w with activator })) { w with activator } ∧
      (w.handlesQuery (.code code) && w.disturbed { w with activator }) = false := by
  have hleaves (hcode : code ≠ .workflowCalled) (hsettles : ∀ queryId answer, code ≠ .settlesQuery queryId answer) :
      QueryInv received (responses ++ responsesIn (w.pushed { w with activator })) { w with activator } :=
    h.move rfl (.runCode hcode hsettles hactivator) rfl h.batches
      fun later batchIndex hbetween => absurd hbetween (hquiet later batchIndex)
  cases code with
  | workflowCalled =>
    simp only [Activator.runCode] at hactivator
    split at hactivator
    · cases hactivator
      obtain ⟨hinv, hdisturbed⟩ := h.workflowCalled (List.all_eq_true.mp hhandled) hquiet
      exact ⟨hinv, by rw [hdisturbed, Bool.and_false]⟩
    · cases hactivator
  | settlesQuery queryId answer =>
    obtain ⟨hinv, hdisturbed⟩ := h.settlesQuery hquiet hactivator
    exact ⟨hinv, by rw [hdisturbed, Bool.and_false]⟩
  | rejectsReturnedPromise err =>
    refine ⟨hleaves (by simp) (by simp), ?_⟩
    have hfalsy : err.isTruthy = false := by simpa [queriesHandled] using hhandled
    simp only [Activator.runCode, Activator.rejectReturnedPromise] at hactivator
    split at hactivator
    · cases hactivator
    · cases hactivator
      simp [disturbed, Activator.truthyRejection, Activator.setUnhandledRejection, hfalsy]
  | modify f => exact ⟨hleaves (by simp) (by simp), rfl⟩
  | push cmd => exact ⟨hleaves (by simp) (by simp), rfl⟩
  | setQueryHandler name handler => exact ⟨hleaves (by simp) (by simp), rfl⟩
  | workflowReturns result => exact ⟨hleaves (by simp) (by simp), rfl⟩
  | fails err => exact ⟨hleaves (by simp) (by simp), rfl⟩
  | rejects err => exact ⟨hleaves (by simp) (by simp), rfl⟩

/-- A step that only moves on within the activation -/
lemma QueryInv.moveOn (h : QueryInv received responses w) {phase : Phase}
    (htodo : queriesOf phase.todo = queriesOf w.phase.todo)
    (hbatches : ∀ batch ∈ phase.batches, batch ∈ w.phase.batches)
    (hquiet : ∀ later batchIndex, phase = .between later batchIndex → w.activator.answers = []) :
    QueryInv received (responses ++ responsesIn (w.pushed { w with phase })) { w with phase } :=
  h.move rfl (.refl _) htodo
    (fun batch hbatch => h.batches batch (hbatches batch hbatch)) hquiet

lemma QueryInv.step {input : VMInput σ V} (h : QueryInv received responses w)
    (hhandled : w.queriesHandled c input = true) (hstep : w.step c input = some w') :
    QueryInv (received ++ input.received) (responses ++ responsesIn (w.pushed w')) w' ∧
      (w.handlesQuery input && w.disturbed w') = false := by
  have hmoves (hinput : input = .leaveBatch ∨ input = .drained ∨ input = .unblocked) :
      QueryInv (received ++ input.received) (responses ++ responsesIn (w.pushed w')) w' ∧
        (w.handlesQuery input && w.disturbed w') = false := by
    obtain ⟨phase, rfl, htodo, hbatches, -, -, hquiet⟩ := step_moveOn hinput hstep
    have hothers : input.received = [] ∧ w.handlesQuery input = false := by
      rcases hinput with rfl | rfl | rfl <;> exact ⟨rfl, rfl⟩
    rw [hothers.1, hothers.2, List.append_nil]
    exact ⟨h.moveOn (by rw [htodo]) hbatches hquiet, rfl⟩
  cases input with
  | activate activation =>
    simp only [VMWorkflow.step] at hstep
    split at hstep
    · rename_i hphase hanswers
      cases hstep
      exact ⟨h.activate activation hphase hanswers, rfl⟩
    · cases hstep
  | enterBatch =>
    simp only [VMWorkflow.step] at hstep
    split at hstep
    · rename_i hphase
      cases hstep
      have hhistory : queriesOf w.jobs = [] ∨ w.activation.historyLength.isSome = true := by
        simpa [queriesHandled] using hhandled
      simp only [VMInput.received, List.append_nil]
      exact ⟨h.enterBatch hphase hhistory, rfl⟩
    · cases hstep
  | nextJob thrown =>
    simp only [VMWorkflow.step] at hstep
    split at hstep
    · rename_i job todo unblock later batchIndex hphase
      cases hstep
      simp only [VMInput.received, List.append_nil]
      cases hjob : job.isQueryWorkflow with
      | true =>
        cases job with
        | queryWorkflow query =>
          simp only [queriesHandled, hphase] at hhandled
          obtain ⟨hinv, hdisturbed⟩ := h.nextQuery hphase thrown fun hcalled => by
            simpa [hcalled] using hhandled
          exact ⟨hinv, by rw [hdisturbed, Bool.and_false]⟩
        | _ => cases hjob
      | false =>
        have hbefore : w.handlesQuery (.nextJob thrown) = false := by
          rw [handlesQuery, hphase]
          exact hjob
        refine ⟨h.nextOther hjob hphase ?_, by rw [hbefore, Bool.false_and]⟩
        have hcases : ((queriesOf w.jobs).isEmpty || (job != .unset && w.activator.buffer.completed) ||
            (w.activator.applyJob c job thrown).isOk) = true := by
          simp only [queriesHandled, hphase] at hhandled
          cases job with
          | queryWorkflow query => cases hjob
          | _ => exact hhandled
        simp only [Bool.or_eq_true, Bool.and_eq_true, List.isEmpty_iff, bne_iff_ne] at hcases
        rcases hcases with (hnone | hskip) | hok
        · exact Or.inl hnone
        · exact Or.inr (Or.inl hskip)
        · exact Or.inr (Or.inr (except_isOk hok))
    · cases hstep
  | leaveBatch => exact hmoves (Or.inl rfl)
  | code code =>
    obtain ⟨activator, hactivator, rfl, -, hphase⟩ := step_code hstep
    simp only [VMInput.received, List.append_nil]
    exact h.code hphase hhandled hactivator
  | answer =>
    obtain ⟨activator, hactivator, rfl, -⟩ := step_answer hstep
    simp only [VMInput.received, List.append_nil]
    obtain ⟨hinv, hdisturbed⟩ := h.answer hhandled hactivator
    exact ⟨hinv, by rw [hdisturbed, Bool.and_false]⟩
  | drained => exact hmoves (Or.inr (Or.inl rfl))
  | unblocked => exact hmoves (Or.inr (Or.inr rfl))
  | conclude =>
    simp only [VMWorkflow.step] at hstep
    simp only [VMInput.received, List.append_nil]
    split at hstep
    · rename_i hphase
      cases hstep
      exact ⟨h.conclude hphase, rfl⟩
    · cases hstep

end VMWorkflow

namespace QueryTrace

variable {c : Converters V} {t t' : QueryTrace σ V}

lemma step_eq_some {input : VMInput σ V} (h : t.step c input = some t') :
    ∃ w, t.workflow.step c input = some w ∧ t' = ⟨w, t.received ++ input.received,
      t.responses ++ responsesIn (t.workflow.pushed w),
      t.disturbed || (t.workflow.handlesQuery input && t.workflow.disturbed w)⟩ := by
  obtain ⟨w, hw, rfl⟩ := Option.map_eq_some_iff.mp h
  exact ⟨w, hw, rfl⟩

/-- Two queries arrive before the workflow function is called and wait for the next activation. The
handler of one returns a thenable, the other has none. -/
def queriedBeforeCall : List (VMInput Unit Unit) :=
  [.activate ⟨some [.queryWorkflow ⟨some "q", some "state", []⟩, .queryWorkflow ⟨some "r", some "unknown", []⟩],
      some ⟨0, 0⟩, some false, some 3⟩,
    .enterBatch, .nextJob none, .nextJob none, .leaveBatch, .drained, .conclude,
    .activate ⟨some [.startWorkflow], some ⟨0, 0⟩, some false, some 3⟩, .enterBatch, .nextJob none,
    .code (.setQueryHandler "state" (some fun _ s => (.thenable, s))), .code .workflowCalled, .leaveBatch,
    .answer, .code (.settlesQuery "q" (.ok ())), .answer, .drained, .unblocked, .conclude]

/-- The default payload converter, whose payloads are read as `undefined`. -/
def defaultConverters : Converters JsHeapValue where
  toPayload value :=
    ((defaultPayloadConverter asciiText emptyHeap 0).toPayload (emptyHeap.toText asciiText 0 []) value).map
      fun payload => ⟨payload.metadata.getD [], payload.data.getD []⟩
  fromPayload _ := .ok .undefined
  errorToFailure _ := .ok ⟨""⟩
  ensureTemporalFailure err := err

/-- The handler of a query returns a bigint. -/
def queriedForBigint : List (VMInput Unit JsHeapValue) :=
  [.activate ⟨some [.startWorkflow, .queryWorkflow ⟨some "q", some "state", []⟩], some ⟨0, 0⟩,
      some false, some 3⟩,
    .enterBatch, .nextJob none, .code .workflowCalled,
    .code (.setQueryHandler "state" (some fun _ s => (.returned (.bigint 1), s))), .leaveBatch, .drained,
    .unblocked, .enterBatch, .nextJob none, .leaveBatch, .answer, .drained, .conclude]

end QueryTrace

end TemporalSdk
