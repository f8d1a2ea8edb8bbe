import TemporalSdk.Workflow.Activation

/-!
# The commands of a run and the order of its jobs

One invariant relates the commands that have been handed out and those in the buffer to the
flag `completed`; another accounts for every job of the current activation.
-/

namespace TemporalSdk

variable {σ V : Type} {c : Converters V}

/-! ### The order of jobs -/

def WorkflowJob.isRest (job : WorkflowJob) : Bool :=
  !job.isNotifyHasPatch && !job.isSignalWorkflow && !job.isQueryWorkflow

/-- The jobs that are not queries, in the order in which they are to be applied. -/
def nonQueryJobs (jobs : List WorkflowJob) : List WorkflowJob :=
  jobs.filter WorkflowJob.isNotifyHasPatch ++ jobs.filter WorkflowJob.isSignalWorkflow ++
    jobs.filter WorkflowJob.isRest

def queryJobs (jobs : List WorkflowJob) : List WorkflowJob :=
  jobs.filter WorkflowJob.isQueryWorkflow

def orderedJobs (jobs : List WorkflowJob) : List WorkflowJob := nonQueryJobs jobs ++ queryJobs jobs

section Classes

variable (jobs : List WorkflowJob)

def nonPatches : List WorkflowJob := jobs.filter fun job => !job.isNotifyHasPatch

def nonSignals : List WorkflowJob := (nonPatches jobs).filter fun job => !job.isSignalWorkflow

lemma filter_isSignalWorkflow :
    jobs.filter WorkflowJob.isSignalWorkflow = (nonPatches jobs).filter WorkflowJob.isSignalWorkflow := by
  rw [nonPatches, List.filter_filter]
  refine List.filter_congr fun job _ => ?_
  cases job <;> rfl

lemma filter_isRest :
    jobs.filter WorkflowJob.isRest = (nonSignals jobs).filter fun job => !job.isQueryWorkflow := by
  simp only [nonSignals, nonPatches, List.filter_filter]
  refine List.filter_congr fun job _ => ?_
  cases job <;> rfl

lemma filter_isQueryWorkflow :
    jobs.filter WorkflowJob.isQueryWorkflow = (nonSignals jobs).filter WorkflowJob.isQueryWorkflow := by
  simp only [nonSignals, nonPatches, List.filter_filter]
  refine List.filter_congr fun job _ => ?_
  cases job <;> rfl

lemma flatten_jobBatches : (jobBatches jobs).flatten = orderedJobs jobs := by
  rw [orderedJobs, nonQueryJobs, queryJobs, filter_isSignalWorkflow jobs, filter_isRest jobs,
    filter_isQueryWorkflow jobs]
  simp only [jobBatches, partitionJobs, List.partition_eq_filter_filter,
    List.flatten_filter_not_isEmpty]
  simp [nonSignals, nonPatches, Function.comp_def]

end Classes

/-- All jobs of a batch are queries or none is. -/
def Homogeneous (batch : List WorkflowJob) : Prop :=
  (∀ job ∈ batch, job.isQueryWorkflow = true) ∨ ∀ job ∈ batch, job.isQueryWorkflow = false

/-- The classes of jobs that are not queries -/
lemma WorkflowJob.isQueryWorkflow_eq_false {job : WorkflowJob}
    (h : job.isNotifyHasPatch = true ∨ job.isSignalWorkflow = true ∨ job.isRest = true) :
    job.isQueryWorkflow = false := by
  cases job with
  | queryWorkflow query => rcases h with h | h | h <;> cases h
  | _ => rfl

lemma homogeneous_jobBatches (jobs : List WorkflowJob) : ∀ batch ∈ jobBatches jobs, Homogeneous batch := by
  intro batch hbatch
  simp only [jobBatches, partitionJobs, List.partition_eq_filter_filter, List.mem_filter] at hbatch
  have hcases := hbatch.1
  simp only [List.mem_cons, List.not_mem_nil, or_false] at hcases
  rcases hcases with rfl | rfl | rfl | rfl
  · refine Or.inr fun job hjob => ?_
    exact WorkflowJob.isQueryWorkflow_eq_false (Or.inl (List.mem_filter.mp hjob).2)
  · refine Or.inr fun job hjob => ?_
    exact WorkflowJob.isQueryWorkflow_eq_false (Or.inr (Or.inl (List.mem_filter.mp hjob).2))
  · refine Or.inr fun job hjob => ?_
    simpa using (List.mem_filter.mp hjob).2
  · refine Or.inl fun job hjob => ?_
    simpa using (List.mem_filter.mp hjob).2

lemma nonQueryJobs_isQueryWorkflow {jobs : List WorkflowJob} :
    ∀ job ∈ nonQueryJobs jobs, job.isQueryWorkflow = false := by
  intro job hjob
  apply WorkflowJob.isQueryWorkflow_eq_false
  simp only [nonQueryJobs, List.mem_append, List.mem_filter, or_assoc] at hjob
  rcases hjob with ⟨-, hjob⟩ | ⟨-, hjob⟩ | ⟨-, hjob⟩
  · exact Or.inl hjob
  · exact Or.inr (Or.inl hjob)
  · exact Or.inr (Or.inr hjob)

/-- Queries come last in the order. -/
lemma orderedJobs_pairwise (jobs : List WorkflowJob) :
    (orderedJobs jobs).Pairwise fun job job' => job.isQueryWorkflow = true → job'.isQueryWorkflow = true := by
  rw [orderedJobs, List.pairwise_append]
  have hnon := @nonQueryJobs_isQueryWorkflow jobs
  have hquery : ∀ job ∈ queryJobs jobs, job.isQueryWorkflow = true := fun job hjob =>
    (List.mem_filter.mp hjob).2
  refine ⟨?_, ?_, ?_⟩
  · refine List.Pairwise.imp_of_mem ?_ (List.pairwise_of_forall fun _ _ => trivial)
    intro job job' hjob _ _ hq
    rw [hnon job hjob] at hq
    cases hq
  · refine List.Pairwise.imp_of_mem ?_ (List.pairwise_of_forall fun _ _ => trivial)
    intro job job' _ hjob' _ _
    exact hquery job' hjob'
  · intro job hjob job' _ hq
    rw [hnon job hjob] at hq
    cases hq

/-! ### Commands -/

/-- After a terminal command there are only query responses. -/
def TerminalLast (log : List Command) : Prop :=
  log.Pairwise fun cmd cmd' => cmd.isTerminal = true → cmd'.isRespondToQuery = true

namespace CommandBuffer

/-- Commands have been pushed, each terminal one with `complete` set. -/
inductive Pushed : CommandBuffer → CommandBuffer → Prop
  | refl (b : CommandBuffer) : Pushed b b
  | push {b b' : CommandBuffer} (cmd : Command) (complete : Bool)
      (hcomplete : cmd.isTerminal = true → complete = true) (h : Pushed b b') :
      Pushed b (b'.pushCommand cmd complete)

variable {b b' b'' : CommandBuffer}

lemma Pushed.trans (h : Pushed b b') (h' : Pushed b' b'') : Pushed b b'' := by
  induction h' with
  | refl => exact h
  | push cmd complete hcomplete _ ih => exact .push cmd complete hcomplete ih

lemma mem_pushCommand {cmd cmd' : Command} {complete : Bool} (h : cmd' ∈ b.commands) :
    cmd' ∈ (b.pushCommand cmd complete).commands := by
  unfold pushCommand
  split
  · exact List.mem_append_left _ h
  · exact h

lemma Pushed.completed (h : Pushed b b') (hb : b.completed = true) : b'.completed = true := by
  induction h with
  | refl => exact hb
  | push cmd complete _ _ ih =>
    unfold pushCommand
    split
    · simp [ih]
    · exact ih

/-- The commands handed out before, `log`, and those in the buffer. -/
structure LogOk (log : List Command) (b : CommandBuffer) : Prop where
  terminalLast : TerminalLast (log ++ b.commands)
  completed : ∀ cmd ∈ log ++ b.commands, cmd.isTerminal = true → b.completed = true

lemma LogOk.pushCommand {log : List Command} {cmd : Command} {complete : Bool}
    (hcomplete : cmd.isTerminal = true → complete = true) (h : LogOk log b) :
    LogOk log (b.pushCommand cmd complete) := by
  unfold CommandBuffer.pushCommand
  split
  · rename_i haccepts
    constructor
    · show TerminalLast (log ++ (b.commands ++ [cmd]))
      rw [← List.append_assoc, TerminalLast, List.pairwise_append]
      refine ⟨h.terminalLast, List.pairwise_singleton _ _, fun cmd' hcmd' cmd'' hcmd'' hterminal => ?_⟩
      rw [List.mem_singleton] at hcmd''
      subst hcmd''
      have hcompleted := h.completed cmd' hcmd' hterminal
      simpa [accepts, hcompleted] using haccepts
    · intro cmd' hcmd' hterminal
      rw [← List.append_assoc, List.mem_append, List.mem_singleton] at hcmd'
      rcases hcmd' with hold | rfl
      · simp [h.completed cmd' hold hterminal]
      · simp [hcomplete hterminal]
  · exact h

lemma LogOk.pushed {log : List Command} (h : LogOk log b) (hpushed : Pushed b b') : LogOk log b' := by
  induction hpushed with
  | refl => exact h
  | push cmd complete hcomplete _ ih => exact ih.pushCommand hcomplete

end CommandBuffer

namespace Activator

/-! ### Queries -/

/-- The query has an answer, a response or a thenable that has not settled. -/
def Handled (a : Activator σ V) (queryId : String) : Prop :=
  (∃ answer, (queryId, answer) ∈ a.answers) ∨
    (∃ result, .respondToQuery queryId result ∈ a.buffer.commands) ∨ queryId ∈ a.adopted

/-- What every operation of the activator keeps, but for the reaction that answers a query. -/
structure Keeps (a a' : Activator σ V) : Prop where
  pushed : a.buffer.Pushed a'.buffer
  handled : ∀ queryId, a.Handled queryId → a'.Handled queryId

variable {a a' a'' : Activator σ V}

lemma Keeps.refl (a : Activator σ V) : Keeps a a := ⟨.refl _, fun _ h => h⟩

lemma Keeps.trans (h : Keeps a a') (h' : Keeps a' a'') : Keeps a a'' :=
  ⟨h.pushed.trans h'.pushed, fun queryId hq => h'.handled queryId (h.handled queryId hq)⟩

/-- Operations that touch none of the three fields. -/
lemma Keeps.of_eq (hbuffer : a'.buffer = a.buffer) (hanswers : a'.answers = a.answers)
    (hadopted : a'.adopted = a.adopted) : Keeps a a' := by
  refine ⟨hbuffer ▸ .refl _, fun queryId h => ?_⟩
  unfold Handled
  rw [hbuffer, hanswers, hadopted]
  exact h

lemma keeps_pushCommand {cmd : Command} {complete : Bool}
    (hcomplete : cmd.isTerminal = true → complete = true) : Keeps a (a.pushCommand cmd complete) := by
  refine ⟨.push cmd complete hcomplete (.refl _), fun queryId h => ?_⟩
  rcases h with hanswer | ⟨result, hresult⟩ | hadopted
  · exact Or.inl hanswer
  · exact Or.inr (Or.inl ⟨result, CommandBuffer.mem_pushCommand hresult⟩)
  · exact Or.inr (Or.inr hadopted)

lemma keeps_setUnhandledRejection {err : JsError} : Keeps a (a.setUnhandledRejection err) :=
  .of_eq rfl rfl rfl

lemma keeps_handleWorkflowFailure {err : JsError} : Keeps a (a.handleWorkflowFailure c err) := by
  unfold handleWorkflowFailure
  split
  · exact keeps_pushCommand fun _ => rfl
  · split
    · exact keeps_pushCommand fun _ => rfl
    · split
      · exact keeps_setUnhandledRejection
      · split
        · exact keeps_pushCommand fun _ => rfl
        · exact keeps_setUnhandledRejection

lemma keeps_completeWorkflow {result : V} : Keeps a (a.completeWorkflow c result) := by
  unfold completeWorkflow
  split
  · exact keeps_pushCommand fun _ => rfl
  · exact keeps_setUnhandledRejection

/-- A query response is taken also after completion. -/
lemma handled_pushCommand_respondToQuery {queryId : String} {result : QueryResult} {complete : Bool} :
    (a.pushCommand (.respondToQuery queryId result) complete).Handled queryId := by
  refine Or.inr (Or.inl ⟨result, ?_⟩)
  have haccepts : a.buffer.accepts (.respondToQuery queryId result) = true := by
    simp [CommandBuffer.accepts, Command.isRespondToQuery]
  simp [pushCommand, CommandBuffer.pushCommand, haccepts]

lemma handled_completeQuery {queryId : String} {result : V} (h : c.converts (.ok result) = true) :
    (a.completeQuery c queryId result).Handled queryId := by
  unfold completeQuery
  split
  · exact handled_pushCommand_respondToQuery
  · rename_i hresult
    simp [Converters.converts, hresult, Except.isOk, Except.toBool] at h

lemma handled_failQuery {queryId : String} {err : JsError} (h : c.converts (.error err : Except _ V) = true) :
    (a.failQuery c queryId err).Handled queryId := by
  unfold failQuery
  split
  · exact handled_pushCommand_respondToQuery
  · rename_i hfailure
    simp [Converters.converts, hfailure, Except.isOk, Except.toBool] at h

lemma keeps_completeQuery {queryId : String} {result : V} : Keeps a (a.completeQuery c queryId result) := by
  unfold completeQuery
  split
  · exact keeps_pushCommand fun h => by cases h
  · exact keeps_setUnhandledRejection

lemma keeps_failQuery {queryId : String} {err : JsError} : Keeps a (a.failQuery c queryId err) := by
  unfold failQuery
  split
  · exact keeps_pushCommand fun h => by cases h
  · exact keeps_setUnhandledRejection

/-- The reaction takes an answer off the queue and pushes its response, unless the answer is lost. -/
lemma handled_of_answer {queryId : String} {answer : Except JsError V}
    {answers : List (String × Except JsError V)} (hanswers : a.answers = (queryId, answer) :: answers)
    (hkeeps : Keeps { a with answers := answers } a')
    (hhandled : c.converts answer = true → a'.Handled queryId) :
    a.buffer.Pushed a'.buffer ∧
      ∀ queryId, a.Handled queryId → a'.Handled queryId ∨ queryId ∈ a.lostAnswer c := by
  refine ⟨hkeeps.pushed, fun queryId' h => ?_⟩
  rcases h with ⟨answer', hmem⟩ | hother
  · rw [hanswers, List.mem_cons] at hmem
    rcases hmem with heq | hmem
    · cases heq
      rw [lostAnswer, hanswers]
      cases hconverts : c.converts answer with
      | true => exact Or.inl (hhandled hconverts)
      | false => exact Or.inr (by simp [hconverts])
    · exact Or.inl (hkeeps.handled queryId' (Or.inl ⟨answer', hmem⟩))
  · exact Or.inl (hkeeps.handled queryId' (Or.inr hother))

lemma handled_answer (h : a.answer c = some a') :
    a.buffer.Pushed a'.buffer ∧
      ∀ queryId, a.Handled queryId → a'.Handled queryId ∨ queryId ∈ a.lostAnswer c := by
  unfold answer at h
  split at h
  · cases h
  · rename_i hanswers
    cases h
    exact handled_of_answer hanswers keeps_completeQuery handled_completeQuery
  · rename_i hanswers
    cases h
    exact handled_of_answer hanswers keeps_failQuery handled_failQuery

/-- A query handler changes only what workflow code can change. -/
lemma queryWorkflowNextHandler_snd (a : Activator σ V) (queryName : String) (args : List V) :
    ∃ rest returnedPromises,
      (a.queryWorkflowNextHandler queryName args).2 = { a with rest, returnedPromises } := by
  unfold queryWorkflowNextHandler
  split
  · exact ⟨a.rest, a.returnedPromises, rfl⟩
  · dsimp only
    split
    · exact ⟨_, a.returnedPromises, rfl⟩
    · exact ⟨_, a.returnedPromises, rfl⟩
    · exact ⟨_, _, rfl⟩
    · exact ⟨_, a.returnedPromises, rfl⟩

/-- A query that does not throw is buffered, or its answer waits for its reaction or for a thenable. -/
lemma queryWorkflow_ok {query : QueryWorkflow} (h : a.queryWorkflow c query = .ok a') :
    Keeps a a' ∧ (a.workflowFunctionWasCalled = true →
      ∃ queryId, query.queryId = some queryId ∧ a'.Handled queryId) := by
  unfold queryWorkflow at h
  split at h
  · rename_i hcalled
    cases h
    refine ⟨.of_eq rfl rfl rfl, fun hcalled' => ?_⟩
    simp [hcalled'] at hcalled
  · split at h
    · cases h
    · cases h
    · cases h
    · cases h
    · rename_i queryType queryId _ _ _ hid
      split at h
      · cases h
      · rename_i args _
        obtain ⟨rest, returnedPromises, hrest⟩ := queryWorkflowNextHandler_snd a queryType args
        generalize a.queryWorkflowNextHandler queryType args = next at h hrest
        obtain ⟨answer | answer, b⟩ := next <;> cases hrest <;> cases h
        · refine ⟨⟨.refl _, fun queryId' hq => ?_⟩, fun _ => ⟨queryId, hid, Or.inr (Or.inr ?_)⟩⟩
          · rcases hq with hanswer | hresponse | hadopted
            · exact Or.inl hanswer
            · exact Or.inr (Or.inl hresponse)
            · exact Or.inr (Or.inr (List.mem_append_left _ hadopted))
          · exact List.mem_concat_self
        · refine ⟨⟨.refl _, fun queryId' hq => ?_⟩, fun _ => ⟨queryId, hid, Or.inl ⟨answer, ?_⟩⟩⟩
          · rcases hq with ⟨answer', hanswer⟩ | hother
            · exact Or.inl ⟨answer', List.mem_append_left _ hanswer⟩
            · exact Or.inr hother
          · exact List.mem_concat_self

lemma keeps_queryBuffered (queries : List QueryWorkflow) :
    ∀ a : Activator σ V, Keeps a (a.queryBuffered c queries) := by
  induction queries with
  | nil => exact fun a => .refl a
  | cons query queries ih =>
    intro a
    unfold queryBuffered
    split
    · rename_i a' hquery
      exact (queryWorkflow_ok hquery).1.trans (ih a')
    · exact keeps_handleWorkflowFailure

lemma keeps_workflowCalled : Keeps a (a.workflowCalled c) := by
  unfold workflowCalled
  refine Keeps.trans ?_ (keeps_queryBuffered _ _)
  exact .of_eq rfl rfl rfl

lemma keeps_applyJob {job : WorkflowJob} {thrown : Option JsError}
    (h : a.applyJob c job thrown = .ok a') : Keeps a a' := by
  unfold applyJob at h
  split at h
  · cases h
  · cases h
  · cases h
  · cases h
    exact .refl a
  · cases h
  · cases h
  · exact (queryWorkflow_ok h).1
  · cases h
    exact .of_eq rfl rfl rfl
  · split at h
    · cases h
    · cases h
      exact .of_eq rfl rfl rfl
  · split at h
    · cases h
    · cases h
      exact .refl a
  · split at h
    · cases h
    · cases h
      exact .refl a

lemma keeps_header (activation : Activation) : Keeps a (a.header activation).2 := by
  unfold header
  refine .of_eq ?_ ?_ ?_ <;> (cases activation.timestamp <;> cases activation.historyLength <;> rfl)

/-- A thenable that settles gives its query an answer. -/
lemma keeps_settleQuery {queryId : String} {answer : Except JsError V}
    (h : a.settleQuery queryId answer = some a') : Keeps a a' := by
  unfold settleQuery at h
  split at h
  · cases h
    refine ⟨.refl _, fun queryId' hq => ?_⟩
    rcases hq with ⟨answer', hanswer⟩ | hresponse | hadopted
    · exact Or.inl ⟨answer', List.mem_append_left _ hanswer⟩
    · exact Or.inr (Or.inl hresponse)
    · by_cases heq : queryId' = queryId
      · subst heq
        exact Or.inl ⟨answer, List.mem_concat_self⟩
      · exact Or.inr (Or.inr ((List.mem_erase_of_ne heq).mpr hadopted))
  · cases h

lemma keeps_runCode {code : WorkflowCode σ V} (h : a.runCode c code = some a') : Keeps a a' := by
  cases code with
  | modify f =>
    cases h
    exact .of_eq rfl rfl rfl
  | push cmd =>
    simp only [runCode] at h
    split at h
    · cases h
    · rename_i hcmd
      cases h
      refine keeps_pushCommand fun hterminal => ?_
      simp [hterminal] at hcmd
  | setQueryHandler name handler =>
    cases handler with
    | none =>
      cases h
      exact .of_eq rfl rfl rfl
    | some fn =>
      cases h
      exact .of_eq rfl rfl rfl
  | workflowCalled =>
    simp only [runCode] at h
    split at h
    · cases h
      exact keeps_workflowCalled
    · cases h
  | workflowReturns result =>
    simp only [runCode] at h
    split at h
    · cases h
      exact keeps_completeWorkflow
    · cases h
  | fails err =>
    cases h
    exact keeps_handleWorkflowFailure
  | rejects err =>
    cases h
    exact keeps_setUnhandledRejection
  | settlesQuery queryId answer => exact keeps_settleQuery h
  | rejectsReturnedPromise err =>
    simp only [runCode, rejectReturnedPromise] at h
    split at h
    · cases h
    · cases h
      exact .of_eq rfl rfl rfl

end Activator

/-! ### Runs -/

/-- The jobs that are still to be looked at in the current activation. -/
def Phase.todo : Phase → List WorkflowJob
  | .idle => []
  | .between later _ => later.flatten
  | .jobs todo _ later _ => todo ++ later.flatten
  | .drain _ later _ => later.flatten
  | .unblock later _ => later.flatten

def Phase.batches : Phase → List (List WorkflowJob)
  | .idle => []
  | .between later _ => later
  | .jobs todo _ later _ => todo :: later
  | .drain _ later _ => later
  | .unblock later _ => later

/-- The next job is a query. -/
def Phase.isBeforeQuery : Phase → Bool
  | .jobs (job :: _) _ _ _ => job.isQueryWorkflow
  | _ => false

def ActivationRecord.commands (record : ActivationRecord) : List Command :=
  match record.result with
  | .successful commands => commands
  | _ => []

namespace ActivationRecord

/-- The jobs have been applied in their order, and if no job threw, then all queries have been,
and all other jobs up to one where the workflow had completed. -/
structure JobsOk (r : ActivationRecord) : Prop where
  ordered : r.applied.Sublist (orderedJobs r.jobs)
  applied : (∀ err, r.result ≠ .threw err) → ∃ done lost, nonQueryJobs r.jobs = done ++ lost ∧
    r.applied = done ++ queryJobs r.jobs ∧ (lost ≠ [] → r.completed = true)

/-- The queries applied after completion have been answered. -/
def QueriesAnswered (r : ActivationRecord) : Prop :=
  ∀ commands, r.result = .successful commands → ∀ query ∈ r.lateQueries, ∃ queryId result,
    query.queryId = some queryId ∧ .respondToQuery queryId result ∈ commands

end ActivationRecord

namespace VMWorkflow

def log (w : VMWorkflow σ V) : List Command := w.records.flatMap ActivationRecord.commands

/-- The commands of all completions and the jobs of all activations are as they should be. -/
structure CommandLogOk (c : Converters V) (w : VMWorkflow σ V) : Prop where
  terminalLast : TerminalLast w.log
  jobs : ∀ r ∈ w.records, r.JobsOk
  progress : w.phase ≠ .idle → w.activator.buffer.completed = false →
    w.applied ++ w.phase.todo = orderedJobs w.jobs
  ignored : ∀ job todo unblock later batchIndex thrown w',
    w.phase = .jobs (job :: todo) unblock later batchIndex → job.isQueryWorkflow = false →
    w.activator.buffer.completed = true → w.step c (.nextJob thrown) = some w' →
    w'.activator = w.activator
  answered : ∀ r ∈ w.records, r.QueriesAnswered

/-- The condition on a step: a query is applied to a completed workflow only after the workflow
function was called; and when the activation ends, no thenable of such a query is unsettled, and if
the answer to one could not be encoded, the unhandled rejection counts as true. -/
def lateQueriesHandled (w : VMWorkflow σ V) : VMInput σ V → Bool
  | .nextJob _ =>
    !(w.phase.isBeforeQuery && w.activator.buffer.completed) || w.activator.workflowFunctionWasCalled
  | .conclude => w.lateQueries.all fun query => query.queryId.all fun queryId =>
      !w.activator.adopted.contains queryId &&
        (!w.lost.contains queryId || w.activator.truthyRejection.isSome)
  | _ => true

/-- What has become of the jobs in order: the non-query jobs applied, those passed over because
the workflow had completed, the queries applied, and those still to be looked at. -/
def Accounted (jobs applied todo : List WorkflowJob) (completed : Bool) : Prop :=
  ∃ done lost queries, orderedJobs jobs = done ++ lost ++ queries ++ todo ∧
    applied = done ++ queries ∧ (∀ job ∈ done ++ lost, job.isQueryWorkflow = false) ∧
    (∀ job ∈ queries, job.isQueryWorkflow = true) ∧ (lost ≠ [] → completed = true)

namespace Accounted

variable {jobs applied todo : List WorkflowJob} {completed : Bool} {job : WorkflowJob}

lemma start : Accounted jobs [] (orderedJobs jobs) completed :=
  ⟨[], [], [], by simp⟩

lemma mono {completed' : Bool} (h : Accounted jobs applied todo completed)
    (hcompleted : completed = true → completed' = true) : Accounted jobs applied todo completed' := by
  obtain ⟨done, lost, queries, hordered, happlied, hnon, hqueries, hlost⟩ := h
  exact ⟨done, lost, queries, hordered, happlied, hnon, hqueries, fun h => hcompleted (hlost h)⟩

/-- No query has been applied while there are other jobs to be looked at. -/
lemma no_queries {done lost queries : List WorkflowJob}
    (hordered : orderedJobs jobs = done ++ lost ++ queries ++ job :: todo)
    (hqueries : ∀ job ∈ queries, job.isQueryWorkflow = true) (hjob : job.isQueryWorkflow = false) :
    queries = [] := by
  refine List.eq_nil_iff_forall_not_mem.mpr fun query hquery => ?_
  have hpairwise := orderedJobs_pairwise jobs
  rw [hordered, List.pairwise_append] at hpairwise
  have hlate := hpairwise.2.2 query (List.mem_append_right _ hquery) job List.mem_cons_self
    (hqueries query hquery)
  rw [hjob] at hlate
  cases hlate

lemma apply (h : Accounted jobs applied (job :: todo) completed)
    (hjob : job.isQueryWorkflow = false → completed = false) :
    Accounted jobs (applied ++ [job]) todo completed := by
  obtain ⟨done, lost, queries, hordered, happlied, hnon, hqueries, hlost⟩ := h
  cases hquery : job.isQueryWorkflow with
  | true =>
    refine ⟨done, lost, queries ++ [job], by simp [hordered], by simp [happlied], hnon, ?_, hlost⟩
    intro job' hjob'
    rcases List.mem_append.mp hjob' with hold | hnew
    · exact hqueries job' hold
    · rw [List.mem_singleton.mp hnew]
      exact hquery
  | false =>
    have hnone : queries = [] := no_queries hordered hqueries hquery
    have hkept : lost = [] := by
      by_contra hne
      have hcompleted := hlost hne
      rw [hjob hquery] at hcompleted
      cases hcompleted
    subst hnone hkept
    refine ⟨done ++ [job], [], [], by simp [hordered], by simp [happlied], ?_, by simp, by simp⟩
    intro job' hjob'
    simp only [List.append_nil, List.mem_append, List.mem_singleton] at hjob'
    rcases hjob' with hold | rfl
    · exact hnon job' (List.mem_append_left _ hold)
    · exact hquery

/-- The rest of a batch is passed over. -/
lemma skip {batch : List WorkflowJob} (h : Accounted jobs applied (job :: batch ++ todo) completed)
    (hcompleted : completed = true) (hbatch : ∀ job' ∈ job :: batch, job'.isQueryWorkflow = false) :
    Accounted jobs applied todo completed := by
  obtain ⟨done, lost, queries, hordered, happlied, hnon, hqueries, -⟩ := h
  have hnone : queries = [] :=
    no_queries hordered hqueries (hbatch job List.mem_cons_self)
  subst hnone
  refine ⟨done, lost ++ job :: batch, [], by simp [hordered], happlied, ?_, by simp, fun _ => hcompleted⟩
  intro job' hjob'
  rw [← List.append_assoc, List.mem_append] at hjob'
  exact hjob'.elim (hnon job') (hbatch job')

/-- While the workflow has not completed, no job is lost. -/
lemma complete (h : Accounted jobs applied todo false) : applied ++ todo = orderedJobs jobs := by
  obtain ⟨done, lost, queries, hordered, happlied, -, -, hlost⟩ := h
  have hkept : lost = [] := by
    by_contra hne
    cases hlost hne
  subst hkept
  simp [hordered, happlied]

lemma sublist (h : Accounted jobs applied todo completed) : applied.Sublist (orderedJobs jobs) := by
  obtain ⟨done, lost, queries, hordered, happlied, -⟩ := h
  rw [hordered, happlied]
  exact ((List.sublist_append_left done lost).append (List.Sublist.refl queries)).trans
    (List.sublist_append_left _ _)

/-- When nothing is left, the queries and the other jobs are told apart by the order. -/
lemma finish (h : Accounted jobs applied [] completed) :
    ∃ done lost, nonQueryJobs jobs = done ++ lost ∧ applied = done ++ queryJobs jobs ∧
      (lost ≠ [] → completed = true) := by
  obtain ⟨done, lost, queries, hordered, happlied, hnon, hqueries, hlost⟩ := h
  have hnonQuery : ∀ job ∈ nonQueryJobs jobs, job.isQueryWorkflow = false := nonQueryJobs_isQueryWorkflow
  rw [List.append_nil, orderedJobs] at hordered
  have hfilter := congrArg (List.filter WorkflowJob.isQueryWorkflow) hordered
  have hsplit := congrArg (List.filter fun job => !job.isQueryWorkflow) hordered
  have hjobs : ∀ job ∈ queryJobs jobs, job.isQueryWorkflow = true := fun job hjob =>
    (List.mem_filter.mp hjob).2
  rw [List.filter_append, List.filter_append, List.filter_eq_nil_iff.mpr, List.nil_append,
    List.filter_eq_self.mpr hjobs, List.filter_eq_nil_iff.mpr, List.nil_append,
    List.filter_eq_self.mpr hqueries] at hfilter
  · rw [hfilter, List.append_left_inj] at hordered
    exact ⟨done, lost, hordered, by rw [happlied, hfilter], hlost⟩
  · intro job hjob
    simp [hnon job hjob]
  · intro job hjob
    simp [hnonQuery job hjob]

end Accounted

lemma jobsOk_record {w : VMWorkflow σ V} (h : Accounted w.jobs w.applied w.phase.todo w.activator.buffer.completed)
    (htodo : w.phase.todo = []) (result : ActivationResult) : (w.record result).JobsOk := by
  refine ⟨h.sublist, fun _ => ?_⟩
  rw [htodo] at h
  exact h.finish

/-- The invariant of runs. -/
structure Inv (w : VMWorkflow σ V) : Prop where
  log : w.activator.buffer.LogOk w.log
  jobs : ∀ r ∈ w.records, r.JobsOk
  answered : ∀ r ∈ w.records, r.QueriesAnswered
  accounted : w.phase ≠ .idle →
    Accounted w.jobs w.applied w.phase.todo w.activator.buffer.completed
  batches : ∀ batch ∈ w.phase.batches, Homogeneous batch
  late : w.phase ≠ .idle → ∀ query ∈ w.lateQueries, ∃ queryId,
    query.queryId = some queryId ∧ (w.activator.Handled queryId ∨ queryId ∈ w.lost)
  quiet : ∀ later batchIndex, w.phase = .between later batchIndex → w.activator.answers = []

variable {w w' : VMWorkflow σ V}

lemma inv_create (rest : σ) : Inv (create rest : VMWorkflow σ V) where
  log := ⟨List.Pairwise.nil, by simp [create, log, Activator.create]⟩
  jobs := by simp [create]
  answered := by simp [create]
  accounted h := absurd rfl h
  batches := by simp [create, Phase.batches]
  late h := absurd rfl h
  quiet _ _ h := by cases h

/-- Steps that only run the activator and move on within the activation. -/
lemma Inv.move (h : Inv w) {activator : Activator σ V} {phase : Phase}
    (hkeeps : w.activator.Keeps activator) (htodo : phase.todo = w.phase.todo)
    (hbatches : ∀ batch ∈ phase.batches, batch ∈ w.phase.batches)
    (hidle : phase ≠ .idle → w.phase ≠ .idle)
    (hquiet : ∀ later batchIndex, phase = .between later batchIndex → activator.answers = []) :
    Inv { w with activator, phase } where
  log := h.log.pushed hkeeps.pushed
  jobs := h.jobs
  answered := h.answered
  accounted hphase := by
    have haccounted := (h.accounted (hidle hphase)).mono hkeeps.pushed.completed
    rw [← htodo] at haccounted
    exact haccounted
  batches batch hbatch := h.batches batch (hbatches batch hbatch)
  late hphase query hquery := by
    obtain ⟨queryId, hid, hhandled⟩ := h.late (hidle hphase) query hquery
    exact ⟨queryId, hid, hhandled.imp_left (hkeeps.handled queryId)⟩
  quiet := hquiet

lemma Inv.throw (h : Inv w) {activator : Activator σ V} (hkeeps : w.activator.Keeps activator)
    (happlied : w.applied.Sublist (orderedJobs w.jobs)) (err : JsError) :
    Inv ({ w with activator }.throw err) where
  log := by
    have hlog : ({ w with activator }.throw err).log = w.log := by
      simp [VMWorkflow.log, VMWorkflow.throw, record, ActivationRecord.commands]
    rw [hlog]
    exact h.log.pushed hkeeps.pushed
  jobs r hr := by
    rcases List.mem_append.mp hr with hold | hnew
    · exact h.jobs r hold
    · rw [List.mem_singleton.mp hnew]
      exact ⟨happlied, fun hne => absurd rfl (hne err)⟩
  answered r hr := by
    rcases List.mem_append.mp hr with hold | hnew
    · exact h.answered r hold
    · rw [List.mem_singleton.mp hnew]
      intro commands hcommands
      cases hcommands
  accounted hphase := absurd rfl hphase
  batches := by simp [VMWorkflow.throw, Phase.batches]
  late hphase := absurd rfl hphase
  quiet _ _ hphase := by cases hphase

lemma Inv.activate (h : Inv w) (activation : Activation) (hidle : w.phase = .idle)
    (hanswers : w.activator.answers = []) : Inv (w.activate activation) := by
  have hstart : Inv { w with activation := activation, applied := [], lateQueries := [], lost := [] } :=
    ⟨h.log, h.jobs, h.answered, fun hphase => absurd hidle hphase, h.batches,
      fun hphase => absurd hidle hphase, h.quiet⟩
  unfold VMWorkflow.activate
  split
  · exact hstart.throw (.refl _) (List.nil_sublist _) _
  · rename_i jobs hjobs
    refine ⟨h.log, h.jobs, h.answered, fun _ => ?_, homogeneous_jobBatches jobs, by simp, fun _ _ _ => hanswers⟩
    have htodo : (Phase.between (jobBatches jobs) 0).todo = orderedJobs jobs := flatten_jobBatches jobs
    rw [htodo]
    simp only [VMWorkflow.jobs, hjobs, Option.getD_some]
    exact Accounted.start

lemma Inv.enterBatch (h : Inv w) {batch : List WorkflowJob} {later : List (List WorkflowJob)}
    {batchIndex : ℕ} (hphase : w.phase = .between (batch :: later) batchIndex) :
    Inv (w.enterBatch batch later batchIndex) := by
  have hne : w.phase ≠ .idle := by simp [hphase]
  have htodo : w.phase.todo = batch ++ later.flatten := by rw [hphase, Phase.todo, List.flatten_cons]
  have hbatches : ∀ batch' ∈ batch :: later, batch' ∈ w.phase.batches := by
    rw [hphase]
    exact fun _ h => h
  have hkeeps := Activator.keeps_header (a := w.activator) w.activation
  unfold VMWorkflow.enterBatch
  split
  · split
    · rename_i hheader
      rw [hheader] at hkeeps
      exact h.throw hkeeps (h.accounted hne).sublist _
    · rename_i hheader
      rw [hheader] at hkeeps
      exact h.move hkeeps htodo.symm hbatches (fun _ => hne) fun _ _ hphase => by cases hphase
  · exact h.move (.refl _) htodo.symm hbatches (fun _ => hne) fun _ _ hphase => by cases hphase

lemma Inv.nextJob (h : Inv w) {job : WorkflowJob} {todo : List WorkflowJob} {unblock : Bool}
    {later : List (List WorkflowJob)} {batchIndex : ℕ} {thrown : Option JsError}
    (hphase : w.phase = .jobs (job :: todo) unblock later batchIndex)
    (hcalled : ∀ query, job = .queryWorkflow query → w.activator.buffer.completed = true →
      w.activator.workflowFunctionWasCalled = true) :
    Inv (w.nextJob c job todo unblock later batchIndex thrown) := by
  have hne : w.phase ≠ .idle := by simp [hphase]
  have haccounted := h.accounted hne
  rw [hphase] at haccounted
  have hhomogeneous : Homogeneous (job :: todo) := h.batches _ (by simp [hphase, Phase.batches])
  have hlater : ∀ batch ∈ later, Homogeneous batch := fun batch hbatch =>
    h.batches batch (by simp [hphase, Phase.batches, hbatch])
  unfold VMWorkflow.nextJob
  dsimp only
  split
  · rename_i hskip
    have hnon : job.isQueryWorkflow = false := by simpa using hskip.2.2
    have hbatch : ∀ job' ∈ job :: todo, job'.isQueryWorkflow = false := by
      refine hhomogeneous.resolve_left fun hqueries => ?_
      rw [hqueries job List.mem_cons_self] at hnon
      cases hnon
    refine ⟨h.log, h.jobs, h.answered, fun _ => haccounted.skip hskip.2.1 hbatch, hlater,
      fun _ => h.late hne, fun _ _ hphase => by cases hphase⟩
  · rename_i hskip
    split
    · exact h.throw (.refl _) (h.accounted hne).sublist _
    · rename_i activator hactivator
      have hkeeps := Activator.keeps_applyJob hactivator
      refine ⟨h.log.pushed hkeeps.pushed, h.jobs, h.answered, fun _ => ?_, ?_, fun _ query hquery => ?_,
        fun _ _ hphase => by cases hphase⟩
      · refine Accounted.mono (Accounted.apply haccounted fun hnon => ?_) hkeeps.pushed.completed
        have hset : job ≠ .unset := by
          rintro rfl
          cases hactivator
        simpa [hset, hnon] using hskip
      · intro batch hbatch
        rcases List.mem_cons.mp hbatch with rfl | hbatch
        · exact hhomogeneous.imp (fun h' job' hjob' => h' job' (List.mem_cons_of_mem _ hjob'))
            fun h' job' hjob' => h' job' (List.mem_cons_of_mem _ hjob')
        · exact hlater batch hbatch
      · have hold : query ∈ w.lateQueries → ∃ queryId, query.queryId = some queryId ∧
            (activator.Handled queryId ∨ queryId ∈ w.lost) := by
          intro hquery
          obtain ⟨queryId, hid, hhandled⟩ := h.late hne query hquery
          exact ⟨queryId, hid, hhandled.imp_left (hkeeps.handled queryId)⟩
        cases job with
        | queryWorkflow query' =>
          by_cases hcompleted : w.activator.buffer.completed = true
          · simp only [hcompleted, if_true, List.mem_append, List.mem_singleton] at hquery
            rcases hquery with hquery | rfl
            · exact hold hquery
            · obtain ⟨queryId, hid, hhandled⟩ :=
                (Activator.queryWorkflow_ok hactivator).2 (hcalled query rfl hcompleted)
              exact ⟨queryId, hid, Or.inl hhandled⟩
          · simp only [hcompleted] at hquery
            exact hold hquery
        | _ => exact hold hquery

/-- A reaction answers a query, or its answer is lost. -/
lemma Inv.answer (h : Inv w) {activator : Activator σ V} (hactivator : w.activator.answer c = some activator)
    (hphase : ∀ later batchIndex, w.phase ≠ .between later batchIndex) :
    Inv { w with activator, lost := w.lost ++ w.activator.lostAnswer c } := by
  obtain ⟨hpushed, hhandled⟩ := Activator.handled_answer hactivator
  refine ⟨h.log.pushed hpushed, h.jobs, h.answered, fun hne => (h.accounted hne).mono hpushed.completed,
    h.batches, fun hne query hquery => ?_, fun later batchIndex heq => absurd heq (hphase later batchIndex)⟩
  obtain ⟨queryId, hid, hold⟩ := h.late hne query hquery
  refine ⟨queryId, hid, ?_⟩
  rcases hold with hold | hlost
  · exact (hhandled queryId hold).imp_right (List.mem_append_right _)
  · exact Or.inr (List.mem_append_left _ hlost)

lemma Inv.conclude (h : Inv w) {batchIndex : ℕ} (hphase : w.phase = .between [] batchIndex)
    (hsettled : w.lateQueriesHandled .conclude = true) : Inv w.conclude := by
  have hne : w.phase ≠ .idle := by simp [hphase]
  have hanswers := h.quiet [] batchIndex hphase
  have hlog : w.conclude.log = w.log ++ w.activator.buffer.commands ∨ w.conclude.log = w.log := by
    unfold VMWorkflow.conclude
    cases w.activator.truthyRejection with
    | none => exact Or.inl (by simp [VMWorkflow.log, record, ActivationRecord.commands,
        CommandBuffer.getAndResetCommands])
    | some err => exact Or.inr (by simp [VMWorkflow.log, record, ActivationRecord.commands])
  have hsub : (w.conclude.log ++ w.conclude.activator.buffer.commands).Sublist
      (w.log ++ w.activator.buffer.commands) := by
    have hbuffer : w.conclude.activator.buffer.commands = [] := rfl
    rw [hbuffer, List.append_nil]
    rcases hlog with heq | heq
    · rw [heq]
    · rw [heq]
      exact List.sublist_append_left _ _
  refine ⟨⟨List.Pairwise.sublist hsub h.log.terminalLast,
    fun cmd hcmd => h.log.completed cmd (hsub.subset hcmd)⟩, fun r hr => ?_, fun r hr => ?_,
    fun hidle => absurd rfl hidle, by simp [VMWorkflow.conclude, Phase.batches],
    fun hidle => absurd rfl hidle, fun _ _ hidle => by cases hidle⟩
  · rcases List.mem_append.mp hr with hold | hnew
    · exact h.jobs r hold
    · rw [List.mem_singleton.mp hnew]
      exact jobsOk_record (h.accounted hne) (by simp [hphase, Phase.todo]) _
  · rcases List.mem_append.mp hr with hold | hnew
    · exact h.answered r hold
    · rw [List.mem_singleton.mp hnew]
      intro commands hcommands query hquery
      obtain ⟨queryId, hid, hhandled⟩ := h.late hne query hquery
      simp only [record] at hcommands
      split at hcommands
      · cases hcommands
      · rename_i hrejection
        cases hcommands
        have hquery := List.all_eq_true.mp hsettled query hquery
        rw [hid] at hquery
        simp only [Option.all_some, Bool.and_eq_true, Bool.not_eq_true', List.contains_eq_mem,
          decide_eq_false_iff_not, Bool.or_eq_true] at hquery
        rcases hhandled with (⟨answer, hanswer⟩ | ⟨result, hresult⟩ | hadopted) | hlost
        · rw [hanswers] at hanswer
          cases hanswer
        · exact ⟨queryId, result, hid, hresult⟩
        · exact absurd hadopted hquery.1
        · have hsome := hquery.2.resolve_left (absurd hlost)
          rw [hrejection] at hsome
          cases hsome

/-- A step within an activation that runs the activator and stays in its phase. -/
lemma Inv.stay (h : Inv w) {activator : Activator σ V} (hkeeps : w.activator.Keeps activator)
    (hphase : ∀ later batchIndex, w.phase ≠ .between later batchIndex) : Inv { w with activator } :=
  h.move hkeeps rfl (fun _ hbatch => hbatch) (fun hidle => hidle)
    fun later batchIndex heq => absurd heq (hphase later batchIndex)

/-- A step that only moves on within the activation. -/
lemma Inv.moveOn (h : Inv w) {phase : Phase} (htodo : phase.todo = w.phase.todo)
    (hbatches : ∀ batch ∈ phase.batches, batch ∈ w.phase.batches) (hidle : w.phase ≠ .idle)
    (hquiet : ∀ later batchIndex, phase = .between later batchIndex → w.activator.answers = []) :
    Inv { w with phase } :=
  h.move (.refl _) htodo hbatches (fun _ => hidle) hquiet

/-! What the steps within a batch do: two run the activator, three only move on. -/

lemma step_code {code : WorkflowCode σ V} (h : w.step c (.code code) = some w') :
    ∃ activator, w.activator.runCode c code = some activator ∧ { w with activator } = w' ∧
      w.phase ≠ .idle ∧ ∀ later batchIndex, w.phase ≠ .between later batchIndex := by
  simp only [VMWorkflow.step] at h
  split at h
  · rename_i hphase
    obtain ⟨activator, hactivator, hw'⟩ := Option.map_eq_some_iff.mp h
    exact ⟨activator, hactivator, hw', by simp [hphase], by simp [hphase]⟩
  · rename_i hphase
    obtain ⟨activator, hactivator, hw'⟩ := Option.map_eq_some_iff.mp h
    exact ⟨activator, hactivator, hw', by simp [hphase], by simp [hphase]⟩
  · rename_i hphase
    obtain ⟨activator, hactivator, hw'⟩ := Option.map_eq_some_iff.mp h
    exact ⟨activator, hactivator, hw', by simp [hphase], by simp [hphase]⟩
  · cases h

lemma step_answer (h : w.step c .answer = some w') :
    ∃ activator, w.activator.answer c = some activator ∧
      { w with activator, lost := w.lost ++ w.activator.lostAnswer c } = w' ∧
      ∀ later batchIndex, w.phase ≠ .between later batchIndex := by
  simp only [VMWorkflow.step] at h
  split at h
  · rename_i hphase
    obtain ⟨activator, hactivator, hw'⟩ := Option.map_eq_some_iff.mp h
    exact ⟨activator, hactivator, hw', by simp [hphase]⟩
  · rename_i hphase
    obtain ⟨activator, hactivator, hw'⟩ := Option.map_eq_some_iff.mp h
    exact ⟨activator, hactivator, hw', by simp [hphase]⟩
  · rename_i hphase
    obtain ⟨activator, hactivator, hw'⟩ := Option.map_eq_some_iff.mp h
    exact ⟨activator, hactivator, hw', by simp [hphase]⟩
  · cases h

lemma step_moveOn {input : VMInput σ V}
    (hinput : input = .leaveBatch ∨ input = .drained ∨ input = .unblocked)
    (h : w.step c input = some w') :
    ∃ phase, { w with phase } = w' ∧ phase.todo = w.phase.todo ∧
      (∀ batch ∈ phase.batches, batch ∈ w.phase.batches) ∧ w.phase ≠ .idle ∧ phase ≠ .idle ∧
      ∀ later batchIndex, phase = .between later batchIndex → w.activator.answers = [] := by
  rcases hinput with rfl | rfl | rfl
  · simp only [VMWorkflow.step] at h
    split at h
    · rename_i hphase
      cases h
      exact ⟨_, rfl, by simp [hphase, Phase.todo], by simp +contextual [hphase, Phase.batches],
        by simp [hphase], by simp, by simp⟩
    · cases h
  · simp only [VMWorkflow.step] at h
    split at h
    · rename_i hphase hanswers
      cases h
      exact ⟨_, rfl, by simp [hphase, Phase.todo], by simp [hphase, Phase.batches],
        by simp [hphase], by simp, fun _ _ _ => hanswers⟩
    · rename_i hphase hanswers
      cases h
      exact ⟨_, rfl, by simp [hphase, Phase.todo], by simp [hphase, Phase.batches],
        by simp [hphase], by simp, fun _ _ _ => hanswers⟩
    · cases h
  · simp only [VMWorkflow.step] at h
    split at h
    · rename_i hphase hanswers
      cases h
      exact ⟨_, rfl, by simp [hphase, Phase.todo], by simp [hphase, Phase.batches],
        by simp [hphase], by simp, fun _ _ _ => hanswers⟩
    · cases h

lemma Inv.step {input : VMInput σ V} (h : Inv w) (hlate : w.lateQueriesHandled input = true)
    (hstep : w.step c input = some w') : Inv w' := by
  have hmoves (hinput : input = .leaveBatch ∨ input = .drained ∨ input = .unblocked) : Inv w' := by
    obtain ⟨phase, rfl, htodo, hbatches, hidle, -, hquiet⟩ := step_moveOn hinput hstep
    exact h.moveOn htodo hbatches hidle hquiet
  cases input with
  | activate activation =>
    simp only [VMWorkflow.step] at hstep
    split at hstep
    · rename_i hphase hanswers
      cases hstep
      exact h.activate activation hphase hanswers
    · cases hstep
  | enterBatch =>
    simp only [VMWorkflow.step] at hstep
    split at hstep
    · rename_i hphase
      cases hstep
      exact h.enterBatch hphase
    · cases hstep
  | nextJob thrown =>
    simp only [VMWorkflow.step] at hstep
    split at hstep
    · rename_i job todo unblock later batchIndex hphase
      cases hstep
      refine h.nextJob hphase fun query hjob hcompleted => ?_
      subst hjob
      have hbefore : w.phase.isBeforeQuery = true := by rw [hphase]; rfl
      simpa [lateQueriesHandled, hbefore, hcompleted] using hlate
    · cases hstep
  | leaveBatch => exact hmoves (Or.inl rfl)
  | code code =>
    obtain ⟨activator, hactivator, rfl, -, hphase⟩ := step_code hstep
    exact h.stay (Activator.keeps_runCode hactivator) hphase
  | answer =>
    obtain ⟨activator, hactivator, rfl, hphase⟩ := step_answer hstep
    exact h.answer hactivator hphase
  | drained => exact hmoves (Or.inr (Or.inl rfl))
  | unblocked => exact hmoves (Or.inr (Or.inr rfl))
  | conclude =>
    simp only [VMWorkflow.step] at hstep
    split at hstep
    · rename_i hphase
      cases hstep
      exact h.conclude hphase hlate
    · cases hstep

/-- A job other than a query leaves the activator of a completed workflow as it is. -/
lemma activator_nextJob {job : WorkflowJob} {todo : List WorkflowJob} {unblock : Bool}
    {later : List (List WorkflowJob)} {batchIndex : ℕ} {thrown : Option JsError}
    (hjob : job.isQueryWorkflow = false) (hcompleted : w.activator.buffer.completed = true) :
    (w.nextJob c job todo unblock later batchIndex thrown).activator = w.activator := by
  unfold nextJob
  by_cases hset : job = .unset
  · subst hset
    rfl
  · simp [hset, hjob, hcompleted]

lemma Inv.commandLogOk (h : Inv w) : CommandLogOk c w where
  terminalLast := h.log.terminalLast.sublist (List.sublist_append_left _ _)
  jobs := h.jobs
  progress hphase hcompleted := by
    have haccounted := h.accounted hphase
    rw [hcompleted] at haccounted
    exact haccounted.complete
  ignored job todo unblock later batchIndex thrown w' hphase hjob hcompleted hstep := by
    simp only [VMWorkflow.step, hphase, Option.some.injEq] at hstep
    subst hstep
    exact activator_nextJob hjob hcompleted
  answered := h.answered

/-- When queries are only applied to a completed workflow after its function was called, and their
answers are there and not lost unnoticed when the activation ends, the commands and the jobs of a
run are as they should be. -/
theorem commandLogOk_of_lateQueriesHandled (c : Converters V) (rest : σ) (inputs : List (VMInput σ V))
    (w : VMWorkflow σ V) (hrun : Transition.run (VMWorkflow.step c) (create rest) inputs = some w)
    (hlate : Transition.Meets (VMWorkflow.step c) (fun w input => lateQueriesHandled w input = true)
      (create rest) inputs) :
    CommandLogOk c w :=
  (Transition.invariant_of_meets (fun _ _ _ h hlate hstep => Inv.step h hlate hstep)
    (inv_create rest) hlate hrun).commandLogOk

/-- Converters that lose all values. -/
def Converters.trivial : Converters Unit where
  toPayload _ := .ok ⟨[], []⟩
  fromPayload _ := .ok ()
  errorToFailure _ := .ok ⟨""⟩
  ensureTemporalFailure err := err

/-- A workflow that registers two query handlers, one of which returns a thenable, and completes,
and is queried. -/
def completedAndQueried : List (VMInput Unit Unit) :=
  [.activate ⟨some [.startWorkflow, .queryWorkflow ⟨some "q", some "later", []⟩,
      .queryWorkflow ⟨some "r", some "state", []⟩], some ⟨0, 0⟩, some false, some 3⟩,
    .enterBatch, .nextJob none, .code .workflowCalled,
    .code (.setQueryHandler "state" (some fun _ s => (.returned (), s))),
    .code (.setQueryHandler "later" (some fun _ s => (.thenable, s))), .leaveBatch,
    .code (.workflowReturns ()), .drained, .unblocked, .enterBatch, .nextJob none, .nextJob none,
    .leaveBatch, .answer, .code (.settlesQuery "q" (.ok ())), .answer, .drained, .conclude]

theorem commandLogOk_completedAndQueried :
    ∃ w, Transition.run (VMWorkflow.step Converters.trivial) (create ()) completedAndQueried = some w ∧
      CommandLogOk Converters.trivial w ∧
      w.log = [.completeWorkflowExecution ⟨[], []⟩, .respondToQuery "r" (.succeeded ⟨[], []⟩),
        .respondToQuery "q" (.succeeded ⟨[], []⟩)] :=
  ⟨_, rfl, commandLogOk_of_lateQueriesHandled Converters.trivial () completedAndQueried _ rfl (by decide), rfl⟩

/-- A signal handler fails the workflow before its function is called; queries are then
buffered, and never answered. -/
theorem not_commandLogOk_failed_by_signal :
    ∃ w, Transition.run (VMWorkflow.step Converters.trivial) (create ())
        [.activate ⟨some [.startWorkflow, .signalWorkflow (some "stop")], some ⟨0, 0⟩, some false, some 3⟩,
          .enterBatch, .nextJob none, .leaveBatch, .code (.fails (.temporalFailure "stopped")), .drained,
          .unblocked, .enterBatch, .nextJob none, .drained, .unblocked, .conclude,
          .activate ⟨some [.queryWorkflow ⟨some "q", some "state", []⟩], none, some false, some 4⟩,
          .enterBatch, .nextJob none, .leaveBatch, .drained, .conclude] = some w ∧
      ¬CommandLogOk Converters.trivial w := by
  refine ⟨_, rfl, fun h => ?_⟩
  obtain ⟨_, _, -, hmem⟩ := h.answered
    ⟨[.queryWorkflow ⟨some "q", some "state", []⟩], [.queryWorkflow ⟨some "q", some "state", []⟩],
      [⟨some "q", some "state", []⟩], true, .successful []⟩ (by decide) [] rfl
    ⟨some "q", some "state", []⟩ (by decide)
  cases hmem

end VMWorkflow

end TemporalSdk
