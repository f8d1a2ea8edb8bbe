import TemporalSdk.Common.Time
import TemporalSdk.Library.Pipeline

/-!
# The options of a worker

`addDefaultWorkerOptions` gives the options that are absent their defaults, of which some depend on other
options, and `compileWorkerOptions` then corrects the sizes that do not fit together.
-/

namespace TemporalSdk

def msOptionalToNumber (parseMs : String → Option JsNumber) : Option Duration → Except JsError (Option JsNumber)
  | none => .ok none
  | some val => some <$> msToNumber parseMs val

/-- The options that have a default or are compiled -/
structure WorkerOptions (C : Type) where
  identity : Option String := none
  namespace_ : Option String := none
  useVersioning : Option Bool := none
  shutdownGraceTime : Option Duration := none
  shutdownForceTime : Option Duration := none
  maxConcurrentActivityTaskExecutions : Option ℤ := none
  maxConcurrentLocalActivityExecutions : Option ℤ := none
  maxConcurrentWorkflowTaskExecutions : Option ℤ := none
  maxConcurrentWorkflowTaskPolls : Option ℤ := none
  maxConcurrentActivityTaskPolls : Option ℤ := none
  enableNonLocalActivities : Option Bool := none
  stickyQueueScheduleToStartTimeout : Option Duration := none
  maxHeartbeatThrottleInterval : Option Duration := none
  defaultHeartbeatThrottleInterval : Option Duration := none
  workflowThreadPoolSize : Option ℤ := none
  maxCachedWorkflows : Option ℤ := none
  enableSDKTracing : Option Bool := none
  showStackTraceSources : Option Bool := none
  reuseV8Context : Option Bool := none
  debugMode : Option Bool := none
  dataConverter : Option C := none

structure WorkerOptionsWithDefaults (C : Type) where
  identity : String
  namespace_ : String
  useVersioning : Bool
  shutdownGraceTime : Duration
  shutdownForceTime : Option Duration
  maxConcurrentActivityTaskExecutions : ℤ
  maxConcurrentLocalActivityExecutions : ℤ
  maxConcurrentWorkflowTaskExecutions : ℤ
  maxConcurrentWorkflowTaskPolls : ℤ
  maxConcurrentActivityTaskPolls : ℤ
  enableNonLocalActivities : Bool
  stickyQueueScheduleToStartTimeout : Duration
  maxHeartbeatThrottleInterval : Duration
  defaultHeartbeatThrottleInterval : Duration
  isolateExecutionTimeout : Duration
  workflowThreadPoolSize : ℤ
  maxCachedWorkflows : ℤ
  enableSDKTracing : Bool
  showStackTraceSources : Bool
  reuseV8Context : Bool
  debugMode : Bool
  dataConverter : Option C

structure CompiledWorkerOptions (C L : Type) extends WorkerOptionsWithDefaults C where
  shutdownGraceTimeMs : JsNumber
  shutdownForceTimeMs : Option JsNumber
  stickyQueueScheduleToStartTimeoutMs : JsNumber
  isolateExecutionTimeoutMs : JsNumber
  maxHeartbeatThrottleIntervalMs : JsNumber
  defaultHeartbeatThrottleIntervalMs : JsNumber
  loadedDataConverter : L

/-- The process that the worker runs in, with its heap size limit in bytes -/
structure Process where
  pid : ℕ
  hostname : String
  temporalDebug : Option String
  heapSizeLimit : ℕ

def isSet : Option String → Bool
  | none => false
  | some env =>
    let env := env.toLower
    env = "1" || env = "t" || env = "true"

namespace Process

variable (process : Process)

def heapSizeMiB : ℚ := process.heapSizeLimit / 1024 ^ 2

def defaultMaxCachedWorkflows (reuseV8Context : Bool) : ℤ :=
  if reuseV8Context then max (max (process.heapSizeMiB - 200) 0 * 600 / 1024).floor 10
  else max (max (process.heapSizeMiB - 400) 0 * 250 / 1024).floor 10

end Process

namespace WorkerOptions

variable {C : Type} (process : Process) (options : WorkerOptions C)

def addDefaultWorkerOptions : WorkerOptionsWithDefaults C :=
  let debugMode := options.debugMode.getD false || isSet process.temporalDebug
  let maxConcurrentWorkflowTaskExecutions := options.maxConcurrentWorkflowTaskExecutions.getD 40
  let maxConcurrentActivityTaskExecutions := options.maxConcurrentActivityTaskExecutions.getD 100
  let reuseV8Context := options.reuseV8Context.getD false
  { namespace_ := options.namespace_.getD "default"
    identity := options.identity.getD (toString process.pid ++ "@" ++ process.hostname)
    useVersioning := options.useVersioning.getD false
    shutdownGraceTime := options.shutdownGraceTime.getD (.number (.finite 0))
    shutdownForceTime := options.shutdownForceTime
    maxConcurrentLocalActivityExecutions := options.maxConcurrentLocalActivityExecutions.getD 100
    enableNonLocalActivities := options.enableNonLocalActivities.getD true
    maxConcurrentWorkflowTaskPolls :=
      options.maxConcurrentWorkflowTaskPolls.getD (min 10 maxConcurrentWorkflowTaskExecutions)
    maxConcurrentActivityTaskPolls :=
      options.maxConcurrentActivityTaskPolls.getD (min 10 maxConcurrentActivityTaskExecutions)
    stickyQueueScheduleToStartTimeout := options.stickyQueueScheduleToStartTimeout.getD (.text "10s")
    maxHeartbeatThrottleInterval := options.maxHeartbeatThrottleInterval.getD (.text "60s")
    defaultHeartbeatThrottleInterval := options.defaultHeartbeatThrottleInterval.getD (.text "30s")
    isolateExecutionTimeout := if debugMode then .text "4294967295ms" else .text "5s"
    workflowThreadPoolSize := options.workflowThreadPoolSize.getD (if reuseV8Context then 1 else 2)
    maxCachedWorkflows := options.maxCachedWorkflows.getD (process.defaultMaxCachedWorkflows reuseV8Context)
    enableSDKTracing := options.enableSDKTracing.getD false
    showStackTraceSources := options.showStackTraceSources.getD false
    reuseV8Context
    debugMode := options.debugMode.getD debugMode
    dataConverter := options.dataConverter
    maxConcurrentWorkflowTaskExecutions
    maxConcurrentActivityTaskExecutions }

end WorkerOptions

namespace WorkerOptionsWithDefaults

variable {C L : Type} (opts : WorkerOptionsWithDefaults C)

/-- Options that are corrected with a warning -/
abbrev Corrected (C : Type) := WorkerOptionsWithDefaults C × List String

def correctMaxCachedWorkflows : Corrected C :=
  if opts.maxCachedWorkflows ≠ 0 ∧ opts.maxCachedWorkflows < 2 then
    ({ opts with maxCachedWorkflows := 2 },
      ["maxCachedWorkflows must be either 0 (ie. cache is disabled) or greater than 1. Defaulting to 2."])
  else (opts, [])

def limitMaxConcurrentWorkflowTaskExecutions : Corrected C :=
  if opts.maxCachedWorkflows > 0 ∧ opts.maxConcurrentWorkflowTaskExecutions > opts.maxCachedWorkflows then
    ({ opts with maxConcurrentWorkflowTaskExecutions := opts.maxCachedWorkflows },
      ["maxConcurrentWorkflowTaskExecutions can't exceed maxCachedWorkflows (unless cache is disabled). " ++
        "Defaulting to maxCachedWorkflows."])
  else (opts, [])

def raiseMaxConcurrentWorkflowTaskExecutions : Corrected C :=
  if opts.maxCachedWorkflows > 0 ∧ opts.maxConcurrentWorkflowTaskExecutions < 2 then
    ({ opts with maxConcurrentWorkflowTaskExecutions := 2 },
      ["maxConcurrentWorkflowTaskExecutions can't be lower than 2 if maxCachedWorkflows is non-zero. " ++
        "Defaulting to 2."])
  else (opts, [])

/-- The three corrections, one after the other, with their warnings -/
def correct : Corrected C :=
  let (opts, warnings₁) := opts.correctMaxCachedWorkflows
  let (opts, warnings₂) := opts.limitMaxConcurrentWorkflowTaskExecutions
  let (opts, warnings₃) := opts.raiseMaxConcurrentWorkflowTaskExecutions
  (opts, warnings₁ ++ warnings₂ ++ warnings₃)

variable (parseMs : String → Option JsNumber) (loadDataConverter : Option C → Except JsError L)

/-- `compileWorkerOptions`, with what is logged -/
def compileWorkerOptions : Except JsError (CompiledWorkerOptions C L × List String) := do
  let (opts, warnings) := opts.correct
  let shutdownGraceTimeMs ← msToNumber parseMs opts.shutdownGraceTime
  let shutdownForceTimeMs ← msOptionalToNumber parseMs opts.shutdownForceTime
  let stickyQueueScheduleToStartTimeoutMs ← msToNumber parseMs opts.stickyQueueScheduleToStartTimeout
  let isolateExecutionTimeoutMs ← msToNumber parseMs opts.isolateExecutionTimeout
  let maxHeartbeatThrottleIntervalMs ← msToNumber parseMs opts.maxHeartbeatThrottleInterval
  let defaultHeartbeatThrottleIntervalMs ← msToNumber parseMs opts.defaultHeartbeatThrottleInterval
  let loadedDataConverter ← loadDataConverter opts.dataConverter
  return ({ opts with
    shutdownGraceTimeMs, shutdownForceTimeMs, stickyQueueScheduleToStartTimeoutMs, isolateExecutionTimeoutMs,
    maxHeartbeatThrottleIntervalMs, defaultHeartbeatThrottleIntervalMs, loadedDataConverter }, warnings)

end WorkerOptionsWithDefaults

/-! ### The sizes -/

namespace CompiledWorkerOptions

variable {C L : Type}

/-- The executions fit into the cache, and the polls that were not given into the executions. -/
structure WithinLimits (options : WorkerOptions C) (compiled : CompiledWorkerOptions C L) : Prop where
  executions : compiled.maxCachedWorkflows = 0 ∨
    2 ≤ compiled.maxConcurrentWorkflowTaskExecutions ∧
      compiled.maxConcurrentWorkflowTaskExecutions ≤ compiled.maxCachedWorkflows
  workflowPolls : options.maxConcurrentWorkflowTaskPolls = none →
    compiled.maxConcurrentWorkflowTaskPolls ≤ compiled.maxConcurrentWorkflowTaskExecutions
  activityPolls : options.maxConcurrentActivityTaskPolls = none →
    compiled.maxConcurrentActivityTaskPolls ≤ compiled.maxConcurrentActivityTaskExecutions

end CompiledWorkerOptions

/-- A cache size that is given is 0, or no smaller than the default of the polls once it is corrected; or the
polls are given too. -/
def WorkerOptions.PollsFit {C : Type} (options : WorkerOptions C) : Prop :=
  options.maxConcurrentWorkflowTaskPolls = none → ∀ cached, options.maxCachedWorkflows = some cached →
    cached = 0 ∨ min 10 (options.maxConcurrentWorkflowTaskExecutions.getD 40) ≤ max cached 2

namespace WorkerOptionsWithDefaults

variable {C L : Type} (opts : WorkerOptionsWithDefaults C)

/-- The number of workflows that are cached, and that of workflow tasks that are executed at once -/
def cachedWorkflows : ℤ := if opts.maxCachedWorkflows = 0 then 0 else max opts.maxCachedWorkflows 2

def workflowTaskExecutions : ℤ :=
  if opts.maxCachedWorkflows = 0 then opts.maxConcurrentWorkflowTaskExecutions
  else max (min opts.maxConcurrentWorkflowTaskExecutions opts.cachedWorkflows) 2

lemma correctMaxCachedWorkflows_eq :
    opts.correctMaxCachedWorkflows.1 = { opts with maxCachedWorkflows := opts.cachedWorkflows } := by
  unfold correctMaxCachedWorkflows cachedWorkflows
  split
  · rename_i h
    rw [if_neg h.1, max_eq_right h.2.le]
  · rename_i h
    split
    · rename_i hzero
      exact congrArg (fun n => { opts with maxCachedWorkflows := n }) hzero
    · rename_i hzero
      have hcached : 2 ≤ opts.maxCachedWorkflows := not_lt.mp fun hlt => h ⟨hzero, hlt⟩
      rw [max_eq_left hcached]

lemma limitMaxConcurrentWorkflowTaskExecutions_eq (h : 0 ≤ opts.maxCachedWorkflows) :
    opts.limitMaxConcurrentWorkflowTaskExecutions.1 =
      { opts with maxConcurrentWorkflowTaskExecutions :=
          if opts.maxCachedWorkflows = 0 then opts.maxConcurrentWorkflowTaskExecutions
          else min opts.maxConcurrentWorkflowTaskExecutions opts.maxCachedWorkflows } := by
  unfold limitMaxConcurrentWorkflowTaskExecutions
  split
  · rename_i hlimit
    rw [if_neg hlimit.1.ne', min_eq_right hlimit.2.le]
  · rename_i hlimit
    split
    · rfl
    · rename_i hzero
      have hle : opts.maxConcurrentWorkflowTaskExecutions ≤ opts.maxCachedWorkflows :=
        not_lt.mp fun hlt => hlimit ⟨lt_of_le_of_ne h (Ne.symm hzero), hlt⟩
      rw [min_eq_left hle]

lemma raiseMaxConcurrentWorkflowTaskExecutions_eq (h : 0 ≤ opts.maxCachedWorkflows) :
    opts.raiseMaxConcurrentWorkflowTaskExecutions.1 =
      { opts with maxConcurrentWorkflowTaskExecutions :=
          if opts.maxCachedWorkflows = 0 then opts.maxConcurrentWorkflowTaskExecutions
          else max opts.maxConcurrentWorkflowTaskExecutions 2 } := by
  unfold raiseMaxConcurrentWorkflowTaskExecutions
  split
  · rename_i hraise
    rw [if_neg hraise.1.ne', max_eq_right hraise.2.le]
  · rename_i hraise
    split
    · rfl
    · rename_i hzero
      have hle : 2 ≤ opts.maxConcurrentWorkflowTaskExecutions :=
        not_lt.mp fun hlt => hraise ⟨lt_of_le_of_ne h (Ne.symm hzero), hlt⟩
      rw [max_eq_left hle]

lemma cachedWorkflows_nonneg : 0 ≤ opts.cachedWorkflows := by
  unfold cachedWorkflows
  split <;> omega

lemma cachedWorkflows_eq_zero_iff : opts.cachedWorkflows = 0 ↔ opts.maxCachedWorkflows = 0 := by
  unfold cachedWorkflows
  split <;> omega

/-- Nothing but the two sizes is corrected. -/
lemma correct_eq : opts.correct.1 =
    { opts with
      maxCachedWorkflows := opts.cachedWorkflows
      maxConcurrentWorkflowTaskExecutions := opts.workflowTaskExecutions } := by
  have hnonneg := opts.cachedWorkflows_nonneg
  have hlimit := limitMaxConcurrentWorkflowTaskExecutions_eq
    { opts with maxCachedWorkflows := opts.cachedWorkflows } hnonneg
  simp only [cachedWorkflows_eq_zero_iff] at hlimit
  have hraise := raiseMaxConcurrentWorkflowTaskExecutions_eq
    { opts with
      maxCachedWorkflows := opts.cachedWorkflows
      maxConcurrentWorkflowTaskExecutions :=
        if opts.maxCachedWorkflows = 0 then opts.maxConcurrentWorkflowTaskExecutions
        else min opts.maxConcurrentWorkflowTaskExecutions opts.cachedWorkflows } hnonneg
  simp only [cachedWorkflows_eq_zero_iff] at hraise
  rw [correct]
  simp only [correctMaxCachedWorkflows_eq, hlimit, hraise, workflowTaskExecutions]
  split <;> rfl

variable {opts} {parseMs : String → Option JsNumber} {loadDataConverter : Option C → Except JsError L}
  {compiled : CompiledWorkerOptions C L} {warnings : List String}

/-- The options are compiled as they have been corrected. -/
lemma compileWorkerOptions_eq
    (h : opts.compileWorkerOptions parseMs loadDataConverter = .ok (compiled, warnings)) :
    compiled.toWorkerOptionsWithDefaults = opts.correct.1 := by
  obtain ⟨shutdownGraceTimeMs, -, h⟩ := Pipeline.bind_eq_ok.mp h
  obtain ⟨shutdownForceTimeMs, -, h⟩ := Pipeline.bind_eq_ok.mp h
  obtain ⟨stickyQueueScheduleToStartTimeoutMs, -, h⟩ := Pipeline.bind_eq_ok.mp h
  obtain ⟨isolateExecutionTimeoutMs, -, h⟩ := Pipeline.bind_eq_ok.mp h
  obtain ⟨maxHeartbeatThrottleIntervalMs, -, h⟩ := Pipeline.bind_eq_ok.mp h
  obtain ⟨defaultHeartbeatThrottleIntervalMs, -, h⟩ := Pipeline.bind_eq_ok.mp h
  obtain ⟨loadedDataConverter, -, h⟩ := Pipeline.bind_eq_ok.mp h
  cases h
  rfl

/-- The executions always fit into the cache. -/
lemma workflowTaskExecutions_within (opts : WorkerOptionsWithDefaults C) : opts.cachedWorkflows = 0 ∨
    2 ≤ opts.workflowTaskExecutions ∧ opts.workflowTaskExecutions ≤ opts.cachedWorkflows := by
  by_cases hzero : opts.maxCachedWorkflows = 0
  · exact .inl (opts.cachedWorkflows_eq_zero_iff.mpr hzero)
  · right
    rw [workflowTaskExecutions, if_neg hzero]
    refine ⟨le_max_right _ _, max_le (min_le_right _ _) ?_⟩
    rw [cachedWorkflows, if_neg hzero]
    exact le_max_right _ _

/-- A default that is at most the executions that were asked for fits if it fits into the cache. -/
lemma le_workflowTaskExecutions_iff {n : ℤ} (h : n ≤ opts.maxConcurrentWorkflowTaskExecutions) :
    n ≤ opts.workflowTaskExecutions ↔ opts.maxCachedWorkflows = 0 ∨ n ≤ max opts.maxCachedWorkflows 2 := by
  unfold workflowTaskExecutions cachedWorkflows
  split <;> omega

end WorkerOptionsWithDefaults

namespace WorkerOptions

variable {C L : Type} {process : Process} {options : WorkerOptions C}

lemma ten_le_defaultMaxCachedWorkflows (process : Process) (reuseV8Context : Bool) :
    10 ≤ process.defaultMaxCachedWorkflows reuseV8Context := by
  unfold Process.defaultMaxCachedWorkflows
  split <;> exact le_max_right _ _

/-- The default of the polls fits unless the cache is given. -/
lemma pollsFit_iff (h : options.maxConcurrentWorkflowTaskPolls = none) :
    options.PollsFit ↔ (options.addDefaultWorkerOptions process).maxConcurrentWorkflowTaskPolls ≤
      (options.addDefaultWorkerOptions process).workflowTaskExecutions := by
  have hpolls : (options.addDefaultWorkerOptions process).maxConcurrentWorkflowTaskPolls =
      min 10 (options.maxConcurrentWorkflowTaskExecutions.getD 40) := by
    simp [addDefaultWorkerOptions, h]
  have hcached : (options.addDefaultWorkerOptions process).maxCachedWorkflows =
      options.maxCachedWorkflows.getD
        (process.defaultMaxCachedWorkflows (options.reuseV8Context.getD false)) := rfl
  have hle : min 10 (options.maxConcurrentWorkflowTaskExecutions.getD 40) ≤
      (options.addDefaultWorkerOptions process).maxConcurrentWorkflowTaskExecutions := min_le_right _ _
  rw [hpolls, WorkerOptionsWithDefaults.le_workflowTaskExecutions_iff hle, hcached, PollsFit]
  cases options.maxCachedWorkflows with
  | none =>
    have hdefault := ten_le_defaultMaxCachedWorkflows process (options.reuseV8Context.getD false)
    refine iff_of_true (fun _ cached hnone => by cases hnone) (.inr ?_)
    exact (min_le_left _ _).trans (hdefault.trans (le_max_left _ _))
  | some cached => simp [h]

end WorkerOptions

namespace CompiledWorkerOptions

variable {C L : Type} {process : Process} {options : WorkerOptions C} {parseMs : String → Option JsNumber}
  {loadDataConverter : Option C → Except JsError L} {compiled : CompiledWorkerOptions C L} {warnings : List String}

end CompiledWorkerOptions

/-! ### A small cache -/

def exampleProcess : Process := ⟨1, "localhost", none, 4 * 1024 ^ 3⟩

def parseExampleMs : String → Option JsNumber
  | "10s" => some (.finite 10000)
  | "60s" => some (.finite 60000)
  | "30s" => some (.finite 30000)
  | "5s" => some (.finite 5000)
  | _ => none

def compileExample (options : WorkerOptions Unit) : Except JsError (CompiledWorkerOptions Unit Unit × List String) :=
  (options.addDefaultWorkerOptions exampleProcess).compileWorkerOptions parseExampleMs fun _ => .ok ()

lemma exists_compileExample {o : WorkerOptions Unit} (h : (compileExample o).isOk = true) :
    ∃ compiled warnings, compileExample o = .ok (compiled, warnings) := by
  cases hcompile : compileExample o with
  | ok result => exact ⟨result.1, result.2, rfl⟩
  | error err =>
    rw [hcompile] at h
    cases h

end TemporalSdk
