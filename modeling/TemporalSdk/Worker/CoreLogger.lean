import TemporalSdk.Common.FailureConverter
import TemporalSdk.Library.PriorityQueue
import TemporalSdk.Library.Transition

/-!
# Buffered logs

The logger of a runtime that forwards the logs of Core holds all logs in a heap until it is flushed, and then
passes them on in the order of their times. The next logger may throw: the entry is lost then, and a poll for the logs
of Core during which it happens is the last one.
-/

namespace TemporalSdk

inductive LogLevel
  | trace
  | debug
  | info
  | warn
  | error
deriving DecidableEq

/-- `severities.indexOf` -/
def LogLevel.severity : LogLevel → ℕ
  | trace => 0
  | debug => 1
  | info => 2
  | warn => 3
  | error => 4

/-- Attributes, and the time under the symbol `LogTimestamp` -/
structure LogMetadata where
  logTimestamp : Option ℤ
  attributes : List (String × JsValue)

/-- A call of `log` -/
structure LogCall where
  level : LogLevel
  message : String
  metadata : Option LogMetadata

/-- An entry has metadata only if there are attributes. -/
structure LogEntry where
  level : LogLevel
  message : String
  timestampNanos : ℤ
  metadata : Option (List (String × JsValue))
  metadata_ne : metadata ≠ some []

def timeOfDayToBigint (timeOfDay : ℤ × ℤ) : ℤ := timeOfDay.1 * 1000000000 + timeOfDay.2

/-- What Core gives of a log -/
structure CoreLog where
  level : LogLevel
  message : String
  timestamp : ℤ × ℤ

def CoreLog.call (log : CoreLog) : LogCall :=
  ⟨log.level, log.message, some ⟨some (timeOfDayToBigint log.timestamp), []⟩⟩

namespace LogCall

/-- The entry that a `DefaultLogger` makes of a call at the time `timeOfDay` -/
def entry (call : LogCall) (timeOfDay : ℤ × ℤ) : LogEntry :=
  let metadata := call.metadata.getD ⟨none, []⟩
  { level := call.level
    message := call.message
    timestampNanos := metadata.logTimestamp.getD (timeOfDayToBigint timeOfDay)
    metadata := if metadata.attributes = [] then none else some metadata.attributes
    metadata_ne := by
      split
      · exact nofun
      · rename_i h
        exact fun heq => h (Option.some.inj heq) }

end LogCall

/-- `DefaultLogger.log` of a logger of the level: what is handed to its function -/
def LogLevel.log (level : LogLevel) (call : LogCall) (timeOfDay : ℤ × ℤ) : Option LogEntry :=
  if level.severity ≤ call.level.severity then some (call.entry timeOfDay) else none

/-- What a flush calls the next logger with -/
def LogEntry.call (entry : LogEntry) : LogCall :=
  ⟨entry.level, entry.message, some ⟨some entry.timestampNanos, entry.metadata.getD []⟩⟩

/-- Logs are polled, until that fails or is stopped; then the last flush is to come. -/
inductive LogPolling
  | running
  | ended (failed : Bool)
  | over
deriving DecidableEq

/-- The heap of the logger and how far `initLogPolling` is; the entries that a flush called the next logger with, in
`passedOn` those for which the call returned and in `threw` the others; and what else the next logger was called
with. -/
structure CoreLogger (Q : Type) where
  buffer : Q
  polling : LogPolling
  passedOn : List LogEntry
  threw : List LogEntry
  warnings : List (LogCall × (ℤ × ℤ))

/-- The logger is called, it is flushed, or logs from Core arrive, after which it is flushed too; in a flush, the next
logger may throw in the call of that number. Polling ends with an error or without one, and `initLogPolling` with a
last flush, before which it warns of the error. -/
inductive LogInput
  | log (call : LogCall) (timeOfDay : ℤ × ℤ)
  | flush (throwsAt : Option ℕ)
  | coreLogs (logs : List (CoreLog × (ℤ × ℤ))) (throwsAt : Option ℕ)
  | pollingEnds (failed : Bool)
  | lastFlush (error : JsValue) (timeOfDay : ℤ × ℤ) (throwsAt : Option ℕ)

abbrev LogHeap (Q : Type) := PriorityQueue Q LogEntry.timestampNanos

namespace CoreLogger

variable {Q : Type} (heap : LogHeap Q)

def create : CoreLogger Q := ⟨heap.empty, .running, [], [], []⟩

/-- The level of the logger itself is `TRACE`. -/
def log (s : CoreLogger Q) (call : LogCall) (timeOfDay : ℤ × ℤ) : CoreLogger Q :=
  match LogLevel.trace.log call timeOfDay with
  | some entry => { s with buffer := heap.add entry s.buffer }
  | none => s

/-- The iteration pops the entries, so that those after a call that throws stay in the heap. -/
def flush (s : CoreLogger Q) : Option ℕ → CoreLogger Q × Bool
  | none =>
    ({ s with
        passedOn := s.passedOn ++ (heap.take (heap.size s.buffer) s.buffer).1
        buffer := heap.empty }, false)
  | some n =>
    let (taken, rest) := heap.take n s.buffer
    let s := { s with passedOn := s.passedOn ++ taken }
    match heap.pop rest with
    | none => ({ s with buffer := heap.empty }, false)
    | some (entry, rest) => ({ s with threw := s.threw ++ [entry], buffer := rest }, true)

def logAll (s : CoreLogger Q) (logs : List (CoreLog × (ℤ × ℤ))) : CoreLogger Q :=
  logs.foldl (fun s log => s.log heap log.1.call log.2) s

/-- `Error gathering forwarded logs from core`, which is not buffered -/
def warn (s : CoreLogger Q) (error : JsValue) (timeOfDay : ℤ × ℤ) : CoreLogger Q :=
  { s with warnings := s.warnings ++
      [(⟨.warn, "Error gathering forwarded logs from core", some ⟨none, [("error", error)]⟩⟩, timeOfDay)] }

def step (s : CoreLogger Q) : LogInput → Option (CoreLogger Q)
  | .log call timeOfDay => some (s.log heap call timeOfDay)
  | .flush throwsAt => some (s.flush heap throwsAt).1
  | .coreLogs logs throwsAt =>
    match s.polling with
    | .running =>
      let (s, threw) := (s.logAll heap logs).flush heap throwsAt
      some { s with polling := if threw then .ended true else .running }
    | _ => none
  | .pollingEnds failed =>
    match s.polling with
    | .running => some { s with polling := .ended failed }
    | _ => none
  | .lastFlush error timeOfDay throwsAt =>
    match s.polling with
    | .ended failed =>
      let s := if failed then s.warn error timeOfDay else s
      some { (s.flush heap throwsAt).1 with polling := .over }
    | _ => none

end CoreLogger

namespace LogInput

/-- The calls of the logger -/
def calls : LogInput → List (LogCall × (ℤ × ℤ))
  | log call timeOfDay => [(call, timeOfDay)]
  | coreLogs logs _ => logs.map fun log => (log.1.call, log.2)
  | _ => []

/-- The entries that are logged -/
def entries (input : LogInput) : List LogEntry := input.calls.map fun call => call.1.entry call.2

/-- The next logger does not throw, and polling does not fail. -/
def isQuiet : LogInput → Bool
  | log _ _ => true
  | flush throwsAt => throwsAt.isNone
  | coreLogs _ throwsAt => throwsAt.isNone
  | pollingEnds failed => !failed
  | lastFlush _ _ throwsAt => throwsAt.isNone

/-- A flush in which the next logger throws, if there are entries enough -/
def throws : LogInput → Bool
  | log _ _ => false
  | flush throwsAt => throwsAt.isSome
  | coreLogs _ throwsAt => throwsAt.isSome
  | pollingEnds _ => false
  | lastFlush _ _ throwsAt => throwsAt.isSome

end LogInput

/-- A logger makes of an entry that is passed on the same entry again. -/
lemma LogEntry.entry_call (entry : LogEntry) (timeOfDay : ℤ × ℤ) : entry.call.entry timeOfDay = entry := by
  obtain ⟨level, message, timestampNanos, metadata, hmetadata⟩ := entry
  cases metadata with
  | none => rfl
  | some attributes =>
    have hne : attributes ≠ [] := fun h => hmetadata (congrArg some h)
    simp [LogEntry.call, LogCall.entry, hne]

lemma LogLevel.log_call (level : LogLevel) (entry : LogEntry) (timeOfDay : ℤ × ℤ) :
    level.log entry.call timeOfDay = if level.severity ≤ entry.level.severity then some entry else none := by
  rw [LogLevel.log, LogEntry.entry_call]
  rfl

namespace CoreLogger

variable {Q : Type} {heap : LogHeap Q} {s t : CoreLogger Q}

/-- What a logger of the level would have written, had it been called directly -/
def direct (inputs : List LogInput) (level : LogLevel) : List LogEntry :=
  (inputs.flatMap LogInput.calls).filterMap fun call => level.log call.1 call.2

/-- What a next logger of the level has written, at whatever time it was called -/
def written (s : CoreLogger Q) (level : LogLevel) (timeOfDay : ℤ × ℤ) : List LogEntry :=
  s.passedOn.filterMap fun entry => level.log entry.call timeOfDay

/-- What is lost, since the next logger threw -/
def lost (s : CoreLogger Q) (level : LogLevel) : List LogEntry :=
  s.threw.filter fun entry => level.severity ≤ entry.level.severity

/-- What the next logger is still to be called with -/
def waiting (heap : LogHeap Q) (s : CoreLogger Q) (level : LogLevel) : List LogEntry :=
  (heap.elements s.buffer).filter fun entry => level.severity ≤ entry.level.severity

/-! ### Nothing is added -/

/-- The entries have been put into the heap. -/
structure Buffers (heap : LogHeap Q) (s t : CoreLogger Q) (entries : List LogEntry) : Prop where
  passedOn : t.passedOn = s.passedOn
  threw : t.threw = s.threw
  elements : (heap.elements t.buffer).Perm (entries ++ heap.elements s.buffer)

lemma buffers_nil (s : CoreLogger Q) : s.Buffers heap s [] := ⟨rfl, rfl, .refl _⟩

lemma log_eq (call : LogCall) (timeOfDay : ℤ × ℤ) : s.log heap call timeOfDay =
    { s with buffer := heap.add (call.entry timeOfDay) s.buffer } := by
  have hlog : LogLevel.trace.log call timeOfDay = some (call.entry timeOfDay) := if_pos (Nat.zero_le _)
  rw [log, hlog]

lemma buffers_log (call : LogCall) (timeOfDay : ℤ × ℤ) :
    s.Buffers heap (s.log heap call timeOfDay) [call.entry timeOfDay] := by
  rw [log_eq]
  exact ⟨rfl, rfl, heap.elements_add _ _⟩

lemma buffers_logAll (logs : List (CoreLog × (ℤ × ℤ))) :
    s.Buffers heap (s.logAll heap logs) (logs.map fun log => log.1.call.entry log.2) := by
  induction logs generalizing s with
  | nil => exact buffers_nil s
  | cons log logs ih =>
    have hlog : s.Buffers heap _ _ := buffers_log log.1.call log.2
    have hlogs := ih (s := s.log heap log.1.call log.2)
    refine ⟨hlogs.passedOn.trans hlog.passedOn, hlogs.threw.trans hlog.threw, hlogs.elements.trans ?_⟩
    exact (hlog.elements.append_left _).trans List.perm_middle

/-- The first entries have been taken out of the heap, and those are lost that the next logger threw for. -/
structure Flushes (heap : LogHeap Q) (s t : CoreLogger Q) (taken thrown : List LogEntry) : Prop where
  passedOn : t.passedOn = s.passedOn ++ taken
  threw : t.threw = s.threw ++ thrown
  elements : (heap.elements s.buffer).Perm (taken ++ thrown ++ heap.elements t.buffer)
  sorted : taken.Pairwise fun x y => x.timestampNanos ≤ y.timestampNanos
  before : ∀ x ∈ taken, ∀ y ∈ heap.elements t.buffer, x.timestampNanos ≤ y.timestampNanos

lemma flushes_nil (s : CoreLogger Q) : s.Flushes heap s [] [] :=
  ⟨(List.append_nil _).symm, (List.append_nil _).symm, .refl _, .nil, fun x hx => by cases hx⟩

lemma flushes_none : s.Flushes heap (s.flush heap none).1 (heap.take (heap.size s.buffer) s.buffer).1 [] := by
  have hrest := PriorityQueue.elements_take_of_size_le (Nat.le_refl (heap.size s.buffer))
  have hempty : heap.elements (s.flush heap none).1.buffer = [] := heap.elements_empty
  refine ⟨rfl, (List.append_nil _).symm, ?_, heap.pairwise_take _ _, ?_⟩
  · have htake := heap.elements_take (heap.size s.buffer) s.buffer
    rw [hrest] at htake
    rw [hempty, List.append_nil, List.append_nil]
    rwa [List.append_nil] at htake
  · intro x hx y hy
    rw [hempty] at hy
    cases hy

/-- The next logger throws if there is an entry for it to throw for. -/
lemma exists_flushes (heap : LogHeap Q) (s : CoreLogger Q) (throwsAt : Option ℕ) : ∃ taken thrown,
    s.Flushes heap (s.flush heap throwsAt).1 taken thrown ∧ thrown.length ≤ throwsAt.isSome.toNat := by
  cases throwsAt with
  | none => exact ⟨_, _, flushes_none, Nat.le_refl 0⟩
  | some n =>
    have htake := heap.elements_take n s.buffer
    have hsorted := heap.pairwise_take n s.buffer
    have hbefore := heap.take_le n s.buffer
    cases hpop : heap.pop (heap.take n s.buffer).2 with
    | none =>
      have hflush : (s.flush heap (some n)).1 =
          { s with passedOn := s.passedOn ++ (heap.take n s.buffer).1, buffer := heap.empty } := by
        simp only [flush, hpop]
      rw [heap.pop_eq_none _ hpop, List.append_nil] at htake
      refine ⟨(heap.take n s.buffer).1, [], ?_, Nat.zero_le _⟩
      rw [hflush]
      refine ⟨rfl, (List.append_nil _).symm, ?_, hsorted, ?_⟩
      · rw [heap.elements_empty, List.append_nil, List.append_nil]
        exact htake
      · intro x hx y hy
        rw [heap.elements_empty] at hy
        cases hy
    | some popped =>
      obtain ⟨entry, rest⟩ := popped
      have hflush : (s.flush heap (some n)).1 =
          { s with
            passedOn := s.passedOn ++ (heap.take n s.buffer).1
            threw := s.threw ++ [entry]
            buffer := rest } := by
        simp only [flush, hpop]
      have helements := heap.elements_pop _ _ _ hpop
      refine ⟨(heap.take n s.buffer).1, [entry], ?_, Nat.le_refl 1⟩
      rw [hflush]
      refine ⟨rfl, rfl, ?_, hsorted, fun x hx y hy => ?_⟩
      · rw [List.append_assoc]
        exact htake.trans (helements.append_left _)
      · exact hbefore x hx y (helements.mem_iff.mpr (List.mem_cons_of_mem _ hy))

/-- What a step does to the entries: some are put into the heap, and then it may be flushed. -/
lemma step_cases {input : LogInput} (h : s.step heap input = some t) : ∃ u taken thrown,
    s.Buffers heap u input.entries ∧ u.Flushes heap t taken thrown ∧ thrown.length ≤ input.throws.toNat := by
  cases input with
  | log call timeOfDay =>
    cases h
    exact ⟨_, [], [], buffers_log call timeOfDay, flushes_nil _, Nat.le_refl 0⟩
  | flush throwsAt =>
    cases h
    obtain ⟨taken, thrown, hflush, hlength⟩ := exists_flushes heap s throwsAt
    exact ⟨s, taken, thrown, buffers_nil s, hflush, hlength⟩
  | coreLogs logs throwsAt =>
    simp only [step] at h
    split at h
    case h_2 => cases h
    case h_1 =>
      cases h
      obtain ⟨taken, thrown, hflush, hlength⟩ := exists_flushes heap (s.logAll heap logs) throwsAt
      have hbuffers : s.Buffers heap (s.logAll heap logs) (LogInput.coreLogs logs throwsAt).entries := by
        rw [LogInput.entries, LogInput.calls, List.map_map]
        exact buffers_logAll logs
      exact ⟨_, taken, thrown, hbuffers, ⟨hflush.1, hflush.2, hflush.3, hflush.4, hflush.5⟩, hlength⟩
  | pollingEnds failed =>
    simp only [step] at h
    split at h
    case h_2 => cases h
    case h_1 =>
      cases h
      exact ⟨{ s with polling := .ended failed }, [], [], ⟨rfl, rfl, .refl _⟩, flushes_nil _, Nat.le_refl 0⟩
  | lastFlush error timeOfDay throwsAt =>
    simp only [step] at h
    split at h
    case h_2 => cases h
    case h_1 failed _ =>
      cases h
      -- the warning is not an entry
      have hwarned : s.Buffers heap (if failed then s.warn error timeOfDay else s) [] := by
        cases failed with
        | false => exact buffers_nil s
        | true => exact ⟨rfl, rfl, .refl _⟩
      obtain ⟨taken, thrown, hflush, hlength⟩ :=
        exists_flushes heap (if failed then s.warn error timeOfDay else s) throwsAt
      exact ⟨_, taken, thrown, hwarned, ⟨hflush.1, hflush.2, hflush.3, hflush.4, hflush.5⟩, hlength⟩

/-- The entries that have been logged are those that were passed on, those that were lost and those in the heap. -/
def Keeps (heap : LogHeap Q) (entries : List LogEntry) (s : CoreLogger Q) : Prop :=
  (s.passedOn ++ s.threw ++ heap.elements s.buffer).Perm entries

lemma keeps_create : (create heap).Keeps heap [] := by
  rw [Keeps, create, heap.elements_empty]
  exact .nil

lemma Keeps.buffers {entries added : List LogEntry} (hs : s.Keeps heap entries) (h : s.Buffers heap t added) :
    t.Keeps heap (entries ++ added) := by
  have hadd := h.elements.append_left (s.passedOn ++ s.threw)
  rw [Keeps, h.passedOn, h.threw]
  refine (hadd.trans (List.perm_append_comm_assoc _ _ _)).trans ?_
  exact (hs.append_left added).trans List.perm_append_comm

lemma Keeps.flushes {entries taken thrown : List LogEntry} (hs : s.Keeps heap entries)
    (h : s.Flushes heap t taken thrown) : t.Keeps heap entries := by
  have helements := h.elements.append_left (s.passedOn ++ s.threw)
  refine List.Perm.trans ?_ (helements.symm.trans hs)
  rw [h.passedOn, h.threw]
  simp only [List.append_assoc]
  apply List.Perm.append_left
  -- what was lost before, and what is passed on now
  exact List.perm_append_comm_assoc _ _ _

/-- What is known of the warnings: there is none before polling has ended. -/
def Warns (s : CoreLogger Q) : Prop := s.warnings = [] ∨ s.polling = .over ∧ ∃ warning, s.warnings = [warning]

lemma polling_log (call : LogCall) (timeOfDay : ℤ × ℤ) : (s.log heap call timeOfDay).polling = s.polling := by
  rw [log_eq]

lemma warnings_log (call : LogCall) (timeOfDay : ℤ × ℤ) : (s.log heap call timeOfDay).warnings = s.warnings := by
  rw [log_eq]

lemma warnings_logAll (logs : List (CoreLog × (ℤ × ℤ))) : (s.logAll heap logs).warnings = s.warnings := by
  induction logs generalizing s with
  | nil => rfl
  | cons log logs ih => exact ih.trans (warnings_log _ _)

lemma polling_flush (throwsAt : Option ℕ) : (s.flush heap throwsAt).1.polling = s.polling := by
  cases throwsAt with
  | none => rfl
  | some n =>
    unfold flush
    dsimp only
    split <;> rfl

lemma warnings_flush (throwsAt : Option ℕ) : (s.flush heap throwsAt).1.warnings = s.warnings := by
  cases throwsAt with
  | none => rfl
  | some n =>
    unfold flush
    dsimp only
    split <;> rfl

lemma Warns.step {input : LogInput} (hs : s.Warns) (h : s.step heap input = some t) : t.Warns := by
  have hnone (hpolling : s.polling ≠ .over) : s.warnings = [] := hs.resolve_right fun h => hpolling h.1
  cases input with
  | log call timeOfDay =>
    cases h
    rw [Warns, polling_log, warnings_log]
    exact hs
  | flush throwsAt =>
    cases h
    rw [Warns, polling_flush, warnings_flush]
    exact hs
  | coreLogs logs throwsAt =>
    simp only [CoreLogger.step] at h
    split at h
    case h_2 => cases h
    case h_1 hrunning =>
      cases h
      refine .inl ((warnings_flush throwsAt).trans ((warnings_logAll logs).trans (hnone ?_)))
      rw [hrunning]
      exact LogPolling.noConfusion
  | pollingEnds failed =>
    simp only [CoreLogger.step] at h
    split at h
    case h_2 => cases h
    case h_1 hrunning =>
      cases h
      refine .inl (hnone ?_)
      rw [hrunning]
      exact LogPolling.noConfusion
  | lastFlush error timeOfDay throwsAt =>
    simp only [CoreLogger.step] at h
    split at h
    case h_2 => cases h
    case h_1 failed hended =>
      cases h
      have hempty : s.warnings = [] := hnone (by rw [hended]; exact LogPolling.noConfusion)
      cases failed with
      | false => exact .inl ((warnings_flush throwsAt).trans hempty)
      | true =>
        have hwarned : (s.warn error timeOfDay).warnings = [_] := congrArg (· ++ _) hempty
        exact .inr ⟨rfl, _, (warnings_flush throwsAt).trans hwarned⟩

/-- What has become of the logs. Each flush loses one entry at most, and besides its own calls the next logger sees
one warning at most, after polling has failed. -/
structure Accounts (heap : LogHeap Q) (inputs : List LogInput) (s : CoreLogger Q) : Prop where
  logs : ∀ level timeOfDay,
    (s.written level timeOfDay ++ s.lost level ++ s.waiting heap level).Perm (direct inputs level)
  lost : s.threw.length ≤ inputs.countP LogInput.throws
  warns : s.Warns

lemma written_eq (level : LogLevel) (timeOfDay : ℤ × ℤ) : s.written level timeOfDay =
    s.passedOn.filter fun entry => level.severity ≤ entry.level.severity := by
  rw [written, ← List.filterMap_eq_filter]
  congr 1
  funext entry
  rw [LogLevel.log_call, Option.guard]
  simp

lemma direct_eq (inputs : List LogInput) (level : LogLevel) : direct inputs level =
    (inputs.flatMap LogInput.entries).filter fun entry => level.severity ≤ entry.level.severity := by
  have hentries : inputs.flatMap LogInput.entries =
      (inputs.flatMap LogInput.calls).map fun call => call.1.entry call.2 := by
    rw [List.map_flatMap]
    rfl
  rw [direct, hentries, ← List.filterMap_eq_filter, List.filterMap_map]
  congr 1
  funext call
  simp [LogLevel.log, Option.guard, LogCall.entry]

/-- The heap as a list in the order of the times -/
def sortedHeap : LogHeap {l : List LogEntry // l.Pairwise fun x y => x.timestampNanos ≤ y.timestampNanos} :=
  PriorityQueue.sorted LogEntry.timestampNanos

/-- A logger that logs twice, once with a time of its own, and is flushed by the logs of Core that arrive; the next
logger then throws for the second entry, which is the end of polling. -/
def fourLogs : List LogInput :=
  [.log ⟨.warn, "late", some ⟨some 7, [("attempt", .number (.finite 1))]⟩⟩ (0, 9), .log ⟨.debug, "later", none⟩ (0, 8),
    .coreLogs [(⟨.info, "polled", (0, 5)⟩, (0, 9))] (some 1), .lastFlush (.string "full") (0, 10) none,
    .log ⟨.error, "last", none⟩ (0, 11)]

/-- The steps during which the next logger does not throw -/
def quietStep (heap : LogHeap Q) (s : CoreLogger Q) (input : LogInput) : Option (CoreLogger Q) :=
  if input.isQuiet then s.step heap input else none

/-- No log is older than one that was passed on already. -/
def Timely (s : CoreLogger Q) (input : LogInput) : Prop :=
  ∀ entry ∈ input.entries, ∀ x ∈ s.passedOn, x.timestampNanos ≤ entry.timestampNanos

def Sorted (s : CoreLogger Q) : Prop := s.passedOn.Pairwise fun x y => x.timestampNanos ≤ y.timestampNanos

/-- Entries are passed on in order, and those in the heap will be. -/
structure InOrder (heap : LogHeap Q) (s : CoreLogger Q) : Prop where
  sorted : s.Sorted
  before : ∀ x ∈ s.passedOn, ∀ y ∈ heap.elements s.buffer, x.timestampNanos ≤ y.timestampNanos

/-- An entry is passed on after a later one, or is going to be. -/
def OutOfOrder (heap : LogHeap Q) (s : CoreLogger Q) : Prop :=
  ¬s.Sorted ∨ ∃ x ∈ s.passedOn, ∃ y ∈ heap.elements s.buffer, y.timestampNanos < x.timestampNanos

/-- A quiet step loses nothing. -/
lemma quietStep_cases {input : LogInput} (h : quietStep heap s input = some t) :
    ∃ u taken, s.Buffers heap u input.entries ∧ u.Flushes heap t taken [] := by
  unfold quietStep at h
  split at h
  case isFalse => cases h
  case isTrue hquiet =>
    obtain ⟨u, taken, thrown, hbuffers, hflush, hlength⟩ := step_cases h
    have hthrows : input.throws = false := by
      cases input <;> simp_all [LogInput.isQuiet, LogInput.throws]
    rw [hthrows] at hlength
    obtain rfl := List.length_eq_zero_iff.mp (Nat.le_zero.mp hlength)
    exact ⟨u, taken, hbuffers, hflush⟩

lemma InOrder.flushes {taken : List LogEntry} (hs : s.InOrder heap) (h : s.Flushes heap t taken []) :
    t.InOrder heap := by
  refine ⟨?_, fun x hx y hy => ?_⟩
  · rw [Sorted, h.passedOn]
    refine List.pairwise_append.mpr ⟨hs.sorted, h.sorted, fun x hx y hy => hs.before x hx y ?_⟩
    exact h.elements.mem_iff.mpr (List.mem_append_left _ (List.mem_append_left _ hy))
  · rw [h.passedOn] at hx
    rcases List.mem_append.mp hx with hx | hx
    · exact hs.before x hx y (h.elements.mem_iff.mpr (List.mem_append_right _ hy))
    · exact h.before x hx y hy

lemma InOrder.step {input : LogInput} (hs : s.InOrder heap) (htimely : s.Timely input)
    (h : quietStep heap s input = some t) : t.InOrder heap := by
  obtain ⟨u, taken, hbuffers, hflush⟩ := quietStep_cases h
  have hu : u.InOrder heap := by
    refine ⟨by rw [Sorted, hbuffers.passedOn]; exact hs.sorted, fun x hx y hy => ?_⟩
    rw [hbuffers.passedOn] at hx
    rcases List.mem_append.mp (hbuffers.elements.mem_iff.mp hy) with hy | hy
    · exact htimely y hy x hx
    · exact hs.before x hx y hy
  exact hu.flushes hflush

lemma OutOfOrder.flushes {taken : List LogEntry} (hs : s.OutOfOrder heap) (h : s.Flushes heap t taken []) :
    t.OutOfOrder heap := by
  rcases hs with hs | ⟨x, hx, y, hy, hlt⟩
  · refine .inl fun hsorted => hs ?_
    rw [Sorted, h.passedOn] at hsorted
    exact (List.pairwise_append.mp hsorted).1
  · have hmem := h.elements.mem_iff.mp hy
    rw [List.append_nil] at hmem
    rcases List.mem_append.mp hmem with hmem | hmem
    · refine .inl fun hsorted => ?_
      rw [Sorted, h.passedOn] at hsorted
      exact absurd ((List.pairwise_append.mp hsorted).2.2 x hx y hmem) (not_le.mpr hlt)
    · refine .inr ⟨x, ?_, y, hmem, hlt⟩
      rw [h.passedOn]
      exact List.mem_append_left _ hx

lemma OutOfOrder.step {input : LogInput} (hs : s.OutOfOrder heap) (h : quietStep heap s input = some t) :
    t.OutOfOrder heap := by
  obtain ⟨u, taken, hbuffers, hflush⟩ := quietStep_cases h
  have hu : u.OutOfOrder heap := by
    rcases hs with hs | ⟨x, hx, y, hy, hlt⟩
    · exact .inl (by rw [Sorted, hbuffers.passedOn]; exact hs)
    · exact .inr ⟨x, hbuffers.passedOn ▸ hx, y, hbuffers.elements.mem_iff.mpr (List.mem_append_right _ hy), hlt⟩
  exact hu.flushes hflush

/-- A log that is older than one that was passed on comes too late, -/
lemma outOfOrder_of_not_timely {input : LogInput} (hlate : ¬s.Timely input)
    (h : quietStep heap s input = some t) : t.OutOfOrder heap := by
  obtain ⟨u, taken, hbuffers, hflush⟩ := quietStep_cases h
  have hu : u.OutOfOrder heap := by
    unfold Timely at hlate
    push Not at hlate
    obtain ⟨y, hy, x, hx, hlt⟩ := hlate
    exact .inr ⟨x, hbuffers.passedOn ▸ hx, y, hbuffers.elements.mem_iff.mpr (List.mem_append_left _ hy), hlt⟩
  exact hu.flushes hflush

/-- **Logs are emitted in the order of their times** exactly when none of them is older than one that was emitted
already, at the time at which it is logged, provided that the next logger does not throw and polling does not fail. -/
theorem sorted_iff_timely {inputs : List LogInput}
    (h : Transition.run (quietStep heap) (create heap) inputs = some s) (hempty : heap.elements s.buffer = []) :
    s.Sorted ↔ Transition.Meets (quietStep heap) Timely (create heap) inputs := by
  have hcreate : (create heap).InOrder heap := ⟨.nil, fun x hx => by cases hx⟩
  have hrun := Transition.meets_or_broken (C := Timely) (fun _ _ _ hs htimely hstep => hs.step htimely hstep)
    (fun _ _ _ _ hlate hstep => outOfOrder_of_not_timely hlate hstep) (fun _ _ _ hs hstep => hs.step hstep) hcreate h
  rcases hrun with ⟨hmeets, hs⟩ | ⟨hnot, hs⟩
  · exact iff_of_true hs.sorted hmeets
  · refine iff_of_false (fun hsorted => ?_) hnot
    rcases hs with hs | ⟨x, -, y, hy, -⟩
    · exact hs hsorted
    · rw [hempty] at hy
      cases hy

/-- A log of Core that is polled after a flush, with the nanoseconds of its time -/
def flushedThenPolled (nanos : ℤ) : List LogInput :=
  [.log ⟨.info, "worker", none⟩ (0, 8), .flush none, .coreLogs [(⟨.info, "core", (0, nanos)⟩, (0, 9))] none]

-- The log of Core may be older than the one that was flushed.
example : ¬Transition.Meets (quietStep sortedHeap) Timely (create sortedHeap) (flushedThenPolled 5) := by
  intro h
  have htimely := (h.2 _ rfl).2 _ rfl
  exact absurd (htimely.1 _ (List.mem_singleton.mpr rfl) _ (List.mem_singleton.mpr rfl)) (by decide)

theorem sorted_iff_timely_flushedThenPolled :
    ∃ s, Transition.run (quietStep sortedHeap) (create sortedHeap) (flushedThenPolled 9) = some s ∧
      s.Sorted ∧ Transition.Meets (quietStep sortedHeap) Timely (create sortedHeap) (flushedThenPolled 9) := by
  obtain ⟨s, hs, hsorted, hempty⟩ : ∃ s,
      Transition.run (quietStep sortedHeap) (create sortedHeap) (flushedThenPolled 9) = some s ∧ s.Sorted ∧
        sortedHeap.elements s.buffer = [] :=
    ⟨_, rfl, .cons (fun x hx => by obtain rfl := List.mem_singleton.mp hx; decide) (List.pairwise_singleton _ _), rfl⟩
  exact ⟨s, hs, hsorted, (sorted_iff_timely hs hempty).mp hsorted⟩

end CoreLogger

end TemporalSdk
