import TemporalSdk.Library.EventLoop
import TemporalSdk.Library.OrderedMap
import TemporalSdk.Workflow.Commands

/-!
# The state of a workflow run

The fields of the `Activator` that cancellable operations use, the tree of cancellation
scopes with their `cancelRequested` promises, the queue of promise reactions, and a log of
what has happened in the run. The closures that the source registers are data here: a
`Completion` says what resolving does, a `Reaction` what a microtask runs.
-/

namespace TemporalSdk

/-- The keys of `Activator.completions`. -/
inductive CompletionType
  | timer
  | activity
  | childWorkflowStart
  | childWorkflowComplete
  | signalWorkflow
deriving DecidableEq

/-- The resolve and reject functions of a promise that the workflow code holds, or of the
inner promise of `setTimeout`, whose only reaction calls the callback; `dead` are those of
an inner promise that its executor has rejected already. -/
inductive Completion
  | promise
  | callback
  | dead
deriving DecidableEq

/-- The promise of an operation is known by the map and the key that it is stored under. -/
structure PromiseRef where
  type : CompletionType
  seq : Seq
deriving DecidableEq

inductive Value
  | undefined
  | decoded (payload : Payload)
  | runId (id : String)
deriving DecidableEq

inductive Settlement
  | fulfilled (value : Value)
  | rejected (error : JsError)
deriving DecidableEq

/-- Scopes are numbered in the order of their construction; the root scope is `0`. -/
abbrev ScopeId := ℕ

def rootScope : ScopeId := 0

/-- A `CancellationScope`; its promise `cancelRequested` has the number of the scope. -/
structure Scope where
  cancellable : Bool
  parent : Option ScopeId
  cancelRequested : Bool
  reason : JsError
deriving DecidableEq

/-- The operations that push a command when their scope is cancelled. -/
inductive OpKind
  | activity
  | localActivity
  | childWorkflow
  | signalWorkflow
deriving DecidableEq

inductive Reaction
  | propagate (parent child : ScopeId)
  | reject (scope : ScopeId) (promise : PromiseRef)
  | cancel (kind : OpKind) (seq : Seq)
  | cancelTimer (scope : ScopeId) (seq : Seq)
  | rejectChild (seq : Seq) (error : JsError)
  | timeoutCallback (seq : Seq)
deriving DecidableEq

/-- How a job resolved an operation. -/
inductive Resolution
  | completed
  | failed
  | cancelled
  | backoff
  | unknown
deriving DecidableEq

inductive Event
  | pushed (cmd : Command)
  | cancelCalled (scope : ScopeId)
  | fired (seq : Seq)
  | resolved (type : CompletionType) (seq : Seq) (resolution : Resolution)
  | settled (promise : PromiseRef) (settlement : Settlement)
  | cleared (handle : Seq)
  | callback (seq : Seq)
  | thrown (error : JsError)
deriving DecidableEq

/-- The keys of `Activator.nextSeqs`. -/
inductive Counter
  | timer
  | activity
  | childWorkflow
  | signalWorkflow
deriving DecidableEq

/-- The counter that numbers the operations stored in a map of completions. -/
def CompletionType.counter : CompletionType → Counter
  | timer => .timer
  | activity => .activity
  | childWorkflowStart => .childWorkflow
  | childWorkflowComplete => .childWorkflow
  | signalWorkflow => .signalWorkflow

structure Runtime where
  buffer : CommandBuffer
  completions : CompletionType → OrderedMap Seq Completion
  nextSeqs : Counter → Seq
  isReplaying : Bool
  scopes : List Scope
  loop : EventLoop Reaction
  trace : List Event

namespace Runtime

/-- The run before any workflow code: the root scope alone. -/
def init : Runtime where
  buffer := ⟨[], false⟩
  completions := fun _ => ∅
  nextSeqs := fun _ => 1
  isReplaying := false
  scopes := [⟨true, none, false, .undefined⟩]
  loop := ⟨[⟨false, []⟩], []⟩
  trace := []

variable (rt : Runtime)

def emit (e : Event) : Runtime := { rt with trace := rt.trace ++ [e] }

/-- `Activator.pushCommand`, which also logs the commands that it takes. -/
def pushCommand (cmd : Command) (complete : Bool) : Runtime :=
  { rt with
    buffer := rt.buffer.pushCommand cmd complete
    trace := if rt.buffer.accepts cmd then rt.trace ++ [.pushed cmd] else rt.trace }

/-- `activator.nextSeqs.counter++` -/
def nextSeq (c : Counter) : Runtime :=
  { rt with nextSeqs := Function.update rt.nextSeqs c (rt.nextSeqs c + 1) }

def setCompletion (type : CompletionType) (seq : Seq) (c : Completion) : Runtime :=
  { rt with
    completions := Function.update rt.completions type ((rt.completions type).set seq c) }

def deleteCompletion (type : CompletionType) (seq : Seq) : Runtime :=
  { rt with
    completions := Function.update rt.completions type ((rt.completions type).erase seq) }

/-- `startPromise.catch(reject)` of the promise for the completion of a child workflow -/
def chain (p : PromiseRef) : Settlement → Runtime
  | .rejected err =>
    if p.type = .childWorkflowStart then
      { rt with loop := rt.loop.enqueue (.rejectChild p.seq err) }
    else rt
  | .fulfilled _ => rt

/-- A call of the resolve or the reject function of an operation's promise. -/
def settle (p : PromiseRef) (s : Settlement) : Runtime :=
  (rt.emit (.settled p s)).chain p s

/-! ### Cancellation scopes -/

def scope (id : ScopeId) : Scope := rt.scopes.getD id ⟨false, none, false, .undefined⟩

/-- `scope.consideredCancelled` -/
def consideredCancelled (id : ScopeId) : Bool :=
  (rt.scope id).cancelRequested && (rt.scope id).cancellable

/-- `scope.cancelRequested.catch(reaction)` -/
def onCancelRequested (id : ScopeId) (r : Reaction) : Runtime :=
  { rt with loop := rt.loop.register id r }

/-- The function `reject` that the constructor of a scope stores. -/
def rejectScope (id : ScopeId) (err : JsError) : Runtime :=
  { rt with
    scopes := rt.scopes.modify id fun s =>
      { s with cancelRequested := true, reason := if rt.loop.rejected id then s.reason else err }
    loop := rt.loop.reject id }

/-- The constructor of `CancellationScope`, under a parent scope. -/
def newScope (cancellable : Bool) (parent : ScopeId) : Runtime :=
  let child := rt.scopes.length
  { rt with
    scopes := rt.scopes ++ [⟨cancellable, some parent, (rt.scope parent).cancelRequested, .undefined⟩]
    loop := rt.loop.newPromise.register parent (.propagate parent child) }

/-- `cancel` of `CancellationScope`, and of `RootCancellationScope` -/
def cancel (id : ScopeId) : Runtime :=
  let message := if id = rootScope then "Workflow cancelled" else "Cancellation scope cancelled"
  (rt.emit (.cancelCalled id)).rejectScope id (.cancelledFailure message)

end Runtime

end TemporalSdk
