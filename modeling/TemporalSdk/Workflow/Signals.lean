import TemporalSdk.Common.Errors
import TemporalSdk.Library.Mailbox
import TemporalSdk.Library.OrderedMap
import TemporalSdk.Library.Transition

/-!
# Signals and their handlers

A signal is handed to a handler when there is one and buffered otherwise; setting a handler
dispatches the buffer. A handler runs inside the call that hands it the signal, and may set
and unset handlers itself, so the state has the stack of calls that have not returned.
-/

namespace TemporalSdk

/-- `coresdk.workflow_activation.ISignalWorkflow` -/
structure SignalActivation where
  signalName : Option String
  input : List Payload
deriving DecidableEq

/-- `signal.signalName ?? ''` -/
def SignalActivation.name (activation : SignalActivation) : String :=
  activation.signalName.getD ""

/-- A signal that passes the check for a name. -/
abbrev Signal := { activation : SignalActivation // activation.name ≠ "" }

/-- A call that hands a signal to its own handler or to the default one. -/
structure HandedSignal (F : Type) where
  signal : Signal
  handler : F
  byDefault : Bool

/-- A call of `dispatchBufferedSignals` or of a handler that has not returned. -/
inductive SignalFrame
  | dispatch
  | handler
deriving DecidableEq

/-- What `setHandler` is given: a function, `undefined` or `null`, or something else. -/
inductive HandlerArg (F : Type)
  | function (fn : F)
  | nullish
  | invalid (typeof : String)

/-- `handed` and `thrown` are the history of the calls of signal handlers and of the errors thrown. -/
structure SignalState (F : Type) where
  signalHandlers : OrderedMap String F
  defaultSignalHandler : Option F
  bufferedSignals : List Signal
  stack : List SignalFrame
  handed : List (HandedSignal F)
  thrown : List JsError

namespace SignalState

variable {F : Type}

def init : SignalState F := ⟨∅, none, [], [], [], []⟩

variable (s : SignalState F)

/-- The handler is called. -/
def call (signal : Signal) (handler : F) (byDefault : Bool) : SignalState F :=
  { s with stack := .handler :: s.stack, handed := s.handed ++ [⟨signal, handler, byDefault⟩] }

def signalWorkflowNextHandler (signal : Signal) : SignalState F :=
  match s.signalHandlers.lookup signal.val.name, s.defaultSignalHandler with
  | some fn, _ => s.call signal fn false
  | none, some fn => s.call signal fn true
  | none, none =>
    { s with thrown := s.thrown ++
        [.illegalStateError ("No registered signal handler for signal " ++ signal.val.name)] }

/-- `Activator.signalWorkflow` -/
def signalWorkflow (activation : SignalActivation) : SignalState F :=
  if h : activation.name = "" then
    { s with thrown := s.thrown ++ [.typeError "Missing activation signalName"] }
  else if activation.name ∉ s.signalHandlers ∧ s.defaultSignalHandler = none then
    { s with bufferedSignals := s.bufferedSignals ++ [⟨activation, h⟩] }
  else s.signalWorkflowNextHandler ⟨activation, h⟩

/-- One iteration of the loop of `dispatchBufferedSignals`, below which `rest` waits. -/
def dispatchBufferedSignals (rest : List SignalFrame) : SignalState F :=
  match s.bufferedSignals with
  | [] => { s with stack := rest }
  | first :: others =>
    if s.defaultSignalHandler.isSome then
      { s with bufferedSignals := others }.signalWorkflow first.val
    else
      match s.bufferedSignals.find? fun signal => signal.val.name ∈ s.signalHandlers with
      | none => { s with stack := rest }
      | some signal =>
        { s with bufferedSignals :=
            s.bufferedSignals.eraseP fun signal => signal.val.name ∈ s.signalHandlers }.signalWorkflow
          signal.val

def expectedHandler (typeof : String) : JsError :=
  .typeError ("Expected handler to be either a function or 'undefined'. Got: '" ++ typeof ++ "'")

/-- `setHandler` of a signal definition. -/
def setHandler (name : String) : HandlerArg F → SignalState F
  | .function fn =>
    { s with signalHandlers := s.signalHandlers.set name fn, stack := .dispatch :: s.stack }
  | .nullish => { s with signalHandlers := s.signalHandlers.erase name }
  | .invalid typeof => { s with thrown := s.thrown ++ [expectedHandler typeof] }

def setDefaultSignalHandler : HandlerArg F → SignalState F
  | .function fn => { s with defaultSignalHandler := some fn, stack := .dispatch :: s.stack }
  | .nullish => { s with defaultSignalHandler := none }
  | .invalid typeof => { s with thrown := s.thrown ++ [expectedHandler typeof] }

/-- Workflow code runs unless the loop of `dispatchBufferedSignals` does. -/
def runsWorkflowCode : Bool :=
  s.stack.head? != some .dispatch

end SignalState

inductive SignalInput (F : Type)
  | signal (activation : SignalActivation)
  | setHandler (name : String) (handler : HandlerArg F)
  | setDefaultSignalHandler (handler : HandlerArg F)
  | dispatch
  | handlerReturns

namespace SignalInput

variable {F : Type}

def isSignal : SignalInput F → Bool
  | signal _ => true
  | _ => false

/-- A call of `setHandler` or of `setDefaultSignalHandler`. -/
def isSet : SignalInput F → Bool
  | setHandler _ _ => true
  | setDefaultSignalHandler _ => true
  | _ => false

end SignalInput

namespace SignalState

variable {F : Type}

/-- Jobs come when no call is under way; otherwise the call on top of the stack goes on. -/
def step (s : SignalState F) : SignalInput F → Option (SignalState F)
  | .signal activation => if s.stack = [] then some (s.signalWorkflow activation) else none
  | .setHandler name handler => if s.runsWorkflowCode then some (s.setHandler name handler) else none
  | .setDefaultSignalHandler handler =>
    if s.runsWorkflowCode then some (s.setDefaultSignalHandler handler) else none
  | .dispatch =>
    match s.stack with
    | .dispatch :: rest => some (s.dispatchBufferedSignals rest)
    | _ => none
  | .handlerReturns =>
    match s.stack with
    | .handler :: rest => some { s with stack := rest }
    | _ => none

end SignalState

end TemporalSdk
