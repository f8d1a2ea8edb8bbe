import Mathlib.Algebra.BigOperators.Group.List.Basic
import Mathlib.Algebra.Order.Group.Multiset
import Mathlib.Data.Multiset.Range
import Mathlib.Tactic.Abel
import TemporalSdk.Library.Transition

/-!
# The bridge to Core

JavaScript calls functions of the native module, and they send requests to the loop of the runtime or of a worker.
What Core answers goes back through a channel, and JavaScript calls the callbacks. Requests are answered in any
order, handles are closed at any time, and the runtime may be shut down with requests behind.
-/

namespace TemporalSdk

namespace Bridge

structure BridgeError where
  name : String
  message : String
deriving DecidableEq

def transportError (message : String) : BridgeError := ⟨"TransportError", message⟩

def shutdownError (message : String) : BridgeError := ⟨"ShutdownError", message⟩

def unexpectedError (message : String) : BridgeError := ⟨"UnexpectedError", message⟩

def illegalStateError (message : String) : BridgeError := ⟨"IllegalStateError", message⟩

def typeError (message : String) : BridgeError := ⟨"TypeError", message⟩

/-- What is handed to a callback or returned. Clients, workers, servers and pushers are numbered in the order in which
they are created. -/
inductive BridgeValue (M : Type)
  | undefined
  | client (client : ℕ)
  | worker (worker : ℕ)
  | replayWorker (worker pusher : ℕ)
  | server (server : ℕ)
  | logs (logs : List M)
  | task (task : M)
deriving DecidableEq

/-- `RuntimeRequest`: a callback is known by the number of the call that has passed it. -/
inductive RuntimeRequest (M : Type)
  | shutdown (callback : ℕ)
  | createClient (callback : ℕ)
  | updateClientHeaders (client callback : ℕ)
  | initWorker (client callback : ℕ)
  | initReplayWorker (callback : ℕ)
  | pollLogs (callback : ℕ)
  | startEphemeralServer (callback : ℕ)
  | shutdownEphemeralServer (server callback : ℕ)
  | pushReplayHistory (tx : ℕ) (pushme : M) (callback : ℕ)
deriving DecidableEq

/-- `WorkerRequest` -/
inductive WorkerRequest (M : Type)
  | initiateShutdown (callback : ℕ)
  | pollWorkflowActivation (callback : ℕ)
  | completeWorkflowActivation (completion : M) (callback : ℕ)
  | pollActivityTask (callback : ℕ)
  | completeActivityTask (completion : M) (callback : ℕ)
  | recordActivityHeartbeat (heartbeat : M)
deriving DecidableEq

inductive ClientInitError
  | systemInfoCallError (e : String)
  | tonicTransportError (e : String)
  | invalidUri (e : String)

/-- `PollWfError`; activities are not autocompleted. -/
inductive PollError
  | shutDown (err : String)
  | tonicError (err : String)
  | autocompleteError (reason : String)

/-- What Core says in the end -/
inductive CoreOutcome (M : Type)
  | ok
  | logs (logs : List M)
  | task (task : M)
  | failed (err : String)
  | clientInitError (err : ClientInitError)
  | pollError (err : PollError)
  | malformed (reason : String)

/-- The exported functions, where what they cannot decode is an error -/
inductive BridgeCall (M : Type)
  | runtimeShutdown
  | pollLogs
  | newClient
  | clientUpdateHeaders (client : ℕ)
  | clientClose (client : ℕ)
  | newWorker (client : ℕ)
  | newReplayWorker
  | pushHistory (pusher : ℕ) (history : Except String M)
  | closeHistoryStream (pusher : ℕ)
  | startEphemeralServer
  | shutdownEphemeralServer (server : ℕ)
  | workerInitiateShutdown (worker : ℕ)
  | workerFinalizeShutdown (worker : ℕ)
  | workerPollWorkflowActivation (worker : ℕ)
  | workerCompleteWorkflowActivation (worker : ℕ) (completion : Option M)
  | workerPollActivityTask (worker : ℕ)
  | workerCompleteActivityTask (worker : ℕ) (completion : Option M)
  | workerRecordActivityHeartbeat (worker : ℕ) (heartbeat : Option M)

/-- The loop of a worker: its requests are the ones in its channel, its tasks those that it has taken out and not
answered. The handle is what JavaScript sends through, and `running` until the receiver is dropped. -/
structure WorkerLoop (M : Type) where
  handle : Bool
  running : Bool
  requests : List (WorkerRequest M)
  tasks : List (WorkerRequest M)
  finalized : Bool

/-- The loop of the runtime receives requests, or has ended, or has dropped its receiver too. -/
inductive BridgeLoop
  | receiving
  | ended
  | gone
deriving DecidableEq

variable {M : Type}

def ClientInitError.error : ClientInitError → BridgeError
  | systemInfoCallError e => transportError s!"Failed to call GetSystemInfo: {e}"
  | tonicTransportError e => transportError e
  | invalidUri e => typeError e

def PollError.error : PollError → BridgeError
  | shutDown err => shutdownError err
  | tonicError err => transportError err
  | autocompleteError reason => typeError reason

namespace RuntimeRequest

def callback : RuntimeRequest M → ℕ
  | shutdown callback => callback
  | createClient callback => callback
  | updateClientHeaders _ callback => callback
  | initWorker _ callback => callback
  | initReplayWorker callback => callback
  | pollLogs callback => callback
  | startEphemeralServer callback => callback
  | shutdownEphemeralServer _ callback => callback
  | pushReplayHistory _ _ callback => callback

/-- Whether a task of its own answers the request -/
def isSpawned : RuntimeRequest M → Bool
  | createClient _ => true
  | startEphemeralServer _ => true
  | shutdownEphemeralServer _ _ => true
  | pushReplayHistory _ _ _ => true
  | _ => false

end RuntimeRequest

namespace WorkerRequest

def callback : WorkerRequest M → Option ℕ
  | initiateShutdown callback => some callback
  | pollWorkflowActivation callback => some callback
  | completeWorkflowActivation _ callback => some callback
  | pollActivityTask callback => some callback
  | completeActivityTask _ callback => some callback
  | recordActivityHeartbeat _ => none

/-- What the callback is called with. -/
def answer : WorkerRequest M → CoreOutcome M → Option (Except BridgeError (BridgeValue M))
  | initiateShutdown _, .ok => some (.ok .undefined)
  | pollWorkflowActivation _, .task task => some (.ok (.task task))
  | pollWorkflowActivation _, .pollError err => some (.error err.error)
  | completeWorkflowActivation _ _, .ok => some (.ok .undefined)
  | completeWorkflowActivation _ _, .malformed reason => some (.error (typeError reason))
  | pollActivityTask _, .task task => some (.ok (.task task))
  | pollActivityTask _, .pollError (.shutDown err) => some (.error (shutdownError err))
  | pollActivityTask _, .pollError (.tonicError err) => some (.error (transportError err))
  | completeActivityTask _ _, .ok => some (.ok .undefined)
  | completeActivityTask _ _, .malformed reason => some (.error (typeError reason))
  | recordActivityHeartbeat _, .ok => some (.ok .undefined)
  | _, _ => none

end WorkerRequest

namespace WorkerLoop

/-- `start_worker_loop` -/
def start : WorkerLoop M := ⟨true, true, [], [], false⟩

def callbacks (w : WorkerLoop M) : List ℕ := (w.requests ++ w.tasks).filterMap WorkerRequest.callback

end WorkerLoop

end Bridge

open Bridge

/-- Both sides of the bridge: `channel` has the callbacks that JavaScript is to call, and `answered` the calls whose
callback has been called, or that have returned or thrown themselves. A call is lost when its callback is dropped. -/
structure NativeBridge (M : Type) where
  loop : BridgeLoop
  requests : List (RuntimeRequest M)
  tasks : List (RuntimeRequest M)
  workers : List (WorkerLoop M)
  clients : List Bool
  servers : List Bool
  pushers : List Bool
  calls : ℕ
  channel : List (ℕ × Except BridgeError (BridgeValue M))
  answered : List (ℕ × Except BridgeError (BridgeValue M))
  lost : List ℕ

inductive BridgeInput (M : Type)
  | call (call : BridgeCall M)
  | receive (outcome : CoreOutcome M)
  | taskEnds (task : ℕ) (outcome : CoreOutcome M)
  | workerReceives (worker : ℕ)
  | workerTaskEnds (worker task : ℕ) (outcome : CoreOutcome M)
  | workerEnds (worker : ℕ)
  | callback
  | receiverDropped
  | taskDropped (task : ℕ)
  | workerDropped (worker : ℕ)

def BridgeInput.isCall {M : Type} : BridgeInput M → Bool
  | call _ => true
  | _ => false

namespace NativeBridge

variable {M : Type} (s : NativeBridge M)

/-- `runtime_new` -/
def runtimeNew : NativeBridge M := ⟨.receiving, [], [], [], [], [], [], 0, [], [], []⟩

/-- `send_result` and `send_error` -/
def post (callback : ℕ) (result : Except BridgeError (BridgeValue M)) : NativeBridge M :=
  { s with channel := s.channel ++ [(callback, result)] }

def sendResult (callback : ℕ) (value : BridgeValue M) : NativeBridge M := s.post callback (.ok value)

def sendError (callback : ℕ) (err : BridgeError) : NativeBridge M := s.post callback (.error err)

/-- The function returns, throws, or calls its callback itself. -/
def answer (call : ℕ) (result : Except BridgeError (BridgeValue M)) : NativeBridge M :=
  { s with answered := s.answered ++ [(call, result)] }

def setWorker (worker : ℕ) (w : WorkerLoop M) : NativeBridge M := { s with workers := s.workers.set worker w }

/-- `runtime.sender.send(request)`, and `callback_with_unexpected_error` if that fails -/
def send (request : RuntimeRequest M) : NativeBridge M :=
  match s.loop with
  | .gone => s.answer request.callback (.error (unexpectedError "channel closed"))
  | _ => { s with requests := s.requests ++ [request] }

/-- A call through a handle, which may have been closed -/
def through (handles : List Bool) (handle call : ℕ) (closed : BridgeError) (action : NativeBridge M) :
    Option (NativeBridge M) :=
  match handles[handle]? with
  | none => none
  | some false => some (s.answer call (.error closed))
  | some true => some action

/-- A call through the handle of a worker: `refusal` is the error when the receiver is gone. A function without a
callback returns when it has sent its request. -/
def askWorker (worker call : ℕ) (request : Except BridgeError (WorkerRequest M)) (refusal : String) :
    Option (NativeBridge M) :=
  match s.workers[worker]? with
  | none => none
  | some w =>
    if !w.handle then some (s.answer call (.error (unexpectedError "Tried to use closed Worker")))
    else
      match request with
      | .error err => some (s.answer call (.error err))
      | .ok request =>
        if !w.running then some (s.answer call (.error (unexpectedError refusal)))
        else
          let sent := s.setWorker worker { w with requests := w.requests ++ [request] }
          match request.callback with
          | some _ => some sent
          | none => some (sent.answer call (.ok .undefined))

def decoded (message : Option M) (text : String) (request : M → WorkerRequest M) :
    Except BridgeError (WorkerRequest M) :=
  match message with
  | none => .error (typeError text)
  | some message => .ok (request message)

/-- The exported functions: the call has the number `id`. -/
def exported (id : ℕ) : BridgeCall M → Option (NativeBridge M)
  | .runtimeShutdown => some (s.send (.shutdown id))
  | .pollLogs => some (s.send (.pollLogs id))
  | .newClient => some (s.send (.createClient id))
  | .clientUpdateHeaders client =>
    s.through s.clients client id (unexpectedError "Tried to use closed Client")
      (s.send (.updateClientHeaders client id))
  | .clientClose client =>
    s.through s.clients client id (illegalStateError "Client already closed")
      ({ s with clients := s.clients.set client false }.answer id (.ok .undefined))
  | .newWorker client =>
    s.through s.clients client id (unexpectedError "Tried to use closed Client") (s.send (.initWorker client id))
  | .newReplayWorker => some (s.send (.initReplayWorker id))
  | .pushHistory _ (.error err) => some (s.answer id (.error ⟨"Error", s!"Error decoding history: {err}"⟩))
  | .pushHistory pusher (.ok history) =>
    s.through s.pushers pusher id (unexpectedError "History replay channel is already closed")
      -- Only the error of `get_chan` is looked at, not the one of `send`.
      (match s.loop with
      | .gone => { s with lost := s.lost ++ [id] }
      | _ => { s with requests := s.requests ++ [.pushReplayHistory pusher history id] })
  | .closeHistoryStream pusher =>
    match s.pushers[pusher]? with
    | none => none
    | some _ => some ({ s with pushers := s.pushers.set pusher false }.answer id (.ok .undefined))
  | .startEphemeralServer => some (s.send (.startEphemeralServer id))
  | .shutdownEphemeralServer server =>
    s.through s.servers server id (unexpectedError "Tried to use closed test server")
      ({ s with servers := s.servers.set server false }.send (.shutdownEphemeralServer server id))
  | .workerInitiateShutdown worker => s.askWorker worker id (.ok (.initiateShutdown id)) "SendError \x7b .. \x7d"
  | .workerFinalizeShutdown worker =>
    match s.workers[worker]? with
    | none => none
    | some w =>
      if w.handle then some ((s.setWorker worker { w with handle := false }).answer id (.ok .undefined))
      else some (s.answer id (.error (illegalStateError "Worker already closed")))
  | .workerPollWorkflowActivation worker =>
    s.askWorker worker id (.ok (.pollWorkflowActivation id)) "channel closed"
  | .workerCompleteWorkflowActivation worker completion =>
    s.askWorker worker id
      (decoded completion "Cannot decode Completion from buffer" (.completeWorkflowActivation · id)) "channel closed"
  | .workerPollActivityTask worker => s.askWorker worker id (.ok (.pollActivityTask id)) "channel closed"
  | .workerCompleteActivityTask worker completion =>
    s.askWorker worker id
      (decoded completion "Cannot decode Completion from buffer" (.completeActivityTask · id)) "channel closed"
  | .workerRecordActivityHeartbeat worker heartbeat =>
    s.askWorker worker id
      (decoded heartbeat "Cannot decode ActivityHeartbeat from buffer" .recordActivityHeartbeat)
      "SendError \x7b .. \x7d"

/-- `start_bridge_loop` has received a request, and Core says the outcome of those that it answers at once. -/
def received : RuntimeRequest M → CoreOutcome M → Option (NativeBridge M)
  | .shutdown callback, _ => some ({ s with loop := .ended }.sendResult callback .undefined)
  | .updateClientHeaders _ callback, _ => some (s.sendResult callback .undefined)
  | .pollLogs callback, .logs logs => some (s.sendResult callback (.logs logs))
  | .initWorker _ callback, .ok =>
    some ({ s with workers := s.workers ++ [WorkerLoop.start] }.sendResult callback (.worker s.workers.length))
  | .initWorker _ callback, .failed err => some (s.sendError callback (unexpectedError err))
  | .initReplayWorker callback, .ok =>
    some ({ s with workers := s.workers ++ [WorkerLoop.start], pushers := s.pushers ++ [true] }.sendResult callback
      (.replayWorker s.workers.length s.pushers.length))
  | .initReplayWorker callback, .failed err => some (s.sendError callback (unexpectedError err))
  | request, _ => if request.isSpawned then some { s with tasks := s.tasks ++ [request] } else none

/-- The task of a request ends. -/
def completed : RuntimeRequest M → CoreOutcome M → Option (NativeBridge M)
  | .createClient callback, .ok =>
    some ({ s with clients := s.clients ++ [true] }.sendResult callback (.client s.clients.length))
  | .createClient callback, .clientInitError err => some (s.sendError callback err.error)
  | .startEphemeralServer callback, .ok =>
    some ({ s with servers := s.servers ++ [true] }.sendResult callback (.server s.servers.length))
  | .startEphemeralServer callback, .failed err =>
    some (s.sendError callback (unexpectedError s!"Failed to start ephemeral server: {err}"))
  | .shutdownEphemeralServer _ callback, .ok => some (s.sendResult callback .undefined)
  | .shutdownEphemeralServer _ callback, .failed err =>
    some (s.sendError callback (unexpectedError s!"Failed to start test server: {err}"))
  | .pushReplayHistory _ _ callback, .ok => some (s.sendResult callback .undefined)
  | .pushReplayHistory _ _ callback, .failed err =>
    some (s.sendError callback (unexpectedError s!"Error pushing replay history {err}"))
  | _, _ => none

def postAnswer (callback : Option ℕ) (result : Except BridgeError (BridgeValue M)) : NativeBridge M :=
  match callback with
  | some callback => s.post callback result
  | none => s

/-- The steps of the loops, of the event loop of JavaScript, and of what is dropped once the loop of the runtime has
ended -/
def step : BridgeInput M → Option (NativeBridge M)
  | .call call => { s with calls := s.calls + 1 }.exported s.calls call
  | .receive outcome =>
    match s.loop, s.requests with
    | .receiving, request :: requests => { s with requests }.received request outcome
    | _, _ => none
  | .taskEnds task outcome =>
    match s.tasks[task]? with
    | none => none
    | some request => { s with tasks := s.tasks.eraseIdx task }.completed request outcome
  | .workerReceives worker =>
    match s.workers[worker]? with
    | none => none
    | some w =>
      match w.running, w.requests with
      | true, request :: requests => some (s.setWorker worker { w with requests, tasks := w.tasks ++ [request] })
      | _, _ => none
  | .workerTaskEnds worker task outcome =>
    match s.workers[worker]? with
    | none => none
    | some w =>
      match w.tasks[task]? with
      | none => none
      | some request => (request.answer outcome).map fun result =>
          (s.setWorker worker { w with tasks := w.tasks.eraseIdx task }).postAnswer request.callback result
  | .workerEnds worker =>
    match s.workers[worker]? with
    | none => none
    | some w =>
      -- The handle was the only sender. All futures of `for_each_concurrent` have to be ready.
      if w.running ∧ w.handle = false ∧ w.requests.isEmpty ∧ w.tasks.isEmpty then
        some (s.setWorker worker { w with running := false, finalized := true })
      else none
  | .callback =>
    match s.channel with
    | [] => none
    | (callback, result) :: channel => some ({ s with channel }.answer callback result)
  | .receiverDropped =>
    match s.loop with
    | .ended =>
      some { s with loop := .gone, requests := [], lost := s.lost ++ s.requests.map RuntimeRequest.callback }
    | _ => none
  | .taskDropped task =>
    match s.loop, s.tasks[task]? with
    | .receiving, _ => none
    | _, none => none
    | _, some request =>
      some { s with tasks := s.tasks.eraseIdx task, lost := s.lost ++ [request.callback] }
  | .workerDropped worker =>
    match s.loop, s.workers[worker]? with
    | .receiving, _ => none
    | _, none => none
    | _, some w =>
      if w.running then
        some ({ s with lost := s.lost ++ w.callbacks }.setWorker worker
          { w with running := false, requests := [], tasks := [] })
      else none

end NativeBridge

/-! ### Where the calls are -/

/-- A loop that has ended by itself has left nothing. -/
def Bridge.WorkerLoop.Drained {M : Type} (w : WorkerLoop M) : Prop :=
  w.finalized = true → w.handle = false ∧ w.running = false ∧ w.requests = [] ∧ w.tasks = []

namespace NativeBridge

variable {M : Type}

/-- The calls that are neither answered nor lost -/
def underWay (s : NativeBridge M) : Multiset ℕ :=
  ↑(s.requests.map RuntimeRequest.callback) + ↑(s.tasks.map RuntimeRequest.callback) +
    (s.workers.map fun w => (w.callbacks : Multiset ℕ)).sum + ↑(s.channel.map Prod.fst)

def everywhere (s : NativeBridge M) : Multiset ℕ := ↑(s.answered.map Prod.fst) + s.underWay + ↑s.lost

/-- From one state to another the calls `old` have left their places, and the calls `new` have taken theirs; those in
`dropped` are lost. -/
structure Effect (s t : NativeBridge M) (old new : Multiset ℕ) (dropped : List ℕ) : Prop where
  calls : t.calls = s.calls
  everywhere : t.everywhere + old = s.everywhere + new
  lost : t.lost = s.lost ++ dropped
  loop : t.loop = .receiving → s.loop = .receiving
  drained : (∀ w ∈ s.workers, w.Drained) → ∀ w ∈ t.workers, w.Drained

/-- A step that drops no callback. Behind the loop of the runtime all are dropped, and a history that is pushed then is
forgotten. -/
def Keeps (s : NativeBridge M) : BridgeInput M → Prop
  | .call (.pushHistory pusher (.ok _)) => s.loop = .gone → s.pushers[pusher]? ≠ some true
  | .receiverDropped => s.requests = []
  | .taskDropped _ => False
  | .workerDropped worker => ∀ w, s.workers[worker]? = some w → w.callbacks = []
  | _ => True

variable {s t u : NativeBridge M}

lemma sum_map_set {α A : Type*} [AddCommMonoid A] (f : α → A) {l : List α} {i : ℕ} {a : α} (b : α)
    (h : l[i]? = some a) :
    ((l.set i b).map f).sum + f a = (l.map f).sum + f b := by
  induction l generalizing i with
  | nil => cases h
  | cons c l ih =>
    cases i with
    | zero =>
      cases h
      simp only [List.set_cons_zero, List.map_cons, List.sum_cons]
      abel
    | succ i =>
      simp only [List.set_cons_succ, List.map_cons, List.sum_cons, add_assoc]
      rw [ih h]

namespace Effect

variable {old new old' new' : Multiset ℕ} {dropped dropped' : List ℕ}

lemma refl : Effect s s 0 0 [] := ⟨rfl, rfl, (List.append_nil _).symm, id, id⟩

lemma trans (h : Effect s t old new dropped) (h' : Effect t u old' new' dropped') :
    Effect s u (old + old') (new + new') (dropped ++ dropped') where
  calls := h'.calls.trans h.calls
  everywhere := by
    calc u.everywhere + (old + old') = u.everywhere + old' + old := by abel
      _ = t.everywhere + old + new' := by rw [h'.everywhere]; abel
      _ = s.everywhere + (new + new') := by rw [h.everywhere]; abel
  lost := by rw [h'.lost, h.lost, List.append_assoc]
  loop := h.loop ∘ h'.loop
  drained := h'.drained ∘ h.drained

lemma everywhere_eq (h : Effect s t old old dropped) : t.everywhere = s.everywhere :=
  add_right_cancel h.everywhere

end Effect

/-- A change that leaves the loops alone and drops nothing -/
lemma effect_of_everywhere {old new : Multiset ℕ} (hcalls : t.calls = s.calls) (hlost : t.lost = s.lost)
    (hloop : t.loop = s.loop) (hworkers : t.workers = s.workers)
    (heverywhere : t.everywhere + old = s.everywhere + new) : Effect s t old new [] where
  calls := hcalls
  everywhere := heverywhere
  lost := hlost.trans (List.append_nil _).symm
  loop := hloop.symm.trans
  drained hall := hworkers ▸ hall

lemma effect_answer (s : NativeBridge M) (call : ℕ) (result : Except BridgeError (BridgeValue M)) :
    Effect s (s.answer call result) 0 {call} [] := by
  refine effect_of_everywhere rfl rfl rfl rfl ?_
  simp only [everywhere, underWay, answer, List.map_append, List.map_cons, List.map_nil, ← Multiset.coe_add,
    Multiset.coe_singleton]
  abel

lemma effect_post (s : NativeBridge M) (callback : ℕ) (result : Except BridgeError (BridgeValue M)) :
    Effect s (s.post callback result) 0 {callback} [] := by
  refine effect_of_everywhere rfl rfl rfl rfl ?_
  simp only [everywhere, underWay, post, List.map_append, List.map_cons, List.map_nil, ← Multiset.coe_add,
    Multiset.coe_singleton]
  abel

lemma effect_enqueue (s : NativeBridge M) (request : RuntimeRequest M) :
    Effect s { s with requests := s.requests ++ [request] } 0 {request.callback} [] := by
  refine effect_of_everywhere rfl rfl rfl rfl ?_
  simp only [everywhere, underWay, List.map_append, List.map_cons, List.map_nil, ← Multiset.coe_add,
    Multiset.coe_singleton]
  abel

lemma effect_spawn (s : NativeBridge M) (request : RuntimeRequest M) :
    Effect s { s with tasks := s.tasks ++ [request] } 0 {request.callback} [] := by
  refine effect_of_everywhere rfl rfl rfl rfl ?_
  simp only [everywhere, underWay, List.map_append, List.map_cons, List.map_nil, ← Multiset.coe_add,
    Multiset.coe_singleton]
  abel

lemma effect_lose (s : NativeBridge M) (ids : List ℕ) : Effect s { s with lost := s.lost ++ ids } 0 ids ids where
  calls := rfl
  everywhere := by
    simp only [everywhere, underWay, ← Multiset.coe_add]
    abel
  lost := rfl
  loop := id
  drained := id

lemma effect_handles (s : NativeBridge M) (clients servers pushers : List Bool) :
    Effect s { s with clients, servers, pushers } 0 0 [] :=
  effect_of_everywhere rfl rfl rfl rfl rfl

lemma effect_send (s : NativeBridge M) (request : RuntimeRequest M) :
    Effect s (s.send request) 0 {request.callback} [] := by
  unfold send
  split
  · exact effect_answer s _ _
  · exact effect_enqueue s request

lemma effect_takeRequest {request : RuntimeRequest M} {requests : List (RuntimeRequest M)}
    (h : s.requests = request :: requests) : Effect s { s with requests } {request.callback} 0 [] := by
  refine effect_of_everywhere rfl rfl rfl rfl ?_
  simp only [everywhere, underWay, h, List.map_cons, ← Multiset.cons_coe, ← Multiset.singleton_add]
  abel

lemma effect_takeCallback {callback : ℕ} {result : Except BridgeError (BridgeValue M)}
    {channel : List (ℕ × Except BridgeError (BridgeValue M))} (h : s.channel = (callback, result) :: channel) :
    Effect s { s with channel } {callback} 0 [] := by
  refine effect_of_everywhere rfl rfl rfl rfl ?_
  simp only [everywhere, underWay, h, List.map_cons, ← Multiset.cons_coe, ← Multiset.singleton_add]
  abel

lemma effect_takeTask {task : ℕ} {request : RuntimeRequest M} (h : s.tasks[task]? = some request) :
    Effect s { s with tasks := s.tasks.eraseIdx task } {request.callback} 0 [] := by
  refine effect_of_everywhere rfl rfl rfl rfl ?_
  obtain ⟨hlt, rfl⟩ := List.getElem?_eq_some_iff.mp h
  have hperm := Multiset.coe_eq_coe.mpr ((List.getElem_cons_eraseIdx_perm hlt).map RuntimeRequest.callback)
  rw [List.map_cons, ← Multiset.cons_coe, ← Multiset.singleton_add] at hperm
  simp only [everywhere, underWay, ← hperm]
  abel

lemma effect_setWorker {worker : ℕ} {w w' : WorkerLoop M} {old new : Multiset ℕ} (h : s.workers[worker]? = some w)
    (hcallbacks : (w'.callbacks : Multiset ℕ) + old = w.callbacks + new) (hdrained : w.Drained → w'.Drained) :
    Effect s (s.setWorker worker w') old new [] where
  calls := rfl
  everywhere := by
    have hsum := sum_map_set (fun w => (w.callbacks : Multiset ℕ)) w' h
    have hworkers : ((s.workers.set worker w').map fun w => (w.callbacks : Multiset ℕ)).sum + old =
        (s.workers.map fun w => (w.callbacks : Multiset ℕ)).sum + new := by
      refine add_right_cancel (b := (w.callbacks : Multiset ℕ)) ?_
      calc _ = ((s.workers.set worker w').map fun w => (w.callbacks : Multiset ℕ)).sum + w.callbacks + old := by abel
        _ = (s.workers.map fun w => (w.callbacks : Multiset ℕ)).sum + (w'.callbacks + old) := by
          rw [hsum, add_assoc]
        _ = _ := by rw [hcallbacks]; abel
    simp only [everywhere, underWay, setWorker]
    calc _ = ↑(s.answered.map Prod.fst) + (↑(s.requests.map RuntimeRequest.callback) +
          ↑(s.tasks.map RuntimeRequest.callback) + ↑(s.channel.map Prod.fst)) + ↑s.lost +
          (((s.workers.set worker w').map fun w => (w.callbacks : Multiset ℕ)).sum + old) := by abel
      _ = _ := by rw [hworkers]; abel
  lost := (List.append_nil _).symm
  loop := id
  drained hall v hv := by
    rcases List.mem_or_eq_of_mem_set hv with hv | rfl
    · exact hall v hv
    · exact hdrained (hall w (List.mem_of_getElem? h))

/-! ### The exported functions -/

/-- An exported function takes the call on, or drops its callback. -/
def Takes (s t : NativeBridge M) (id : ℕ) (keeps : Prop) : Prop :=
  ∃ dropped, Effect s t 0 {id} dropped ∧ (dropped = [] ↔ keeps)

lemma Effect.takes {id : ℕ} {keeps : Prop} (h : Effect s t 0 {id} []) (hkeeps : keeps) : Takes s t id keeps :=
  ⟨[], h, iff_of_true rfl hkeeps⟩

lemma takes_through {handles : List Bool} {handle id : ℕ} {closed : BridgeError} {action : NativeBridge M}
    {keeps : Prop} (hclosed : handles[handle]? = some false → keeps)
    (haction : handles[handle]? = some true → Takes s action id keeps)
    (h : s.through handles handle id closed action = some t) : Takes s t id keeps := by
  unfold through at h
  split at h
  · cases h
  · rename_i hhandle
    cases h
    exact (effect_answer s id _).takes (hclosed hhandle)
  · rename_i hhandle
    cases h
    exact haction hhandle

lemma takes_askWorker {worker id : ℕ} {request : Except BridgeError (WorkerRequest M)} {refusal : String}
    (hrequest : ∀ r, request = .ok r → r.callback = none ∨ r.callback = some id)
    (h : s.askWorker worker id request refusal = some t) : Takes s t id True := by
  unfold askWorker at h
  split at h
  · cases h
  · rename_i w hw
    split at h
    · cases h
      exact (effect_answer s id _).takes trivial
    · rename_i hhandle
      split at h
      · cases h
        exact (effect_answer s id _).takes trivial
      · rename_i request
        split at h
        · cases h
          exact (effect_answer s id _).takes trivial
        · -- A loop whose handle is open has not ended by itself.
          have hdrained (hd : w.Drained) : ({ w with requests := w.requests ++ [request] } : WorkerLoop M).Drained :=
            fun hfinalized => absurd (hd hfinalized).1 (by simpa using hhandle)
          have hcallbacks : (({ w with requests := w.requests ++ [request] } : WorkerLoop M).callbacks : Multiset ℕ) =
              ↑w.callbacks + ↑request.callback.toList := by
            cases hcallback : request.callback with
            | none => simp [WorkerLoop.callbacks, hcallback]
            | some id =>
              simp only [WorkerLoop.callbacks, List.filterMap_append, List.filterMap_cons, hcallback,
                List.filterMap_nil, Option.toList_some, ← Multiset.coe_add]
              abel
          rcases hrequest request rfl with hnone | hsome
          · rw [hnone] at h hcallbacks
            cases h
            have hset : Effect s (s.setWorker worker { w with requests := w.requests ++ [request] }) 0 0 [] :=
              effect_setWorker hw (congrArg (· + 0) (hcallbacks.trans (add_zero _))) hdrained
            exact (hset.trans (effect_answer _ id _)).takes trivial
          · rw [hsome] at h hcallbacks
            cases h
            exact (effect_setWorker hw ((add_zero _).trans hcallbacks) hdrained).takes trivial

/-- Each call is taken on by the function, whose callback is then in one place. -/
lemma takes_exported {id : ℕ} {call : BridgeCall M} (h : s.exported id call = some t) :
    Takes s t id (s.Keeps (.call call)) := by
  cases call with
  | runtimeShutdown | pollLogs | newClient | newReplayWorker | startEphemeralServer =>
    cases h
    exact (effect_send s _).takes trivial
  | clientUpdateHeaders client | newWorker client =>
    exact takes_through (fun _ => trivial) (fun _ => (effect_send s _).takes trivial) h
  | clientClose client =>
    exact takes_through (fun _ => trivial)
      (fun _ => ((effect_handles s _ _ _).trans (effect_answer _ id _)).takes trivial) h
  | shutdownEphemeralServer server =>
    exact takes_through (fun _ => trivial)
      (fun _ => ((effect_handles s _ _ _).trans (effect_send _ _)).takes trivial) h
  | pushHistory pusher history =>
    cases history with
    | error err =>
      cases h
      exact (effect_answer s id _).takes trivial
    | ok history =>
      refine takes_through (fun hclosed _ => by rw [hclosed]; decide) (fun hopen => ?_) h
      split
      · rename_i hgone
        exact ⟨[id], effect_lose s [id], iff_of_false (List.cons_ne_nil _ _) fun hkeeps => hkeeps hgone hopen⟩
      · rename_i hloop
        exact (effect_enqueue s (.pushReplayHistory pusher history id)).takes fun hgone => absurd hgone hloop
  | closeHistoryStream pusher =>
    simp only [exported] at h
    split at h
    · cases h
    · cases h
      exact ((effect_handles s _ _ _).trans (effect_answer _ id _)).takes trivial
  | workerFinalizeShutdown worker =>
    simp only [exported] at h
    split at h
    · cases h
    · rename_i w hw
      split at h
      · cases h
        have hset : Effect s (s.setWorker worker { w with handle := false }) 0 0 [] :=
          effect_setWorker hw rfl fun hd hfinalized => ⟨rfl, (hd hfinalized).2⟩
        exact (hset.trans (effect_answer _ id _)).takes trivial
      · cases h
        exact (effect_answer s id _).takes trivial
  | workerInitiateShutdown worker | workerPollWorkflowActivation worker | workerPollActivityTask worker =>
    rw [exported] at h
    refine takes_askWorker (fun r hr => ?_) h
    cases hr
    exact .inr rfl
  | workerCompleteWorkflowActivation worker completion | workerCompleteActivityTask worker completion =>
    refine takes_askWorker (fun r hr => ?_) h
    cases completion <;> cases hr
    exact .inr rfl
  | workerRecordActivityHeartbeat worker heartbeat =>
    refine takes_askWorker (fun r hr => ?_) h
    cases heartbeat <;> cases hr
    exact .inl rfl

/-! ### The loops -/

/-- The loop answers the request, or a task of its own will. -/
lemma effect_received {request : RuntimeRequest M} {outcome : CoreOutcome M}
    (h : s.received request outcome = some t) : Effect s t 0 {request.callback} [] := by
  have hworker (clients servers pushers : List Bool) :
      Effect s { s with workers := s.workers ++ [WorkerLoop.start], clients, servers, pushers } 0 0 [] := by
    refine ⟨rfl, ?_, (List.append_nil _).symm, id, fun hall w hw => ?_⟩
    · simp [everywhere, underWay, WorkerLoop.start, WorkerLoop.callbacks]
    · rcases List.mem_append.mp hw with hw | hw
      · exact hall w hw
      · rw [List.mem_singleton.mp hw]
        intro hfinalized
        cases hfinalized
  unfold received at h
  split at h
  · cases h
    have hended : Effect s { s with loop := .ended } 0 0 [] :=
      ⟨rfl, rfl, (List.append_nil _).symm, fun hloop => (by cases hloop), id⟩
    exact hended.trans (effect_post _ _ _)
  · cases h
    exact effect_post s _ _
  · cases h
    exact effect_post s _ _
  · cases h
    exact (hworker s.clients s.servers s.pushers).trans (effect_post _ _ _)
  · cases h
    exact effect_post s _ _
  · cases h
    exact (hworker s.clients s.servers (s.pushers ++ [true])).trans (effect_post _ _ _)
  · cases h
    exact effect_post s _ _
  · split at h
    · cases h
      exact effect_spawn s request
    · cases h

lemma effect_completed {request : RuntimeRequest M} {outcome : CoreOutcome M}
    (h : s.completed request outcome = some t) : Effect s t 0 {request.callback} [] := by
  unfold completed at h
  split at h
  · cases h
    exact (effect_handles s (s.clients ++ [true]) s.servers s.pushers).trans (effect_post _ _ _)
  · cases h
    exact effect_post s _ _
  · cases h
    exact (effect_handles s s.clients (s.servers ++ [true]) s.pushers).trans (effect_post _ _ _)
  · cases h
    exact effect_post s _ _
  · cases h
    exact effect_post s _ _
  · cases h
    exact effect_post s _ _
  · cases h
    exact effect_post s _ _
  · cases h
    exact effect_post s _ _
  · cases h

lemma effect_postAnswer (s : NativeBridge M) (callback : Option ℕ) (result : Except BridgeError (BridgeValue M)) :
    Effect s (s.postAnswer callback result) 0 ↑callback.toList [] := by
  cases callback with
  | none => exact Effect.refl
  | some callback => exact effect_post s callback result

/-- A step that is no call moves callbacks, and drops those that it does not keep. -/
def Moves (s t : NativeBridge M) (keeps : Prop) : Prop :=
  ∃ moved dropped, Effect s t moved moved dropped ∧ (dropped = [] ↔ keeps)

lemma Effect.moves {moved : Multiset ℕ} {keeps : Prop} (h : Effect s t moved moved []) (hkeeps : keeps) :
    Moves s t keeps :=
  ⟨moved, [], h, iff_of_true rfl hkeeps⟩

lemma moves_receive {outcome : CoreOutcome M} (h : s.step (.receive outcome) = some t) : Moves s t True := by
  simp only [step] at h
  split at h
  · rename_i request requests hloop hrequests
    exact ((effect_takeRequest hrequests).trans (effect_received h)).moves trivial
  · cases h

lemma moves_taskEnds {task : ℕ} {outcome : CoreOutcome M} (h : s.step (.taskEnds task outcome) = some t) :
    Moves s t True := by
  simp only [step] at h
  split at h
  · cases h
  · rename_i request hrequest
    exact ((effect_takeTask hrequest).trans (effect_completed h)).moves trivial

lemma moves_workerReceives {worker : ℕ} (h : s.step (.workerReceives worker) = some t) : Moves s t True := by
  simp only [step] at h
  split at h
  · cases h
  · rename_i w hw
    split at h
    · rename_i request requests hrunning hrequests
      cases h
      have hset : Effect s (s.setWorker worker { w with requests, tasks := w.tasks ++ [request] }) 0 0 [] := by
        refine effect_setWorker hw ?_ fun hd hfinalized => ?_
        · refine congrArg (· + 0) (Multiset.coe_eq_coe.mpr ?_)
          simp only [WorkerLoop.callbacks, hrequests]
          refine List.Perm.filterMap _ ?_
          rw [← List.append_assoc]
          exact List.perm_append_singleton _ _
        · have hfalse := (hd hfinalized).2.1
          rw [hrunning] at hfalse
          cases hfalse
      exact hset.moves trivial
    · cases h

lemma moves_workerTaskEnds {worker task : ℕ} {outcome : CoreOutcome M}
    (h : s.step (.workerTaskEnds worker task outcome) = some t) : Moves s t True := by
  simp only [step] at h
  split at h
  · cases h
  · rename_i w hw
    split at h
    · cases h
    · rename_i request hrequest
      obtain ⟨result, -, rfl⟩ := Option.map_eq_some_iff.mp h
      obtain ⟨hlt, rfl⟩ := List.getElem?_eq_some_iff.mp hrequest
      have hset : Effect s (s.setWorker worker { w with tasks := w.tasks.eraseIdx task })
          ↑w.tasks[task].callback.toList 0 [] := by
        refine effect_setWorker hw ?_ fun hd hfinalized => ?_
        · rw [add_zero, Multiset.coe_add, Multiset.coe_eq_coe]
          have hperm := (List.getElem_cons_eraseIdx_perm hlt).filterMap WorkerRequest.callback
          simp only [WorkerLoop.callbacks, List.filterMap_append, List.append_assoc]
          refine List.Perm.append_left _ (List.perm_append_comm.trans (.trans ?_ hperm))
          rw [List.filterMap_cons]
          cases w.tasks[task].callback <;> rfl
        · have hnil := (hd hfinalized).2.2.2
          rw [hnil] at hlt
          cases hlt
      have hposted := hset.trans (effect_postAnswer _ w.tasks[task].callback result)
      rw [add_zero, zero_add] at hposted
      exact hposted.moves trivial

lemma moves_workerEnds {worker : ℕ} (h : s.step (.workerEnds worker) = some t) : Moves s t True := by
  simp only [step] at h
  split at h
  · cases h
  · rename_i w hw
    split at h
    · rename_i hends
      cases h
      have hset : Effect s (s.setWorker worker { w with running := false, finalized := true }) 0 0 [] :=
        effect_setWorker hw rfl fun _ _ =>
          ⟨hends.2.1, rfl, List.isEmpty_iff.mp hends.2.2.1, List.isEmpty_iff.mp hends.2.2.2⟩
      exact hset.moves trivial
    · cases h

lemma moves_callback (h : s.step .callback = some t) : Moves s t True := by
  simp only [step] at h
  split at h
  · cases h
  · rename_i callback result channel hchannel
    cases h
    exact ((effect_takeCallback hchannel).trans (effect_answer _ callback result)).moves trivial

lemma moves_receiverDropped (h : s.step .receiverDropped = some t) : Moves s t (s.requests = []) := by
  simp only [step] at h
  split at h
  · cases h
    refine ⟨↑(s.requests.map RuntimeRequest.callback), s.requests.map RuntimeRequest.callback, ?_, List.map_eq_nil_iff⟩
    refine ⟨rfl, ?_, rfl, fun hloop => (by cases hloop), id⟩
    simp only [everywhere, underWay, List.map_nil, Multiset.coe_nil, ← Multiset.coe_add]
    abel
  · cases h

lemma moves_taskDropped {task : ℕ} (h : s.step (.taskDropped task) = some t) : Moves s t False := by
  simp only [step] at h
  split at h
  · cases h
  · cases h
  · rename_i request hrequest _
    cases h
    exact ⟨_, _, (effect_takeTask hrequest).trans (effect_lose _ [request.callback]),
      iff_of_false (List.cons_ne_nil _ _) id⟩

lemma moves_workerDropped {worker : ℕ} (h : s.step (.workerDropped worker) = some t) :
    Moves s t (∀ w, s.workers[worker]? = some w → w.callbacks = []) := by
  simp only [step] at h
  split at h
  · cases h
  · cases h
  · rename_i w hw _
    split at h
    · cases h
      have hset : Effect { s with lost := s.lost ++ w.callbacks } (setWorker { s with lost := s.lost ++ w.callbacks }
          worker { w with running := false, requests := [], tasks := [] }) w.callbacks 0 [] :=
        effect_setWorker hw (by simp [WorkerLoop.callbacks]) fun hd hfinalized =>
          ⟨(hd hfinalized).1, rfl, rfl, rfl⟩
      have hlost := (effect_lose s w.callbacks).trans hset
      rw [zero_add, add_zero, List.append_nil] at hlost
      exact ⟨_, _, hlost, by simp [hw]⟩
    · cases h

/-! ### Runs -/

/-- The calls up to now are where they have to be, each in one place. -/
structure Settles (s : NativeBridge M) : Prop where
  accounted : ↑(s.answered.map Prod.fst) + s.underWay + ↑s.lost = Multiset.range s.calls
  kept : s.loop = .receiving → s.lost = []
  drained : ∀ w ∈ s.workers, w.Drained

lemma keeps_of_receiving {input : BridgeInput M} (hloop : s.loop = .receiving) (h : s.step input = some t) :
    s.Keeps input := by
  cases input with
  | call call =>
    cases call with
    | pushHistory pusher history =>
      cases history with
      | error err => trivial
      | ok history =>
        intro hgone
        rw [hloop] at hgone
        cases hgone
    | _ => trivial
  | receiverDropped =>
    simp only [step, hloop] at h
    cases h
  | taskDropped task =>
    simp only [step, hloop] at h
    cases h
  | workerDropped worker =>
    simp only [step, hloop] at h
    cases h
  | _ => trivial

/-- What a step does -/
lemma moves_or_takes {input : BridgeInput M} (h : s.step input = some t) :
    Moves s t (s.Keeps input) ∨ Takes { s with calls := s.calls + 1 } t s.calls (s.Keeps input) := by
  cases input with
  | call call => exact .inr (takes_exported h)
  | receive outcome => exact .inl (moves_receive h)
  | taskEnds task outcome => exact .inl (moves_taskEnds h)
  | workerReceives worker => exact .inl (moves_workerReceives h)
  | workerTaskEnds worker task outcome => exact .inl (moves_workerTaskEnds h)
  | workerEnds worker => exact .inl (moves_workerEnds h)
  | callback => exact .inl (moves_callback h)
  | receiverDropped => exact .inl (moves_receiverDropped h)
  | taskDropped task => exact .inl (moves_taskDropped h)
  | workerDropped worker => exact .inl (moves_workerDropped h)

lemma exists_dropped {input : BridgeInput M} (h : s.step input = some t) :
    ∃ dropped, t.lost = s.lost ++ dropped ∧ (dropped = [] ↔ s.Keeps input) := by
  rcases moves_or_takes h with ⟨moved, dropped, heffect, hkeeps⟩ | ⟨dropped, heffect, hkeeps⟩
  · exact ⟨dropped, heffect.lost, hkeeps⟩
  · exact ⟨dropped, heffect.lost, hkeeps⟩

lemma Settles.step {input : BridgeInput M} (hs : s.Settles) (h : s.step input = some t) : t.Settles := by
  have hkept (hloop : s.loop = .receiving) : t.lost = [] := by
    obtain ⟨dropped, hlost, hkeeps⟩ := exists_dropped h
    rw [hlost, hs.kept hloop, hkeeps.mpr (keeps_of_receiving hloop h)]
    rfl
  rcases moves_or_takes h with ⟨moved, dropped, heffect, -⟩ | ⟨dropped, heffect, -⟩
  · refine ⟨?_, fun hloop => hkept (heffect.loop hloop), heffect.drained hs.drained⟩
    rw [heffect.calls]
    exact heffect.everywhere_eq.trans hs.accounted
  · refine ⟨?_, fun hloop => hkept (heffect.loop hloop), heffect.drained hs.drained⟩
    rw [heffect.calls, Multiset.range_succ, ← hs.accounted]
    calc t.everywhere = s.everywhere + {s.calls} := (add_zero _).symm.trans heffect.everywhere
      _ = s.calls ::ₘ s.everywhere := by rw [add_comm, Multiset.singleton_add]

lemma settles_runtimeNew : (runtimeNew : NativeBridge M).Settles where
  accounted := rfl
  kept _ := rfl
  drained _ hw := absurd hw List.not_mem_nil

lemma calls_step {input : BridgeInput M} (h : s.step input = some t) :
    t.calls = s.calls + if input.isCall then 1 else 0 := by
  have hmoves {P : Prop} (h : Moves s t P) : t.calls = s.calls := by
    obtain ⟨_, _, heffect, -⟩ := h
    exact heffect.calls
  cases input with
  | call call =>
    obtain ⟨_, heffect, -⟩ := takes_exported h
    exact heffect.calls
  | receive outcome => exact hmoves (moves_receive h)
  | taskEnds task outcome => exact hmoves (moves_taskEnds h)
  | workerReceives worker => exact hmoves (moves_workerReceives h)
  | workerTaskEnds worker task outcome => exact hmoves (moves_workerTaskEnds h)
  | workerEnds worker => exact hmoves (moves_workerEnds h)
  | callback => exact hmoves (moves_callback h)
  | receiverDropped => exact hmoves (moves_receiverDropped h)
  | taskDropped task => exact hmoves (moves_taskDropped h)
  | workerDropped worker => exact hmoves (moves_workerDropped h)

/-- The calls are numbered in the order in which they are made. -/
lemma calls_of_run {inputs : List (BridgeInput M)} (h : Transition.run step runtimeNew inputs = some s) :
    s.calls = inputs.countP BridgeInput.isCall := by
  refine Transition.invariant_of_inputs (I := fun inputs s => s.calls = inputs.countP BridgeInput.isCall)
    (fun before s input t hs hstep => ?_) rfl h
  rw [calls_step hstep, hs, List.countP_append, List.countP_singleton]

/-- **Each call is in one place**: however JavaScript calls, Core answers and handles are closed, a call has been
answered once, is under way, or is lost, and only one of these. None is lost as long as the loop of the runtime
receives, and the loop of a worker that has ended by itself has answered all its requests. -/
theorem settles_of_run {inputs : List (BridgeInput M)} (h : Transition.run step runtimeNew inputs = some s) :
    s.calls = inputs.countP BridgeInput.isCall ∧ s.Settles :=
  ⟨calls_of_run h, Transition.invariant (fun _ _ _ hs hstep => hs.step hstep) settles_runtimeNew h⟩

/-- A worker is polled when it is shut down, and answers before its loop ends. -/
def drainedWorker : List (BridgeInput Unit) :=
  [.call .newReplayWorker, .receive .ok, .callback, .call (.workerPollWorkflowActivation 0),
    .call (.workerInitiateShutdown 0), .workerReceives 0, .workerReceives 0, .call (.workerFinalizeShutdown 0),
    .workerTaskEnds 0 1 .ok, .workerTaskEnds 0 0 (.pollError (.shutDown "ShutDown")), .callback, .workerEnds 0,
    .callback]

theorem settles_of_run_drainedWorker :
    ∃ s, Transition.run step runtimeNew drainedWorker = some s ∧
      s.answered = [(0, .ok (.replayWorker 0 0)), (3, .ok .undefined), (2, .ok .undefined),
        (1, .error (shutdownError "ShutDown"))] ∧
      s.calls = 4 ∧ s.Settles := by
  obtain ⟨s, hs, hanswered⟩ : ∃ s, Transition.run step runtimeNew drainedWorker = some s ∧
      s.answered = [(0, .ok (.replayWorker 0 0)), (3, .ok .undefined), (2, .ok .undefined),
        (1, .error (shutdownError "ShutDown"))] := ⟨_, rfl, rfl⟩
  obtain ⟨hcalls, hsettles⟩ := settles_of_run hs
  exact ⟨s, hs, hanswered, hcalls, hsettles⟩

/-- **When nothing is under way any more**, every call has been answered, and once, if and only if no step of the run
dropped a callback. -/
theorem answered_iff_keeps {inputs : List (BridgeInput M)} (h : Transition.run step runtimeNew inputs = some s)
    (hrest : s.underWay = 0) :
    (s.answered.map Prod.fst).Perm (List.range (inputs.countP BridgeInput.isCall)) ↔
      Transition.Meets step Keeps runtimeNew inputs := by
  rw [← calls_of_run h]
  have hs : s.Settles := Transition.invariant (fun _ _ _ hs hstep => hs.step hstep) settles_runtimeNew h
  have haccounted := hs.accounted
  rw [hrest, add_zero, Multiset.coe_add] at haccounted
  have hperm : (s.answered.map Prod.fst ++ s.lost).Perm (List.range s.calls) := Multiset.coe_eq_coe.mp haccounted
  have hlost : (s.answered.map Prod.fst).Perm (List.range s.calls) ↔ s.lost = [] := by
    constructor
    · intro hanswered
      have hlength := (hanswered.trans hperm.symm).length_eq
      rw [List.length_append] at hlength
      exact List.length_eq_zero_iff.mp (by omega)
    · intro hnil
      rwa [hnil, List.append_nil] at hperm
  have hrun := Transition.meets_or_broken (I := fun s : NativeBridge M => s.lost = []) (B := fun s => s.lost ≠ [])
    (C := Keeps) (fun s input t hnil hkeeps hstep => ?_) (fun s input t hnil hkeeps hstep => ?_)
    (fun s input t hne hstep => ?_) rfl h
  · rw [hlost]
    rcases hrun with ⟨hmeets, hnil⟩ | ⟨hmeets, hne⟩
    · exact iff_of_true hnil hmeets
    · exact iff_of_false hne hmeets
  · obtain ⟨dropped, hdropped, hiff⟩ := exists_dropped hstep
    rw [hdropped, hnil, hiff.mpr hkeeps]
    rfl
  · obtain ⟨dropped, hdropped, hiff⟩ := exists_dropped hstep
    rw [hdropped, hnil]
    exact fun hempty => hkeeps (hiff.mp hempty)
  · obtain ⟨dropped, hdropped, -⟩ := exists_dropped hstep
    rw [hdropped]
    exact List.append_ne_nil_of_left_ne_nil hne dropped

/-- A history is pushed when the loop of the runtime is gone. -/
def lateHistory : List (BridgeInput Unit) :=
  [.call .newReplayWorker, .receive .ok, .callback, .call .runtimeShutdown, .receive .ok, .callback, .receiverDropped,
    .call .pollLogs, .call (.pushHistory 0 (.ok ()))]

theorem answered_iff_keeps_lateHistory :
    ∃ s, Transition.run step runtimeNew lateHistory = some s ∧
      ¬(s.answered.map Prod.fst).Perm (List.range 4) ∧ ¬Transition.Meets step Keeps runtimeNew lateHistory := by
  obtain ⟨s, hs, hrest, hanswered⟩ : ∃ s, Transition.run step runtimeNew lateHistory = some s ∧ s.underWay = 0 ∧
      s.answered.map Prod.fst = [0, 1, 2] := ⟨_, rfl, by decide, rfl⟩
  have hlate : ¬(s.answered.map Prod.fst).Perm (List.range 4) := by
    rw [hanswered]
    decide
  exact ⟨s, hs, hlate, fun hmeets => hlate ((answered_iff_keeps hs hrest).mpr hmeets)⟩

end NativeBridge

end TemporalSdk
