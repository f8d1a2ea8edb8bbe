import TemporalSdk.Common.Errors
import TemporalSdk.Library.Keyed

/-!
# Heartbeats of activities

The state mapper of `activityHeartbeat$`, and around it the group of one activity: the mapper's
outputs up to the first `close`, and the encoders that they start. An encoder that ends feeds
`flush` back into the mapper.
-/

namespace TemporalSdk

/-- `index` counts the heartbeats that the activity has emitted before; the mapper does not
look at it. -/
structure Heartbeat (D : Type) where
  index : ℕ
  details : D
deriving DecidableEq

inductive HeartbeatInput (D K : Type)
  | create
  | heartbeat (heartbeat : Heartbeat D)
  | flush
  | completion (flushRequired : Bool) (callback : K)

structure HeartbeatState (D K : Type) where
  closed : Bool
  processing : Bool
  completionCallback : Option K
  pending : Option (Heartbeat D)

inductive HeartbeatOutput (D K : Type)
  | send (heartbeat : Heartbeat D)
  | close (completionCallback : Option K)

namespace HeartbeatState

variable {D K : Type} (state : HeartbeatState D K)

/-- A stream starts closed, and waits for `create`. -/
def initial : HeartbeatState D K := ⟨true, false, none, none⟩

def process (heartbeat : Heartbeat D) : HeartbeatState D K × Option (HeartbeatOutput D K) :=
  ({ state with processing := true, pending := none }, some (.send heartbeat))

def storePending (heartbeat : Heartbeat D) : HeartbeatState D K × Option (HeartbeatOutput D K) :=
  ({ state with pending := some heartbeat }, none)

def complete (callback : K) : HeartbeatState D K × Option (HeartbeatOutput D K) :=
  (⟨true, false, none, none⟩, some (.close (some callback)))

/-- The state mapper. -/
def map (input : HeartbeatInput D K) : HeartbeatState D K × Option (HeartbeatOutput D K) :=
  match input with
  | .create => (⟨false, false, none, none⟩, none)
  | .heartbeat heartbeat =>
    if state.closed then (state, some (.close none))
    else if state.processing then state.storePending heartbeat
    else state.process heartbeat
  | .flush =>
    if state.closed then (state, some (.close none))
    else
      match state.pending, state.completionCallback with
      | some pending, _ => state.process pending
      | none, some callback => complete callback
      | none, none => ({ state with processing := false }, none)
  | .completion flushRequired callback =>
    if state.closed then (state, some (.close none))
    else if state.processing then
      ({ state with
        pending := if flushRequired then state.pending else none
        completionCallback := some callback }, none)
    else if !flushRequired then complete callback
    else
      match state.pending with
      | some pending => { state with completionCallback := some callback }.process pending
      | none => complete callback

end HeartbeatState

/-- The completion of an activity, and how many heartbeats it had emitted. -/
structure ActivityCompletion (K : Type) where
  flushRequired : Bool
  callback : K
  emittedBefore : ℕ
deriving DecidableEq

/-- The heartbeats of one activity. `group` is the state of its open group, if there is one,
`stopped` says that `takeWhile` has seen a `close`, `sending` are the heartbeats whose encoder
runs, and `returning` counts the encoders that have ended but whose promise is not settled.
`numHeartbeating` is the activity's part of the worker's counter. The other fields are the
history: `processed` has the heartbeats that were recorded, with their payload, and those for
which `onError` was called. -/
structure HeartbeatStream (D K : Type) where
  group : Option (HeartbeatState D K)
  stopped : Bool
  sending : List (Heartbeat D)
  returning : ℕ
  numHeartbeating : ℤ
  created : Bool
  emitted : List (Heartbeat D)
  sent : List (Heartbeat D)
  processed : List (Heartbeat D × Except JsError Payload)
  completion : Option (ActivityCompletion K)
  called : List K

inductive ActivityInput (D K : Type)
  | create
  | heartbeat (details : D)
  | completion (flushRequired : Bool) (callback : K)
  | encoded (encoder : ℕ) (result : Except JsError Payload)
  | returned

namespace HeartbeatStream

variable {D K : Type} (s : HeartbeatStream D K)

def initial : HeartbeatStream D K := ⟨none, false, [], 0, 0, false, [], [], [], none, []⟩

/-- The group is closed when the outputs have ended and all encoders have returned. -/
def closeGroup : HeartbeatStream D K :=
  if s.stopped ∧ s.sending = [] ∧ s.returning = 0 then { s with group := none, stopped := false }
  else s

/-- What is done with an output of the mapper. -/
def emit (output : Option (HeartbeatOutput D K)) : HeartbeatStream D K :=
  match output with
  | none => s
  | some (.send heartbeat) =>
    { s with sending := s.sending ++ [heartbeat], sent := s.sent ++ [heartbeat] }
  | some (.close callback) =>
    { s with
      stopped := true
      numHeartbeating := s.numHeartbeating - 1
      called := s.called ++ callback.toList }.closeGroup

/-- An input opens a group if there is none; a group that has stopped ignores it. -/
def next (input : HeartbeatInput D K) : HeartbeatStream D K :=
  if s.stopped then s
  else
    let (state, output) := (s.group.getD .initial).map input
    let numHeartbeating := match input with
      | .create => s.numHeartbeating + 1
      | _ => s.numHeartbeating
    { s with group := some state, numHeartbeating }.emit output

def heartbeatEmitted (heartbeat : Heartbeat D) : HeartbeatStream D K :=
  { s with emitted := s.emitted ++ [heartbeat] }

def completed (completion : ActivityCompletion K) : HeartbeatStream D K :=
  { s with completion := some completion }

def encoderEnded (encoder : ℕ) (heartbeat : Heartbeat D) (result : Except JsError Payload) :
    HeartbeatStream D K :=
  { s with
    sending := s.sending.eraseIdx encoder
    returning := s.returning + 1
    processed := s.processed ++ [(heartbeat, result)] }

/-- An activity is created once, emits heartbeats from then on, and is completed once. -/
def step (s : HeartbeatStream D K) : ActivityInput D K → Option (HeartbeatStream D K)
  | .create => if s.created then none else some ({ s with created := true }.next .create)
  | .heartbeat details =>
    if !s.created then none
    else
      let heartbeat : Heartbeat D := ⟨s.emitted.length, details⟩
      some ((s.heartbeatEmitted heartbeat).next (.heartbeat heartbeat))
  | .completion flushRequired callback =>
    if !s.created || s.completion.isSome then none
    else
      let completion : ActivityCompletion K := ⟨flushRequired, callback, s.emitted.length⟩
      some ((s.completed completion).next (.completion flushRequired callback))
  | .encoded encoder result =>
    match s.sending[encoder]? with
    | none => none
    | some heartbeat => some ((s.encoderEnded encoder heartbeat result).next .flush)
  | .returned =>
    if s.returning = 0 then none
    else some { s with returning := s.returning - 1 }.closeGroup

end HeartbeatStream

end TemporalSdk
