import Mathlib.Tactic.Common

/-!
# Updates of build ids

`updateBuildIdCompatibility` writes an operation on the build ids of a task queue into a request, in which each
kind of operation has a field of its own.
-/

namespace TemporalSdk

/-- What `updateBuildIdCompatibility` is asked to do -/
inductive BuildIdOperation
  | addNewIdInNewDefaultSet (buildId : String)
  | addNewCompatibleVersion (buildId existingCompatibleBuildId : String) (promoteSet : Option Bool)
  | promoteSetByBuildId (buildId : String)
  | promoteBuildIdWithinSet (buildId : String)
  | mergeSets (primaryBuildId secondaryBuildId : String)
deriving DecidableEq

structure AddNewCompatibleBuildId where
  newBuildId : String
  existingCompatibleBuildId : String
deriving DecidableEq

structure MergeSetsRequest where
  primarySetBuildId : String
  secondarySetBuildId : String
deriving DecidableEq

/-- `IUpdateWorkerBuildIdCompatibilityRequest`, with the fields that are set -/
structure UpdateWorkerBuildIdCompatibilityRequest where
  namespace_ : String
  taskQueue : String
  addNewBuildIdInNewDefaultSet : Option String := none
  addNewCompatibleBuildId : Option AddNewCompatibleBuildId := none
  promoteSetByBuildId : Option String := none
  promoteBuildIdWithinSet : Option String := none
  mergeSets : Option MergeSetsRequest := none
deriving DecidableEq

/-- The number of operations in a request -/
def UpdateWorkerBuildIdCompatibilityRequest.operations (request : UpdateWorkerBuildIdCompatibilityRequest) : ℕ :=
  request.addNewBuildIdInNewDefaultSet.isSome.toNat + request.addNewCompatibleBuildId.isSome.toNat +
    request.promoteSetByBuildId.isSome.toNat + request.promoteBuildIdWithinSet.isSome.toNat +
    request.mergeSets.isSome.toNat

structure TaskQueueClient where
  namespace_ : String

namespace TaskQueueClient

variable (client : TaskQueueClient) (taskQueue : String)

/-- The request that `updateBuildIdCompatibility` sends -/
def request : BuildIdOperation → UpdateWorkerBuildIdCompatibilityRequest
  | .addNewIdInNewDefaultSet buildId =>
    { namespace_ := client.namespace_, taskQueue, addNewBuildIdInNewDefaultSet := some buildId }
  | .addNewCompatibleVersion buildId existingCompatibleBuildId _ =>
    { namespace_ := client.namespace_, taskQueue
      addNewCompatibleBuildId := some ⟨buildId, existingCompatibleBuildId⟩ }
  | .promoteSetByBuildId buildId =>
    { namespace_ := client.namespace_, taskQueue, promoteSetByBuildId := some buildId }
  | .promoteBuildIdWithinSet buildId =>
    { namespace_ := client.namespace_, taskQueue, promoteBuildIdWithinSet := some buildId }
  | .mergeSets primaryBuildId secondaryBuildId =>
    { namespace_ := client.namespace_, taskQueue, mergeSets := some ⟨primaryBuildId, secondaryBuildId⟩ }

/-- `updateBuildIdCompatibility`, where `rethrowGrpcError` says what is thrown for an error of the service -/
def updateBuildIdCompatibility {E : Type} (updateWorkerBuildIdCompatibility :
    UpdateWorkerBuildIdCompatibilityRequest → Except E Unit) (rethrowGrpcError : E → String → E)
    (operation : BuildIdOperation) : Except E Unit :=
  match updateWorkerBuildIdCompatibility (client.request taskQueue operation) with
  | .ok () => .ok ()
  | .error err => .error (rethrowGrpcError err "Unexpected error updating Build Id compatibility")

end TaskQueueClient

namespace BuildIdOperation

/-- A flag that is absent is not set. -/
def promotesSet (promoteSet : Option Bool) : Bool := promoteSet.getD false

/-- The operations do the same: they are of one kind, with the same build ids and the same flag. -/
def Same : BuildIdOperation → BuildIdOperation → Prop
  | addNewCompatibleVersion buildId existing promoteSet, addNewCompatibleVersion buildId' existing' promoteSet' =>
    buildId = buildId' ∧ existing = existing' ∧ promotesSet promoteSet = promotesSet promoteSet'
  | operation, operation' => operation = operation'

/-- The operation adds a version to a set, and may promote the set. -/
def AddsVersion (operation : BuildIdOperation) : Prop :=
  ∃ buildId existing promoteSet, operation = addNewCompatibleVersion buildId existing promoteSet

/-- The same operation with the flag the other way -/
def flipped : BuildIdOperation → BuildIdOperation
  | addNewCompatibleVersion buildId existing promoteSet =>
    addNewCompatibleVersion buildId existing (some !promotesSet promoteSet)
  | operation => operation

end BuildIdOperation

namespace TaskQueueClient

open BuildIdOperation

variable {client : TaskQueueClient} {taskQueue : String} {operation operation' : BuildIdOperation}

/-- There is one operation in the request, and no other operation has the same request. -/
structure Lossless (client : TaskQueueClient) (taskQueue : String) (operation : BuildIdOperation) : Prop where
  operations : (client.request taskQueue operation).operations = 1
  recovered : ∀ operation', client.request taskQueue operation' = client.request taskQueue operation →
    Same operation' operation

lemma operations_request (operation : BuildIdOperation) :
    (client.request taskQueue operation).operations = 1 := by
  cases operation <;> rfl

/-- Two requests are the same only for operations that differ in the flag at most. -/
lemma eq_or_of_request_eq (h : client.request taskQueue operation = client.request taskQueue operation') :
    operation = operation' ∨ ∃ buildId existing promoteSet promoteSet',
      operation = addNewCompatibleVersion buildId existing promoteSet ∧
        operation' = addNewCompatibleVersion buildId existing promoteSet' := by
  cases operation with
  | addNewCompatibleVersion buildId existing promoteSet =>
    cases operation' with
    | addNewCompatibleVersion buildId' existing' promoteSet' =>
      obtain ⟨rfl, rfl⟩ : buildId = buildId' ∧ existing = existing' := by simpa [request] using h
      exact .inr ⟨_, _, _, _, rfl, rfl⟩
    | _ => simp [request] at h
  | _ =>
    left
    cases operation' <;> simp_all [request]

/-- The flag makes no difference. -/
lemma request_flipped (operation : BuildIdOperation) :
    client.request taskQueue operation.flipped = client.request taskQueue operation := by
  cases operation <;> rfl

lemma not_same_flipped (h : operation.AddsVersion) : ¬Same operation.flipped operation := by
  obtain ⟨buildId, existing, promoteSet, rfl⟩ := h
  simp [flipped, Same, promotesSet]

lemma same_refl (operation : BuildIdOperation) : Same operation operation := by
  cases operation <;> simp [Same]

/-- An operation can be recovered from its request exactly if it adds no version to a set: the flag that promotes
this set is lost. -/
theorem lossless_iff (client : TaskQueueClient) (taskQueue : String) (operation : BuildIdOperation) :
    client.Lossless taskQueue operation ↔ ¬operation.AddsVersion := by
  constructor
  · intro h hadds
    exact not_same_flipped hadds (h.recovered _ (request_flipped operation))
  · intro hadds
    refine ⟨operations_request operation, fun operation' h => ?_⟩
    rcases eq_or_of_request_eq h with rfl | ⟨buildId, existing, promoteSet, promoteSet', -, rfl⟩
    · exact same_refl operation'
    · exact absurd ⟨buildId, existing, promoteSet', rfl⟩ hadds

/-- A version that is added with the flag has the request of one that is added without it. -/
theorem not_lossless_promoteSet :
    (TaskQueueClient.mk "default").request "queue" (.addNewCompatibleVersion "2.1" "2.0" (some true)) =
        (TaskQueueClient.mk "default").request "queue" (.addNewCompatibleVersion "2.1" "2.0" none) ∧
      ¬(TaskQueueClient.mk "default").Lossless "queue" (.addNewCompatibleVersion "2.1" "2.0" (some true)) := by
  refine ⟨rfl, fun h => ?_⟩
  have hsame := h.recovered (.addNewCompatibleVersion "2.1" "2.0" none) rfl
  exact absurd hsame.2.2 (by decide)

end TaskQueueClient

end TemporalSdk
