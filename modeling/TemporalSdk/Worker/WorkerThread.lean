import TemporalSdk.Library.OrderedMap
import TemporalSdk.Library.Transition

/-!
# The client of a worker thread

`WorkerThreadClient`: requests are posted with an id, and each response settles the promise of the
request that it names. Promises are numbered in the order in which `send` makes them.
-/

namespace TemporalSdk

/-- The type of a `WorkerThreadRequest`'s input -/
inductive WorkerThreadInput
  | init
  | destroy
  | createWorkflow
  | activateWorkflow
  | extractSinkCalls
  | disposeWorkflow
deriving DecidableEq

/-- The result in a `WorkerThreadResponse` -/
inductive WorkerThreadResult (O : Type)
  | ok (output : O)
  | error (name message stack : String)

inductive ThreadErrorClass
  | error
  | illegalStateError
  | unexpectedError
deriving DecidableEq

/-- An error that a promise is rejected with. The stack of an error that is made here is `none`. -/
structure ThreadError where
  ctor : ThreadErrorClass
  message : String
  stack : Option String
deriving DecidableEq

def errorNameToClass (name : String) : ThreadErrorClass :=
  if name = "IllegalStateError" then .illegalStateError else .error

namespace WorkerThreadResult

variable {O : Type}

/-- What the promise of the request is settled with. -/
def outcome : WorkerThreadResult O → Except ThreadError O
  | ok output => .ok output
  | error name message stack => .error ⟨errorNameToClass name, message, some stack⟩

end WorkerThreadResult

def prematureExit : ThreadError :=
  ⟨.unexpectedError, "Worker thread shut down prematurely, this could be caused by an" ++
    " unhandled rejection in workflow code that could not be" ++ " associated with a workflow run", none⟩

def terminatedExitCode : ℕ := 1

/-- Where a call of `destroy` is: it waits for the promise of its request, then for the exit. -/
inductive DestroyCall
  | requested (promise : ℕ)
  | terminating
  | settled (result : Except ThreadError Unit)

/-- The fields of the client, and what it has done: the requests that it posted, each for the
promise of its position, the responses that it received, and how its promises were settled. -/
structure WorkerThreadClient (O : Type) where
  requestIdx : ℕ
  requestIdToCompletion : OrderedMap ℕ ℕ
  shutDownRequested : Bool
  workerExited : Bool
  activeWorkflowCount : ℤ
  posted : List (ℕ × WorkerThreadInput)
  responses : List (ℕ × WorkerThreadResult O)
  settled : ℕ → Option (Except ThreadError O)
  destroys : List DestroyCall

/-- Calls of the client's methods, and what the thread does. `resumed` continues a call of
`destroy` whose request has been answered. -/
inductive ThreadEvent (O : Type)
  | send (input : WorkerThreadInput)
  | message (requestId : ℕ) (result : WorkerThreadResult O)
  | destroy
  | resumed (call : ℕ)
  | exit (exitCode : ℕ)

namespace WorkerThreadClient

variable {O : Type} (c : WorkerThreadClient O)

def create : WorkerThreadClient O := ⟨0, ∅, false, false, 0, [], [], fun _ => none, []⟩

/-- A promise that is settled stays as it is. -/
def settle (promise : ℕ) (result : Except ThreadError O) : WorkerThreadClient O :=
  if (c.settled promise).isSome then c
  else { c with settled := Function.update c.settled promise (some result) }

def send (input : WorkerThreadInput) : WorkerThreadClient O :=
  { c with
    requestIdx := c.requestIdx + 1
    activeWorkflowCount := match input with
      | .createWorkflow => c.activeWorkflowCount + 1
      | .disposeWorkflow => c.activeWorkflowCount - 1
      | _ => c.activeWorkflowCount
    posted := c.posted ++ [(c.requestIdx, input)]
    requestIdToCompletion := c.requestIdToCompletion.set c.requestIdx c.posted.length }

/-- The listener for `message` -/
def onMessage (requestId : ℕ) (result : WorkerThreadResult O) : Except ThreadError (WorkerThreadClient O) :=
  match c.requestIdToCompletion.lookup requestId with
  | none => .error ⟨.illegalStateError, s!"Got completion for unknown requestId {requestId}", none⟩
  | some completion => .ok
      ({ c with
        requestIdToCompletion := c.requestIdToCompletion.erase requestId
        responses := c.responses ++ [(requestId, result)] }.settle completion result.outcome)

/-- The listener for `exit` -/
def onExit : WorkerThreadClient O :=
  let c := { c with workerExited := true }
  if c.shutDownRequested then c
  else
    let completions := c.requestIdToCompletion.entries.map Sigma.snd
    completions.foldl (fun c completion => c.settle completion (.error prematureExit))
      { c with requestIdToCompletion := ∅ }

def destroy : WorkerThreadClient O :=
  if c.workerExited then { c with destroys := c.destroys ++ [.settled (.ok ())] }
  else
    { { c with shutDownRequested := true }.send .destroy with
      destroys := c.destroys ++ [.requested c.posted.length] }

/-- What `destroy` makes of the exit code of `terminate`, which is `undefined` when the thread
had exited before. -/
def terminated (exitCode : Option ℕ) : Except ThreadError Unit :=
  if exitCode = some terminatedExitCode then .ok ()
  else .error ⟨.unexpectedError, "Failed to terminate Worker thread, exit code: " ++
    (match exitCode with
      | some exitCode => toString exitCode
      | none => "undefined"), none⟩

/-- `destroy` goes on when the promise of its request is settled. -/
def resume (call : ℕ) : Option (WorkerThreadClient O) :=
  match c.destroys[call]? with
  | some (.requested promise) =>
    match c.settled promise with
    | none => none
    | some (.error err) => some { c with destroys := c.destroys.set call (.settled (.error err)) }
    | some (.ok _) =>
      if c.workerExited then
        some { c with destroys := c.destroys.set call (.settled (terminated none)) }
      else some { c with destroys := c.destroys.set call .terminating }
  | _ => none

/-- The thread exits once, and each of its responses answers an outstanding request. -/
def step (c : WorkerThreadClient O) : ThreadEvent O → Option (WorkerThreadClient O)
  | .send input => some (c.send input)
  | .message requestId result =>
    match c.onMessage requestId result with
    | .ok c => some c
    | .error _ => none
  | .destroy => some c.destroy
  | .resumed call => c.resume call
  | .exit exitCode =>
    if c.workerExited then none
    else
      some { c.onExit with
        destroys := c.destroys.map fun call => match call with
          | .terminating => .settled (terminated (some exitCode))
          | call => call }

/-- Request ids are not reused; a response settles the promise of the request with its id, and
nothing else does but the exit of the thread; when it has exited, no promise is pending. -/
structure RequestsSettle (c : WorkerThreadClient O) : Prop where
  unique : (c.posted.map Prod.fst).Nodup
  once : (c.responses.map Prod.fst).Nodup
  answered : ∀ response ∈ c.responses, ∃ promise input,
    c.posted[promise]? = some (response.1, input) ∧ c.settled promise = some response.2.outcome
  only : ∀ promise result, c.settled promise = some result →
    (∃ response ∈ c.responses, ∃ input,
      c.posted[promise]? = some (response.1, input) ∧ result = response.2.outcome) ∨
    c.workerExited = true ∧ promise < c.posted.length ∧ result = .error prematureExit
  exited : c.workerExited = true → ∀ promise < c.posted.length, c.settled promise ≠ none

/-- The thread does not exit with requests outstanding once its shutdown has been requested, and
nothing is sent after the exit. -/
def NoneLeft (c : WorkerThreadClient O) : ThreadEvent O → Prop
  | .send _ => c.workerExited = false
  | .exit _ => c.shutDownRequested = true → c.requestIdToCompletion.keys = []
  | _ => True

instance (c : WorkerThreadClient O) (event : ThreadEvent O) : Decidable (c.NoneLeft event) := by
  unfold NoneLeft
  split <;> infer_instance

/-! ### Settling promises -/

variable {c c' : WorkerThreadClient O}

lemma settle_eq (promise : ℕ) (result : Except ThreadError O) :
    c.settle promise result = { c with
      settled := fun p => if p = promise then (c.settled p).or (some result) else c.settled p } := by
  unfold settle
  split
  · rename_i h
    obtain ⟨settled, hsettled⟩ := Option.isSome_iff_exists.mp h
    have heq : (fun p => if p = promise then (c.settled p).or (some result) else c.settled p) =
        c.settled := by
      funext p
      split
      · rename_i hp
        rw [hp, hsettled, Option.some_or]
      · rfl
    rw [heq]
  · rename_i h
    have hnone : c.settled promise = none := by simpa using h
    congr 1
    funext p
    by_cases hp : p = promise
    · rw [hp, Function.update_self, if_pos rfl, hnone, Option.none_or]
    · rw [Function.update_of_ne hp, if_neg hp]

lemma foldl_settle_eq (promises : List ℕ) (result : Except ThreadError O) :
    promises.foldl (fun c promise => c.settle promise result) c = { c with
      settled := fun p => if p ∈ promises then (c.settled p).or (some result) else c.settled p } := by
  induction promises generalizing c with
  | nil => simp
  | cons promise promises ih =>
    rw [List.foldl_cons, ih, settle_eq]
    congr 1
    funext p
    by_cases hp : p = promise
    · simp [hp]
    · simp [hp]

/-! ### The bookkeeping of requests -/

/-- The id of a request is the number of its promise, and the map has those that are pending. -/
structure Inv (c : WorkerThreadClient O) : Prop where
  ids : c.posted.map Prod.fst = List.range c.posted.length
  next : c.requestIdx = c.posted.length
  outstanding : ∀ requestId promise, c.requestIdToCompletion.lookup requestId = some promise ↔
    promise = requestId ∧ requestId < c.posted.length ∧ c.settled requestId = none
  fresh : ∀ promise, c.posted.length ≤ promise → c.settled promise = none
  once : (c.responses.map Prod.fst).Nodup
  answered : ∀ response ∈ c.responses, c.settled response.1 = some response.2.outcome
  only : ∀ promise result, c.settled promise = some result →
    (∃ response ∈ c.responses, response.1 = promise ∧ result = response.2.outcome) ∨
    c.workerExited = true ∧ result = .error prematureExit

/-- No promise is pending once the thread has exited. -/
def NonePending (c : WorkerThreadClient O) : Prop :=
  c.workerExited = true → ∀ promise < c.posted.length, c.settled promise ≠ none

lemma inv_create : Inv (create : WorkerThreadClient O) where
  ids := rfl
  next := rfl
  outstanding requestId promise := by simp [create]
  fresh promise _ := rfl
  once := List.nodup_nil
  answered response hresponse := by simp [create] at hresponse
  only promise result hresult := by simp [create] at hresult

lemma Inv.lt_of_settled (h : Inv c) {promise : ℕ} {result : Except ThreadError O}
    (hsettled : c.settled promise = some result) : promise < c.posted.length := by
  by_contra hle
  rw [h.fresh promise (Nat.le_of_not_lt hle)] at hsettled
  cases hsettled

/-- The request of a promise is posted with its number. -/
lemma Inv.exists_posted (h : Inv c) {promise : ℕ} (hlt : promise < c.posted.length) :
    ∃ input, c.posted[promise]? = some (promise, input) := by
  have hid : (c.posted.map Prod.fst)[promise]? = some promise := by
    rw [h.ids, List.getElem?_range hlt]
  rw [List.getElem?_map] at hid
  obtain ⟨⟨requestId, input⟩, hposted, hrequestId⟩ := Option.map_eq_some_iff.mp hid
  simp only at hrequestId
  exact ⟨input, by rw [hposted, hrequestId]⟩

lemma Inv.requestsSettle (h : Inv c) (hpending : NonePending c) : RequestsSettle c where
  unique := by
    rw [h.ids]
    exact List.nodup_range
  once := h.once
  answered response hresponse := by
    have hsettled := h.answered response hresponse
    obtain ⟨input, hposted⟩ := h.exists_posted (h.lt_of_settled hsettled)
    exact ⟨response.1, input, hposted, hsettled⟩
  only promise result hresult := by
    obtain ⟨input, hposted⟩ := h.exists_posted (h.lt_of_settled hresult)
    rcases h.only promise result hresult with ⟨response, hresponse, rfl, heq⟩ | ⟨hexited, heq⟩
    · exact Or.inl ⟨response, hresponse, input, hposted, heq⟩
    · exact Or.inr ⟨hexited, h.lt_of_settled hresult, heq⟩
  exited := hpending

lemma Inv.send (h : Inv c) (input : WorkerThreadInput) : Inv (c.send input) where
  ids := by
    simp only [WorkerThreadClient.send, List.map_append, List.map_cons, List.map_nil, h.ids, h.next,
      List.length_append, List.length_singleton, List.range_succ]
  next := by simp [WorkerThreadClient.send, h.next]
  outstanding requestId promise := by
    simp only [WorkerThreadClient.send, OrderedMap.lookup_set, h.next, List.length_append,
      List.length_singleton]
    by_cases hid : requestId = c.posted.length
    · subst hid
      have hfresh := h.fresh c.posted.length (le_refl _)
      simp [hfresh, eq_comm]
    · rw [if_neg hid, h.outstanding]
      have hlt : requestId < c.posted.length + 1 ↔ requestId < c.posted.length := by omega
      rw [hlt]
  fresh promise hle := by
    refine h.fresh promise ?_
    simp only [WorkerThreadClient.send, List.length_append, List.length_singleton] at hle
    omega
  once := h.once
  answered := h.answered
  only := h.only

lemma Inv.onMessage (h : Inv c) {requestId : ℕ} {result : WorkerThreadResult O}
    (hc : c.onMessage requestId result = .ok c') :
    Inv c' ∧ c'.workerExited = c.workerExited ∧ c'.posted = c.posted ∧
      ∀ promise, c.settled promise ≠ none → c'.settled promise ≠ none := by
  unfold WorkerThreadClient.onMessage at hc
  split at hc
  · cases hc
  · rename_i completion hlookup
    obtain ⟨rfl, hlt, hnone⟩ := (h.outstanding _ _).mp hlookup
    cases hc
    rw [settle_eq]
    refine ⟨⟨h.ids, h.next, ?_, ?_, ?_, ?_, ?_⟩, rfl, rfl, ?_⟩
    · intro requestId promise
      by_cases hid : requestId = completion
      · subst hid
        simp [AList.lookup_erase, hnone]
      · simp only [ne_eq, hid, not_false_eq_true, AList.lookup_erase_ne, if_false]
        exact h.outstanding requestId promise
    · intro promise hle
      have hne : promise ≠ completion := by
        rintro rfl
        exact absurd hlt (Nat.not_lt.mpr hle)
      simp only [if_neg hne]
      exact h.fresh promise hle
    · rw [List.map_append, List.map_singleton, ← List.concat_eq_append]
      refine h.once.concat ?_
      rw [List.mem_map]
      rintro ⟨response, hresponse, heq⟩
      have hsettled := h.answered response hresponse
      rw [heq, hnone] at hsettled
      cases hsettled
    · intro response hresponse
      rcases List.mem_append.mp hresponse with hold | hnew
      · have hsettled := h.answered response hold
        have hne : response.1 ≠ completion := by
          intro heq
          rw [heq, hnone] at hsettled
          cases hsettled
        simp only [if_neg hne]
        exact hsettled
      · rw [List.mem_singleton] at hnew
        subst hnew
        simp [hnone]
    · intro promise settled hsettled
      by_cases hp : promise = completion
      · subst hp
        simp only [if_true, hnone, Option.none_or, Option.some.injEq] at hsettled
        exact Or.inl ⟨(promise, result), List.mem_concat_self, rfl, hsettled.symm⟩
      · simp only [if_neg hp] at hsettled
        rcases h.only promise settled hsettled with ⟨response, hresponse, hid, heq⟩ | hexit
        · exact Or.inl ⟨response, List.mem_append_left _ hresponse, hid, heq⟩
        · exact Or.inr hexit
    · intro promise hsome
      by_cases hp : promise = completion
      · simp [hp, hnone]
      · simpa only [if_neg hp] using hsome

/-- Where the exit was not asked for, it rejects the promises that are pending. -/
lemma onExit_eq : c.onExit = if c.shutDownRequested then { c with workerExited := true }
    else { c with
      workerExited := true
      requestIdToCompletion := ∅
      settled := fun p => if p ∈ c.requestIdToCompletion.entries.map Sigma.snd then
        (c.settled p).or (some (.error prematureExit)) else c.settled p } := by
  unfold WorkerThreadClient.onExit
  split
  · rename_i h
    simp only [h, if_true]
  · rename_i h
    simp only [foldl_settle_eq, if_neg h]

/-- The completions of the map are those of the promises that are pending. -/
lemma Inv.mem_completions (h : Inv c) {promise : ℕ} :
    promise ∈ c.requestIdToCompletion.entries.map Sigma.snd ↔
      promise < c.posted.length ∧ c.settled promise = none := by
  rw [List.mem_map]
  constructor
  · rintro ⟨⟨requestId, completion⟩, hentry, rfl⟩
    obtain ⟨rfl, hlt, hnone⟩ :=
      (h.outstanding requestId completion).mp (AList.mem_lookup_iff.mpr hentry)
    exact ⟨hlt, hnone⟩
  · rintro ⟨hlt, hnone⟩
    have hlookup := (h.outstanding promise promise).mpr ⟨rfl, hlt, hnone⟩
    exact ⟨⟨promise, promise⟩, AList.mem_lookup_iff.mp hlookup, rfl⟩

lemma Inv.onExit (h : Inv c) : Inv c.onExit := by
  rw [onExit_eq]
  split
  · refine ⟨h.ids, h.next, h.outstanding, h.fresh, h.once, h.answered, ?_⟩
    intro promise result hresult
    rcases h.only promise result hresult with hanswer | ⟨-, heq⟩
    · exact Or.inl hanswer
    · exact Or.inr ⟨rfl, heq⟩
  · refine ⟨h.ids, h.next, ?_, ?_, h.once, ?_, ?_⟩
    · intro requestId promise
      have hempty : (∅ : OrderedMap ℕ ℕ).lookup requestId = none := rfl
      simp only [hempty, reduceCtorEq, false_iff, not_and]
      rintro rfl hlt
      by_cases hnone : c.settled promise = none
      · rw [if_pos (h.mem_completions.mpr ⟨hlt, hnone⟩), hnone]
        simp
      · rw [if_neg fun hmem => hnone (h.mem_completions.mp hmem).2]
        exact hnone
    · intro promise hle
      dsimp only at hle ⊢
      rw [if_neg fun hmem => absurd (h.mem_completions.mp hmem).1 (Nat.not_lt.mpr hle)]
      exact h.fresh promise hle
    · intro response hresponse
      have hsettled := h.answered response hresponse
      dsimp only
      rw [hsettled, Option.some_or, ite_self]
    · intro promise result hresult
      dsimp only at hresult
      split at hresult
      · rename_i hmem
        rw [(h.mem_completions.mp hmem).2, Option.none_or, Option.some.injEq] at hresult
        exact Or.inr ⟨rfl, hresult.symm⟩
      · rcases h.only promise result hresult with hanswer | ⟨-, heq⟩
        · exact Or.inl hanswer
        · exact Or.inr ⟨rfl, heq⟩

/-- The calls of `destroy` are no part of the bookkeeping. -/
lemma Inv.withDestroys (h : Inv c) (destroys : List DestroyCall) : Inv { c with destroys } :=
  ⟨h.ids, h.next, h.outstanding, h.fresh, h.once, h.answered, h.only⟩

lemma Inv.shutDown (h : Inv c) : Inv { c with shutDownRequested := true } :=
  ⟨h.ids, h.next, h.outstanding, h.fresh, h.once, h.answered, h.only⟩

lemma resume_eq_some {call : ℕ} (h : c.resume call = some c') : ∃ destroys, c' = { c with destroys } := by
  unfold resume at h
  split at h
  · split at h
    · cases h
    · cases h
      exact ⟨_, rfl⟩
    · split at h
      · cases h
        exact ⟨_, rfl⟩
      · cases h
        exact ⟨_, rfl⟩
  · cases h

lemma Inv.step {event : ThreadEvent O} (h : Inv c) (hstep : c.step event = some c') : Inv c' := by
  cases event with
  | send input =>
    cases hstep
    exact h.send input
  | message requestId result =>
    simp only [WorkerThreadClient.step] at hstep
    split at hstep
    · rename_i hc
      cases hstep
      exact (h.onMessage hc).1
    · cases hstep
  | destroy =>
    cases hstep
    unfold WorkerThreadClient.destroy
    split
    · exact h.withDestroys _
    · exact (h.shutDown.send .destroy).withDestroys _
  | resumed call =>
    obtain ⟨destroys, rfl⟩ := resume_eq_some hstep
    exact h.withDestroys destroys
  | exit exitCode =>
    simp only [WorkerThreadClient.step] at hstep
    split at hstep
    · cases hstep
    · cases hstep
      exact h.onExit.withDestroys _

/-- What the client is sent and answered leaves no promise pending behind the exit. -/
lemma NonePending.step {event : ThreadEvent O} (h : Inv c) (hpending : NonePending c)
    (hleft : c.NoneLeft event) (hstep : c.step event = some c') : NonePending c' := by
  cases event with
  | send input =>
    cases hstep
    intro hexited
    rw [show (c.send input).workerExited = c.workerExited from rfl, hleft] at hexited
    cases hexited
  | message requestId result =>
    simp only [WorkerThreadClient.step] at hstep
    split at hstep
    · rename_i hc
      cases hstep
      obtain ⟨-, hexit, hposted, hkeep⟩ := h.onMessage hc
      intro hexited promise hlt
      rw [hposted] at hlt
      exact hkeep promise (hpending (hexit ▸ hexited) promise hlt)
    · cases hstep
  | destroy =>
    cases hstep
    unfold WorkerThreadClient.destroy
    split
    · exact hpending
    · rename_i hnot
      intro hexited
      exact absurd hexited hnot
  | resumed call =>
    obtain ⟨destroys, rfl⟩ := resume_eq_some hstep
    exact hpending
  | exit exitCode =>
    simp only [WorkerThreadClient.step] at hstep
    split at hstep
    · cases hstep
    · cases hstep
      intro _ promise hlt hnone
      simp only [onExit_eq] at hlt hnone
      split at hnone
      · rename_i hshutdown
        rw [if_pos hshutdown] at hlt
        have hmem := h.mem_completions.mpr ⟨hlt, hnone⟩
        have hkeys : c.requestIdToCompletion.entries.map Sigma.fst = [] := hleft hshutdown
        rw [List.map_eq_nil_iff] at hkeys
        rw [hkeys] at hmem
        cases hmem
      · rename_i hshutdown
        rw [if_neg hshutdown] at hlt
        dsimp only at hlt hnone
        by_cases hsettled : c.settled promise = none
        · simp [h.mem_completions.mpr ⟨hlt, hsettled⟩, hsettled] at hnone
        · split at hnone
          · simp at hnone
          · exact hsettled hnone

/-- A request that is sent after the exit, or is outstanding at an exit that is ignored, stays
pending. -/
lemma not_nonePending_step {event : ThreadEvent O} (h : Inv c) (hleft : ¬c.NoneLeft event)
    (hstep : c.step event = some c') : ¬NonePending c' := by
  cases event with
  | send input =>
    cases hstep
    intro hpending
    have hexited : c.workerExited = true := by simpa [NoneLeft] using hleft
    refine hpending hexited c.posted.length ?_ (h.fresh _ (le_refl _))
    simp [WorkerThreadClient.send]
  | exit exitCode =>
    simp only [WorkerThreadClient.step] at hstep
    split at hstep
    · cases hstep
    · cases hstep
      intro hpending
      simp only [NoneLeft, Classical.not_imp] at hleft
      obtain ⟨hshutdown, hkeys⟩ := hleft
      obtain ⟨requestId, hmem⟩ := List.exists_mem_of_ne_nil _ hkeys
      obtain ⟨promise, hlookup⟩ := Option.isSome_iff_exists.mp (AList.lookup_isSome.mpr hmem)
      obtain ⟨rfl, hlt, hnone⟩ := (h.outstanding requestId promise).mp hlookup
      simp only [onExit_eq, hshutdown, if_true] at hpending
      exact hpending rfl promise hlt hnone
  | message requestId result => exact absurd trivial hleft
  | destroy => exact absurd trivial hleft
  | resumed call => exact absurd trivial hleft

/-- The requests of a client settle throughout a run if and only if the thread never exits with
requests outstanding after its shutdown was requested, and nothing is sent after the exit. -/
theorem requestsSettle_iff_noneLeft {events : List (ThreadEvent O)}
    (h : Transition.run step create events = some c) :
    Transition.Throughout step RequestsSettle create events ↔
      Transition.Meets step NoneLeft (create : WorkerThreadClient O) events := by
  refine Transition.throughout_iff_meets (I := fun c => Inv c ∧ NonePending c) ?_ ?_ ?_ ?_ h
  · rintro c ⟨hinv, hpending⟩
    exact hinv.requestsSettle hpending
  · rintro c event c' ⟨hinv, hpending⟩ hleft hstep
    exact ⟨hinv.step hstep, hpending.step hinv hleft hstep⟩
  · rintro c event c' ⟨hinv, -⟩ hleft hstep hsettle
    exact not_nonePending_step hinv hleft hstep hsettle.exited
  · exact ⟨inv_create, by intro hexited; cases hexited⟩

/-- Two requests that are answered in the other order, and a shutdown -/
theorem requestsSettle_iff_noneLeft_shutdown :
    Transition.Throughout step RequestsSettle (create : WorkerThreadClient ℕ)
      [.send .createWorkflow, .send .activateWorkflow, .message 1 (.ok 7),
        .message 0 (.error "IllegalStateError" "m" "s"), .destroy, .message 2 (.ok 0), .resumed 0, .exit 1] :=
  (requestsSettle_iff_noneLeft rfl).mpr (by decide)

/-- An activation is outstanding when the client is destroyed: its promise stays pending. -/
theorem requestsSettle_counterexample :
    ∃ c, Transition.run step (create : WorkerThreadClient ℕ)
        [.send .activateWorkflow, .destroy, .message 1 (.ok 0), .resumed 0, .exit 1] = some c ∧
      c.workerExited = true ∧ c.posted[0]? = some (0, .activateWorkflow) ∧ c.settled 0 = none :=
  ⟨_, rfl, rfl, rfl, rfl⟩

end WorkerThreadClient

end TemporalSdk
