import Mathlib.Data.Finset.Insert
import TemporalSdk.Library.Transition
import TemporalSdk.Workflow.Commands

/-!
# `patched` and `deprecatePatch`

The answer of `patched` depends on whether the workflow is replaying and on the patches that
it has been notified of, both of which change between activations.
-/

namespace TemporalSdk

/-- A call, with what it found in the activator and what it returned. -/
structure PatchCall where
  patchId : String
  deprecated : Bool
  isReplaying : Bool
  known : Bool
  result : Bool
deriving DecidableEq

/-- `loaded` says that `activator.workflow` is defined and `takesPatches` that no other job of
the activation has been applied; `calls`, `pushed` and `thrown` are the history. -/
structure PatchState where
  loaded : Bool
  isReplaying : Bool
  knownPresentPatches : Finset String
  sentPatches : Finset String
  buffer : CommandBuffer
  takesPatches : Bool
  calls : List PatchCall
  pushed : List Command
  thrown : List JsError

namespace PatchState

variable (s : PatchState)

/-- `Activator.notifyHasPatch` -/
def notifyHasPatch (patchId : String) : PatchState :=
  if patchId = "" then
    { s with thrown := s.thrown ++ [.typeError "Notify has patch missing patch name"] }
  else { s with knownPresentPatches := insert patchId s.knownPresentPatches }

/-- The constructor of the activator. -/
def create (isReplaying : Bool) (patches : List String) : PatchState :=
  let s : PatchState := ⟨false, isReplaying, ∅, ∅, ⟨[], false⟩, false, [], [], []⟩
  if isReplaying then patches.foldl notifyHasPatch s else s

/-- `Activator.pushCommand`, which also logs the commands that it takes. -/
def pushCommand (cmd : Command) (complete : Bool) : PatchState :=
  { s with
    buffer := s.buffer.pushCommand cmd complete
    pushed := if s.buffer.accepts cmd then s.pushed ++ [cmd] else s.pushed }

def usePatch (patchId : String) : Bool :=
  !s.isReplaying || patchId ∈ s.knownPresentPatches

def patchInternal (patchId : String) (deprecated : Bool) : PatchState :=
  if !s.loaded then
    { s with thrown := s.thrown ++
        [.illegalStateError "Patches cannot be used before Workflow starts"] }
  else
    let usePatch := s.usePatch patchId
    let s' := if usePatch && patchId ∉ s.sentPatches then
        { s.pushCommand (.setPatchMarker patchId deprecated) false with
          sentPatches := insert patchId s.sentPatches }
      else s
    { s' with calls := s.calls ++
        [⟨patchId, deprecated, s.isReplaying, patchId ∈ s.knownPresentPatches, usePatch⟩] }

end PatchState

namespace Command

def isPatchMarker (patchId : String) : Command → Bool
  | setPatchMarker id _ => id == patchId
  | _ => false

def isSetPatchMarker : Command → Bool
  | setPatchMarker _ _ => true
  | _ => false

end Command

inductive PatchInput
  | load
  | activate (isReplaying : Bool)
  | notifyHasPatch (patchId : String)
  | patched (patchId : String)
  | deprecatePatch (patchId : String)
  | push (cmd : Command) (complete : Bool)

namespace PatchState

/-- Replay can only end, and patches are notified before workflow code runs in an activation. -/
def step (s : PatchState) : PatchInput → Option PatchState
  | .load => some { s with loaded := true }
  | .activate isReplaying =>
    if s.isReplaying || !isReplaying then
      some { s with isReplaying := isReplaying, takesPatches := true }
    else none
  | .notifyHasPatch patchId => if s.takesPatches then some (s.notifyHasPatch patchId) else none
  | .patched patchId => some ({ s with takesPatches := false }.patchInternal patchId false)
  | .deprecatePatch patchId => some ({ s with takesPatches := false }.patchInternal patchId true)
  | .push cmd complete =>
    if cmd.isSetPatchMarker then none
    else some ({ s with takesPatches := false }.pushCommand cmd complete)

/-- At most one marker is pushed for an id, and one is only pushed if a call was answered with true. -/
structure MarkersConsistent (s : PatchState) : Prop where
  once : ∀ patchId, s.pushed.countP (Command.isPatchMarker patchId) ≤ 1
  justified : ∀ patchId deprecated, .setPatchMarker patchId deprecated ∈ s.pushed →
    ∃ c ∈ s.calls, c.patchId = patchId ∧ c.result = true

/-- Moreover, all calls of `patched` for an id give the same answer. -/
structure PatchesConsistent (s : PatchState) : Prop extends MarkersConsistent s where
  same : ∀ c ∈ s.calls, ∀ c' ∈ s.calls, c.deprecated = false → c'.deprecated = false →
    c.patchId = c'.patchId → c.result = c'.result

/-- `patched` is not called after the replay has ended or the patch has been notified, when it
was called before, while replaying and not knowing the patch. -/
def NotAskedTooEarly (s : PatchState) : PatchInput → Prop
  | .patched patchId => s.loaded = true → (s.isReplaying = false ∨ patchId ∈ s.knownPresentPatches) →
      ∀ c ∈ s.calls, c.deprecated = false → c.patchId = patchId →
        ¬(c.isReplaying = true ∧ c.known = false)
  | _ => True

instance decidableNotAskedTooEarly (s : PatchState) : ∀ input, Decidable (NotAskedTooEarly s input)
  | .patched _ => inferInstanceAs (Decidable (_ → _ → ∀ c ∈ s.calls, _ → _ → _))
  | .load => .isTrue trivial
  | .activate _ => .isTrue trivial
  | .notifyHasPatch _ => .isTrue trivial
  | .deprecatePatch _ => .isTrue trivial
  | .push _ _ => .isTrue trivial

/-! ### Invariants -/

/-- The answers are as the calls found the activator, and an answer stays true. -/
structure PatchesInv (s : PatchState) : Prop where
  result : ∀ c ∈ s.calls, c.result = (!c.isReplaying || c.known)
  stays : ∀ c ∈ s.calls, c.result = true → s.usePatch c.patchId = true
  markers : ∀ patchId, s.pushed.countP (Command.isPatchMarker patchId) ≤
    if patchId ∈ s.sentPatches then 1 else 0
  sent : ∀ patchId ∈ s.sentPatches, ∃ c ∈ s.calls, c.patchId = patchId ∧ c.result = true

variable {s t : PatchState}

lemma notifyHasPatch_eq (patchId : String) :
    s.notifyHasPatch patchId = { s with
      thrown := (s.notifyHasPatch patchId).thrown
      knownPresentPatches := (s.notifyHasPatch patchId).knownPresentPatches } := by
  unfold notifyHasPatch
  split <;> rfl

lemma known_notifyHasPatch (patchId : String) :
    s.knownPresentPatches ⊆ (s.notifyHasPatch patchId).knownPresentPatches := by
  unfold notifyHasPatch
  split
  · exact Finset.Subset.refl _
  · exact Finset.subset_insert _ _

lemma calls_create (isReplaying : Bool) (patches : List String) :
    (create isReplaying patches).calls = [] ∧ (create isReplaying patches).pushed = [] ∧
      (create isReplaying patches).sentPatches = ∅ := by
  have hfold : ∀ (patches : List String) (s : PatchState),
      (patches.foldl notifyHasPatch s).calls = s.calls ∧
        (patches.foldl notifyHasPatch s).pushed = s.pushed ∧
        (patches.foldl notifyHasPatch s).sentPatches = s.sentPatches := by
    intro patches
    induction patches with
    | nil => exact fun s => ⟨rfl, rfl, rfl⟩
    | cons patchId patches ih =>
      intro s
      obtain ⟨hcalls, hpushed, hsent⟩ := ih (s.notifyHasPatch patchId)
      rw [List.foldl_cons, hcalls, hpushed, hsent, notifyHasPatch_eq]
      exact ⟨rfl, rfl, rfl⟩
  unfold create
  dsimp only
  split
  · exact hfold patches _
  · exact ⟨rfl, rfl, rfl⟩

lemma PatchesInv.create (isReplaying : Bool) (patches : List String) :
    PatchesInv (create isReplaying patches) := by
  obtain ⟨hcalls, hpushed, hsent⟩ := calls_create isReplaying patches
  constructor <;> simp [hcalls, hpushed, hsent]

/-- A step that makes no call and pushes no marker. -/
lemma PatchesInv.keep (hinv : PatchesInv s) (hcalls : t.calls = s.calls)
    (hsent : t.sentPatches = s.sentPatches)
    (hpushed : ∀ patchId, t.pushed.countP (Command.isPatchMarker patchId) =
      s.pushed.countP (Command.isPatchMarker patchId))
    (hknown : s.knownPresentPatches ⊆ t.knownPresentPatches)
    (hreplaying : t.isReplaying = true → s.isReplaying = true) : PatchesInv t where
  result := by
    rw [hcalls]
    exact hinv.result
  stays c hc hr := by
    rw [hcalls] at hc
    have huse := hinv.stays c hc hr
    simp only [usePatch, Bool.or_eq_true, Bool.not_eq_true', decide_eq_true_eq] at huse ⊢
    rcases huse with h | h
    · refine Or.inl (Bool.eq_false_iff.mpr fun ht => ?_)
      rw [hreplaying ht] at h
      cases h
    · exact Or.inr (hknown h)
  markers patchId := by
    rw [hpushed, hsent]
    exact hinv.markers patchId
  sent := by
    rw [hcalls, hsent]
    exact hinv.sent

lemma countP_pushCommand_le (patchId patchId' : String) (deprecated complete : Bool) :
    (s.pushCommand (.setPatchMarker patchId deprecated) complete).pushed.countP
        (Command.isPatchMarker patchId') ≤
      s.pushed.countP (Command.isPatchMarker patchId') + if patchId' = patchId then 1 else 0 := by
  simp only [pushCommand]
  split
  · rw [List.countP_append, List.countP_singleton]
    by_cases h : patchId' = patchId
    · simp [h, Command.isPatchMarker]
    · simp [h, Ne.symm h, Command.isPatchMarker]
  · exact Nat.le_add_right _ _

lemma PatchesInv.patchInternal (hinv : PatchesInv s) (patchId : String) (deprecated : Bool) :
    PatchesInv (s.patchInternal patchId deprecated) := by
  unfold PatchState.patchInternal
  split
  · exact hinv.keep rfl rfl (fun _ => rfl) (Finset.Subset.refl _) id
  · dsimp only
    generalize hcall : (⟨patchId, deprecated, s.isReplaying, patchId ∈ s.knownPresentPatches,
      s.usePatch patchId⟩ : PatchCall) = call
    have hresult : ∀ c ∈ s.calls ++ [call], c.result = (!c.isReplaying || c.known) := by
      intro c hc
      rcases List.mem_append.mp hc with hc | hc
      · exact hinv.result c hc
      · rw [List.mem_singleton.mp hc, ← hcall]
        rfl
    have hstays : ∀ c ∈ s.calls ++ [call], c.result = true → s.usePatch c.patchId = true := by
      intro c hc hr
      rcases List.mem_append.mp hc with hc | hc
      · exact hinv.stays c hc hr
      · rw [List.mem_singleton.mp hc, ← hcall] at hr ⊢
        exact hr
    have hsent : ∀ id ∈ s.sentPatches, ∃ c ∈ s.calls ++ [call], c.patchId = id ∧ c.result = true := by
      intro id hid
      obtain ⟨c, hc, h⟩ := hinv.sent id hid
      exact ⟨c, List.mem_append_left _ hc, h⟩
    split
    · rename_i hmarker
      simp only [Bool.and_eq_true, decide_eq_true_eq] at hmarker
      refine ⟨hresult, hstays, fun id => ?_, fun id hid => ?_⟩
      · refine (countP_pushCommand_le patchId id deprecated false).trans ?_
        have hold := hinv.markers id
        by_cases hid : id = patchId
        · subst hid
          simp only [hmarker.2, if_false] at hold
          simp only [Finset.mem_insert, true_or, if_true]
          omega
        · simpa [hid] using hold
      · rcases Finset.mem_insert.mp hid with rfl | hid
        · refine ⟨call, List.mem_append_right _ (List.mem_singleton.mpr rfl), ?_⟩
          rw [← hcall]
          exact ⟨rfl, hmarker.1⟩
        · exact hsent id hid
    · exact ⟨hresult, hstays, hinv.markers, hsent⟩

lemma PatchesInv.step {input : PatchInput} (hinv : PatchesInv s) (hstep : s.step input = some t) :
    PatchesInv t := by
  cases input with
  | load =>
    cases hstep
    exact hinv.keep rfl rfl (fun _ => rfl) (Finset.Subset.refl _) id
  | activate isReplaying =>
    simp only [PatchState.step] at hstep
    split at hstep
    · rename_i hreplay
      cases hstep
      refine hinv.keep rfl rfl (fun _ => rfl) (Finset.Subset.refl _) fun h => ?_
      have h' : isReplaying = true := h
      simpa [h'] using hreplay
    · cases hstep
  | notifyHasPatch patchId =>
    simp only [PatchState.step] at hstep
    split at hstep
    · cases hstep
      refine hinv.keep ?_ ?_ (fun _ => ?_) (known_notifyHasPatch patchId) ?_
      all_goals rw [notifyHasPatch_eq]
      exact id
    · cases hstep
  | patched patchId =>
    cases hstep
    have hjobs : PatchesInv { s with takesPatches := false } :=
      hinv.keep rfl rfl (fun _ => rfl) (Finset.Subset.refl _) id
    exact hjobs.patchInternal patchId false
  | deprecatePatch patchId =>
    cases hstep
    have hjobs : PatchesInv { s with takesPatches := false } :=
      hinv.keep rfl rfl (fun _ => rfl) (Finset.Subset.refl _) id
    exact hjobs.patchInternal patchId true
  | push cmd complete =>
    simp only [PatchState.step] at hstep
    split at hstep
    · cases hstep
    · rename_i hcmd
      cases hstep
      refine hinv.keep rfl rfl (fun id => ?_) (Finset.Subset.refl _) fun h => h
      have hno : Command.isPatchMarker id cmd = false := by
        cases cmd <;> simp_all [Command.isPatchMarker, Command.isSetPatchMarker]
      simp only [pushCommand]
      split
      · simp [List.countP_append, hno]
      · rfl

/-! ### Runs -/

def SameAnswers (s : PatchState) : Prop :=
  ∀ c ∈ s.calls, ∀ c' ∈ s.calls, c.deprecated = false → c'.deprecated = false →
    c.patchId = c'.patchId → c.result = c'.result

lemma PatchesInv.markersConsistent (hinv : PatchesInv s) : MarkersConsistent s where
  once patchId := (hinv.markers patchId).trans (by split <;> omega)
  justified patchId deprecated hmem := by
    refine hinv.sent patchId ?_
    by_contra hnot
    have hcount := hinv.markers patchId
    rw [if_neg hnot, Nat.le_zero, List.countP_eq_zero] at hcount
    exact hcount _ hmem (by simp [Command.isPatchMarker])

/-- What a step does to the history of calls. -/
lemma calls_step {input : PatchInput} (hstep : s.step input = some t) :
    t.calls = s.calls ∨ ∃ patchId deprecated,
      input = (if deprecated then .deprecatePatch patchId else .patched patchId) ∧
        s.loaded = true ∧ t.calls = s.calls ++
          [⟨patchId, deprecated, s.isReplaying, patchId ∈ s.knownPresentPatches, s.usePatch patchId⟩] := by
  have hcall : ∀ patchId deprecated, s.loaded = true →
      ({ s with takesPatches := false }.patchInternal patchId deprecated).calls = s.calls ++
        [⟨patchId, deprecated, s.isReplaying, patchId ∈ s.knownPresentPatches, s.usePatch patchId⟩] := by
    intro patchId deprecated hloaded
    simp only [patchInternal, hloaded, Bool.not_true, Bool.false_eq_true, if_false]
    rfl
  have hthrow : ∀ patchId deprecated, s.loaded = false →
      ({ s with takesPatches := false }.patchInternal patchId deprecated).calls = s.calls := by
    intro patchId deprecated hloaded
    simp [patchInternal, hloaded]
  cases input with
  | load =>
    cases hstep
    exact Or.inl rfl
  | activate isReplaying =>
    simp only [PatchState.step] at hstep
    split at hstep <;> cases hstep
    exact Or.inl rfl
  | notifyHasPatch patchId =>
    simp only [PatchState.step] at hstep
    split at hstep <;> cases hstep
    rw [notifyHasPatch_eq]
    exact Or.inl rfl
  | patched patchId =>
    cases hstep
    by_cases hloaded : s.loaded = true
    · exact Or.inr ⟨patchId, false, rfl, hloaded, hcall patchId false hloaded⟩
    · exact Or.inl (hthrow patchId false (by simpa using hloaded))
  | deprecatePatch patchId =>
    cases hstep
    by_cases hloaded : s.loaded = true
    · exact Or.inr ⟨patchId, true, rfl, hloaded, hcall patchId true hloaded⟩
    · exact Or.inl (hthrow patchId true (by simpa using hloaded))
  | push cmd complete =>
    simp only [PatchState.step] at hstep
    split at hstep <;> cases hstep
    exact Or.inl rfl

lemma usePatch_eq_true {patchId : String} :
    s.usePatch patchId = true ↔ s.isReplaying = false ∨ patchId ∈ s.knownPresentPatches := by
  simp [usePatch]

lemma SameAnswers.step {input : PatchInput} (hsame : s.SameAnswers) (hinv : PatchesInv s)
    (hC : NotAskedTooEarly s input) (hstep : s.step input = some t) : t.SameAnswers := by
  rcases calls_step hstep with hcalls | ⟨patchId, deprecated, rfl, hloaded, hcalls⟩
  · simpa [SameAnswers, hcalls] using hsame
  · -- the answers before agree with the new one: they stay true, and were not given too early
    have hnew : ∀ c ∈ s.calls, c.deprecated = false → deprecated = false → c.patchId = patchId →
        c.result = s.usePatch patchId := by
      rintro c hc hcd rfl rfl
      cases hr : c.result with
      | true => exact (hinv.stays c hc hr).symm
      | false =>
        symm
        by_contra huse
        have hfound := usePatch_eq_true.mp (Bool.eq_true_of_not_eq_false huse)
        refine hC hloaded hfound c hc hcd rfl ?_
        have hresult := hinv.result c hc
        rw [hr] at hresult
        simpa using hresult.symm
    intro c hc c' hc' hd hd' hid
    rw [hcalls] at hc hc'
    rcases List.mem_append.mp hc with hc | hc <;> rcases List.mem_append.mp hc' with hc' | hc'
    · exact hsame c hc c' hc' hd hd' hid
    · rw [List.mem_singleton.mp hc'] at hd' hid ⊢
      exact hnew c hc hd hd' hid
    · rw [List.mem_singleton.mp hc] at hd hid ⊢
      exact (hnew c' hc' hd' hd hid.symm).symm
    · rw [List.mem_singleton.mp hc, List.mem_singleton.mp hc']

lemma not_sameAnswers {input : PatchInput} (hinv : PatchesInv s) (hC : ¬NotAskedTooEarly s input)
    (hstep : s.step input = some t) : ¬t.SameAnswers := by
  cases input with
  | patched patchId =>
    simp only [NotAskedTooEarly, not_forall, not_not] at hC
    obtain ⟨hloaded, hfound, c, hc, hcd, hid, hreplaying, hknown⟩ := hC
    have hcalls : t.calls = s.calls ++
        [⟨patchId, false, s.isReplaying, patchId ∈ s.knownPresentPatches, s.usePatch patchId⟩] := by
      cases hstep
      simp only [patchInternal, hloaded, Bool.not_true, Bool.false_eq_true, if_false]
      rfl
    intro hsame
    have hmem : ⟨patchId, false, s.isReplaying, patchId ∈ s.knownPresentPatches, s.usePatch patchId⟩ ∈
        t.calls := by
      rw [hcalls]
      exact List.mem_append_right _ (List.mem_singleton.mpr rfl)
    have hold : c ∈ t.calls := by
      rw [hcalls]
      exact List.mem_append_left _ hc
    have heq := hsame c hold _ hmem hcd rfl hid
    rw [hinv.result c hc, hreplaying, hknown] at heq
    simp [usePatch_eq_true.mpr hfound] at heq
  | _ => exact absurd trivial hC

/-- In every run, the markers are consistent, and the patches are exactly if no patch is asked for too early. -/
theorem patches_consistent_iff (isReplaying : Bool) (patches : List String) (inputs : List PatchInput)
    (s : PatchState)
    (hrun : Transition.run PatchState.step (PatchState.create isReplaying patches) inputs = some s) :
    MarkersConsistent s ∧ (PatchesConsistent s ↔
      Transition.Meets PatchState.step NotAskedTooEarly (PatchState.create isReplaying patches)
        inputs) := by
  have hsame : (PatchState.create isReplaying patches).SameAnswers := by
    intro c hc
    rw [(calls_create isReplaying patches).1] at hc
    cases hc
  have hinv : PatchesInv s :=
    Transition.invariant (fun _ _ _ hs ht => PatchesInv.step hs ht) (.create isReplaying patches) hrun
  have hbroken := Transition.meets_or_broken (I := fun s => PatchesInv s ∧ s.SameAnswers)
    (B := fun s => ¬s.SameAnswers)
    (fun s i t hI hC ht => ⟨hI.1.step ht, hI.2.step hI.1 hC ht⟩)
    (fun s i t hI hC ht => not_sameAnswers hI.1 hC ht)
    (fun s i t hB ht hsame => hB fun c hc c' hc' => by
      have hgrow : ∀ c ∈ s.calls, c ∈ t.calls := by
        intro c hc
        rcases calls_step ht with hcalls | ⟨_, _, _, _, hcalls⟩ <;> rw [hcalls]
        · exact hc
        · exact List.mem_append_left _ hc
      exact hsame c (hgrow c hc) c' (hgrow c' hc'))
    ⟨.create isReplaying patches, hsame⟩ hrun
  refine ⟨hinv.markersConsistent, ?_⟩
  rcases hbroken with ⟨hmeets, -, hsame⟩ | ⟨hmeets, hbad⟩
  · exact iff_of_true ⟨hinv.markersConsistent, hsame⟩ hmeets
  · exact iff_of_false (fun h => hbad h.same) hmeets

/-- A patch that is notified with the first activation -/
def notifiedInputs : List PatchInput :=
  [.load, .activate true, .notifyHasPatch "patch", .patched "patch", .activate false, .patched "patch"]

theorem patches_consistent_iff_notified :
    ∃ s, Transition.run PatchState.step (PatchState.create true ["patch"]) notifiedInputs = some s ∧
      s.calls.map PatchCall.result = [true, true] ∧ PatchesConsistent s := by
  obtain ⟨s, hs, hresults⟩ : ∃ s, Transition.run PatchState.step (PatchState.create true ["patch"])
      notifiedInputs = some s ∧ s.calls.map PatchCall.result = [true, true] := ⟨_, rfl, rfl⟩
  have hmeets : Transition.Meets PatchState.step NotAskedTooEarly (PatchState.create true ["patch"])
      notifiedInputs := by decide
  exact ⟨s, hs, hresults, (patches_consistent_iff _ _ _ _ hs).2.mpr hmeets⟩

/-- `patched` is called during a replay without the patch, and again after its end. -/
theorem patches_inconsistent_after_replay :
    ∃ s, Transition.run PatchState.step (PatchState.create true [])
        [.load, .activate true, .patched "patch", .activate false, .patched "patch"] = some s ∧
      ¬PatchesConsistent s := by
  refine ⟨_, rfl, fun h => ?_⟩
  have hsame := h.same ⟨"patch", false, true, false, false⟩ (by decide)
    ⟨"patch", false, false, false, true⟩ (by decide) rfl rfl rfl
  cases hsame

end PatchState

end TemporalSdk
