import TemporalSdk.Library.Shield
import TemporalSdk.Library.Transition
import TemporalSdk.Workflow.Frame

/-!
# Which cancellation scopes are cancelled

A scope copies its parent's flag when it is constructed, and is rejected by a reaction when
its parent is. Once the reactions have run, a scope is flagged exactly if `cancel` was called
on it or on any ancestor; whether a scope in between is cancellable plays no part.
-/

namespace TemporalSdk

open Relation

variable {V : Type} {env : Env V} {rt rt' : Runtime}

namespace Runtime

def IsParent (rt : Runtime) (a s : ScopeId) : Prop := (rt.scope s).parent = some a

def Cancellable (rt : Runtime) (s : ScopeId) : Prop := (rt.scope s).cancellable = true

def CancelCalled (rt : Runtime) (s : ScopeId) : Prop := .cancelCalled s ∈ rt.trace

/-- A scope is considered cancelled exactly if it is cancellable and `cancel` was called on
it, or on an ancestor with only cancellable scopes strictly in between. -/
def ScopesShield (rt : Runtime) : Prop :=
  ∀ s < rt.scopes.length, rt.consideredCancelled s = true ↔
    rt.Cancellable s ∧ Shield.ReachesShielded rt.IsParent rt.Cancellable rt.CancelCalled s

/-- Wherever a cancellation could only come through a scope that is not cancellable, another
one comes through cancellable scopes. -/
def NothingToShield (rt : Runtime) : Prop :=
  ∀ s < rt.scopes.length, rt.Cancellable s → ∀ a, rt.CancelCalled a →
    ReflTransGen rt.IsParent a s →
    Shield.ReachesShielded rt.IsParent rt.Cancellable rt.CancelCalled s

structure ScopesInv (rt : Runtime) : Prop where
  wellFormed : rt.WellFormed
  root_lt : rootScope < rt.scopes.length
  parent_lt : ∀ a s, rt.IsParent a s → a < rt.scopes.length ∧ s < rt.scopes.length
  flag_of_rejected : ∀ s, rt.loop.rejected s = true → (rt.scope s).cancelRequested = true
  reaches_of_flag : ∀ s, (rt.scope s).cancelRequested = true →
    Shield.Reaches rt.IsParent rt.CancelCalled s
  rejected_of_cancel : ∀ a, rt.CancelCalled a → rt.loop.rejected a = true
  linked : ∀ a s, rt.IsParent a s →
    rt.loop.Armed a (.propagate a s) ∨ rt.loop.rejected s = true
  reactions : ∀ p a s, .propagate a s ∈ rt.loop.reactions p → p = a ∧ rt.IsParent a s
  microtasks : ∀ a s, .propagate a s ∈ rt.loop.microtasks →
    rt.loop.rejected a = true ∧ rt.IsParent a s

/-- The tree of scopes is what is watched. -/
def watchScopes : Watch where
  scopes := True
  types _ := False
  reactions
    | .propagate _ _ => True
    | _ => False
  events
    | .cancelCalled _ => True
    | _ => False
  propagate _ _ _ := trivial
  not_rejectChild _ _ := id
  not_thrown _ := id
  not_foreign _ _ := id

lemma watchScopes_ignoresTimers : watchScopes.IgnoresTimers := by
  constructor <;> simp [watchScopes]

lemma watchScopes_ignoresOperations : watchScopes.IgnoresOperations := by
  constructor <;> simp [watchScopes]

lemma ScopesInv.init : ScopesInv Runtime.init := by
  have hscope : ∀ s, Runtime.init.scope s = ⟨s = 0, none, false, .undefined⟩ := by
    intro s
    cases s <;> rfl
  have hpromise : ∀ p, Runtime.init.loop.promise p = ⟨false, []⟩ := by
    intro p
    cases p <;> rfl
  refine ⟨rfl, Nat.zero_lt_one, ?_, ?_, ?_, ?_, ?_, ?_, ?_⟩
  · intro a s h
    simp [IsParent, hscope] at h
  · intro s h
    simp [EventLoop.rejected, hpromise] at h
  · intro s h
    simp [hscope] at h
  · intro a h
    cases h
  · intro a s h
    simp [IsParent, hscope] at h
  · intro p a s h
    simp [EventLoop.reactions, hpromise] at h
  · intro a s h
    cases h

lemma ScopesInv.frame (hinv : ScopesInv rt) (hf : Frame watchScopes rt rt') : ScopesInv rt' := by
  have hkept := hf.scopes trivial
  have hscope : rt'.scope = rt.scope := by
    funext s
    simp [scope, hkept.scopes]
  have hparent : rt'.IsParent = rt.IsParent := by
    funext a s
    simp [IsParent, hscope]
  have hcalled : rt'.CancelCalled = rt.CancelCalled := by
    funext s
    exact propext (hf.mem_trace_iff trivial)
  refine ⟨hf.wellFormed hinv.wellFormed, hkept.scopes ▸ hinv.root_lt, ?_, ?_, ?_, ?_, ?_, ?_, ?_⟩
  · rw [hparent, hkept.scopes]
    exact hinv.parent_lt
  · intro s h
    rw [hkept.rejected] at h
    rw [hscope]
    exact hinv.flag_of_rejected s h
  · rw [hscope, hparent, hcalled]
    exact hinv.reaches_of_flag
  · intro a h
    rw [hkept.rejected]
    exact hinv.rejected_of_cancel a (hcalled ▸ h)
  · intro a s h
    rw [hkept.rejected]
    exact (hinv.linked a s (hparent ▸ h)).imp_left (hkept.armed a a s)
  · intro p a s h
    rw [hparent]
    exact hinv.reactions p a s (hkept.reactions p a s h)
  · intro a s h
    rw [hkept.rejected, hparent]
    exact hinv.microtasks a s (hkept.microtasks a s h)

/-! ### A new scope -/

lemma scope_newScope {cancellable : Bool} {parent : ScopeId} (s : ScopeId) :
    (rt.newScope cancellable parent).scope s =
      if s = rt.scopes.length then
        ⟨cancellable, some parent, (rt.scope parent).cancelRequested, .undefined⟩
      else rt.scope s := by
  simp only [scope, newScope, List.getD_eq_getElem?_getD, List.getElem?_append]
  split
  · rename_i h
    rw [if_neg (Nat.ne_of_lt h)]
  · rename_i h
    by_cases hs : s = rt.scopes.length
    · subst hs
      simp
    · have hle : rt.scopes.length ≤ s := Nat.le_of_not_lt h
      have hlt : rt.scopes.length < s := Nat.lt_of_le_of_ne hle (Ne.symm hs)
      rw [if_neg hs, List.getElem?_eq_none hle, List.getElem?_eq_none]
      simp only [List.length_cons, List.length_nil]
      exact Nat.le_sub_of_add_le' hlt

lemma isParent_newScope (hinv : ScopesInv rt) {cancellable : Bool} {parent a s : ScopeId} :
    (rt.newScope cancellable parent).IsParent a s ↔
      (a = parent ∧ s = rt.scopes.length) ∨ rt.IsParent a s := by
  simp only [IsParent, scope_newScope]
  split
  · rename_i h
    subst h
    have hnot : (rt.scope rt.scopes.length).parent ≠ some a := fun hp =>
      absurd (hinv.parent_lt a _ hp).2 (lt_irrefl _)
    simp [hnot, eq_comm]
  · rename_i h
    simp [h]

lemma ScopesInv.newScope (hinv : ScopesInv rt) {cancellable : Bool} {parent : ScopeId}
    (hp : parent < rt.scopes.length) : ScopesInv (rt.newScope cancellable parent) := by
  have hwf : rt.loop.promises.length = rt.scopes.length := hinv.wellFormed
  have hrejected : ∀ s, (rt.newScope cancellable parent).loop.rejected s = rt.loop.rejected s := by
    intro s
    simp [Runtime.newScope]
  have hmono : ∀ s, Shield.Reaches rt.IsParent rt.CancelCalled s →
      Shield.Reaches (rt.newScope cancellable parent).IsParent rt.CancelCalled s :=
    fun s h => h.mono (fun a b hab => (isParent_newScope hinv).mpr (Or.inr hab)) fun _ => id
  have hlen : (rt.newScope cancellable parent).scopes.length = rt.scopes.length + 1 := by
    simp [Runtime.newScope]
  exact {
    wellFormed := by
      simpa [WellFormed, Runtime.newScope] using hwf
    root_lt := hlen ▸ Nat.lt_succ_of_lt hinv.root_lt
    parent_lt := by
      intro a s h
      rw [hlen]
      rcases (isParent_newScope hinv).mp h with ⟨rfl, rfl⟩ | h
      · exact ⟨Nat.lt_succ_of_lt hp, Nat.lt_succ_self _⟩
      · obtain ⟨ha, hs⟩ := hinv.parent_lt a s h
        exact ⟨Nat.lt_succ_of_lt ha, Nat.lt_succ_of_lt hs⟩
    flag_of_rejected := by
      intro s h
      rw [hrejected] at h
      rw [scope_newScope]
      split
      · rename_i hs
        rw [EventLoop.rejected_of_length_le _ (hs ▸ hwf.le)] at h
        cases h
      · exact hinv.flag_of_rejected s h
    reaches_of_flag := by
      intro s h
      rw [scope_newScope] at h
      split at h
      · rename_i hs
        have hparent : (rt.newScope cancellable parent).IsParent parent s :=
          (isParent_newScope hinv).mpr (Or.inl ⟨rfl, hs⟩)
        exact (hmono parent (hinv.reaches_of_flag parent h)).child hparent
      · exact hmono s (hinv.reaches_of_flag s h)
    rejected_of_cancel := by
      intro a h
      rw [hrejected]
      exact hinv.rejected_of_cancel a h
    linked := by
      intro a s h
      rw [hrejected]
      rcases (isParent_newScope hinv).mp h with ⟨rfl, rfl⟩ | h
      · exact Or.inl (EventLoop.armed_register (by simpa [hwf] using Nat.lt_succ_of_lt hp))
      · exact (hinv.linked a s h).imp_left fun harmed => harmed.newPromise.register _ _
    reactions := by
      intro p a s h
      rcases EventLoop.mem_reactions_register _ h with h | ⟨heq, hp'⟩
      · have hold : .propagate a s ∈ rt.loop.reactions p := by
          simpa [EventLoop.reactions] using h
        obtain ⟨rfl, hparent⟩ := hinv.reactions p a s hold
        exact ⟨rfl, (isParent_newScope hinv).mpr (Or.inr hparent)⟩
      · cases heq
        exact ⟨hp', (isParent_newScope hinv).mpr (Or.inl ⟨rfl, rfl⟩)⟩
    microtasks := by
      intro a s h
      rw [hrejected]
      rcases EventLoop.mem_microtasks_register _ h with h | ⟨heq, hrej⟩
      · obtain ⟨hrej, hparent⟩ := hinv.microtasks a s h
        exact ⟨hrej, (isParent_newScope hinv).mpr (Or.inr hparent)⟩
      · cases heq
        exact ⟨by simpa using hrej, (isParent_newScope hinv).mpr (Or.inl ⟨rfl, rfl⟩)⟩ }

/-! ### Rejecting a scope -/

lemma scope_rejectScope {target : ScopeId} {err : JsError} (hid : target < rt.scopes.length) (s : ScopeId) :
    ((rt.rejectScope target err).scope s).parent = (rt.scope s).parent ∧
      ((rt.rejectScope target err).scope s).cancellable = (rt.scope s).cancellable ∧
      (((rt.rejectScope target err).scope s).cancelRequested = true ↔
        s = target ∨ (rt.scope s).cancelRequested = true) := by
  simp only [scope, Runtime.rejectScope, List.getD_eq_getElem?_getD, List.getElem?_modify]
  by_cases h : target = s
  · subst h
    simp [List.getElem?_eq_getElem hid]
  · simp [h, Ne.symm h]

/-- A scope that a cancellation reaches is rejected, where `loop` may have lost a reaction that
was to reject it and `log` may be longer by a call of `cancel` on it. -/
lemma ScopesInv.rejectScope (hinv : ScopesInv rt) {target : ScopeId} {err : JsError}
    {loop : EventLoop Reaction} {log : List Event} (hid : target < rt.scopes.length)
    (hps : loop.promises = rt.loop.promises) (hms : ∀ r ∈ loop.microtasks, r ∈ rt.loop.microtasks)
    (hlinked : ∀ a s, s ≠ target → rt.loop.Armed a (.propagate a s) → loop.Armed a (.propagate a s))
    (hlog : ∀ a, rt.CancelCalled a → .cancelCalled a ∈ log)
    (hcalled : ∀ a, .cancelCalled a ∈ log → rt.CancelCalled a ∨ a = target)
    (hreaches : Shield.Reaches rt.IsParent (fun a => .cancelCalled a ∈ log) target) :
    ScopesInv (({ rt with loop := loop, trace := log } : Runtime).rejectScope target err) := by
  have hid' : target < loop.promises.length := by
    rw [hps, hinv.wellFormed]
    exact hid
  have hold : ∀ p, loop.rejected p = rt.loop.rejected p := by
    intro p
    simp [EventLoop.rejected, EventLoop.promise, hps]
  have hscope (s : ScopeId) :=
    @scope_rejectScope { rt with loop := loop, trace := log } target err hid s
  generalize hrt' : ({ rt with loop := loop, trace := log } : Runtime).rejectScope target err = rt'
    at hscope ⊢
  have hloop : rt'.loop = loop.reject target := by rw [← hrt']; rfl
  have hlen : rt'.scopes.length = rt.scopes.length := by
    rw [← hrt']
    simp [Runtime.rejectScope]
  have hparent : rt'.IsParent = rt.IsParent := by
    funext a s
    simp only [IsParent, (hscope s).1]
    rfl
  have htrace : rt'.CancelCalled = fun a => .cancelCalled a ∈ log := by
    rw [← hrt']
    rfl
  have hrejected : ∀ s, rt'.loop.rejected s = true ↔ s = target ∨ rt.loop.rejected s = true := by
    intro s
    rw [hloop, EventLoop.rejected_reject _ hid', hold]
  exact {
    wellFormed := by
      rw [WellFormed, hloop, hlen, EventLoop.length_reject, hps]
      exact hinv.wellFormed
    root_lt := hlen.symm ▸ hinv.root_lt
    parent_lt := by
      rw [hparent, hlen]
      exact hinv.parent_lt
    flag_of_rejected := by
      intro s h
      rw [(hscope s).2.2]
      exact ((hrejected s).mp h).imp_right (hinv.flag_of_rejected s)
    reaches_of_flag := by
      intro s h
      rw [hparent, htrace]
      rcases (hscope s).2.2.mp h with rfl | h
      · exact hreaches
      · exact (hinv.reaches_of_flag s h).mono (fun _ _ => id) hlog
    rejected_of_cancel := by
      intro a h
      rw [htrace] at h
      rw [hrejected]
      exact (hcalled a h).symm.imp_right (hinv.rejected_of_cancel a)
    linked := by
      intro a s h
      rw [hparent] at h
      by_cases hs : s = target
      · exact Or.inr ((hrejected s).mpr (Or.inl hs))
      · rcases hinv.linked a s h with harmed | hrej
        · refine Or.inl ?_
          rw [hloop]
          exact (hlinked a s hs harmed).reject hid'
        · exact Or.inr ((hrejected s).mpr (Or.inr hrej))
    reactions := by
      intro p a s h
      rw [hloop] at h
      rw [hparent]
      refine hinv.reactions p a s ?_
      have hmem := EventLoop.mem_reactions_reject _ h
      simpa [EventLoop.reactions, EventLoop.promise, hps] using hmem
    microtasks := by
      intro a s h
      rw [hrejected, hparent]
      rw [hloop] at h
      rcases EventLoop.mem_microtasks_reject _ h with h | h
      · obtain ⟨hrej, hp⟩ := hinv.microtasks a s (hms _ h)
        exact ⟨Or.inr hrej, hp⟩
      · have hmem : .propagate a s ∈ rt.loop.reactions target := by
          simpa [EventLoop.reactions, EventLoop.promise, hps] using h
        obtain ⟨rfl, hp⟩ := hinv.reactions target a s hmem
        exact ⟨Or.inl rfl, hp⟩ }

lemma ScopesInv.cancel (hinv : ScopesInv rt) {target : ScopeId} (hid : target < rt.scopes.length) :
    ScopesInv (rt.cancel target) := by
  refine hinv.rejectScope hid rfl (fun _ => id) (fun _ _ _ => id) ?_ ?_ ?_
  · exact fun a h => List.mem_append_left _ h
  · intro a h
    rcases List.mem_append.mp h with h | h
    · exact Or.inl h
    · exact Or.inr (Event.cancelCalled.inj (List.mem_singleton.mp h))
  · exact Shield.Reaches.of_marked (List.mem_append_right _ (List.mem_singleton.mpr rfl))

lemma ScopesInv.propagate (hinv : ScopesInv rt) {parent child : ScopeId} {loop : EventLoop Reaction}
    (hn : rt.loop.next = some (.propagate parent child, loop)) :
    ScopesInv (({ rt with loop := loop } : Runtime).react (.propagate parent child)) := by
  obtain ⟨hm, hps⟩ := EventLoop.next_eq_some _ hn
  obtain ⟨hrej, hparent⟩ := hinv.microtasks parent child (hm ▸ List.mem_cons_self)
  refine hinv.rejectScope (hinv.parent_lt parent child hparent).2 hps ?_ ?_ (fun _ => id)
    (fun _ => Or.inl) ?_
  · exact fun r hr => hm ▸ List.mem_cons_of_mem _ hr
  · intro a s hs harmed
    refine (harmed.next hn).resolve_left ?_
    rintro heq
    cases heq
    exact hs rfl
  · exact (hinv.reaches_of_flag parent (hinv.flag_of_rejected parent hrej)).child hparent

/-! ### Runs -/

lemma ScopesInv.microtask (hinv : ScopesInv rt) (hstep : rt.microtask = some rt') : ScopesInv rt' := by
  unfold Runtime.microtask at hstep
  cases hn : rt.loop.next with
  | none => simp [hn] at hstep
  | some rl =>
    obtain ⟨r, loop⟩ := rl
    simp only [hn, Option.some.injEq] at hstep
    subst hstep
    cases r with
    | propagate parent child => exact hinv.propagate hn
    | reject scope p =>
      refine hinv.frame (Frame.react hn ?_)
      simp only [Reaction.concern]
      split
      · exact watchScopes_ignoresTimers
      · exact watchScopes_ignoresOperations
    | cancelTimer scope q => exact hinv.frame (Frame.react hn watchScopes_ignoresTimers)
    | timeoutCallback q => exact hinv.frame (Frame.react hn watchScopes_ignoresTimers)
    | cancel kind q => exact hinv.frame (Frame.react hn watchScopes_ignoresOperations)
    | rejectChild q err => exact hinv.frame (Frame.react hn watchScopes_ignoresOperations)

lemma ScopesInv.step {input : Input V} (hinv : ScopesInv rt) (hstep : rt.step env input = some rt') :
    ScopesInv rt' := by
  have hframe : watchScopes.Ignores (rt.concern input) → ScopesInv rt' :=
    fun h => hinv.frame (Frame.step hstep h)
  cases input with
  | newScope cancellable parent =>
    obtain ⟨hp, rfl⟩ := eq_of_inScope hstep
    exact hinv.newScope hp
  | cancel scope =>
    obtain ⟨hs, rfl⟩ := eq_of_inScope hstep
    exact hinv.cancel hs
  | job job =>
    cases job with
    | cancelWorkflow =>
      cases hstep
      exact hinv.cancel hinv.root_lt
    | fireTimer seq => exact hframe watchScopes_ignoresTimers
    | _ => exact hframe watchScopes_ignoresOperations
  | microtask => exact hinv.microtask hstep
  | push cmd complete => exact hframe trivial
  | activate isReplaying => exact hframe trivial
  | sleep scope ms => exact hframe watchScopes_ignoresTimers
  | setTimeout ms => exact hframe watchScopes_ignoresTimers
  | clearTimeout handle => exact hframe watchScopes_ignoresTimers
  | _ => exact hframe watchScopes_ignoresOperations

/-! ### Scopes stay as they are, and cancelled -/

/-- What is said of the scope stays true. -/
structure ScopeKept (rt rt' : Runtime) (s : ScopeId) : Prop where
  cancellable : (rt.scope s).cancellable = true → (rt'.scope s).cancellable = true
  cancelRequested : (rt.scope s).cancelRequested = true → (rt'.scope s).cancelRequested = true

lemma ScopeKept.consideredCancelled {s : ScopeId} (h : ScopeKept rt rt' s)
    (hcancelled : rt.consideredCancelled s = true) : rt'.consideredCancelled s = true := by
  obtain ⟨hrequested, hcancellable⟩ := Bool.and_eq_true_iff.mp hcancelled
  exact Bool.and_eq_true_iff.mpr ⟨h.cancelRequested hrequested, h.cancellable hcancellable⟩

lemma ScopeKept.of_scopes_eq {s : ScopeId} (h : rt'.scopes = rt.scopes) : ScopeKept rt rt' s := by
  have hscope : rt'.scope s = rt.scope s := by rw [scope, h, scope]
  constructor <;> exact fun h => hscope ▸ h

lemma ScopeKept.rejectScope {target : ScopeId} {err : JsError} (hid : target < rt.scopes.length)
    (s : ScopeId) : ScopeKept rt (rt.rejectScope target err) s := by
  obtain ⟨-, hcancellable, hflag⟩ := @scope_rejectScope rt target err hid s
  exact ⟨fun h => hcancellable.trans h, fun h => hflag.mpr (Or.inr h)⟩

lemma ScopeKept.cancel {target : ScopeId} (hid : target < rt.scopes.length) (s : ScopeId) :
    ScopeKept rt (rt.cancel target) s := by
  have hkept : ScopeKept (rt.emit (.cancelCalled target)) (rt.cancel target) s :=
    @ScopeKept.rejectScope (rt.emit (.cancelCalled target)) target _ hid s
  exact ⟨hkept.cancellable, hkept.cancelRequested⟩

lemma ScopeKept.newScope (cancellable : Bool) (parent s : ScopeId) :
    ScopeKept rt (rt.newScope cancellable parent) s := by
  have hscope := @scope_newScope rt cancellable parent s
  split at hscope
  · rename_i hs
    have hmissing : rt.scope s = ⟨false, none, false, .undefined⟩ := by
      simp [scope, hs]
    constructor <;> simp [hmissing]
  · constructor <;> simp [hscope]

lemma ScopesInv.scopeKept_microtask (hinv : ScopesInv rt) (hstep : rt.microtask = some rt') (s : ScopeId) :
    ScopeKept rt rt' s := by
  unfold Runtime.microtask at hstep
  cases hn : rt.loop.next with
  | none => simp [hn] at hstep
  | some rl =>
    obtain ⟨r, loop⟩ := rl
    simp only [hn, Option.some.injEq] at hstep
    subst hstep
    have hframe : watchScopes.Ignores r.concern →
        ScopeKept rt (({ rt with loop := loop } : Runtime).react r) s :=
      fun hignores => .of_scopes_eq ((Frame.react hn hignores).scopes trivial).scopes
    cases r with
    | propagate parent child =>
      obtain ⟨hm, -⟩ := EventLoop.next_eq_some _ hn
      obtain ⟨-, hparent⟩ := hinv.microtasks parent child (hm ▸ List.mem_cons_self)
      have hchild := (hinv.parent_lt parent child hparent).2
      have hkept : ScopeKept { rt with loop := loop }
          (({ rt with loop := loop } : Runtime).rejectScope child (rt.scope parent).reason) s :=
        @ScopeKept.rejectScope { rt with loop := loop } child _ hchild s
      exact ⟨hkept.cancellable, hkept.cancelRequested⟩
    | reject scope p =>
      apply hframe
      simp only [Reaction.concern]
      split
      · exact watchScopes_ignoresTimers
      · exact watchScopes_ignoresOperations
    | cancelTimer scope q => exact hframe watchScopes_ignoresTimers
    | timeoutCallback q => exact hframe watchScopes_ignoresTimers
    | cancel kind q => exact hframe watchScopes_ignoresOperations
    | rejectChild q err => exact hframe watchScopes_ignoresOperations

lemma ScopesInv.scopeKept_step {input : Input V} (hinv : ScopesInv rt)
    (hstep : rt.step env input = some rt') (s : ScopeId) : ScopeKept rt rt' s := by
  have hframe : watchScopes.Ignores (rt.concern input) → ScopeKept rt rt' s :=
    fun hignores => .of_scopes_eq ((Frame.step hstep hignores).scopes trivial).scopes
  cases input with
  | newScope cancellable parent =>
    obtain ⟨hp, rfl⟩ := eq_of_inScope hstep
    exact .newScope cancellable parent s
  | cancel scope =>
    obtain ⟨hs, rfl⟩ := eq_of_inScope hstep
    exact .cancel hs s
  | job job =>
    cases job with
    | cancelWorkflow =>
      cases hstep
      exact .cancel hinv.root_lt s
    | fireTimer seq => exact hframe watchScopes_ignoresTimers
    | _ => exact hframe watchScopes_ignoresOperations
  | microtask => exact hinv.scopeKept_microtask hstep s
  | push cmd complete => exact hframe trivial
  | activate isReplaying => exact hframe trivial
  | sleep scope ms => exact hframe watchScopes_ignoresTimers
  | setTimeout ms => exact hframe watchScopes_ignoresTimers
  | clearTimeout handle => exact hframe watchScopes_ignoresTimers
  | _ => exact hframe watchScopes_ignoresOperations

/-- Once the reactions have run, rejections have passed to the children. -/
lemma ScopesInv.rejected_child (hinv : ScopesInv rt) (hquiet : rt.loop.microtasks = []) {a s : ScopeId}
    (hs : rt.IsParent a s) (ha : rt.loop.rejected a = true) : rt.loop.rejected s = true := by
  rcases hinv.linked a s hs with harmed | hrej
  · have hpending := harmed.pending_of_quiescent hquiet
    rw [ha] at hpending
    cases hpending
  · exact hrej

/-- Cancellation reaches every cancellable scope below, through scopes of either kind. -/
theorem ScopesInv.consideredCancelled_iff (hinv : ScopesInv rt) (hquiet : rt.loop.microtasks = [])
    (s : ScopeId) : rt.consideredCancelled s = true ↔
      rt.Cancellable s ∧ Shield.Reaches rt.IsParent rt.CancelCalled s := by
  rw [Runtime.consideredCancelled, Bool.and_eq_true, and_comm]
  refine and_congr_right fun _ => ?_
  constructor
  · exact hinv.reaches_of_flag s
  · intro hreaches
    refine hinv.flag_of_rejected s (hreaches.closed hinv.rejected_of_cancel ?_)
    exact fun a s hs ha => hinv.rejected_child hquiet hs ha

/-- In every run, once the reactions have run, cancellation respects the shields exactly if it
never had to stop at one. -/
theorem scopesShield_iff (env : Env V) (inputs : List (Input V)) (rt : Runtime)
    (hrun : Transition.run (Runtime.step env) Runtime.init inputs = some rt)
    (hquiet : rt.loop.microtasks = []) : rt.ScopesShield ↔ rt.NothingToShield := by
  have hinv : ScopesInv rt :=
    Transition.invariant (fun s i t hs ht => ScopesInv.step hs ht) ScopesInv.init hrun
  have hiff := hinv.consideredCancelled_iff hquiet
  constructor
  · intro hshield s hs hcancellable a ha hpath
    exact ((hshield s hs).mp ((hiff s).mpr ⟨hcancellable, a, ha, hpath⟩)).2
  · intro hnothing s hs
    rw [hiff s]
    constructor
    · rintro ⟨hcancellable, a, ha, hpath⟩
      exact ⟨hcancellable, hnothing s hs hcancellable a ha hpath⟩
    · rintro ⟨hcancellable, hreaches⟩
      exact ⟨hcancellable, hreaches.reaches⟩

/-- A cancellable scope in the root scope, which is cancelled. -/
theorem scopesShield_iff_cancellable :
    ∃ rt, Transition.run (Runtime.step Env.raw) Runtime.init
        [.newScope true 0, .cancel 0, .microtask] = some rt ∧ rt.loop.microtasks = [] ∧
      (rt.ScopesShield ↔ rt.NothingToShield) :=
  ⟨_, rfl, rfl, scopesShield_iff Env.raw [.newScope true 0, .cancel 0, .microtask] _ rfl rfl⟩

/-- A cancellable scope inside one that is not cancellable is cancelled with the root scope. -/
theorem not_scopesShield :
    ∃ rt, Transition.run (Runtime.step Env.raw) Runtime.init
        [.newScope false 0, .newScope true 1, .cancel 0, .microtask, .microtask] = some rt ∧
      rt.loop.microtasks = [] ∧ ¬rt.ScopesShield := by
  refine ⟨_, rfl, rfl, fun hshield => ?_⟩
  obtain ⟨-, a, ha, hthrough⟩ := (hshield 2 (by decide)).mp rfl
  obtain rfl : a = 0 := Event.cancelCalled.inj (List.mem_singleton.mp ha)
  rcases hthrough with h | ⟨-, hopen⟩
  · cases h
  · have hshielded : false = true := hopen 1 (TransGen.single rfl) (TransGen.single rfl)
    cases hshielded

end Runtime

end TemporalSdk
