import TemporalSdk.Workflow.Respects

/-!
# How the promises of operations are settled

A promise is settled by the first call of its resolve and reject functions. While the
completion of an activity, of the start of a child workflow or of a signal is stored, its
promise is pending; that of the completion of a child workflow may have been rejected, but
only after the promise for its start has been.
-/

namespace TemporalSdk

variable {V : Type} {env : Env V} {rt rt' : Runtime}

/-- What the event settles the promise with. -/
def Event.settlementOf (p : PromiseRef) : Event → Option Settlement
  | .settled p' s => if p' = p then some s else none
  | _ => none

/-- The reaction to cancellation of an operation that was called in a cancelled scope. -/
def Reaction.isRejectionOf (p : PromiseRef) : Reaction → Bool
  | .reject _ p' => p' = p
  | _ => false

@[simp] lemma Reaction.isRejectionOf_reject (scope : ScopeId) (p p' : PromiseRef) :
    (reject scope p').isRejectionOf p = decide (p' = p) := rfl

namespace Runtime

/-- How the promise has been settled, if it has. -/
def settlement (rt : Runtime) (p : PromiseRef) : Option Settlement :=
  rt.trace.findSome? (Event.settlementOf p)

/-- How many reactions that reject the promise have not run. -/
def rejections (rt : Runtime) (p : PromiseRef) : ℕ :=
  rt.loop.pending.countP fun r => r.isRejectionOf p

/-! ### The settlement of a promise -/

lemma settlement_append {es : List Event} (htrace : rt'.trace = rt.trace ++ es) (p : PromiseRef) :
    rt'.settlement p = (rt.settlement p).or (es.findSome? (Event.settlementOf p)) := by
  rw [settlement, htrace, List.findSome?_append]
  rfl

lemma trace_settle (p : PromiseRef) (s : Settlement) :
    (rt.settle p s).trace = rt.trace ++ [.settled p s] := by
  cases s with
  | fulfilled value => rfl
  | rejected err =>
    simp only [settle, chain]
    split <;> rfl

lemma completions_settle (p : PromiseRef) (s : Settlement) :
    (rt.settle p s).completions = rt.completions := by
  cases s with
  | fulfilled value => rfl
  | rejected err =>
    simp only [settle, chain]
    split <;> rfl

lemma nextSeqs_settle (p : PromiseRef) (s : Settlement) : (rt.settle p s).nextSeqs = rt.nextSeqs := by
  cases s with
  | fulfilled value => rfl
  | rejected err =>
    simp only [settle, chain]
    split <;> rfl

lemma rejections_settle (p : PromiseRef) (s : Settlement) (p' : PromiseRef) :
    (rt.settle p s).rejections p' = rt.rejections p' := by
  cases s with
  | fulfilled value => rfl
  | rejected err =>
    simp only [settle, chain]
    split
    · rw [rejections, EventLoop.pending_enqueue, Multiset.countP_cons_of_neg _ (by simp [Reaction.isRejectionOf])]
      rfl
    · rfl

lemma settlement_settle (p p' : PromiseRef) (s : Settlement) :
    (rt.settle p s).settlement p' = (rt.settlement p').or (if p = p' then some s else none) := by
  rw [settlement_append (trace_settle p s)]
  simp [Event.settlementOf]

lemma settlement_emit {e : Event} (he : ∀ p s, e ≠ .settled p s) (p : PromiseRef) :
    (rt.emit e).settlement p = rt.settlement p := by
  have htrace : (rt.emit e).trace = rt.trace ++ [e] := rfl
  rw [settlement_append htrace]
  cases e with
  | settled p' s => exact absurd rfl (he p' s)
  | _ => simp [Event.settlementOf]

lemma settlement_pushCommand (cmd : Command) (complete : Bool) (p : PromiseRef) :
    (rt.pushCommand cmd complete).settlement p = rt.settlement p := by
  simp only [settlement, pushCommand]
  split
  · simp [List.findSome?_append, Event.settlementOf]
  · rfl

/-- A promise that is settled stays as it is. -/
lemma respects_settlement :
    Respects fun rt rt' => ∀ p s, rt.settlement p = some s → rt'.settlement p = some s where
  refl _ _ _ := id
  trans h₁ h₂ p s h := h₂ p s (h₁ p s h)
  emit rt e he p s h := by rwa [settlement_emit he]
  pushCommand rt cmd complete p s h := by rwa [settlement_pushCommand]
  nextSeq _ _ _ _ := id
  setCompletion _ _ _ _ _ _ := id
  deleteCompletion _ _ _ _ _ := id
  settle rt p' s' p s h := by rw [settlement_settle, h, Option.some_or]
  onCancelRequested _ _ _ _ _ _ := id
  timeoutCallback _ _ _ _ := id
  newScope _ _ _ _ _ := id
  rejectScope _ _ _ _ _ := id
  next _ _ _ _ _ _ := id
  activate _ _ _ _ := id

/-- A scope that is cancelled stays so. -/
lemma respects_rejected :
    Respects fun rt rt' => ∀ scope, rt.loop.rejected scope = true → rt'.loop.rejected scope = true where
  refl _ _ := id
  trans h₁ h₂ scope h := h₂ scope (h₁ scope h)
  emit _ _ _ _ := id
  pushCommand _ _ _ _ := id
  nextSeq _ _ _ := id
  setCompletion _ _ _ _ _ := id
  deleteCompletion _ _ _ _ := id
  settle rt p s scope h := by
    cases s with
    | fulfilled value => exact h
    | rejected err =>
      simp only [settle, chain]
      split <;> exact h
  onCancelRequested rt scope' r _ scope h := by
    rw [onCancelRequested]
    exact (EventLoop.rejected_register rt.loop scope' r scope).trans h
  timeoutCallback _ _ _ := id
  newScope rt cancellable parent scope h := by
    rw [newScope]
    exact (EventLoop.rejected_register _ _ _ _).trans ((EventLoop.rejected_newPromise _ _).trans h)
  rejectScope rt scope' err scope h := EventLoop.rejected_reject_of_rejected rt.loop scope' h
  next rt r loop hn scope h := by
    obtain ⟨-, hps⟩ := EventLoop.next_eq_some _ hn
    simpa [EventLoop.rejected, EventLoop.promise, hps] using h
  activate _ _ _ := id

/-- The completion of a child is only rejected after its start. -/
lemma respects_chained :
    Respects fun rt rt' =>
      (∀ e ∈ rt.trace, e ∈ rt'.trace) ∧
        ∀ q err, .rejectChild q err ∈ rt'.loop.pending →
          .rejectChild q err ∈ rt.loop.pending ∨
            .settled ⟨.childWorkflowStart, q⟩ (.rejected err) ∈ rt'.trace where
  refl _ := ⟨fun _ => id, fun _ _ => Or.inl⟩
  trans h₁ h₂ := by
    refine ⟨fun e he => h₂.1 e (h₁.1 e he), fun q err h => ?_⟩
    rcases h₂.2 q err h with h | h
    · exact (h₁.2 q err h).imp_right (h₂.1 _)
    · exact Or.inr h
  emit _ _ _ := ⟨fun _ he => List.mem_append_left _ he, fun _ _ => Or.inl⟩
  pushCommand rt cmd complete := by
    refine ⟨fun e he => ?_, fun _ _ => Or.inl⟩
    simp only [pushCommand]
    split
    · exact List.mem_append_left _ he
    · exact he
  nextSeq _ _ := ⟨fun _ => id, fun _ _ => Or.inl⟩
  setCompletion _ _ _ _ := ⟨fun _ => id, fun _ _ => Or.inl⟩
  deleteCompletion _ _ _ := ⟨fun _ => id, fun _ _ => Or.inl⟩
  settle rt p s := by
    refine ⟨fun e he => ?_, fun q err h => ?_⟩
    · rw [trace_settle]
      exact List.mem_append_left _ he
    · rw [trace_settle]
      cases s with
      | fulfilled value => exact Or.inl h
      | rejected err' =>
        simp only [settle, chain] at h
        split at h
        · rename_i hp
          rw [EventLoop.pending_enqueue, Multiset.mem_cons] at h
          rcases h with h | h
          · cases h
            obtain ⟨type, seq⟩ := p
            obtain rfl : type = .childWorkflowStart := hp
            exact Or.inr (List.mem_append_right _ (List.mem_singleton.mpr rfl))
          · exact Or.inl h
        · exact Or.inl h
  onCancelRequested rt scope r hr := by
    refine ⟨fun _ => id, fun q err h => Or.inl ?_⟩
    rw [onCancelRequested] at h
    rcases Nat.lt_or_ge scope rt.loop.promises.length with hp | hp
    · rw [EventLoop.pending_register _ hp, Multiset.mem_cons] at h
      exact h.resolve_left fun heq => hr q err heq.symm
    · simpa [EventLoop.register, EventLoop.rejected_of_length_le _ hp,
        EventLoop.setPromise_of_length_le _ hp] using h
  timeoutCallback rt seq := by
    refine ⟨fun _ => id, fun q err h => Or.inl ?_⟩
    simpa using h
  newScope rt cancellable parent := by
    refine ⟨fun _ => id, fun q err h => Or.inl ?_⟩
    rcases Nat.lt_or_ge parent rt.loop.newPromise.promises.length with hp | hp
    · simpa [newScope, EventLoop.pending_register _ hp] using h
    · simpa [newScope, EventLoop.register, EventLoop.rejected_of_length_le _ hp,
        EventLoop.setPromise_of_length_le _ hp] using h
  rejectScope rt scope err := by
    refine ⟨fun _ => id, fun q err h => Or.inl ?_⟩
    simpa [rejectScope] using h
  next rt r loop hn := by
    refine ⟨fun _ => id, fun q err h => Or.inl ?_⟩
    rw [EventLoop.pending_next _ hn]
    exact Multiset.mem_cons_of_mem h
  activate _ _ := ⟨fun _ => id, fun _ _ => Or.inl⟩

/-! ### The invariant -/

/-- The promises of activities, child workflows and signals. -/
def watchSettlements : Watch where
  scopes := False
  types type := type ≠ .timer
  reactions r := ∃ p : PromiseRef, p.type ≠ .timer ∧ r.isRejectionOf p = true
  events e := ∃ (p : PromiseRef) (s : Settlement), p.type ≠ .timer ∧ e = .settled p s
  propagate := False.elim
  not_rejectChild _ _ := by simp [Reaction.isRejectionOf]
  not_thrown _ := by simp
  not_foreign _ _ := by simp

lemma watchSettlements_ignoresScopes : watchSettlements.IgnoresScopes where
  scopes := id
  propagate := by simp [watchSettlements, Reaction.isRejectionOf]
  cancelCalled := by simp [watchSettlements]

lemma watchSettlements_ignoresTimers : watchSettlements.IgnoresTimers where
  types := by simp [watchSettlements]
  reject scope seq := by
    rintro ⟨p, hp, h⟩
    obtain rfl : (⟨.timer, seq⟩ : PromiseRef) = p := by simpa [Reaction.isRejectionOf] using h
    exact hp rfl
  cancelTimer := by simp [watchSettlements, Reaction.isRejectionOf]
  timeoutCallback := by simp [watchSettlements, Reaction.isRejectionOf]
  pushed := by simp [watchSettlements]
  fired := by simp [watchSettlements]
  cleared := by simp [watchSettlements]
  callback := by simp [watchSettlements]
  settled seq s := by
    rintro ⟨p, s', hp, h⟩
    cases h
    exact hp rfl

lemma Frame.settlement {w : Watch} (hf : Frame w rt rt') {p : PromiseRef}
    (hp : ∀ s, w.events (.settled p s)) : rt'.settlement p = rt.settlement p := by
  obtain ⟨es, htrace, hes⟩ := hf.trace
  have hnone : es.findSome? (Event.settlementOf p) = none := by
    rw [List.findSome?_eq_none_iff]
    intro e he
    cases e with
    | settled p' s =>
      rw [Event.settlementOf, if_neg]
      rintro rfl
      exact hes _ he (hp s)
    | _ => rfl
  rw [settlement_append htrace, hnone, Option.or_none]

lemma watched_settled {p : PromiseRef} (hp : p.type ≠ .timer) (s : Settlement) :
    watchSettlements.events (.settled p s) :=
  ⟨p, s, hp, rfl⟩

lemma Frame.rejections (hf : Frame watchSettlements rt rt') {p : PromiseRef} (hp : p.type ≠ .timer) :
    rt'.rejections p = rt.rejections p :=
  hf.countP_pending fun _ hr => ⟨p, hp, hr⟩

/-- A promise is unsettled while its completion is stored or a reaction that rejects it has not run,
and these two exclude each other; the completion of a child is the exception. -/
structure SettlementsInv (rt : Runtime) : Prop where
  wellFormed : rt.WellFormed
  completion_lt : ∀ type, type ≠ .timer → ∀ q ∈ rt.completions type, q < rt.nextSeqs type.counter
  settled_lt : ∀ p : PromiseRef, p.type ≠ .timer → rt.settlement p ≠ none →
    p.seq < rt.nextSeqs p.type.counter
  rejection_lt : ∀ p : PromiseRef, p.type ≠ .timer → rt.rejections p ≠ 0 →
    p.seq < rt.nextSeqs p.type.counter
  rejections_le : ∀ p : PromiseRef, p.type ≠ .timer → rt.rejections p ≤ 1
  rejection_type : ∀ p : PromiseRef, rt.rejections p ≠ 0 → p.type ≠ .childWorkflowComplete
  rejection_free : ∀ p : PromiseRef, p.type ≠ .timer → rt.rejections p ≠ 0 →
    p.seq ∉ rt.completions p.type ∧ rt.settlement p = none
  unsettled : ∀ p : PromiseRef, p.type ≠ .timer → p.type ≠ .childWorkflowComplete →
    p.seq ∈ rt.completions p.type → rt.settlement p = none
  once : ∀ p s, p.type ≠ .timer → p.type ≠ .childWorkflowComplete → .settled p s ∈ rt.trace →
    rt.settlement p = some s
  chained : ∀ q err, .rejectChild q err ∈ rt.loop.pending →
    .settled ⟨.childWorkflowStart, q⟩ (.rejected err) ∈ rt.trace
  complete : ∀ q ∈ rt.completions .childWorkflowComplete,
    rt.settlement ⟨.childWorkflowComplete, q⟩ ≠ none →
    ∃ err, rt.settlement ⟨.childWorkflowStart, q⟩ = some (.rejected err)

lemma SettlementsInv.init : SettlementsInv Runtime.init where
  wellFormed := rfl
  completion_lt _ _ q hq := absurd hq (AList.notMem_empty q)
  settled_lt _ _ h := absurd rfl h
  rejection_lt _ _ h := absurd rfl h
  rejections_le _ _ := Nat.zero_le 1
  rejection_type _ h := absurd rfl h
  rejection_free _ _ h := absurd rfl h
  unsettled _ _ _ _ := rfl
  once _ _ _ _ h := absurd h List.not_mem_nil
  chained _ _ h := absurd h (Multiset.notMem_zero _)
  complete q hq := absurd hq (AList.notMem_empty q)

/-- Steps that touch none of these promises keep the invariant. -/
lemma SettlementsInv.frame (hinv : SettlementsInv rt) (hf : Frame watchSettlements rt rt')
    (hchained : ∀ q err, .rejectChild q err ∈ rt'.loop.pending →
      .settled ⟨.childWorkflowStart, q⟩ (.rejected err) ∈ rt'.trace) : SettlementsInv rt' := by
  refine ⟨hf.wellFormed hinv.wellFormed, ?_, ?_, ?_, ?_, ?_, ?_, ?_, ?_, hchained, ?_⟩
  · intro type ht q hq
    rw [hf.completions type ht] at hq
    rw [hf.nextSeqs type ht]
    exact hinv.completion_lt type ht q hq
  · intro p hp h
    rw [hf.settlement (watched_settled hp)] at h
    rw [hf.nextSeqs _ hp]
    exact hinv.settled_lt p hp h
  · intro p hp h
    rw [hf.rejections hp] at h
    rw [hf.nextSeqs _ hp]
    exact hinv.rejection_lt p hp h
  · intro p hp
    rw [hf.rejections hp]
    exact hinv.rejections_le p hp
  · intro p h hp
    have hne : p.type ≠ .timer := by simp [hp]
    rw [hf.rejections hne] at h
    exact hinv.rejection_type p h hp
  · intro p hp h
    rw [hf.rejections hp] at h
    rw [hf.completions _ hp, hf.settlement (watched_settled hp)]
    exact hinv.rejection_free p hp h
  · intro p hp hcomplete h
    rw [hf.completions _ hp] at h
    rw [hf.settlement (watched_settled hp)]
    exact hinv.unsettled p hp hcomplete h
  · intro p s hp hcomplete h
    rw [hf.settlement (watched_settled hp)]
    exact hinv.once p s hp hcomplete ((hf.mem_trace_iff ⟨p, s, hp, rfl⟩).mp h)
  · intro q hq h
    rw [hf.completions .childWorkflowComplete (by simp [watchSettlements])] at hq
    rw [hf.settlement (p := ⟨.childWorkflowComplete, q⟩) (watched_settled (by simp))] at h
    rw [hf.settlement (p := ⟨.childWorkflowStart, q⟩) (watched_settled (by simp))]
    exact hinv.complete q hq h

lemma SettlementsInv.chained_of_respects (hinv : SettlementsInv rt)
    (h : (∀ e ∈ rt.trace, e ∈ rt'.trace) ∧ ∀ q err, .rejectChild q err ∈ rt'.loop.pending →
      .rejectChild q err ∈ rt.loop.pending ∨
        .settled ⟨.childWorkflowStart, q⟩ (.rejected err) ∈ rt'.trace) (q : Seq) (err : JsError)
    (hpending : .rejectChild q err ∈ rt'.loop.pending) :
    .settled ⟨.childWorkflowStart, q⟩ (.rejected err) ∈ rt'.trace := by
  rcases h.2 q err hpending with h' | h'
  · exact h.1 _ (hinv.chained q err h')
  · exact h'

lemma SettlementsInv.of_step {input : Input V} (hinv : SettlementsInv rt)
    (hstep : rt.step env input = some rt') (h : watchSettlements.Ignores (rt.concern input)) :
    SettlementsInv rt' :=
  hinv.frame (Frame.step hstep h) (hinv.chained_of_respects (respects_chained.step hstep))

/-! ### A new operation -/

/-- No promise numbered `q` by the counter has been used. -/
structure FreshPromise (c : Counter) (q : Seq) (rt : Runtime) : Prop where
  lt : q < rt.nextSeqs c
  completions : ∀ type : CompletionType, type.counter = c → q ∉ rt.completions type
  rejections : ∀ type : CompletionType, type.counter = c → rt.rejections ⟨type, q⟩ = 0
  settlement : ∀ type : CompletionType, type.counter = c → rt.settlement ⟨type, q⟩ = none

lemma counter_ne_timer {type : CompletionType} (h : type ≠ .timer) : type.counter ≠ .timer := by
  cases type <;> simp_all [CompletionType.counter]

/-- Steps that touch none of these promises use none. -/
lemma FreshPromise.frame {type : CompletionType} {q : Seq} (hfresh : FreshPromise type.counter q rt)
    (htimer : type ≠ .timer) (hf : Frame watchSettlements rt rt') : FreshPromise type.counter q rt' := by
  have hne : ∀ type' : CompletionType, type'.counter = type.counter → type' ≠ .timer := by
    rintro type' h rfl
    exact counter_ne_timer htimer h.symm
  refine ⟨?_, fun type' h => ?_, fun type' h => ?_, fun type' h => ?_⟩
  · rw [hf.nextSeqs type htimer]
    exact hfresh.lt
  · rw [hf.completions type' (hne type' h)]
    exact hfresh.completions type' h
  · rw [hf.rejections (hne type' h)]
    exact hfresh.rejections type' h
  · rw [hf.settlement (watched_settled (hne type' h))]
    exact hfresh.settlement type' h

lemma SettlementsInv.nextSeq (hinv : SettlementsInv rt) (c : Counter) : SettlementsInv (rt.nextSeq c) :=
  { hinv with
    completion_lt := fun type ht q hq => (hinv.completion_lt type ht q hq).trans_le (nextSeqs_le_nextSeq c _)
    settled_lt := fun p hp h => (hinv.settled_lt p hp h).trans_le (nextSeqs_le_nextSeq c _)
    rejection_lt := fun p hp h => (hinv.rejection_lt p hp h).trans_le (nextSeqs_le_nextSeq c _) }

lemma SettlementsInv.fresh_nextSeq (hinv : SettlementsInv rt) {c : Counter} (hc : c ≠ .timer) :
    FreshPromise c (rt.nextSeqs c) (rt.nextSeq c) := by
  have htimer : ∀ type : CompletionType, type.counter = c → type ≠ .timer := by
    rintro type h rfl
    exact hc h.symm
  refine ⟨by simp [Runtime.nextSeq], ?_, ?_, ?_⟩
  · intro type h hq
    exact absurd (h ▸ hinv.completion_lt type (htimer type h) _ hq) (lt_irrefl _)
  · intro type h
    by_contra hq
    have hlt := hinv.rejection_lt ⟨type, rt.nextSeqs c⟩ (htimer type h) hq
    exact absurd (h ▸ hlt) (lt_irrefl _)
  · intro type h
    by_contra hq
    have hlt := hinv.settled_lt ⟨type, rt.nextSeqs c⟩ (htimer type h) hq
    exact absurd (h ▸ hlt) (lt_irrefl _)

/-- A completion is stored for a promise that has not been used. -/
lemma SettlementsInv.setCompletion (hinv : SettlementsInv rt) {type : CompletionType} {q : Seq}
    {c : Completion} (hlt : q < rt.nextSeqs type.counter) (hrejections : rt.rejections ⟨type, q⟩ = 0)
    (hsettlement : rt.settlement ⟨type, q⟩ = none) : SettlementsInv (rt.setCompletion type q c) := by
  have hmem : ∀ type' q', q' ∈ (rt.setCompletion type q c).completions type' →
      (type' = type ∧ q' = q) ∨ q' ∈ rt.completions type' := by
    intro type' q' h
    by_cases ht : type' = type
    · subst ht
      simp only [Runtime.setCompletion, Function.update_self, OrderedMap.mem_set] at h
      exact h.imp_left fun hq => ⟨rfl, hq⟩
    · simp only [Runtime.setCompletion, Function.update_of_ne ht] at h
      exact Or.inr h
  refine ⟨hinv.wellFormed, ?_, hinv.settled_lt, hinv.rejection_lt, hinv.rejections_le,
    hinv.rejection_type, ?_, ?_, hinv.once, hinv.chained, ?_⟩
  · intro type' ht q' h
    rcases hmem type' q' h with ⟨rfl, rfl⟩ | h
    · exact hlt
    · exact hinv.completion_lt type' ht q' h
  · intro p hp h
    refine ⟨fun hq => ?_, (hinv.rejection_free p hp h).2⟩
    rcases hmem _ _ hq with ⟨rfl, rfl⟩ | hq
    · exact h hrejections
    · exact (hinv.rejection_free p hp h).1 hq
  · intro p hp hcomplete h
    rcases hmem _ _ h with ⟨rfl, rfl⟩ | h
    · exact hsettlement
    · exact hinv.unsettled p hp hcomplete h
  · intro q' h hs
    rcases hmem _ _ h with ⟨rfl, rfl⟩ | h
    · exact absurd hsettlement hs
    · exact hinv.complete q' h hs

/-- A promise that no rejection is on its way to is settled. Nothing else can settle it any more, or it is for
the completion of a child. -/
lemma SettlementsInv.settle (hinv : SettlementsInv rt) {p : PromiseRef} {s : Settlement}
    (hlt : p.seq < rt.nextSeqs p.type.counter) (hrejections : rt.rejections p = 0)
    (hfree : p.type ≠ .childWorkflowComplete →
      p.seq ∉ rt.completions p.type ∧ rt.settlement p = none)
    (hchild : p.type = .childWorkflowComplete → p.seq ∈ rt.completions p.type →
      ∃ err, rt.settlement ⟨.childWorkflowStart, p.seq⟩ = some (.rejected err)) :
    SettlementsInv (rt.settle p s) := by
  have hsettled : ∀ p', p' ≠ p → (rt.settle p s).settlement p' = rt.settlement p' := by
    intro p' hne
    rw [settlement_settle, if_neg (Ne.symm hne), Option.or_none]
  refine ⟨?_, ?_, ?_, ?_, ?_, ?_, ?_, ?_, ?_, hinv.chained_of_respects (respects_chained.settle _ _ _), ?_⟩
  · exact (Frame.settle (w := .nothing) id).wellFormed hinv.wellFormed
  · rw [completions_settle, nextSeqs_settle]
    exact hinv.completion_lt
  · intro p' hp' h
    rw [nextSeqs_settle]
    by_cases heq : p' = p
    · subst heq
      exact hlt
    · rw [hsettled p' heq] at h
      exact hinv.settled_lt p' hp' h
  · simp only [rejections_settle, nextSeqs_settle]
    exact hinv.rejection_lt
  · simp only [rejections_settle]
    exact hinv.rejections_le
  · simp only [rejections_settle]
    exact hinv.rejection_type
  · intro p' hp' h
    rw [rejections_settle] at h
    have hne : p' ≠ p := by
      rintro rfl
      exact h hrejections
    rw [completions_settle, hsettled p' hne]
    exact hinv.rejection_free p' hp' h
  · intro p' hp' hc' h
    rw [completions_settle] at h
    have hne : p' ≠ p := by
      rintro rfl
      exact (hfree hc').1 h
    rw [hsettled p' hne]
    exact hinv.unsettled p' hp' hc' h
  · intro p' s' hp' hc' h
    rw [trace_settle] at h
    rcases List.mem_append.mp h with h | h
    · have hold := hinv.once p' s' hp' hc' h
      have hne : p' ≠ p := by
        rintro rfl
        simp [(hfree hc').2] at hold
      rw [hsettled p' hne, hold]
    · simp only [List.mem_singleton, Event.settled.injEq] at h
      obtain ⟨rfl, rfl⟩ := h
      rw [settlement_settle, (hfree hc').2, if_pos rfl, Option.none_or]
  · intro q hq h
    rw [completions_settle] at hq
    obtain ⟨err, herr⟩ : ∃ err, rt.settlement ⟨.childWorkflowStart, q⟩ = some (.rejected err) := by
      by_cases heq : (⟨.childWorkflowComplete, q⟩ : PromiseRef) = p
      · subst heq
        exact hchild rfl hq
      · rw [hsettled _ heq] at h
        exact hinv.complete q hq h
    exact ⟨err, respects_settlement.settle rt p s _ _ herr⟩

lemma SettlementsInv.onCancelRequested (hinv : SettlementsInv rt) {scope : ScopeId} {r : Reaction}
    (hr : ¬watchSettlements.reactions r) (hchild : ∀ seq err, r ≠ .rejectChild seq err) :
    SettlementsInv (rt.onCancelRequested scope r) :=
  hinv.frame (Frame.onCancelRequested hr)
    (hinv.chained_of_respects (respects_chained.onCancelRequested rt scope r hchild))

lemma rejections_register (hwf : rt.WellFormed) {scope : ScopeId} (hs : scope < rt.scopes.length)
    (p p' : PromiseRef) :
    (rt.onCancelRequested scope (.reject scope p)).rejections p' =
      rt.rejections p' + if p = p' then 1 else 0 := by
  have hp : scope < rt.loop.promises.length := hwf ▸ hs
  simp only [rejections, Runtime.onCancelRequested, EventLoop.pending_register _ hp, Multiset.countP_cons,
    Reaction.isRejectionOf_reject, decide_eq_true_eq]

/-- The operation is called in a cancelled scope, whose rejection will reject its promise. -/
lemma SettlementsInv.registerRejection (hinv : SettlementsInv rt) {type : CompletionType} {q : Seq}
    (hcomplete : type ≠ .childWorkflowComplete) (hf : FreshPromise type.counter q rt) {scope : ScopeId}
    (hs : scope < rt.scopes.length) :
    SettlementsInv (rt.onCancelRequested scope (.reject scope ⟨type, q⟩)) := by
  have hrej := rejections_register hinv.wellFormed hs ⟨type, q⟩
  have hne : ∀ p, p ≠ ⟨type, q⟩ →
      (rt.onCancelRequested scope (.reject scope ⟨type, q⟩)).rejections p = rt.rejections p := by
    intro p hp
    rw [hrej, if_neg (Ne.symm hp), Nat.add_zero]
  refine ⟨?_, hinv.completion_lt, hinv.settled_lt, ?_, ?_, ?_, ?_, hinv.unsettled, hinv.once,
    hinv.chained_of_respects (respects_chained.onCancelRequested _ _ _ (by simp)), hinv.complete⟩
  · simpa [WellFormed, Runtime.onCancelRequested] using hinv.wellFormed
  · intro p hp h
    by_cases heq : p = ⟨type, q⟩
    · subst heq
      exact hf.lt
    · rw [hne p heq] at h
      exact hinv.rejection_lt p hp h
  · intro p hp
    by_cases heq : p = ⟨type, q⟩
    · subst heq
      rw [hrej, hf.rejections type rfl, if_pos rfl]
    · rw [hne p heq]
      exact hinv.rejections_le p hp
  · intro p h
    by_cases heq : p = ⟨type, q⟩
    · subst heq
      exact hcomplete
    · rw [hne p heq] at h
      exact hinv.rejection_type p h
  · intro p hp h
    by_cases heq : p = ⟨type, q⟩
    · subst heq
      exact ⟨hf.completions type rfl, hf.settlement type rfl⟩
    · rw [hne p heq] at h
      exact hinv.rejection_free p hp h

lemma SettlementsInv.settleFresh (hinv : SettlementsInv rt) {type : CompletionType} {q : Seq} {s : Settlement}
    (hf : FreshPromise type.counter q rt) (hcomplete : type ≠ .childWorkflowComplete) :
    SettlementsInv (rt.settle ⟨type, q⟩ s) :=
  hinv.settle hf.lt (hf.rejections type rfl) (fun _ => ⟨hf.completions type rfl, hf.settlement type rfl⟩)
    fun h => absurd h hcomplete

lemma SettlementsInv.executor (hinv : SettlementsInv rt) {kind : OpKind} {type : CompletionType} {q : Seq}
    (htimer : type ≠ .timer) (hcomplete : type ≠ .childWorkflowComplete)
    (hf : FreshPromise type.counter q rt) {scope : ScopeId} (hs : scope < rt.scopes.length)
    {command : Except JsError Command} :
    SettlementsInv (rt.executor scope ⟨type, q⟩ (.cancel kind q) command) := by
  unfold Runtime.executor
  split
  · exact hinv.registerRejection hcomplete hf hs
  · have hcancel : ¬watchSettlements.reactions (.cancel kind q) := by
      simp [watchSettlements, Reaction.isRejectionOf]
    have hregister : SettlementsInv
          (if (rt.scope scope).cancellable then rt.onCancelRequested scope (.cancel kind q) else rt) ∧
        Frame watchSettlements rt
          (if (rt.scope scope).cancellable then rt.onCancelRequested scope (.cancel kind q) else rt) := by
      split
      · exact ⟨hinv.onCancelRequested hcancel (by simp), Frame.onCancelRequested hcancel⟩
      · exact ⟨hinv, Frame.refl _ rt⟩
    dsimp only
    generalize (if (rt.scope scope).cancellable then rt.onCancelRequested scope (.cancel kind q) else rt) = rt₁
      at hregister
    obtain ⟨hinv₁, hframe⟩ := hregister
    cases command with
    | error err => exact hinv₁.settleFresh (hf.frame htimer hframe) hcomplete
    | ok cmd =>
      have hpush : Frame watchSettlements rt₁ (rt₁.pushCommand cmd false) :=
        Frame.pushCommand (by simp [watchSettlements])
      have hf₂ := hf.frame htimer (hframe.trans hpush)
      exact (hinv₁.frame hpush (hinv₁.chained_of_respects (respects_chained.pushCommand _ _ _))).setCompletion
        hf₂.lt (hf₂.rejections type rfl) (hf₂.settlement type rfl)

/-- A number that has just been taken, and the executor that uses it. -/
lemma SettlementsInv.operation (hinv : SettlementsInv rt) (kind : OpKind) (type : CompletionType)
    (htimer : type ≠ .timer) (hcomplete : type ≠ .childWorkflowComplete) {scope : ScopeId}
    (hs : scope < rt.scopes.length) {command : Except JsError Command} :
    SettlementsInv ((rt.nextSeq type.counter).executor scope ⟨type, rt.nextSeqs type.counter⟩
      (.cancel kind (rt.nextSeqs type.counter)) command) :=
  (hinv.nextSeq _).executor htimer hcomplete (hinv.fresh_nextSeq (counter_ne_timer htimer)) hs

/-- The promise of a new operation is rejected before its executor runs. -/
lemma SettlementsInv.settleNext (hinv : SettlementsInv rt) (type : CompletionType) {s : Settlement}
    (htimer : type ≠ .timer) (hcomplete : type ≠ .childWorkflowComplete) :
    SettlementsInv ((rt.nextSeq type.counter).settle ⟨type, rt.nextSeqs type.counter⟩ s) :=
  (hinv.nextSeq _).settleFresh (hinv.fresh_nextSeq (counter_ne_timer htimer)) hcomplete

lemma SettlementsInv.emit (hinv : SettlementsInv rt) {e : Event} (he : ∀ p s, e ≠ .settled p s) :
    SettlementsInv (rt.emit e) := by
  refine hinv.frame (Frame.emit ?_) (hinv.chained_of_respects (respects_chained.emit rt e he))
  rintro ⟨p, s, -, heq⟩
  exact he p s heq

lemma SettlementsInv.scheduleActivity (hinv : SettlementsInv rt) {scope : ScopeId}
    (hs : scope < rt.scopes.length) {activityType : String} {args : List V}
    {options : Option ActivityOptions} :
    SettlementsInv (rt.scheduleActivity env scope activityType args options) := by
  cases options with
  | none => exact hinv.emit (by simp)
  | some options =>
    simp only [Runtime.scheduleActivity, scheduleActivityNextHandler]
    split
    · exact (hinv.nextSeq _).emit (by simp)
    · exact hinv.operation _ .activity (by simp) (by simp) hs

lemma SettlementsInv.scheduleLocalActivity (hinv : SettlementsInv rt) {scope : ScopeId}
    (hs : scope < rt.scopes.length) {activityType : String} {args : List V}
    {options : Option LocalActivityOptions} {attempt : ℕ} {originalScheduleTime : Option Timestamp} :
    SettlementsInv
      (rt.scheduleLocalActivity env scope activityType args options attempt originalScheduleTime) := by
  cases options with
  | none => exact hinv.emit (by simp)
  | some options =>
    simp only [Runtime.scheduleLocalActivity, scheduleLocalActivityNextHandler]
    split
    · exact hinv.settleNext .activity (by simp) (by simp)
    · split
      · exact hinv.settleNext .activity (by simp) (by simp)
      · exact hinv.operation _ .activity (by simp) (by simp) hs

lemma SettlementsInv.signal (hinv : SettlementsInv rt) {scope : ScopeId}
    (hs : scope < rt.scopes.length) {target : SignalTarget} {signalName : String} {args : List V} :
    SettlementsInv (rt.signal env scope target signalName args) :=
  hinv.operation _ .signalWorkflow (by simp) (by simp) hs

/-- What storing the completion of a child must not find changed. -/
def watchChildPromise : Watch where
  scopes := False
  types type := type = .childWorkflowComplete
  reactions _ := False
  events e := ∃ (p : PromiseRef) (s : Settlement), p.type = .childWorkflowComplete ∧ e = .settled p s
  propagate := Watch.nothing.propagate
  not_rejectChild _ _ := id
  not_thrown _ := by simp
  not_foreign _ _ := by simp

lemma SettlementsInv.startChild (hinv : SettlementsInv rt) {scope : ScopeId}
    (hs : scope < rt.scopes.length) {workflowType : String} {options : ChildWorkflowOptions V}
    {uuid : String} : SettlementsInv (rt.startChild env scope workflowType options uuid) := by
  have hf := hinv.fresh_nextSeq (c := .childWorkflow) (by simp)
  have hframe : Frame watchChildPromise (rt.nextSeq .childWorkflow)
      ((rt.nextSeq .childWorkflow).executor scope ⟨.childWorkflowStart, rt.nextSeqs .childWorkflow⟩
        (.cancel .childWorkflow (rt.nextSeqs .childWorkflow))
        (env.startChildWorkflowExecutionCommand (rt.nextSeqs .childWorkflow) workflowType
          (options.workflowId.getD uuid) options)) := by
    refine Frame.executor (by simp [watchChildPromise]) id id (fun s => ?_) fun _ _ => ?_
    · simp [watchChildPromise]
    · simp [watchChildPromise]
  have hstart : SettlementsInv
      ((rt.nextSeq .childWorkflow).executor scope ⟨.childWorkflowStart, rt.nextSeqs .childWorkflow⟩
        (.cancel .childWorkflow (rt.nextSeqs .childWorkflow))
        (env.startChildWorkflowExecutionCommand (rt.nextSeqs .childWorkflow) workflowType
          (options.workflowId.getD uuid) options)) :=
    hinv.operation .childWorkflow .childWorkflowStart (by simp) (by simp) hs
  refine SettlementsInv.setCompletion hstart ?_ ?_ ?_
  · exact (hframe.nextSeqs .childWorkflowComplete rfl).symm ▸ hf.lt
  · by_contra h
    exact hstart.rejection_type _ h rfl
  · rw [← hf.settlement .childWorkflowComplete rfl]
    exact hframe.settlement fun s => ⟨_, s, rfl, rfl⟩

/-! ### Jobs and microtasks -/

lemma SettlementsInv.deleteCompletion (hinv : SettlementsInv rt) (type : CompletionType) (q : Seq) :
    SettlementsInv (rt.deleteCompletion type q) := by
  have hmem : ∀ type' q', q' ∈ (rt.deleteCompletion type q).completions type' →
      q' ∈ rt.completions type' := by
    intro type' q' h
    by_cases ht : type' = type
    · subst ht
      simp only [Runtime.deleteCompletion, Function.update_self, AList.mem_erase] at h
      exact h.2
    · simpa only [Runtime.deleteCompletion, Function.update_of_ne ht] using h
  refine ⟨hinv.wellFormed, fun type' ht q' h => hinv.completion_lt type' ht q' (hmem _ _ h),
    hinv.settled_lt, hinv.rejection_lt, hinv.rejections_le, hinv.rejection_type,
    fun p hp h => ⟨fun hq => (hinv.rejection_free p hp h).1 (hmem _ _ hq), (hinv.rejection_free p hp h).2⟩,
    fun p hp hc h => hinv.unsettled p hp hc (hmem _ _ h), hinv.once, hinv.chained,
    fun q' h => hinv.complete q' (hmem _ _ h)⟩

/-- A promise for the completion of a child is settled by its job, or because the start of the
child has failed. -/
lemma SettlementsInv.settleComplete (hinv : SettlementsInv rt) {q : Seq} {s : Settlement}
    (hlt : q < rt.nextSeqs .childWorkflow)
    (hq : q ∈ rt.completions .childWorkflowComplete →
      ∃ err, rt.settlement ⟨.childWorkflowStart, q⟩ = some (.rejected err)) :
    SettlementsInv (rt.settle ⟨.childWorkflowComplete, q⟩ s) := by
  refine hinv.settle hlt ?_ (fun hne => absurd rfl hne) fun _ => hq
  by_contra h
  exact hinv.rejection_type _ h rfl

lemma SettlementsInv.consumeCompletion (hinv : SettlementsInv rt) {type : CompletionType}
    (ht : type ≠ .timer) {seq : Option Seq} {resolution : Resolution}
    {settlement : Seq → Except JsError (Option Settlement)} :
    SettlementsInv (rt.consumeCompletion type seq resolution settlement) := by
  cases seq with
  | none => exact hinv.emit (by simp)
  | some q =>
    simp only [Runtime.consumeCompletion, maybeConsumeCompletion, getSeq]
    cases hl : (rt.completions type).lookup q with
    | none => exact hinv.emit (by simp)
    | some c =>
      have hq : q ∈ rt.completions type := AList.lookup_isSome.mp (by simp [hl])
      have hconsumed : SettlementsInv ((rt.deleteCompletion type q).emit (.resolved type q resolution)) :=
        (hinv.deleteCompletion type q).emit (by simp)
      have hgone : q ∉ ((rt.deleteCompletion type q).emit (.resolved type q resolution)).completions type := by
        simp [Runtime.emit, Runtime.deleteCompletion]
      have hsame : ∀ p, ((rt.deleteCompletion type q).emit (.resolved type q resolution)).settlement p =
          rt.settlement p := settlement_emit (by simp)
      dsimp only
      cases settlement q with
      | error err => exact hconsumed.emit (by simp)
      | ok s =>
        cases s with
        | none => exact hconsumed
        | some s =>
          by_cases hc : type = .childWorkflowComplete
          · subst hc
            exact hconsumed.settleComplete (hinv.completion_lt _ ht q hq) fun h => absurd h hgone
          · refine hconsumed.settle (hinv.completion_lt type ht q hq) ?_ (fun _ => ⟨hgone, ?_⟩)
              fun h => absurd h hc
            · by_contra h
              exact (hinv.rejection_free ⟨type, q⟩ ht h).1 hq
            · rw [hsame]
              exact hinv.unsettled ⟨type, q⟩ ht hc hq

lemma SettlementsInv.runJob (hinv : SettlementsInv rt) {job : Job} : SettlementsInv (rt.runJob env job) := by
  have hframe : watchSettlements.Ignores job.concern → SettlementsInv (rt.runJob env job) := fun h =>
    hinv.frame (Frame.runJob h) (hinv.chained_of_respects respects_chained.runJob)
  cases job with
  | fireTimer seq => exact hframe watchSettlements_ignoresTimers
  | resolveActivity seq result =>
    cases result with
    | none => exact hinv.emit (by simp)
    | some result => exact hinv.consumeCompletion (by simp)
  | resolveChildWorkflowExecutionStart seq status => exact hinv.consumeCompletion (by simp)
  | resolveChildWorkflowExecution seq result =>
    cases result with
    | none => exact hinv.emit (by simp)
    | some result => exact hinv.consumeCompletion (by simp)
  | resolveSignalExternalWorkflow seq failure => exact hinv.consumeCompletion (by simp)
  | cancelWorkflow => exact hframe watchSettlements_ignoresScopes

lemma rejections_next {r : Reaction} {loop : EventLoop Reaction} (hn : rt.loop.next = some (r, loop))
    (p : PromiseRef) :
    rt.rejections p =
      ({ rt with loop := loop } : Runtime).rejections p + if r.isRejectionOf p = true then 1 else 0 := by
  rw [rejections, EventLoop.pending_next _ hn, Multiset.countP_cons]
  rfl

lemma SettlementsInv.next (hinv : SettlementsInv rt) {r : Reaction} {loop : EventLoop Reaction}
    (hn : rt.loop.next = some (r, loop)) : SettlementsInv { rt with loop := loop } := by
  have hle : ∀ p, ({ rt with loop := loop } : Runtime).rejections p ≤ rt.rejections p := by
    intro p
    rw [rejections_next hn p]
    exact Nat.le_add_right _ _
  have hpos : ∀ p, ({ rt with loop := loop } : Runtime).rejections p ≠ 0 → rt.rejections p ≠ 0 := by
    intro p h
    have hp := hle p
    omega
  refine ⟨?_, hinv.completion_lt, hinv.settled_lt, fun p hp h => hinv.rejection_lt p hp (hpos p h),
    fun p hp => (hle p).trans (hinv.rejections_le p hp), fun p h => hinv.rejection_type p (hpos p h),
    fun p hp h => hinv.rejection_free p hp (hpos p h), hinv.unsettled, hinv.once,
    hinv.chained_of_respects (respects_chained.next rt r loop hn), hinv.complete⟩
  obtain ⟨-, hps⟩ := EventLoop.next_eq_some _ hn
  simpa [WellFormed, hps] using hinv.wellFormed

lemma SettlementsInv.microtask (hinv : SettlementsInv rt) (hstep : rt.microtask = some rt') :
    SettlementsInv rt' := by
  unfold Runtime.microtask at hstep
  cases hn : rt.loop.next with
  | none => simp [hn] at hstep
  | some rl =>
    obtain ⟨r, loop⟩ := rl
    simp only [hn, Option.some.injEq] at hstep
    subst hstep
    have hnext := hinv.next hn
    have hframe : watchSettlements.Ignores r.concern →
        SettlementsInv (({ rt with loop := loop } : Runtime).react r) := fun h =>
      hinv.frame (Frame.react hn h) (hinv.chained_of_respects
        (respects_chained.trans (respects_chained.next rt r loop hn) (respects_chained.react r)))
    cases r with
    | propagate parent child => exact hframe watchSettlements_ignoresScopes
    | reject scope p =>
      by_cases hp : p.type = .timer
      · refine hframe ?_
        rw [Reaction.concern, if_pos hp]
        exact watchSettlements_ignoresTimers
      · have hone := rejections_next hn p
        rw [Reaction.isRejectionOf_reject, decide_eq_true rfl, if_pos rfl] at hone
        have hle := hinv.rejections_le p hp
        have hpos : rt.rejections p ≠ 0 := by omega
        obtain ⟨hcompletions, hsettlement⟩ := hinv.rejection_free p hp hpos
        exact hnext.settle (hinv.rejection_lt p hp hpos) (by omega) (fun _ => ⟨hcompletions, hsettlement⟩)
          fun h => absurd h (hinv.rejection_type p hpos)
    | cancel kind q =>
      simp only [react, cancelOperation]
      split
      · exact hnext.frame (Frame.pushCommand (by simp [watchSettlements]))
          (hnext.chained_of_respects (respects_chained.pushCommand _ _ _))
      · exact hnext
    | cancelTimer scope q => exact hframe watchSettlements_ignoresTimers
    | rejectChild q err =>
      have hstart : rt.settlement ⟨.childWorkflowStart, q⟩ = some (.rejected err) := by
        refine hinv.once _ _ (by simp) (by simp) (hinv.chained q err ?_)
        rw [EventLoop.pending_next _ hn]
        exact Multiset.mem_cons_self _ _
      refine hnext.settleComplete ?_ fun _ => ⟨err, hstart⟩
      exact hinv.settled_lt ⟨.childWorkflowStart, q⟩ (by simp) (by simp [hstart])
    | timeoutCallback q => exact hframe watchSettlements_ignoresTimers

theorem SettlementsInv.step {input : Input V} (hinv : SettlementsInv rt)
    (hstep : rt.step env input = some rt') : SettlementsInv rt' := by
  have hframe : watchSettlements.Ignores (rt.concern input) → SettlementsInv rt' :=
    fun h => hinv.of_step hstep h
  cases input with
  | scheduleActivity scope activityType args options =>
    obtain ⟨hs, rfl⟩ := eq_of_inScope hstep
    exact hinv.scheduleActivity hs
  | scheduleLocalActivity scope activityType args options attempt originalScheduleTime =>
    obtain ⟨hs, rfl⟩ := eq_of_inScope hstep
    exact hinv.scheduleLocalActivity hs
  | startChild scope workflowType options uuid =>
    obtain ⟨hs, rfl⟩ := eq_of_inScope hstep
    exact hinv.startChild hs
  | signal scope target signalName args =>
    obtain ⟨hs, rfl⟩ := eq_of_inScope hstep
    exact hinv.signal hs
  | job job =>
    cases hstep
    exact hinv.runJob
  | microtask => exact hinv.microtask hstep
  | newScope cancellable parent => exact hframe watchSettlements_ignoresScopes
  | cancel scope => exact hframe watchSettlements_ignoresScopes
  | push cmd complete => exact hframe trivial
  | activate isReplaying => exact hframe trivial
  | sleep scope ms => exact hframe watchSettlements_ignoresTimers
  | setTimeout ms => exact hframe watchSettlements_ignoresTimers
  | clearTimeout handle => exact hframe watchSettlements_ignoresTimers

end Runtime

end TemporalSdk
