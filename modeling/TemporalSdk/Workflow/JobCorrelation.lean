import TemporalSdk.Workflow.CompletionMaps

/-!
# Jobs and operations are matched one to one

Every type of promise has a table of numbered requests behind it: the calls take its numbers
and the jobs answer them. The maps of completions refine these tables, whatever the order of
calls, jobs and microtasks.
-/

namespace TemporalSdk

variable {V : Type} {env : Env V}

namespace Correlation

/-! ### The tables -/

/-- The number that the next call of this kind takes. -/
def nextSeq (s : Correlation) (kind : OperationKind) : Seq :=
  match kind.counter with
  | some c => s.runtime.nextSeqs c
  | none => s.nextCancelSeq

/-- The numbers taken by calls with promises of this type. -/
def issued (s : Correlation) (type : ResolveType) : List (Request Seq ℕ) :=
  s.calls.zipIdx.filterMap fun c =>
    if c.1.kind = type.kind then c.1.seq.map fun q => ⟨q, c.2, type ∈ c.1.stored⟩ else none

/-- The numbers under which jobs have found functions, and the calls that these belong to. -/
def answered (s : Correlation) (type : ResolveType) : List (Seq × ℕ) :=
  s.jobs.filterMap fun job => if job.type = type then job.call.map (Prod.mk job.seq) else none

/-- The map of completions of this type is the table's. -/
structure Refines (s : Correlation) (type : ResolveType) (t : RequestTable Seq ℕ) : Prop where
  next : t.next = s.nextSeq type.kind
  issued : t.issued = s.issued type
  pending : ∀ q, t.pending q = (s.resolvers type).lookup q
  answered : t.answered = s.answered type

variable {s s' : Correlation} {type : ResolveType} {t : RequestTable Seq ℕ} {n : ℕ} {q : Seq}

lemma mem_issued_iff {stored : Bool} : ⟨q, n, stored⟩ ∈ s.issued type ↔
    ∃ call, s.calls[n]? = some call ∧ call.kind = type.kind ∧ call.seq = some q ∧
      decide (type ∈ call.stored) = stored := by
  rw [issued, List.mem_filterMap]
  constructor
  · rintro ⟨⟨call, m⟩, hmem, h⟩
    rw [List.mem_zipIdx_iff_getElem?] at hmem
    dsimp only at h hmem
    split at h
    · rename_i hkind
      obtain ⟨q', hq', heq⟩ := Option.map_eq_some_iff.mp h
      cases heq
      exact ⟨call, hmem, hkind, hq', rfl⟩
    · cases h
  · rintro ⟨call, hcall, hkind, hseq, rfl⟩
    refine ⟨(call, n), List.mem_zipIdx_iff_getElem?.mpr hcall, ?_⟩
    simp [hkind, hseq]

lemma storedBy_iff : s.StoredBy type n q ↔ ⟨q, n, true⟩ ∈ s.issued type := by
  simp only [StoredBy, mem_issued_iff, decide_eq_true_eq]

lemma scheduledWith_iff : s.ScheduledWith type n q ↔ ∃ stored, ⟨q, n, stored⟩ ∈ s.issued type := by
  simp only [ScheduledWith, mem_issued_iff]
  constructor
  · rintro ⟨call, hcall, hkind, hseq⟩
    exact ⟨_, call, hcall, hkind, hseq, rfl⟩
  · rintro ⟨-, call, hcall, hkind, hseq, -⟩
    exact ⟨call, hcall, hkind, hseq⟩

lemma resolvedAlready_iff : s.ResolvedAlready type q ↔ q ∈ (s.answered type).map Prod.fst := by
  simp only [ResolvedAlready, answered, List.mem_map, List.mem_filterMap]
  constructor
  · rintro ⟨job, hjob, htype, hseq, hcall⟩
    obtain ⟨n, hn⟩ := Option.isSome_iff_exists.mp hcall
    exact ⟨(q, n), ⟨job, hjob, by simp [htype, hn, hseq]⟩, rfl⟩
  · rintro ⟨a, ⟨job, hjob, h⟩, rfl⟩
    split at h
    · rename_i htype
      obtain ⟨n, hn, rfl⟩ := Option.map_eq_some_iff.mp h
      exact ⟨job, hjob, htype, rfl, by simp [hn]⟩
    · cases h

lemma resolvedCalls_eq : s.resolvedCalls type = (s.answered type).map Prod.snd := by
  rw [resolvedCalls, answered, List.map_filterMap]
  congr 1
  funext job
  split
  · cases job.call <;> rfl
  · rfl

lemma map_number_issued : (s.issued type).map Request.number = s.seqsOf type.kind := by
  have hfst : s.calls.zipIdx.map Prod.fst = s.calls := List.zipIdx_map_fst 0 s.calls
  rw [issued, List.map_filterMap, seqsOf]
  conv_rhs => rw [← hfst, List.filterMap_map]
  congr 1
  funext c
  simp only [Function.comp_apply]
  split
  · cases c.1.seq <;> rfl
  · rfl

lemma lt_length_of_issued {r : Request Seq ℕ} (h : r ∈ s.issued type) : r.issuer < s.calls.length := by
  obtain ⟨q, n, stored⟩ := r
  obtain ⟨call, hcall, -⟩ := mem_issued_iff.mp h
  exact (List.getElem?_eq_some_iff.mp hcall).1

/-! ### What the changes of the history do to the tables -/

lemma issued_of_calls_eq (h : s'.calls = s.calls) : s'.issued type = s.issued type := by
  rw [issued, issued, h]

lemma answered_of_jobs_eq (h : s'.jobs = s.jobs) : s'.answered type = s.answered type := by
  rw [answered, answered, h]

lemma answered_consume {type' : ResolveType} (h : s'.jobs = (s.consume type q).jobs) :
    s'.answered type' = s.answered type' ++
      (if type = type' then ((s.resolvers type).lookup q).map (Prod.mk q) else none).toList := by
  rw [answered, h, Correlation.consume, List.filterMap_append, ← answered]
  congr 1

lemma issued_concat {call : OperationCall} (h : s'.calls = s.calls ++ [call]) :
    s'.issued type = s.issued type ++ (if call.kind = type.kind then
      call.seq.map fun q => (⟨q, s.calls.length, type ∈ call.stored⟩ : Request Seq ℕ) else none).toList := by
  rw [issued, h, List.zipIdx_append, List.filterMap_append, ← issued]
  congr 1
  simp only [List.zipIdx_singleton, Nat.zero_add, List.filterMap_cons, List.filterMap_nil]
  split <;> rename_i heq <;> simp [heq]

/-- The history is as before. -/
lemma Refines.kept (hr : s.Refines type t) (hnext : s'.nextSeq type.kind = s.nextSeq type.kind)
    (hcalls : s'.calls = s.calls) (hresolvers : s'.resolvers = s.resolvers) (hjobs : s'.jobs = s.jobs) :
    s'.Refines type t where
  next := hr.next.trans hnext.symm
  issued := hr.issued.trans (issued_of_calls_eq hcalls).symm
  pending q := by rw [hr.pending, hresolvers]
  answered := hr.answered.trans (answered_of_jobs_eq hjobs).symm

/-- A call takes the next number of its kind. -/
lemma Refines.recordCall (hr : s.Refines type t) (call : OperationCall)
    (hnumber : call.kind = type.kind → call.seq = some (s.nextSeq type.kind))
    (hstored : ∀ type ∈ call.stored, type.kind = call.kind)
    (hnext : s'.nextSeq type.kind =
      if call.kind = type.kind then s.nextSeq type.kind + 1 else s.nextSeq type.kind)
    (hcalls : s'.calls = s.calls ++ [call]) (hresolvers : s'.resolvers = (s.recordCall call).resolvers)
    (hjobs : s'.jobs = s.jobs) : ∃ t', s'.Refines type t' := by
  by_cases hkind : call.kind = type.kind
  · have hi : s.calls.length ∉ t.issued.map Request.issuer := by
      intro h
      obtain ⟨r, hr', hn⟩ := List.mem_map.mp h
      have hlt := lt_length_of_issued (hr.issued ▸ hr')
      omega
    refine ⟨t.issue s.calls.length (decide (type ∈ call.stored)) (t.next + 1) hi (Int.lt_succ _), ?_, ?_, ?_, ?_⟩
    · rw [hnext, if_pos hkind, ← hr.next]
      rfl
    · rw [issued_concat hcalls, if_pos hkind, hnumber hkind, ← hr.issued, ← hr.next]
      rfl
    · intro q
      rw [hresolvers]
      simp only [RequestTable.issue, Correlation.recordCall, hnumber hkind, decide_eq_true_eq, hr.next]
      by_cases hmem : type ∈ call.stored
      · simp only [hmem, true_and, if_true, OrderedMap.lookup_set, hr.pending]
      · simp only [hmem, false_and, if_false, hr.pending]
    · rw [answered_of_jobs_eq hjobs, ← hr.answered]
      rfl
  · have hmem : type ∉ call.stored := fun h => hkind (hstored type h).symm
    refine ⟨t, ?_, ?_, ?_, ?_⟩
    · rw [hnext, if_neg hkind, hr.next]
    · rw [issued_concat hcalls, if_neg hkind, hr.issued]
      simp
    · intro q
      rw [hresolvers, hr.pending]
      simp only [Correlation.recordCall, hmem, if_false]
      split <;> rfl
    · rw [answered_of_jobs_eq hjobs, hr.answered]

/-- A call that takes no number. -/
lemma Refines.recordCall_of_seq_eq_none (hr : s.Refines type t) {call : OperationCall}
    (hseq : call.seq = none) (hnext : s'.nextSeq type.kind = s.nextSeq type.kind)
    (hcalls : s'.calls = s.calls ++ [call]) (hresolvers : s'.resolvers = (s.recordCall call).resolvers)
    (hjobs : s'.jobs = s.jobs) : s'.Refines type t where
  next := hr.next.trans hnext.symm
  issued := by
    rw [issued_concat hcalls, hr.issued, hseq]
    simp
  pending q := by rw [hresolvers, hr.pending, Correlation.recordCall, hseq]
  answered := hr.answered.trans (answered_of_jobs_eq hjobs).symm

/-- A job looks under the number `q`. -/
lemma Refines.consume {type' : ResolveType} (hr : s.Refines type' t) (type : ResolveType) (q : Seq)
    (hnext : s'.nextSeq type'.kind = s.nextSeq type'.kind) (hcalls : s'.calls = s.calls)
    (hresolvers : s'.resolvers = (s.consume type q).resolvers) (hjobs : s'.jobs = (s.consume type q).jobs) :
    ∃ t', s'.Refines type' t' := by
  have hissued : s'.issued type' = s.issued type' := issued_of_calls_eq hcalls
  by_cases htype : type = type'
  · subst htype
    refine ⟨t.answer q, hr.next.trans hnext.symm, hr.issued.trans hissued.symm, fun q' => ?_, ?_⟩
    · rw [hresolvers]
      simp only [RequestTable.answer, Correlation.consume, Function.update_self, hr.pending]
      by_cases hq : q' = q
      · subst hq
        simp
      · rw [if_neg hq, AList.lookup_erase_ne hq]
    · rw [answered_consume hjobs, if_pos rfl, ← hr.answered, ← hr.pending]
      rfl
  · refine ⟨t, hr.next.trans hnext.symm, hr.issued.trans hissued.symm, fun q' => ?_, ?_⟩
    · rw [hresolvers, hr.pending]
      simp only [Correlation.consume, Function.update_of_ne (Ne.symm htype)]
    · rw [answered_consume hjobs, if_neg htype, hr.answered]
      simp

end Correlation

/-! ### Steps that only log commands and errors -/

namespace Runtime

/-- Promises, scopes and maps of completions are as before. -/
structure Quiet (rt rt' : Runtime) : Prop where
  inv : SettlementsInv rt → SettlementsInv rt'
  completions : rt'.completions = rt.completions
  nextSeqs : rt'.nextSeqs = rt.nextSeqs
  loop : rt'.loop = rt.loop
  settlement : ∀ p, rt'.settlement p = rt.settlement p

variable {rt rt' rt'' : Runtime}

lemma Quiet.refl (rt : Runtime) : Quiet rt rt := ⟨id, rfl, rfl, rfl, fun _ => rfl⟩

lemma Quiet.trans (h₁ : Quiet rt rt') (h₂ : Quiet rt' rt'') : Quiet rt rt'' where
  inv h := h₂.inv (h₁.inv h)
  completions := h₂.completions.trans h₁.completions
  nextSeqs := h₂.nextSeqs.trans h₁.nextSeqs
  loop := h₂.loop.trans h₁.loop
  settlement p := (h₂.settlement p).trans (h₁.settlement p)

lemma Quiet.pushCommand (cmd : Command) (complete : Bool) : Quiet rt (rt.pushCommand cmd complete) where
  inv h := h.frame (Frame.pushCommand (by simp [watchSettlements]))
    (h.chained_of_respects (respects_chained.pushCommand rt cmd complete))
  completions := rfl
  nextSeqs := rfl
  loop := rfl
  settlement := settlement_pushCommand cmd complete

lemma Quiet.thrown (err : JsError) : Quiet rt (rt.emit (.thrown err)) where
  inv h := h.emit (by simp)
  completions := rfl
  nextSeqs := rfl
  loop := rfl
  settlement := settlement_emit (by simp)

end Runtime

namespace Correlation

open TemporalSdk.Runtime

variable {s s' : Correlation} {type : ResolveType} {n : ℕ} {q : Seq}

lemma patched_eq (s : Correlation) (patchId : String) : ∃ rt sentPatches, Quiet s.runtime rt ∧
    (s.patched patchId).2 = { s with runtime := rt, sentPatches := sentPatches } := by
  unfold patched
  split
  · exact ⟨s.runtime, s.sentPatches, Quiet.refl _, rfl⟩
  · dsimp only
    split
    · exact ⟨_, _, Quiet.pushCommand _ _, rfl⟩
    · exact ⟨s.runtime, s.sentPatches, Quiet.refl _, rfl⟩

/-! ### The invariant -/

/-- The call whose promise is settled has taken no number, or a job has settled its promise, or the
cancellation of its scope. -/
def CancelSettled (s : Correlation) (n : ℕ) (settlement : Settlement) : Prop :=
  ∃ call, s.calls[n]? = some call ∧ call.kind = .cancelWorkflow ∧
    (call.seq = none ∨ n ∈ s.resolvedCalls .cancelWorkflow ∨
      (s.runtime.loop.rejected call.scope = true ∧ ∃ err, settlement = .rejected err))

structure Inv (s : Correlation) : Prop where
  settlements : SettlementsInv s.runtime
  keys : ∀ type completionType, ResolveType.completionType type = some completionType →
    ∀ q, q ∈ s.resolvers type ↔ q ∈ s.runtime.completions completionType
  tables : ∀ type, ∃ t, s.Refines type t
  reactions : ∀ r ∈ s.cancelReactions, ∃ call, s.calls[r.2]? = some call ∧ call.kind = .cancelWorkflow ∧
    call.scope = r.1
  cancelSettled : ∀ n settlement, s.cancelPromise n = some settlement → s.CancelSettled n settlement

lemma Inv.init : Inv Correlation.init where
  settlements := SettlementsInv.init
  keys type completionType _ q :=
    iff_of_false (AList.notMem_empty q) (AList.notMem_empty q)
  tables type := by
    refine ⟨RequestTable.empty 1, ?_, rfl, fun _ => rfl, rfl⟩
    cases type <;> rfl
  reactions _ h := absurd h List.not_mem_nil
  cancelSettled _ _ h := by cases h

/-- Calls keep their places. -/
lemma getElem?_calls_of_append {calls : List OperationCall} {call : OperationCall}
    (hcalls : s'.calls = s.calls ++ calls) (hcall : s.calls[n]? = some call) : s'.calls[n]? = some call := by
  rw [hcalls, List.getElem?_append_left (List.getElem?_eq_some_iff.mp hcall).1]
  exact hcall

lemma CancelSettled.mono {settlement : Settlement} (h : s.CancelSettled n settlement)
    (hcalls : ∃ calls, s'.calls = s.calls ++ calls)
    (hjobs : ∀ n ∈ s.resolvedCalls .cancelWorkflow, n ∈ s'.resolvedCalls .cancelWorkflow)
    (hrejected : ∀ scope, s.runtime.loop.rejected scope = true → s'.runtime.loop.rejected scope = true) :
    s'.CancelSettled n settlement := by
  obtain ⟨call, hcall, hkind, h⟩ := h
  obtain ⟨calls, hcalls⟩ := hcalls
  exact ⟨call, getElem?_calls_of_append hcalls hcall, hkind,
    h.imp_right (Or.imp (hjobs n) (And.imp_left (hrejected _)))⟩

lemma resolvedCalls_consume {type' : ResolveType} (type : ResolveType) (q : Seq)
    (hjobs : s'.jobs = (s.consume type q).jobs) :
    ∀ n ∈ s.resolvedCalls type', n ∈ s'.resolvedCalls type' := by
  intro n hn
  rw [resolvedCalls_eq] at hn ⊢
  rw [answered_consume hjobs, List.map_append]
  exact List.mem_append_left _ hn

lemma resolvedCalls_of_jobs_eq (hjobs : s'.jobs = s.jobs) : s'.resolvedCalls type = s.resolvedCalls type := by
  rw [resolvedCalls, resolvedCalls, hjobs]

lemma mem_resolvers_recordCall {call : OperationCall} :
    q ∈ (s.recordCall call).resolvers type ↔ (call.seq = some q ∧ type ∈ call.stored) ∨ q ∈ s.resolvers type := by
  unfold recordCall
  cases hseq : call.seq with
  | none => simp
  | some q' =>
    dsimp only
    by_cases hmem : type ∈ call.stored
    · simp only [hmem, if_true, OrderedMap.mem_set, Option.some.injEq, and_true, eq_comm]
    · simp [hmem]

lemma mem_resolvers_consume {type' : ResolveType} {q' : Seq} :
    q' ∈ (s.consume type q).resolvers type' ↔ q' ∈ s.resolvers type' ∧ ¬(type' = type ∧ q' = q) := by
  unfold consume
  by_cases htype : type' = type
  · subst htype
    simp [AList.mem_erase, and_comm]
  · simp [htype]

/-- The history and the requests to cancel external workflows are as before. -/
lemma Inv.kept (hinv : s.Inv) (hq : Quiet s.runtime s'.runtime) (hseq : s'.nextCancelSeq = s.nextCancelSeq)
    (hresolvers : s'.resolvers = s.resolvers) (hcalls : s'.calls = s.calls) (hjobs : s'.jobs = s.jobs)
    (hreactions : ∀ r ∈ s'.cancelReactions, r ∈ s.cancelReactions)
    (hpromise : ∀ n settlement, s'.cancelPromise n = some settlement →
      s.cancelPromise n = some settlement ∨ s.CancelSettled n settlement) : s'.Inv where
  settlements := hq.inv hinv.settlements
  keys type completionType htype q := by
    rw [hresolvers, hq.completions]
    exact hinv.keys type completionType htype q
  tables type := by
    obtain ⟨t, ht⟩ := hinv.tables type
    refine ⟨t, ht.kept ?_ hcalls hresolvers hjobs⟩
    rw [nextSeq, nextSeq, hq.nextSeqs, hseq]
  reactions r hr := by
    rw [hcalls]
    exact hinv.reactions r (hreactions r hr)
  cancelSettled n settlement h := by
    refine CancelSettled.mono (s := s) ?_ ⟨[], by simp [hcalls]⟩ ?_ ?_
    · rcases hpromise n settlement h with h | h
      · exact hinv.cancelSettled n settlement h
      · exact h
    · rw [resolvedCalls_of_jobs_eq hjobs]
      exact fun _ => id
    · rw [hq.loop]
      exact fun _ => id

/-! ### Steps of the run -/

/-- A step of the run that schedules nothing and resolves nothing. -/
lemma Inv.runtime_frame (hinv : s.Inv) {rt : Runtime} {input : Input V}
    (hstep : s.runtime.step env input = some rt) (hf : Frame watchMaps s.runtime rt) :
    Inv { s with runtime := rt } where
  settlements := hinv.settlements.step hstep
  keys type completionType htype q := by
    have hne : completionType ≠ .timer := by
      rintro rfl
      cases type <;> cases htype
    rw [hf.completions completionType hne]
    exact hinv.keys type completionType htype q
  tables type := by
    obtain ⟨t, ht⟩ := hinv.tables type
    refine ⟨t, ht.kept ?_ rfl rfl rfl⟩
    cases type with
    | activity => exact hf.nextSeqs .activity (by simp [watchMaps])
    | childWorkflowStart => exact hf.nextSeqs .childWorkflowStart (by simp [watchMaps])
    | childWorkflowComplete => exact hf.nextSeqs .childWorkflowComplete (by simp [watchMaps])
    | signalWorkflow => exact hf.nextSeqs .signalWorkflow (by simp [watchMaps])
    | cancelWorkflow => rfl
  reactions := hinv.reactions
  cancelSettled n settlement h := (hinv.cancelSettled n settlement h).mono ⟨[], by simp⟩
    (fun _ => id) (respects_rejected.step hstep)

/-- A call that schedules an operation. -/
lemma Inv.runtime_call (hinv : s.Inv) {rt : Runtime} {input : Input V} {call : OperationCall}
    (hstep : s.runtime.step env input = some rt)
    (hcall : s.runtime.operationCall env input = some call) :
    Inv { s.recordCall call with runtime := rt } := by
  obtain ⟨⟨c, hc, hseq, hseqs⟩, hstored, hcompletions⟩ := schedules_of_operationCall hcall hstep
  have hnext : ∀ kind, ({ s.recordCall call with runtime := rt } : Correlation).nextSeq kind =
      if call.kind = kind then s.nextSeq kind + 1 else s.nextSeq kind := by
    intro kind
    unfold nextSeq
    cases hkind : kind.counter with
    | none =>
      have hne : call.kind ≠ kind := by
        rintro rfl
        simp [hc] at hkind
      rw [if_neg hne]
      rfl
    | some c' =>
      dsimp only
      rw [hseqs]
      by_cases heq : call.kind = kind
      · subst heq
        obtain rfl : c = c' := Option.some.inj (hc.symm.trans hkind)
        simp [Runtime.nextSeq]
      · have hne : c' ≠ c := by
          rintro rfl
          refine heq ?_
          have hsame := hc.trans hkind.symm
          generalize call.kind = kind' at hsame
          cases kind' <;> cases kind <;> first | rfl | exact absurd hsame (by decide)
        simp [Runtime.nextSeq, heq, hne]
  refine ⟨hinv.settlements.step hstep, ?_, ?_, ?_, ?_⟩
  · intro type completionType htype q
    rw [hcompletions type completionType htype q, ← hinv.keys type completionType htype q]
    exact mem_resolvers_recordCall
  · intro type
    obtain ⟨t, ht⟩ := hinv.tables type
    refine ht.recordCall call (fun hkind => ?_) hstored (hnext type.kind) rfl rfl rfl
    rw [hseq, nextSeq, ← hkind, hc]
  · intro r hr
    obtain ⟨call', hcall', h⟩ := hinv.reactions r hr
    have hcalls : (s.recordCall call).calls = s.calls ++ [call] := rfl
    exact ⟨call', getElem?_calls_of_append hcalls hcall', h⟩
  · exact fun n settlement h => (hinv.cancelSettled n settlement h).mono ⟨[call], rfl⟩ (fun _ => id)
      (respects_rejected.step hstep)

/-- A job that looks for a completion. -/
lemma Inv.runtime_job (hinv : s.Inv) {job : Job} (hjob : job.resolves = some (type, q)) :
    Inv { s.consume type q with runtime := s.runtime.runJob env job } := by
  have hstep : s.runtime.step env (.job job) = some (s.runtime.runJob env job) := rfl
  obtain ⟨completionType, resolution, settlement, htype, -, hrun⟩ := runJob_of_resolves env hjob
  have hmaps : (s.runtime.runJob env job).nextSeqs = s.runtime.nextSeqs ∧
      ∀ type' q', q' ∈ (s.runtime.runJob env job).completions type' ↔
        q' ∈ s.runtime.completions type' ∧ ¬(type' = completionType ∧ q' = q) := by
    rw [hrun]
    by_cases hq : q ∈ s.runtime.completions completionType
    · have hconsumed := consumeCompletion_of_mem resolution settlement hq
      exact ⟨hconsumed.nextSeqs, hconsumed.completions⟩
    · rw [consumeCompletion_of_notMem hq]
      refine ⟨rfl, fun type' q' => ⟨fun h => ⟨h, ?_⟩, And.left⟩⟩
      rintro ⟨rfl, rfl⟩
      exact hq h
  refine ⟨hinv.settlements.step hstep, ?_, ?_, hinv.reactions, ?_⟩
  · intro type' completionType' htype' q'
    have htypes : completionType' = completionType ↔ type' = type := by
      constructor
      · rintro rfl
        exact completionType_injective htype' htype
      · rintro rfl
        exact Option.some.inj (htype'.symm.trans htype)
    rw [hmaps.2, htypes, ← hinv.keys type' completionType' htype' q']
    exact mem_resolvers_consume
  · intro type'
    obtain ⟨t, ht⟩ := hinv.tables type'
    refine ht.consume type q ?_ rfl rfl rfl
    rw [nextSeq, nextSeq]
    dsimp only
    rw [hmaps.1]
    rfl
  · exact fun n st h => (hinv.cancelSettled n st h).mono ⟨[], by simp [consume]⟩
      (resolvedCalls_consume type q rfl) (respects_rejected.step hstep)

lemma follow_of_call {input : Input V} {call : OperationCall}
    (hcall : s.runtime.operationCall env input = some call) : s.follow env input = s.recordCall call := by
  cases input with
  | job job => cases hcall
  | _ => simp only [follow, hcall]

lemma Inv.runtime (hinv : s.Inv) {rt : Runtime} {input : Input V}
    (hstep : s.runtime.step env input = some rt) : Inv { s.follow env input with runtime := rt } := by
  cases hcall : s.runtime.operationCall env input with
  | some call =>
    rw [follow_of_call hcall]
    exact hinv.runtime_call hstep hcall
  | none =>
    cases input with
    | job job =>
      cases hjob : job.resolves with
      | some tq =>
        obtain ⟨type, q⟩ := tq
        cases hstep
        simp only [follow, hjob]
        exact hinv.runtime_job hjob
      | none =>
        simp only [follow, hjob]
        refine hinv.runtime_frame hstep ?_
        cases hstep
        exact runJob_frame hjob
    | _ =>
      simp only [follow, hcall]
      exact hinv.runtime_frame hstep (frame_of_operationCall_eq_none (by simp) hcall hstep)

/-! ### Requests to cancel external workflows -/

/-- A call of `cancel`, with or without a number. -/
lemma Inv.recordCancel (hinv : s.Inv) {scope : ScopeId} {seq : Option Seq} {stored : List ResolveType}
    (hq : Quiet s.runtime s'.runtime) (hcalls : s'.calls = s.calls ++ [⟨.cancelWorkflow, scope, seq, stored⟩])
    (hresolvers : s'.resolvers = (s.recordCall ⟨.cancelWorkflow, scope, seq, stored⟩).resolvers)
    (hjobs : s'.jobs = s.jobs)
    (hreactions : ∀ r ∈ s'.cancelReactions, r ∈ s.cancelReactions ∨ r = (scope, s.calls.length))
    (hstored : ∀ type ∈ stored, type = .cancelWorkflow)
    (hseq : (seq = none ∧ s'.nextCancelSeq = s.nextCancelSeq) ∨
      (seq = some s.nextCancelSeq ∧ s'.nextCancelSeq = s.nextCancelSeq + 1))
    (hpromise : ∀ n settlement, s'.cancelPromise n = some settlement →
      s.cancelPromise n = some settlement ∨ (n = s.calls.length ∧ seq = none)) : s'.Inv where
  settlements := hq.inv hinv.settlements
  keys type completionType htype q := by
    have hne : type ∉ stored := by
      intro h
      rw [hstored type h] at htype
      cases htype
    rw [hresolvers, mem_resolvers_recordCall, hq.completions, ← hinv.keys type completionType htype q]
    simp [hne]
  tables type := by
    obtain ⟨t, ht⟩ := hinv.tables type
    have hother : OperationKind.cancelWorkflow ≠ type.kind → s'.nextSeq type.kind = s.nextSeq type.kind := by
      intro h
      cases type with
      | cancelWorkflow => exact absurd rfl h
      | _ => exact congrFun hq.nextSeqs _
    rcases hseq with ⟨rfl, hnext⟩ | ⟨rfl, hnext⟩
    · refine ⟨t, ht.recordCall_of_seq_eq_none rfl ?_ hcalls hresolvers hjobs⟩
      by_cases h : OperationKind.cancelWorkflow = type.kind
      · rw [← h]
        exact hnext
      · exact hother h
    · refine ht.recordCall _ (fun h => ?_) (fun type' h => ?_) ?_ hcalls hresolvers hjobs
      · rw [← h]
        rfl
      · rw [hstored type' h]
        rfl
      · dsimp only
        split
        · rename_i h
          rw [← h]
          exact hnext
        · rename_i h
          exact hother h
  reactions r hr := by
    rcases hreactions r hr with hr | rfl
    · obtain ⟨call, hcall, h⟩ := hinv.reactions r hr
      exact ⟨call, getElem?_calls_of_append hcalls hcall, h⟩
    · exact ⟨⟨.cancelWorkflow, scope, seq, stored⟩, by simp [hcalls], rfl, rfl⟩
  cancelSettled n settlement h := by
    rcases hpromise n settlement h with h | ⟨rfl, rfl⟩
    · refine (hinv.cancelSettled n settlement h).mono ⟨_, hcalls⟩ ?_ ?_
      · rw [resolvedCalls_of_jobs_eq hjobs]
        exact fun _ => id
      · rw [hq.loop]
        exact fun _ => id
    · exact ⟨⟨.cancelWorkflow, scope, none, stored⟩, by simp [hcalls], rfl, Or.inl rfl⟩

lemma cancelPromise_settleCancel {n' : ℕ} {settlement settlement' : Settlement}
    (h : (s.settleCancel n settlement).cancelPromise n' = some settlement') :
    s.cancelPromise n' = some settlement' ∨ (n' = n ∧ settlement' = settlement) := by
  by_cases hn : n' = n
  · subst hn
    simp only [settleCancel, Function.update_self] at h
    cases hp : s.cancelPromise n' with
    | none =>
      rw [hp, Option.none_or, Option.some.injEq] at h
      exact Or.inr ⟨rfl, h.symm⟩
    | some st =>
      rw [hp, Option.some_or] at h
      exact Or.inl h
  · simp only [settleCancel, Function.update_of_ne hn] at h
    exact Or.inl h

lemma Inv.cancelExternalWorkflow (hinv : s.Inv) (scope : ScopeId) (workflowId : String)
    (runId : Option String) : (s.cancelExternalWorkflow scope workflowId runId).Inv := by
  have hregister : ∃ reactions, (if (s.runtime.scope scope).cancellable then
        { s with cancelReactions := s.cancelReactions ++ [(scope, s.calls.length)] } else s) =
        { s with cancelReactions := reactions } ∧
      ∀ r ∈ reactions, r ∈ s.cancelReactions ∨ r = (scope, s.calls.length) := by
    split
    · refine ⟨_, rfl, fun r hr => ?_⟩
      rcases List.mem_append.mp hr with hr | hr
      · exact Or.inl hr
      · exact Or.inr (List.mem_singleton.mp hr)
    · exact ⟨s.cancelReactions, rfl, fun r hr => Or.inl hr⟩
  obtain ⟨reactions, heq, hreactions⟩ := hregister
  have hrequest : ∀ rt sentPatches, Quiet s.runtime rt →
      (({ s with cancelReactions := reactions, runtime := rt, sentPatches := sentPatches } :
        Correlation).requestCancel scope workflowId runId).Inv := by
    intro rt sentPatches hq
    exact hinv.recordCancel (hq.trans (Quiet.pushCommand _ _)) rfl rfl rfl hreactions (by simp)
      (Or.inr ⟨rfl, rfl⟩) fun _ _ => Or.inl
  unfold Correlation.cancelExternalWorkflow
  dsimp only
  rw [heq]
  split
  · obtain ⟨rt, sentPatches, hq, hpatched⟩ :=
      patched_eq { s with cancelReactions := reactions } externalWfCancelPatch
    split
    · rename_i err s₁ hs₁
      obtain rfl : s₁ = _ := (congrArg Prod.snd hs₁).symm.trans hpatched
      refine hinv.recordCancel hq rfl rfl rfl hreactions (by simp) (Or.inl ⟨rfl, rfl⟩) fun n st h => ?_
      exact (cancelPromise_settleCancel h).imp_right fun h => ⟨h.1, rfl⟩
    · rename_i s₁ hs₁
      obtain rfl : s₁ = _ := (congrArg Prod.snd hs₁).symm.trans hpatched
      exact hinv.recordCancel hq rfl rfl rfl hreactions (by simp) (Or.inl ⟨rfl, rfl⟩) fun _ _ => Or.inl
    · rename_i s₁ hs₁
      obtain rfl : s₁ = _ := (congrArg Prod.snd hs₁).symm.trans hpatched
      exact hrequest rt sentPatches hq
  · exact hrequest s.runtime s.sentPatches (Quiet.refl _)

/-- The reaction to the cancellation of the scope of a call, which `index` takes off the list. -/
lemma Inv.cancelRequested (hinv : s.Inv) {index : ℕ} {scope : ScopeId}
    (hindex : s.cancelReactions[index]? = some (scope, n)) (hrejected : s.runtime.loop.rejected scope = true) :
    ({ s with cancelReactions := s.cancelReactions.eraseIdx index }.runCancelReaction scope n).Inv := by
  obtain ⟨call, hcall, hkind, hscope⟩ := hinv.reactions _ (List.mem_of_getElem? hindex)
  have hmem : ∀ r ∈ s.cancelReactions.eraseIdx index, r ∈ s.cancelReactions :=
    fun r hr => List.mem_of_mem_eraseIdx hr
  obtain ⟨rt, sentPatches, hq, hpatched⟩ :=
    patched_eq { s with cancelReactions := s.cancelReactions.eraseIdx index } externalWfCancelPatch
  unfold runCancelReaction
  split
  · rename_i s₁ hs₁
    obtain rfl : s₁ = _ := (congrArg Prod.snd hs₁).symm.trans hpatched
    refine hinv.kept hq rfl rfl rfl rfl hmem fun n' st h => ?_
    refine (cancelPromise_settleCancel h).imp_right ?_
    rintro ⟨rfl, rfl⟩
    exact ⟨call, hcall, hkind, Or.inr (Or.inr ⟨hscope ▸ hrejected, _, rfl⟩)⟩
  · rename_i s₁ _ hs₁
    obtain rfl : s₁ = _ := (congrArg Prod.snd hs₁).symm.trans hpatched
    exact hinv.kept hq rfl rfl rfl rfl hmem fun _ _ => Or.inl

/-- A job finds the functions that a call has stored and no job has taken. -/
lemma Inv.lookup_eq_some_iff (hinv : s.Inv) :
    (s.resolvers type).lookup q = some n ↔ s.StoredBy type n q ∧ ¬s.ResolvedAlready type q := by
  obtain ⟨t, ht⟩ := hinv.tables type
  rw [← ht.pending, t.pending_iff, ht.issued, ht.answered, ← storedBy_iff, ← resolvedAlready_iff]

lemma Inv.lookup_eq_none (hinv : s.Inv)
    (h : (¬∃ n, s.StoredBy type n q) ∨ s.ResolvedAlready type q) : (s.resolvers type).lookup q = none := by
  cases hl : (s.resolvers type).lookup q with
  | none => rfl
  | some n =>
    obtain ⟨hstored, hresolved⟩ := hinv.lookup_eq_some_iff.mp hl
    rcases h with h | h
    · exact absurd ⟨n, hstored⟩ h
    · exact absurd h hresolved

/-- A number belongs to one call. -/
lemma Inv.scheduledWith_unique (hinv : s.Inv) {m : ℕ} (hn : s.ScheduledWith type n q)
    (hm : s.ScheduledWith type m q) : m = n := by
  obtain ⟨t, ht⟩ := hinv.tables type
  obtain ⟨stored, hn⟩ := scheduledWith_iff.mp hn
  obtain ⟨stored', hm⟩ := scheduledWith_iff.mp hm
  rw [← ht.issued] at hn hm
  exact congrArg Request.issuer (t.eq_of_number_eq hm hn rfl)

lemma StoredBy.scheduledWith (h : s.StoredBy type n q) : s.ScheduledWith type n q := by
  obtain ⟨call, hcall, hkind, hseq, -⟩ := h
  exact ⟨call, hcall, hkind, hseq⟩

/-- The job of a request to cancel an external workflow. -/
lemma Inv.consumeCancel (hinv : s.Inv) (q : Seq) (hq : Quiet s.runtime s'.runtime)
    (hseq : s'.nextCancelSeq = s.nextCancelSeq) (hcalls : s'.calls = s.calls)
    (hresolvers : s'.resolvers = (s.consume .cancelWorkflow q).resolvers)
    (hjobs : s'.jobs = (s.consume .cancelWorkflow q).jobs) (hreactions : s'.cancelReactions = s.cancelReactions)
    (hpromise : ∀ n settlement, s'.cancelPromise n = some settlement →
      s.cancelPromise n = some settlement ∨ (s.resolvers .cancelWorkflow).lookup q = some n) : s'.Inv where
  settlements := hq.inv hinv.settlements
  keys type completionType htype q' := by
    have hne : type ≠ .cancelWorkflow := by
      rintro rfl
      cases htype
    rw [hresolvers, mem_resolvers_consume, hq.completions, ← hinv.keys type completionType htype q']
    simp [hne]
  tables type := by
    obtain ⟨t, ht⟩ := hinv.tables type
    refine ht.consume .cancelWorkflow q ?_ hcalls hresolvers hjobs
    rw [nextSeq, nextSeq, hq.nextSeqs, hseq]
  reactions r hr := by
    rw [hcalls]
    exact hinv.reactions r (hreactions ▸ hr)
  cancelSettled n settlement h := by
    rcases hpromise n settlement h with h | h
    · refine (hinv.cancelSettled n settlement h).mono ⟨[], by simp [hcalls]⟩
        (resolvedCalls_consume .cancelWorkflow q hjobs) ?_
      rw [hq.loop]
      exact fun _ => id
    · obtain ⟨⟨call, hcall, hkind, -⟩, -⟩ := hinv.lookup_eq_some_iff.mp h
      refine ⟨call, by rw [hcalls, hcall], hkind, Or.inr (Or.inl ?_)⟩
      rw [resolvedCalls_eq, answered_consume hjobs, if_pos rfl, h]
      simp

lemma Inv.resolveRequestCancelExternalWorkflow (hinv : s.Inv) (env : Env V) (seq : Option Seq)
    (failure : Option ProtoFailure) :
    (s.resolveRequestCancelExternalWorkflow env seq failure).Inv := by
  unfold Correlation.resolveRequestCancelExternalWorkflow
  cases seq with
  | none => exact hinv.kept (Quiet.thrown _) rfl rfl rfl rfl (fun _ => id) fun _ _ => Or.inl
  | some q =>
    dsimp only [getSeq]
    cases hl : (s.resolvers .cancelWorkflow).lookup q with
    | none => exact hinv.consumeCancel q (Quiet.thrown _) rfl rfl rfl rfl rfl fun _ _ => Or.inl
    | some n =>
      dsimp only
      split
      · exact hinv.consumeCancel q (Quiet.thrown _) rfl rfl rfl rfl rfl fun _ _ => Or.inl
      · exact hinv.consumeCancel q (Quiet.refl _) rfl rfl rfl rfl rfl fun _ _ => Or.inl
      · refine hinv.consumeCancel q (Quiet.refl _) rfl rfl rfl rfl rfl fun n' st h => ?_
        refine (cancelPromise_settleCancel h).imp_right ?_
        rintro ⟨rfl, -⟩
        exact hl

theorem Inv.step {input : CorrelationInput V} (hinv : s.Inv) (hstep : s.step env input = some s') :
    s'.Inv := by
  cases input with
  | runtime input =>
    have hrun : ∃ rt, s.runtime.step env input = some rt ∧
        s' = { s.follow env input with runtime := rt } := by
      unfold Correlation.step at hstep
      split at hstep
      · cases hstep
      · rename_i heq
        cases heq
        obtain ⟨rt, hrt, rfl⟩ := Option.map_eq_some_iff.mp hstep
        exact ⟨rt, hrt, rfl⟩
      all_goals
        rename_i heq
        cases heq
    obtain ⟨rt, hrt, rfl⟩ := hrun
    exact hinv.runtime hrt
  | cancelExternalWorkflow scope workflowId runId =>
    simp only [Correlation.step] at hstep
    split at hstep
    · cases hstep
      exact hinv.cancelExternalWorkflow scope workflowId runId
    · cases hstep
  | cancelRequested index =>
    simp only [Correlation.step] at hstep
    split at hstep
    · cases hstep
    · rename_i hindex
      split at hstep
      · rename_i hrejected
        cases hstep
        exact hinv.cancelRequested hindex hrejected
      · cases hstep
  | resolveRequestCancelExternalWorkflow seq failure =>
    cases hstep
    exact hinv.resolveRequestCancelExternalWorkflow env seq failure
  | notifyHasPatch patchId =>
    cases hstep
    unfold notifyHasPatch
    split
    · exact hinv.kept (Quiet.thrown _) rfl rfl rfl rfl (fun _ => id) fun _ _ => Or.inl
    · exact hinv.kept (Quiet.refl _) rfl rfl rfl rfl (fun _ => id) fun _ _ => Or.inl
  | load =>
    cases hstep
    exact hinv.kept (Quiet.refl _) rfl rfl rfl rfl (fun _ => id) fun _ _ => Or.inl

/-! ### The settlements of a job -/

lemma promiseSeq_eq_some_iff : s.promiseSeq type n = some q ↔ s.ScheduledWith type n q := by
  unfold promiseSeq ScheduledWith
  cases hcall : s.calls[n]? with
  | none => simp
  | some call =>
    by_cases hkind : call.kind = type.kind
    · simp [hkind]
    · simp [hkind]

lemma settlement_of_scheduledWith {completionType : CompletionType}
    (htype : type.completionType = some completionType) (h : s.ScheduledWith type n q) :
    s.settlement type n = s.runtime.settlement ⟨completionType, q⟩ := by
  simp only [settlement, htype, promiseSeq_eq_some_iff.mpr h, Option.bind_some]

lemma settlement_eq_of_forall {completionType : CompletionType}
    (htype : type.completionType = some completionType) (hcalls : s'.calls = s.calls)
    (h : ∀ q, s.ScheduledWith type n q →
      s'.runtime.settlement ⟨completionType, q⟩ = s.runtime.settlement ⟨completionType, q⟩) :
    s'.settlement type n = s.settlement type n := by
  have hseq : s'.promiseSeq type n = s.promiseSeq type n := by rw [promiseSeq, promiseSeq, hcalls]
  simp only [settlement, htype, hseq]
  cases hq : s.promiseSeq type n with
  | none => rfl
  | some q => exact h q (promiseSeq_eq_some_iff.mp hq)

lemma consume_of_lookup_eq_none (h : (s.resolvers type).lookup q = none) :
    s.consume type q = { s with jobs := s.jobs ++ [⟨type, q, none⟩] } := by
  rw [consume, OrderedMap.update_erase_of_notMem (AList.lookup_eq_none.mp h), h]

/-- The job of an operation of the run. -/
lemma Inv.jobSettles (hinv : s.Inv) {job : Job} (hjob : job.resolves = some (type, q))
    (hstored : s.StoredBy type n q) (hresolved : ¬s.ResolvedAlready type q) :
    JobSettles env (.runtime (.job job)) type q n s
      { s.consume type q with runtime := s.runtime.runJob env job } := by
  obtain ⟨completionType, resolution, settlement, htype, houtcome, hrun⟩ := runJob_of_resolves env hjob
  have hlookup := hinv.lookup_eq_some_iff.mpr ⟨hstored, hresolved⟩
  have hmem : q ∈ s.runtime.completions completionType := by
    rw [← hinv.keys type completionType htype]
    exact AList.lookup_isSome.mp (by simp [hlookup])
  have hconsumed := consumeCompletion_of_mem resolution settlement hmem
  rw [houtcome, ← hrun] at hconsumed
  have hscheduled := hstored.scheduledWith
  have hscheduled' : ScheduledWith { s.consume type q with runtime := s.runtime.runJob env job } type n q :=
    hscheduled
  refine ⟨fun m hm => hinv.scheduledWith_unique hscheduled hm, ?_, ?_, ?_, ?_, hconsumed.throws⟩
  · rw [← hlookup]
    rfl
  · rw [settlement_of_scheduledWith htype hscheduled', settlement_of_scheduledWith htype hscheduled,
      hconsumed.settlement, if_pos rfl]
    rfl
  · rw [settlement_of_scheduledWith htype hscheduled]
    by_cases hcomplete : type = .childWorkflowComplete
    · subst hcomplete
      cases htype
      by_cases hnone : s.runtime.settlement ⟨.childWorkflowComplete, q⟩ = none
      · exact Or.inl hnone
      · obtain ⟨err, herr⟩ := hinv.settlements.complete q hmem hnone
        have hstart : s.ScheduledWith .childWorkflowStart n q := hscheduled
        exact Or.inr ⟨err, (settlement_of_scheduledWith rfl hstart).trans herr⟩
    · refine Or.inl (hinv.settlements.unsettled ⟨completionType, q⟩ ?_ ?_ hmem)
      · rintro rfl
        cases type <;> cases htype
      · rintro rfl
        cases type <;> first | exact hcomplete rfl | cases htype
  · intro type' m hne
    cases htype' : type'.completionType with
    | none =>
      simp only [Correlation.settlement, htype']
      rfl
    | some completionType' =>
      refine settlement_eq_of_forall htype' rfl fun q' hq' => ?_
      have hneq : (⟨completionType', q'⟩ : PromiseRef) ≠ ⟨completionType, q⟩ := by
        intro heq
        cases heq
        obtain rfl := completionType_injective htype' htype
        exact hne ⟨rfl, hinv.scheduledWith_unique hscheduled hq'⟩
      dsimp only
      rw [hconsumed.settlement, if_neg hneq, Option.or_none]

lemma settlement_settleCancel (type' : ResolveType) (m : ℕ) (st : Settlement) :
    (s.settleCancel n st).settlement type' m =
      (s.settlement type' m).or (if type' = .cancelWorkflow ∧ m = n then some st else none) := by
  cases type' with
  | cancelWorkflow =>
    simp only [settlement, ResolveType.completionType, settleCancel]
    by_cases hm : m = n
    · subst hm
      simp
    · simp [hm]
  | _ =>
    rw [if_neg (by simp), Option.or_none]
    rfl

lemma settlement_of_quiet (hq : Quiet s.runtime s'.runtime) (hcalls : s'.calls = s.calls)
    (hpromise : s'.cancelPromise = s.cancelPromise) (type : ResolveType) (n : ℕ) :
    s'.settlement type n = s.settlement type n := by
  cases htype : type.completionType with
  | none => simp only [settlement, htype, hpromise]
  | some completionType => exact settlement_eq_of_forall htype hcalls fun q _ => hq.settlement _

/-- A call whose functions a job has called has its answer. -/
lemma Inv.resolvedAlready_of_mem (hinv : s.Inv) (hstored : s.StoredBy type n q)
    (hn : n ∈ s.resolvedCalls type) : s.ResolvedAlready type q := by
  obtain ⟨t, ht⟩ := hinv.tables type
  rw [resolvedCalls_eq, ← ht.answered] at hn
  obtain ⟨a, ha, rfl⟩ := List.mem_map.mp hn
  have hissued : ⟨q, a.2, true⟩ ∈ t.issued := ht.issued ▸ storedBy_iff.mp hstored
  have hnumber := congrArg Request.number (t.eq_of_issuer_eq hissued (t.answered_issued a ha) rfl)
  rw [resolvedAlready_iff, ← ht.answered, show q = a.1 from hnumber]
  exact List.mem_map_of_mem ha

/-- The job of a request to cancel an external workflow. -/
lemma Inv.cancelSettles (hinv : s.Inv) {failure : Option ProtoFailure}
    (hstored : s.StoredBy .cancelWorkflow n q) (hresolved : ¬s.ResolvedAlready .cancelWorkflow q) :
    JobSettles env (.resolveRequestCancelExternalWorkflow (some q) failure) .cancelWorkflow q n s
      (s.resolveRequestCancelExternalWorkflow env (some q) failure) := by
  have hlookup := hinv.lookup_eq_some_iff.mpr ⟨hstored, hresolved⟩
  have hunique : ∀ m, s.ScheduledWith .cancelWorkflow m q → m = n :=
    fun m hm => hinv.scheduledWith_unique hstored.scheduledWith hm
  have hpending : s.settlement .cancelWorkflow n = none ∨ s.RejectedBefore .cancelWorkflow n := by
    cases hp : s.settlement .cancelWorkflow n with
    | none => exact Or.inl rfl
    | some st =>
      obtain ⟨call, hcall, -, h⟩ := hinv.cancelSettled n st hp
      have hstored' := hstored
      obtain ⟨call', hcall', -, hseq, -⟩ := hstored
      obtain rfl : call = call' := Option.some.inj (hcall.symm.trans hcall')
      rcases h with h | h | ⟨hrejected, err, rfl⟩
      · simp [hseq] at h
      · exact absurd (hinv.resolvedAlready_of_mem hstored' h) hresolved
      · exact Or.inr ⟨⟨err, hp⟩, call, hcall, hrejected⟩
  have hfound : (s.consume .cancelWorkflow q).jobs = s.jobs ++ [⟨.cancelWorkflow, q, some n⟩] := by
    rw [← hlookup]
    rfl
  have hconsumed : ∀ type' m, (s.consume .cancelWorkflow q).settlement type' m = s.settlement type' m :=
    settlement_of_quiet (Quiet.refl _) rfl rfl
  simp only [Correlation.resolveRequestCancelExternalWorkflow, getSeq, hlookup]
  cases houtcome : env.settleCancelWorkflow failure with
  | error err =>
    have hthrown : ∀ type' m, ((s.consume .cancelWorkflow q).thrown err).settlement type' m =
        s.settlement type' m := settlement_of_quiet (Quiet.thrown err) rfl rfl
    refine ⟨hunique, hfound, ?_, hpending, fun type' m _ => hthrown type' m, fun err' h => ?_⟩
    · simp [hthrown, CorrelationInput.outcome, houtcome, settlementOf]
    · obtain rfl : err = err' := by simpa [CorrelationInput.outcome, houtcome] using h
      simp [thrown, emit]
  | ok st =>
    cases st with
    | none =>
      refine ⟨hunique, hfound, ?_, hpending, fun type' m _ => hconsumed type' m, fun err' h => ?_⟩
      · simp [hconsumed, CorrelationInput.outcome, houtcome, settlementOf]
      · simp [CorrelationInput.outcome, houtcome] at h
    | some st =>
      refine ⟨hunique, hfound, ?_, hpending, fun type' m hne => ?_, fun err' h => ?_⟩
      · rw [settlement_settleCancel, hconsumed]
        simp [CorrelationInput.outcome, houtcome, settlementOf]
      · rw [settlement_settleCancel, hconsumed, if_neg hne, Option.or_none]
      · simp [CorrelationInput.outcome, houtcome] at h

/-! ### The theorem -/

lemma step_job {job : Job} :
    s.step env (.runtime (.job job)) =
      some { s.follow env (.job job) with runtime := s.runtime.runJob env job } := rfl

lemma exists_type (kind : OperationKind) : ∃ type : ResolveType, type.kind = kind := by
  cases kind with
  | activity => exact ⟨.activity, rfl⟩
  | childWorkflow => exact ⟨.childWorkflowStart, rfl⟩
  | signalWorkflow => exact ⟨.signalWorkflow, rfl⟩
  | cancelWorkflow => exact ⟨.cancelWorkflow, rfl⟩

lemma Inv.increasing (hinv : s.Inv) (kind : OperationKind) : (s.seqsOf kind).Pairwise (· < ·) := by
  obtain ⟨type, rfl⟩ := exists_type kind
  obtain ⟨t, ht⟩ := hinv.tables type
  rw [← map_number_issued, ← ht.issued]
  exact t.increasing

lemma Inv.once (hinv : s.Inv) (type : ResolveType) : (s.resolvedCalls type).Nodup := by
  obtain ⟨t, ht⟩ := hinv.tables type
  rw [resolvedCalls_eq, ← ht.answered]
  exact t.answered_issuers_nodup

/-- A job that finds nothing under its number. -/
lemma Inv.unknown (hinv : s.Inv) {input : CorrelationInput V} (hstep : s.step env input = some s')
    (hresolves : input.resolves = some (type, q))
    (h : (¬∃ n, s.StoredBy type n q) ∨ s.ResolvedAlready type q) :
    s' = { s with
      runtime := s.runtime.emit
        (.thrown (.illegalStateError ("No completion for taskSeq " ++ toString q)))
      jobs := s.jobs ++ [⟨type, q, none⟩] } := by
  have hlookup := hinv.lookup_eq_none h
  unfold CorrelationInput.resolves at hresolves
  split at hresolves
  · rename_i job
    obtain ⟨completionType, resolution, settlement, htype, -, hrun⟩ := runJob_of_resolves env hresolves
    have hmem : q ∉ s.runtime.completions completionType := by
      rw [← hinv.keys type completionType htype]
      exact AList.lookup_eq_none.mp hlookup
    rw [step_job] at hstep
    cases hstep
    simp only [follow, hresolves, hrun, consumeCompletion_of_notMem hmem, consume_of_lookup_eq_none hlookup]
  · cases hresolves
    cases hstep
    simp only [Correlation.resolveRequestCancelExternalWorkflow, getSeq, hlookup,
      consume_of_lookup_eq_none hlookup, thrown]
  · cases hresolves

lemma Inv.settles (hinv : s.Inv) {input : CorrelationInput V} (hstep : s.step env input = some s')
    (hresolves : input.resolves = some (type, q)) (hstored : s.StoredBy type n q)
    (hresolved : ¬s.ResolvedAlready type q) : JobSettles env input type q n s s' := by
  unfold CorrelationInput.resolves at hresolves
  split at hresolves
  · rename_i job
    rw [step_job] at hstep
    cases hstep
    simp only [follow, hresolves]
    exact hinv.jobSettles hresolves hstored hresolved
  · cases hresolves
    cases hstep
    exact hinv.cancelSettles hstored hresolved
  · cases hresolves

/-- A job without a number or without a result. -/
lemma step_malformed {input : CorrelationInput V} (hstep : s.step env input = some s')
    (hresolve : input.isResolve = true) (hresolves : input.resolves = none) :
    ∃ message, s' = s.thrown (.typeError message) := by
  unfold CorrelationInput.isResolve at hresolve
  split at hresolve
  · rename_i job
    have hjob : job.resolves = none := hresolves
    rw [step_job] at hstep
    cases hstep
    simp only [follow, hjob, thrown]
    unfold Job.resolves at hjob
    split at hjob
    · cases hjob
    · cases hjob
    · cases hjob
    · cases hjob
    · cases job with
      | fireTimer seq => cases hresolve
      | cancelWorkflow => cases hresolve
      | resolveActivity seq result =>
        cases result with
        | none => exact ⟨_, rfl⟩
        | some result => cases seq <;> [exact ⟨_, rfl⟩; simp_all]
      | resolveChildWorkflowExecutionStart seq status => cases seq <;> [exact ⟨_, rfl⟩; simp_all]
      | resolveChildWorkflowExecution seq result =>
        cases result with
        | none => exact ⟨_, rfl⟩
        | some result => cases seq <;> [exact ⟨_, rfl⟩; simp_all]
      | resolveSignalExternalWorkflow seq failure => cases seq <;> [exact ⟨_, rfl⟩; simp_all]
  · rename_i seq failure
    cases hstep
    cases seq with
    | none => exact ⟨_, rfl⟩
    | some q => cases hresolves
  · cases hresolve

lemma step_fireTimer (hstep : s.step env (.runtime (.job (.fireTimer (some q)))) = some s')
    (hq : q ∉ s.runtime.completions .timer) : s' = { s with runtime := s.runtime.emit (.fired q) } := by
  rw [step_job] at hstep
  cases hstep
  have hnone : (s.runtime.completions .timer).lookup q = none := AList.lookup_eq_none.mpr hq
  have hdelete : s.runtime.deleteCompletion .timer q = s.runtime := by
    rw [deleteCompletion, OrderedMap.update_erase_of_notMem hq]
  simp only [follow, Job.resolves, Runtime.runJob, Runtime.fireTimer, getSeq, maybeConsumeCompletion, hnone,
    hdelete, resolveTimer]

/-- In every run the numbers of each kind of operation increase strictly, and a job settles the
promise of the call that has taken its number and no other, each promise at most once; a job
whose number is unknown or has been resolved already throws and changes no map. -/
theorem jobs_correlate (env : Env V) (inputs : List (CorrelationInput V)) (s : Correlation)
    (hrun : Transition.run (Correlation.step env) Correlation.init inputs = some s) :
    s.JobsCorrelate env := by
  have hinv : s.Inv := Transition.invariant (fun _ _ _ h hstep => Inv.step h hstep) Inv.init hrun
  exact ⟨hinv.increasing, hinv.once, fun _ _ _ _ _ => hinv.settles, fun _ _ _ _ => hinv.unknown,
    fun _ _ => step_malformed, fun _ _ => step_fireTimer⟩

/-- A signal to another workflow and its answer. -/
theorem jobs_correlate_signal :
    ∃ s, Transition.run (Correlation.step Env.raw) init
        [.runtime (.signal 0 (.external "other" none) "go" []),
          .runtime (.job (.resolveSignalExternalWorkflow (some 1) none))] = some s ∧
      s.JobsCorrelate Env.raw :=
  ⟨_, rfl, jobs_correlate Env.raw [.runtime (.signal 0 (.external "other" none) "go" []),
    .runtime (.job (.resolveSignalExternalWorkflow (some 1) none))] _ rfl⟩

/-- A worker that has no converter for the encoding of the payloads that it gets. -/
def undecodable : Env Payload :=
  { Env.raw with fromPayload := fun _ => .error (.valueError "Unknown encoding: custom") }

/-- Three jobs that settle nothing: one whose result cannot be decoded, one for a request that the
cancellation of its scope has rejected before, and one without a result, which throws another error. -/
theorem job_settles_nothing :
    (∃ s s', Transition.run (Correlation.step undecodable) init
        [.runtime (.startChild 0 "child" .default "id")] = some s ∧
      s.StoredBy .childWorkflowComplete 0 1 ∧ ¬s.ResolvedAlready .childWorkflowComplete 1 ∧
      s.step undecodable (.runtime (.job (.resolveChildWorkflowExecution (some 1)
        (some (.completed (some ⟨[("encoding", [99, 117, 115, 116, 111, 109])], []⟩)))))) = some s' ∧
      s'.settlement .childWorkflowComplete 0 = none) ∧
    (∃ s s', Transition.run (Correlation.step Env.raw) init
        [.load, .cancelExternalWorkflow 0 "other" none, .runtime (.cancel 0), .cancelRequested 0] = some s ∧
      s.StoredBy .cancelWorkflow 0 1 ∧ ¬s.ResolvedAlready .cancelWorkflow 1 ∧
      s.step Env.raw (.resolveRequestCancelExternalWorkflow (some 1) none) = some s' ∧
      s'.settlement .cancelWorkflow 0 = some (.rejected (.cancelledFailure "Workflow cancelled"))) ∧
    ∃ s', init.step Env.raw (.runtime (.job (.resolveActivity (some 1) none))) = some s' ∧
      s'.runtime.trace = [.thrown (.typeError "Got ResolveActivity activation with no result")] := by
  refine ⟨⟨_, _, rfl, ⟨_, rfl, rfl, rfl, by decide⟩, ?_, rfl, rfl⟩,
    ⟨_, _, rfl, ⟨_, rfl, rfl, rfl, by decide⟩, ?_, rfl, rfl⟩, _, rfl, rfl⟩
  · rintro ⟨_, h, -⟩
    cases h
  · rintro ⟨_, h, -⟩
    cases h

end Correlation

end TemporalSdk
