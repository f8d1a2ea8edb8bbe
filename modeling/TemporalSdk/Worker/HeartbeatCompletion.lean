import TemporalSdk.Worker.Heartbeat

/-!
# Heartbeats and the completion of their activity

Between `create` and the call of the completion callback the group of an activity is open, and
what its state says agrees with the encoder that runs; afterwards nothing is sent any more.
-/

namespace TemporalSdk

variable {D K : Type}

namespace ActivityInput

def isHeartbeat : ActivityInput D K → Bool
  | heartbeat _ => true
  | _ => false

def isEncoded : ActivityInput D K → Bool
  | encoded _ _ => true
  | _ => false

end ActivityInput

namespace HeartbeatStream

/-- What the heartbeats of an activity are to satisfy at any time. `settles` says that without
further heartbeats at most two more encoders end after the completion. -/
structure HeartbeatsOk (s : HeartbeatStream D K) : Prop where
  numbered : s.emitted.map Heartbeat.index = List.range s.emitted.length
  single : s.sending.length ≤ 1
  ordered : s.sent.Sublist s.emitted
  accounted : s.processed.map Prod.fst ++ s.sending = s.sent
  silent : s.completion = none → s.called = []
  once : ∀ c, s.completion = some c → s.called = [] ∨ s.called = [c.callback]
  answered : ∀ c, s.completion = some c → s.sending = [] → s.called = [c.callback]
  quiet : s.called ≠ [] → s.sending = []
  flushed : ∀ c, s.completion = some c → c.flushRequired = true → 0 < c.emittedBefore →
    s.called ≠ [] → ∃ p ∈ s.processed, c.emittedBefore ≤ p.1.index + 1
  settles : s.completion.isSome = true → ∀ inputs t, Transition.run step s inputs = some t →
    (∀ input ∈ inputs, input.isHeartbeat = false) → inputs.countP ActivityInput.isEncoded ≤ 2

variable {s t : HeartbeatStream D K} {st : HeartbeatState D K}

/-- How many of the emitted heartbeats are not to be lost: one of the last of them or later has
to be sent. -/
def target (s : HeartbeatStream D K) : ℕ :=
  match s.completion with
  | none => s.emitted.length
  | some c => if c.flushRequired then c.emittedBefore else 0

/-- What is true of the history at any time. -/
structure History (s : HeartbeatStream D K) : Prop where
  numbered : s.emitted.map Heartbeat.index = List.range s.emitted.length
  accounted : s.processed.map Prod.fst ++ s.sending = s.sent
  bounded : ∀ c, s.completion = some c → c.emittedBefore ≤ s.emitted.length

@[simp] lemma completion_initial : (initial : HeartbeatStream D K).completion = none := rfl

@[simp] lemma called_initial : (initial : HeartbeatStream D K).called = [] := rfl

/-- The completion callback has not been called, and the group is in state `st`. -/
structure Open (s : HeartbeatStream D K) (st : HeartbeatState D K) : Prop where
  group : s.group = some st
  stopped : s.stopped = false
  closed : st.closed = false
  called : s.called = []
  callback : st.completionCallback = s.completion.map ActivityCompletion.callback
  busy : st.processing = true → ∃ heartbeat, s.sending = [heartbeat]
  idle : st.processing = false → s.sending = [] ∧ st.pending = none ∧ s.completion = none
  ordered : (s.sent ++ st.pending.toList).Sublist s.emitted
  covered : 0 < s.target → ∃ heartbeat ∈ s.sent ++ st.pending.toList, s.target ≤ heartbeat.index + 1

/-- The completion callback has been called. -/
structure Done (s : HeartbeatStream D K) : Prop where
  group : s.stopped = false → s.group = none
  sending : s.sending = []
  called : ∃ c, s.completion = some c ∧ s.called = [c.callback]
  ordered : s.sent.Sublist s.emitted
  covered : 0 < s.target → ∃ heartbeat ∈ s.sent, s.target ≤ heartbeat.index + 1

/-- The invariant of runs. -/
structure Inv (s : HeartbeatStream D K) : Prop where
  history : History s
  phase : s = initial ∨ s.created = true ∧ ((∃ st, Open s st) ∨ Done s)

/-! ### The end of a group -/

lemma closeGroup_cases (s : HeartbeatStream D K) :
    s.closeGroup = s ∨ s.closeGroup = { s with group := none, stopped := false } := by
  unfold closeGroup
  split
  · exact Or.inr rfl
  · exact Or.inl rfl

lemma closeGroup_of_not_stopped (h : s.stopped = false) : s.closeGroup = s := by
  simp [closeGroup, h]

lemma closeGroup_frame :
    s.closeGroup.created = s.created ∧ s.closeGroup.completion = s.completion := by
  rcases closeGroup_cases s with h | h <;> rw [h] <;> exact ⟨rfl, rfl⟩

lemma History.closeGroup (h : History s) : History s.closeGroup := by
  rcases closeGroup_cases s with heq | heq <;> rw [heq]
  · exact h
  · exact ⟨h.numbered, h.accounted, h.bounded⟩

lemma Done.closeGroup (h : Done s) : Done s.closeGroup := by
  rcases closeGroup_cases s with heq | heq <;> rw [heq]
  · exact h
  · exact ⟨fun _ => rfl, h.sending, h.called, h.ordered, h.covered⟩

/-! ### Inputs of the mapper -/

lemma next_of_stopped (h : s.stopped = true) (input : HeartbeatInput D K) : s.next input = s := by
  simp [next, h]

/-- A heartbeat for a group that is closed or gone is ignored. -/
lemma Done.next_heartbeat (h : Done s) (heartbeat : Heartbeat D) : Done (s.next (.heartbeat heartbeat)) := by
  cases hstopped : s.stopped with
  | true =>
    rw [next_of_stopped hstopped]
    exact h
  | false =>
    have hgroup := h.group hstopped
    simp only [next, hstopped, hgroup, Option.getD_none, HeartbeatState.initial, HeartbeatState.map,
      emit, Bool.false_eq_true, if_false, if_true]
    refine Done.closeGroup ⟨by simp, h.sending, ?_, h.ordered, h.covered⟩
    obtain ⟨c, hc, hcalled⟩ := h.called
    exact ⟨c, hc, by simp [hcalled]⟩

lemma History.emit (h : History s) (output : Option (HeartbeatOutput D K)) : History (s.emit output) := by
  cases output with
  | none => exact h
  | some output =>
    cases output with
    | send heartbeat =>
      refine ⟨h.numbered, ?_, h.bounded⟩
      show s.processed.map Prod.fst ++ (s.sending ++ [heartbeat]) = s.sent ++ [heartbeat]
      rw [← List.append_assoc, h.accounted]
    | close callback => exact History.closeGroup ⟨h.numbered, h.accounted, h.bounded⟩

lemma next_of_not_stopped (h : s.stopped = false) (input : HeartbeatInput D K) :
    ∃ numHeartbeating, s.next input = { s with
      group := some ((s.group.getD .initial).map input).1
      numHeartbeating }.emit ((s.group.getD .initial).map input).2 := by
  unfold next
  rw [if_neg (by simp [h])]
  exact ⟨_, rfl⟩

lemma History.next (h : History s) (input : HeartbeatInput D K) : History (s.next input) := by
  cases hstopped : s.stopped with
  | true =>
    rw [next_of_stopped hstopped]
    exact h
  | false =>
    obtain ⟨numHeartbeating, heq⟩ := next_of_not_stopped hstopped input
    rw [heq]
    refine History.emit ?_ _
    exact ⟨h.numbered, h.accounted, h.bounded⟩

lemma emit_frame (output : Option (HeartbeatOutput D K)) :
    (s.emit output).created = s.created ∧ (s.emit output).completion = s.completion := by
  unfold emit
  split
  · exact ⟨rfl, rfl⟩
  · exact ⟨rfl, rfl⟩
  · exact closeGroup_frame

lemma next_frame (input : HeartbeatInput D K) :
    (s.next input).created = s.created ∧ (s.next input).completion = s.completion := by
  cases hstopped : s.stopped with
  | true =>
    rw [next_of_stopped hstopped]
    exact ⟨rfl, rfl⟩
  | false =>
    obtain ⟨numHeartbeating, heq⟩ := next_of_not_stopped hstopped input
    rw [heq]
    exact emit_frame _

/-- The mapper asks to close the stream, and the callback is called. -/
lemma done_close {c : ActivityCompletion K} (hsending : s.sending = []) (hcompletion : s.completion = some c)
    (hcalled : s.called = []) (hordered : s.sent.Sublist s.emitted)
    (hcovered : 0 < s.target → ∃ heartbeat ∈ s.sent, s.target ≤ heartbeat.index + 1) :
    Done (s.emit (some (.close (some c.callback)))) := by
  refine Done.closeGroup ⟨by simp, hsending, ⟨c, hcompletion, ?_⟩, hordered, hcovered⟩
  simp [hcalled]

lemma next_eq_emit (hgroup : s.group = some st) (hstopped : s.stopped = false)
    {input : HeartbeatInput D K} {st' : HeartbeatState D K} {output : Option (HeartbeatOutput D K)}
    (hmap : st.map input = (st', output)) :
    ∃ numHeartbeating, s.next input = { s with group := some st', numHeartbeating }.emit output := by
  obtain ⟨numHeartbeating, heq⟩ := next_of_not_stopped hstopped input
  rw [hgroup, Option.getD_some, hmap] at heq
  exact ⟨numHeartbeating, heq⟩

/-! ### The steps -/

/-- A heartbeat is sent at once, or takes the place of the one that waits. -/
lemma Open.heartbeat (h : Open s st) (hhistory : History s) {heartbeat : Heartbeat D}
    (hindex : heartbeat.index = s.emitted.length) :
    ∃ st', Open ((s.heartbeatEmitted heartbeat).next (.heartbeat heartbeat)) st' := by
  have hsent : s.sent.Sublist s.emitted := (List.sublist_append_left _ _).trans h.ordered
  have hnew : (s.sent ++ [heartbeat]).Sublist (s.emitted ++ [heartbeat]) :=
    hsent.append (List.Sublist.refl _)
  have htarget (t : HeartbeatStream D K) (hcompletion : t.completion = s.completion)
      (hemitted : t.emitted = s.emitted ++ [heartbeat]) : t.target ≤ heartbeat.index + 1 := by
    unfold target
    rw [hcompletion, hemitted, hindex, List.length_append]
    split
    · exact le_refl _
    · rename_i c hc
      split
      · exact Nat.le_succ_of_le (hhistory.bounded c hc)
      · exact Nat.zero_le _
  cases hprocessing : st.processing with
  | true =>
    have hmap : st.map (.heartbeat heartbeat) = st.storePending heartbeat := by
      simp [HeartbeatState.map, h.closed, hprocessing]
    obtain ⟨_, heq⟩ := next_eq_emit (s := s.heartbeatEmitted heartbeat) h.group h.stopped hmap
    rw [heq]
    refine ⟨_, rfl, h.stopped, h.closed, h.called, h.callback, h.busy, fun hidle => ?_, hnew, fun _ => ?_⟩
    · exact absurd hidle (by simp [hprocessing])
    · exact ⟨heartbeat, List.mem_concat_self, htarget _ rfl rfl⟩
  | false =>
    obtain ⟨hsending, -, hcompletion⟩ := h.idle hprocessing
    have hmap : st.map (.heartbeat heartbeat) = st.process heartbeat := by
      simp [HeartbeatState.map, h.closed, hprocessing]
    obtain ⟨_, heq⟩ := next_eq_emit (s := s.heartbeatEmitted heartbeat) h.group h.stopped hmap
    rw [heq]
    refine ⟨_, rfl, h.stopped, h.closed, h.called, h.callback, fun _ => ?_, by simp, ?_, fun _ => ?_⟩
    · exact ⟨heartbeat, by simp [emit, heartbeatEmitted, hsending]⟩
    · simpa [emit, heartbeatEmitted] using hsent
    · exact ⟨heartbeat, by simp [emit], htarget _ rfl rfl⟩

/-- The completion waits for the encoder that runs, or the callback is called at once. -/
lemma Open.completion (h : Open s st) (hnone : s.completion = none) (flushRequired : Bool) (callback : K) :
    (∃ st', Open ((s.completed ⟨flushRequired, callback, s.emitted.length⟩).next
        (.completion flushRequired callback)) st') ∨
      Done ((s.completed ⟨flushRequired, callback, s.emitted.length⟩).next
        (.completion flushRequired callback)) := by
  have hsent : s.sent.Sublist s.emitted := (List.sublist_append_left _ _).trans h.ordered
  have htarget : s.target = s.emitted.length := by rw [target, hnone]
  have hcovered := h.covered
  rw [htarget] at hcovered
  cases hprocessing : st.processing with
  | true =>
    have hmap : st.map (.completion flushRequired callback) = ({ st with
        pending := if flushRequired then st.pending else none
        completionCallback := some callback }, none) := by
      simp [HeartbeatState.map, h.closed, hprocessing]
    obtain ⟨_, heq⟩ := next_eq_emit
      (s := s.completed ⟨flushRequired, callback, s.emitted.length⟩) h.group h.stopped hmap
    rw [heq]
    refine Or.inl ⟨_, rfl, h.stopped, h.closed, h.called, rfl, h.busy, fun hidle => ?_, ?_, ?_⟩
    · exact absurd hidle (by simp [hprocessing])
    · cases flushRequired with
      | true => exact h.ordered
      | false => simpa [emit, completed] using hsent
    · cases flushRequired with
      | true => exact hcovered
      | false => simp [target, emit, completed]
  | false =>
    obtain ⟨hsending, hpending, -⟩ := h.idle hprocessing
    have hmap : st.map (.completion flushRequired callback) = HeartbeatState.complete callback := by
      cases flushRequired <;> simp [HeartbeatState.map, h.closed, hprocessing, hpending]
    obtain ⟨_, heq⟩ := next_eq_emit
      (s := s.completed ⟨flushRequired, callback, s.emitted.length⟩) h.group h.stopped hmap
    rw [heq]
    refine Or.inr (done_close (c := ⟨flushRequired, callback, s.emitted.length⟩) hsending rfl h.called
      hsent fun hpos => ?_)
    rw [hpending] at hcovered
    cases flushRequired with
    | true => simpa [target, completed] using hcovered (by simpa [target, completed] using hpos)
    | false => simp [target, completed] at hpos

/-- The encoder of the one heartbeat that is being sent ends: the one that waits is sent, or
the completion is answered, or there is nothing to do. -/
lemma Open.flush (h : Open s st) {heartbeat : Heartbeat D} (hsending : s.sending = [heartbeat])
    (result : Except JsError Payload) :
    (∃ st', Open ((s.encoderEnded 0 heartbeat result).next .flush) st' ∧
        (∀ pending, st.pending = some pending → st'.pending = none) ∧
        (st.pending = none → s.completion = none)) ∨
      st.pending = none ∧ Done ((s.encoderEnded 0 heartbeat result).next .flush) := by
  have hsent : s.sent.Sublist s.emitted := (List.sublist_append_left _ _).trans h.ordered
  have hordered := h.ordered
  have hcovered := h.covered
  have hprocessing : st.processing = true := by
    by_contra hidle
    have hempty := (h.idle (by simpa using hidle)).1
    rw [hsending] at hempty
    cases hempty
  cases hpending : st.pending with
  | some pending =>
    have hmap : st.map .flush = st.process pending := by
      simp [HeartbeatState.map, h.closed, hpending]
    obtain ⟨_, heq⟩ := next_eq_emit (s := s.encoderEnded 0 heartbeat result) h.group h.stopped hmap
    rw [hpending] at hordered hcovered
    rw [heq]
    refine Or.inl ⟨_, ⟨rfl, h.stopped, h.closed, h.called, h.callback,
      fun _ => ⟨pending, by simp [emit, encoderEnded, hsending]⟩, by simp, ?_, ?_⟩, fun _ _ => rfl, by simp⟩
    · simpa [emit, encoderEnded] using hordered
    · simpa [emit, target, encoderEnded] using hcovered
  | none =>
    rw [hpending] at hcovered
    have hcallback := h.callback
    cases hcompletion : s.completion with
    | some c =>
      rw [hcompletion] at hcallback
      have hmap : st.map .flush = HeartbeatState.complete c.callback := by
        simp [HeartbeatState.map, h.closed, hpending, hcallback]
      obtain ⟨_, heq⟩ := next_eq_emit (s := s.encoderEnded 0 heartbeat result) h.group h.stopped hmap
      rw [heq]
      refine Or.inr ⟨rfl, done_close (by simp [encoderEnded, hsending]) hcompletion h.called hsent ?_⟩
      simpa [target, encoderEnded] using hcovered
    | none =>
      rw [hcompletion] at hcallback
      have hmap : st.map .flush = ({ st with processing := false }, none) := by
        simp [HeartbeatState.map, h.closed, hpending, hcallback]
      obtain ⟨_, heq⟩ := next_eq_emit (s := s.encoderEnded 0 heartbeat result) h.group h.stopped hmap
      rw [heq]
      refine Or.inl ⟨_, ⟨rfl, h.stopped, h.closed, h.called, ?_, by simp,
        fun _ => ⟨by simp [emit, encoderEnded, hsending], hpending, hcompletion⟩, ?_, ?_⟩,
        by simp, fun _ => rfl⟩
      · simpa [emit, encoderEnded, hcompletion] using hcallback
      · simpa [emit, encoderEnded, hpending] using hsent
      · simpa [emit, target, encoderEnded, hpending] using hcovered

/-! ### Runs -/

lemma History.heartbeatEmitted (h : History s) {heartbeat : Heartbeat D}
    (hindex : heartbeat.index = s.emitted.length) : History (s.heartbeatEmitted heartbeat) where
  numbered := by
    simp only [HeartbeatStream.heartbeatEmitted, List.map_append, h.numbered, List.map_cons,
      List.map_nil, hindex, List.length_append, List.length_singleton, List.range_succ]
  accounted := h.accounted
  bounded c hc := by
    simpa [HeartbeatStream.heartbeatEmitted] using Nat.le_succ_of_le (h.bounded c hc)

lemma History.completed (h : History s) (flushRequired : Bool) (callback : K) :
    History (s.completed ⟨flushRequired, callback, s.emitted.length⟩) where
  numbered := h.numbered
  accounted := h.accounted
  bounded c hc := by
    cases hc
    exact le_refl _

lemma History.encoderEnded (h : History s) {heartbeat : Heartbeat D} (hsending : s.sending = [heartbeat])
    (result : Except JsError Payload) : History (s.encoderEnded 0 heartbeat result) where
  numbered := h.numbered
  accounted := by
    have haccounted := h.accounted
    simpa [HeartbeatStream.encoderEnded, hsending] using haccounted
  bounded := h.bounded

/-- After the callback no encoder ends any more, and rogue heartbeats are ignored. -/
lemma Done.step {input : ActivityInput D K} (h : Done s) (hhistory : History s)
    (hcreated : s.created = true) (hstep : s.step input = some t) :
    History t ∧ t.created = true ∧ Done t ∧ input.isEncoded = false := by
  obtain ⟨c, hcompletion, hcalled⟩ := h.called
  cases input with
  | create => simp [HeartbeatStream.step, hcreated] at hstep
  | heartbeat details =>
    simp only [HeartbeatStream.step, hcreated, Bool.not_true, Bool.false_eq_true, if_false,
      Option.some.injEq] at hstep
    subst hstep
    have hemitted : Done (s.heartbeatEmitted ⟨s.emitted.length, details⟩) := by
      refine ⟨h.group, h.sending, h.called, h.ordered.trans (List.sublist_append_left _ _), ?_⟩
      have hcovered := h.covered
      simpa [target, HeartbeatStream.heartbeatEmitted, hcompletion] using hcovered
    exact ⟨(hhistory.heartbeatEmitted rfl).next _, (next_frame _).1.trans hcreated,
      hemitted.next_heartbeat _, rfl⟩
  | completion flushRequired callback => simp [HeartbeatStream.step, hcompletion] at hstep
  | encoded encoder result => simp [HeartbeatStream.step, h.sending] at hstep
  | returned =>
    simp only [HeartbeatStream.step] at hstep
    split at hstep
    · cases hstep
    · cases hstep
      exact ⟨History.closeGroup ⟨hhistory.numbered, hhistory.accounted, hhistory.bounded⟩,
        closeGroup_frame.1.trans hcreated,
        Done.closeGroup ⟨h.group, h.sending, h.called, h.ordered, h.covered⟩, rfl⟩

lemma Open.encoder_eq (h : Open s st) {encoder : ℕ} {heartbeat : Heartbeat D}
    (hencoder : s.sending[encoder]? = some heartbeat) : s.sending = [heartbeat] ∧ encoder = 0 := by
  cases hprocessing : st.processing with
  | true =>
    obtain ⟨heartbeat', hsending⟩ := h.busy hprocessing
    rw [hsending] at hencoder ⊢
    cases encoder with
    | zero => exact ⟨by simpa using hencoder, rfl⟩
    | succ n => cases hencoder
  | false =>
    rw [(h.idle hprocessing).1] at hencoder
    cases hencoder

lemma Open.returned (h : Open s st) : Open { s with returning := s.returning - 1 }.closeGroup st := by
  rw [closeGroup_of_not_stopped (s := { s with returning := s.returning - 1 }) h.stopped]
  exact ⟨h.group, h.stopped, h.closed, h.called, h.callback, h.busy, h.idle, h.ordered, h.covered⟩

lemma Open.step {input : ActivityInput D K} (h : Open s st) (hhistory : History s)
    (hcreated : s.created = true) (hstep : s.step input = some t) :
    History t ∧ t.created = true ∧ ((∃ st', Open t st') ∨ Done t) := by
  cases input with
  | create => simp [HeartbeatStream.step, hcreated] at hstep
  | heartbeat details =>
    simp only [HeartbeatStream.step, hcreated, Bool.not_true, Bool.false_eq_true, if_false,
      Option.some.injEq] at hstep
    subst hstep
    exact ⟨(hhistory.heartbeatEmitted rfl).next _, (next_frame _).1.trans hcreated,
      Or.inl (h.heartbeat hhistory rfl)⟩
  | completion flushRequired callback =>
    simp only [HeartbeatStream.step, hcreated, Bool.not_true, Bool.false_or] at hstep
    split at hstep
    · cases hstep
    · rename_i hnone
      cases hstep
      exact ⟨(hhistory.completed flushRequired callback).next _, (next_frame _).1.trans hcreated,
        h.completion (by simpa using hnone) flushRequired callback⟩
  | encoded encoder result =>
    simp only [HeartbeatStream.step] at hstep
    split at hstep
    · cases hstep
    · rename_i heartbeat hencoder
      cases hstep
      obtain ⟨hsending, rfl⟩ := h.encoder_eq hencoder
      refine ⟨(hhistory.encoderEnded hsending result).next _, (next_frame _).1.trans hcreated, ?_⟩
      rcases h.flush hsending result with ⟨st', hopen, -⟩ | ⟨-, hdone⟩
      · exact Or.inl ⟨st', hopen⟩
      · exact Or.inr hdone
  | returned =>
    simp only [HeartbeatStream.step] at hstep
    split at hstep
    · cases hstep
    · cases hstep
      exact ⟨History.closeGroup ⟨hhistory.numbered, hhistory.accounted, hhistory.bounded⟩,
        closeGroup_frame.1.trans hcreated, Or.inl ⟨st, h.returned⟩⟩

lemma inv_initial : Inv (initial : HeartbeatStream D K) where
  history := ⟨rfl, rfl, by simp⟩
  phase := Or.inl rfl

lemma Inv.step {input : ActivityInput D K} (h : Inv s) (hstep : s.step input = some t) : Inv t := by
  rcases h.phase with rfl | ⟨hcreated, ⟨st, hopen⟩ | hdone⟩
  · cases input with
    | create =>
      cases hstep
      refine ⟨History.next ⟨rfl, rfl, fun _ hc => by cases hc⟩ _,
        Or.inr ⟨rfl, Or.inl ⟨⟨false, false, none, none⟩, ?_⟩⟩⟩
      exact ⟨rfl, rfl, rfl, rfl, rfl, by simp, fun _ => ⟨rfl, rfl, rfl⟩, List.Sublist.refl [],
        fun hlt => absurd hlt (Nat.lt_irrefl 0)⟩
    | heartbeat details => cases hstep
    | completion flushRequired callback => cases hstep
    | encoded encoder result => cases hstep
    | returned => cases hstep
  · obtain ⟨hhistory, hcreated, hphase⟩ := hopen.step h.history hcreated hstep
    exact ⟨hhistory, Or.inr ⟨hcreated, hphase⟩⟩
  · obtain ⟨hhistory, hcreated, hphase, -⟩ := hdone.step h.history hcreated hstep
    exact ⟨hhistory, Or.inr ⟨hcreated, Or.inr hphase⟩⟩

lemma Done.countP_isEncoded (h : Done s) (hhistory : History s) (hcreated : s.created = true)
    {inputs : List (ActivityInput D K)} (hrun : Transition.run HeartbeatStream.step s inputs = some t) :
    inputs.countP ActivityInput.isEncoded = 0 := by
  induction inputs generalizing s with
  | nil => rfl
  | cons input inputs ih =>
    obtain ⟨u, hu, ht⟩ := Transition.run_cons_eq_some.mp hrun
    obtain ⟨hhistory, hcreated, hdone, hencoded⟩ := h.step hhistory hcreated hu
    rw [List.countP_cons, hencoded, ih hdone hhistory hcreated ht]
    rfl

/-- Without further heartbeats only the one that waits is still to be sent. -/
lemma Open.countP_isEncoded (h : Open s st) (hhistory : History s) (hcreated : s.created = true)
    (hcompletion : s.completion.isSome = true) {inputs : List (ActivityInput D K)}
    (hinputs : ∀ input ∈ inputs, input.isHeartbeat = false)
    (hrun : Transition.run HeartbeatStream.step s inputs = some t) :
    inputs.countP ActivityInput.isEncoded ≤ 1 + st.pending.toList.length := by
  induction inputs generalizing s st with
  | nil => exact Nat.zero_le _
  | cons input inputs ih =>
    obtain ⟨u, hu, ht⟩ := Transition.run_cons_eq_some.mp hrun
    have hrest : ∀ input ∈ inputs, input.isHeartbeat = false := fun input hinput =>
      hinputs input (List.mem_cons_of_mem _ hinput)
    obtain ⟨hhistory', hcreated', -⟩ := h.step hhistory hcreated hu
    cases input with
    | create => simp [HeartbeatStream.step, hcreated] at hu
    | heartbeat details => exact absurd (hinputs _ List.mem_cons_self) (by simp [ActivityInput.isHeartbeat])
    | completion flushRequired callback => simp [HeartbeatStream.step, hcompletion] at hu
    | encoded encoder result =>
      simp only [HeartbeatStream.step] at hu
      split at hu
      · cases hu
      · rename_i heartbeat hencoder
        cases hu
        obtain ⟨hsending, rfl⟩ := h.encoder_eq hencoder
        rw [List.countP_cons_of_pos rfl]
        rcases h.flush hsending result with ⟨st', hopen, hsent, hnone⟩ | ⟨-, hdone⟩
        · cases hpending : st.pending with
          | none => simp [hnone hpending] at hcompletion
          | some pending =>
            have hcompletion' : ((s.encoderEnded 0 heartbeat result).next .flush).completion.isSome = true := by
              rw [(next_frame _).2]
              exact hcompletion
            have hle := ih hopen hhistory' hcreated' hcompletion' hrest ht
            rw [hsent pending hpending] at hle
            exact Nat.succ_le_succ hle
        · rw [hdone.countP_isEncoded hhistory' hcreated' ht]
          exact Nat.le_add_right _ _
    | returned =>
      simp only [HeartbeatStream.step] at hu
      split at hu
      · cases hu
      · cases hu
        rw [List.countP_cons_of_neg (by simp [ActivityInput.isEncoded])]
        refine ih h.returned hhistory' hcreated' ?_ hrest ht
        rw [closeGroup_frame.2]
        exact hcompletion

/-- When nothing is being sent or waits, the heartbeats sent are those processed. -/
lemma Inv.ok (h : Inv s) : HeartbeatsOk s := by
  have hnumbered := h.history.numbered
  have haccounted := h.history.accounted
  rcases h.phase with rfl | ⟨hcreated, ⟨st, hopen⟩ | hdone⟩
  · exact ⟨hnumbered, Nat.zero_le _, List.Sublist.refl _, haccounted, fun _ => rfl, by simp, by simp,
      fun _ => rfl, by simp, by simp⟩
  · have hcalled := hopen.called
    refine ⟨hnumbered, ?_, (List.sublist_append_left _ _).trans hopen.ordered, haccounted,
      fun _ => hcalled, fun c _ => Or.inl hcalled, fun c hc hsending => ?_, fun hne => absurd hcalled hne,
      fun c _ _ _ hne => absurd hcalled hne, fun hcompletion inputs t hrun hinputs => ?_⟩
    · cases hprocessing : st.processing with
      | true =>
        obtain ⟨heartbeat, hsending⟩ := hopen.busy hprocessing
        simp [hsending]
      | false => simp [(hopen.idle hprocessing).1]
    · cases hprocessing : st.processing with
      | true =>
        obtain ⟨heartbeat, hbusy⟩ := hopen.busy hprocessing
        simp [hbusy] at hsending
      | false => simp [(hopen.idle hprocessing).2.2] at hc
    · refine (hopen.countP_isEncoded h.history hcreated hcompletion hinputs hrun).trans ?_
      cases st.pending <;> simp
  · obtain ⟨c, hcompletion, hcalled⟩ := hdone.called
    rw [hdone.sending, List.append_nil] at haccounted
    refine ⟨hnumbered, by simp [hdone.sending], hdone.ordered, by simp [hdone.sending, haccounted],
      fun hnone => ?_, fun c' hc' => ?_, fun c' hc' _ => ?_, fun _ => hdone.sending,
      fun c' hc' hflush hpos _ => ?_, fun _ inputs t hrun _ => ?_⟩
    · simp [hnone] at hcompletion
    · rw [hcompletion] at hc'
      cases hc'
      exact Or.inr hcalled
    · rw [hcompletion] at hc'
      cases hc'
      exact hcalled
    · have htarget : s.target = c'.emittedBefore := by simp [target, hc', hflush]
      obtain ⟨heartbeat, hmem, hle⟩ := hdone.covered (htarget ▸ hpos)
      rw [← haccounted, List.mem_map] at hmem
      obtain ⟨p, hp, rfl⟩ := hmem
      exact ⟨p, hp, htarget ▸ hle⟩
    · rw [hdone.countP_isEncoded h.history hcreated hrun]
      exact Nat.zero_le _

/-- A failed activity with two heartbeats and a rogue one, beside another activity. -/
def failedActivity : List (String × ActivityInput ℕ String) :=
  [("a", .create), ("a", .heartbeat 1), ("b", .create), ("b", .heartbeat 7), ("a", .heartbeat 2),
    ("a", .completion true "failed"), ("a", .encoded 0 (.ok ⟨[], []⟩)), ("a", .returned),
    ("a", .encoded 0 (.error .undefined)), ("a", .returned), ("a", .heartbeat 3)]

end HeartbeatStream

end TemporalSdk
