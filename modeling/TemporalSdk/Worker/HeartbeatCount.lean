import Mathlib.Tactic.Linarith
import TemporalSdk.Worker.HeartbeatCompletion

/-!
# The number of heartbeating activities

`activityHeartbeat$` has a stream for each task token, and one counter for all of them: `create`
increments it, and each `close` that a stream puts out decrements it.
-/

namespace TemporalSdk

variable {κ D K : Type} [DecidableEq κ]

namespace HeartbeatStream

variable {s t : HeartbeatStream D K} {st : HeartbeatState D K}

/-- A stream is open from `create` until its completion callback is called. -/
def isOpen (s : HeartbeatStream D K) : Bool := s.created && s.called.isEmpty

/-- The input is a heartbeat that finds the stream closed, in a group that has not stopped. -/
def rogue (s : HeartbeatStream D K) (input : ActivityInput D K) : Bool :=
  input.isHeartbeat && !s.stopped && (s.group.getD .initial).closed

end HeartbeatStream

/-- The streams by task token, and `numHeartbeatingActivitiesSubject` -/
structure ActivityHeartbeats (κ D K : Type) where
  streams : κ → HeartbeatStream D K
  numHeartbeatingActivities : ℤ

namespace ActivityHeartbeats

def initial : ActivityHeartbeats κ D K := ⟨fun _ => .initial, 0⟩

/-- The counter changes by what the input adds to the part of its stream. -/
def step (s : ActivityHeartbeats κ D K) (input : κ × ActivityInput D K) :
    Option (ActivityHeartbeats κ D K) :=
  let (base64TaskToken, input) := input
  match (s.streams base64TaskToken).step input with
  | none => none
  | some stream => some
      { streams := Function.update s.streams base64TaskToken stream
        numHeartbeatingActivities := s.numHeartbeatingActivities +
          (stream.numHeartbeating - (s.streams base64TaskToken).numHeartbeating) }

/-- The counter is the number of streams that have been created and not yet closed. -/
def Exact (s : ActivityHeartbeats κ D K) : Prop :=
  s.numHeartbeatingActivities = Set.ncard {k | (s.streams k).isOpen = true} ∧
    0 ≤ s.numHeartbeatingActivities

/-- No heartbeat reaches a stream that is closed. -/
def NotRogue (s : ActivityHeartbeats κ D K) (input : κ × ActivityInput D K) : Prop :=
  (s.streams input.1).rogue input.2 = false

instance (s : ActivityHeartbeats κ D K) (input : κ × ActivityInput D K) : Decidable (s.NotRogue input) :=
  inferInstanceAs (Decidable (_ = _))

end ActivityHeartbeats

/-! ### One stream -/

namespace HeartbeatState

variable {D K : Type} {state : HeartbeatState D K}

lemma map_of_closed (h : state.closed = true) {input : HeartbeatInput D K} (hinput : input ≠ .create) :
    state.map input = (state, some (.close none)) := by
  cases input with
  | create => exact absurd rfl hinput
  | heartbeat heartbeat => simp [map, h]
  | flush => simp [map, h]
  | completion flushRequired callback => simp [map, h]

lemma map_ne_close_none (h : state.closed = false) (input : HeartbeatInput D K) :
    (state.map input).2 ≠ some (.close none) := by
  cases input with
  | create => simp [map]
  | heartbeat heartbeat =>
    simp only [map, h, Bool.false_eq_true, if_false]
    split
    · simp [storePending]
    · simp [process]
  | flush =>
    simp only [map, h, Bool.false_eq_true, if_false]
    split
    · simp [process]
    · simp [complete]
    · simp
  | completion flushRequired callback =>
    simp only [map, h, Bool.false_eq_true, if_false]
    split
    · simp
    · split
      · simp [complete]
      · split
        · simp [process]
        · simp [complete]

end HeartbeatState

namespace HeartbeatStream

variable {s t : HeartbeatStream D K} {st : HeartbeatState D K}

/-- What has been added to the counter, and the callbacks that have been called: a stream that
closes moves one from the first to the second. -/
def balance (s : HeartbeatStream D K) : ℤ := s.numHeartbeating + s.called.length

lemma balance_closeGroup : s.closeGroup.balance = s.balance := by
  rcases closeGroup_cases s with h | h
  · rw [h]
  · rw [h]
    rfl

lemma balance_emit {output : Option (HeartbeatOutput D K)} (h : output ≠ some (.close none)) :
    (s.emit output).balance = s.balance := by
  cases output with
  | none => rfl
  | some output =>
    cases output with
    | send heartbeat => rfl
    | close callback =>
      cases callback with
      | none => exact absurd rfl h
      | some callback =>
        simp only [emit, balance_closeGroup]
        simp only [balance, Option.toList_some, List.length_append, List.length_singleton,
          Nat.cast_add, Nat.cast_one]
        ring

lemma balance_emit_close_none : (s.emit (some (.close none))).balance = s.balance - 1 := by
  simp only [emit, balance_closeGroup]
  simp only [balance, Option.toList_none, List.append_nil]
  ring

/-- An input other than `create` changes the balance if it finds the stream closed. -/
lemma balance_next {input : HeartbeatInput D K} (hinput : input ≠ .create) :
    (s.next input).balance =
      s.balance - (!s.stopped && (s.group.getD .initial).closed).toInt := by
  cases hstopped : s.stopped with
  | true => simp [next_of_stopped hstopped]
  | false =>
    have hnext : s.next input = { s with
        group := some ((s.group.getD .initial).map input).1 }.emit ((s.group.getD .initial).map input).2 := by
      cases input with
      | create => exact absurd rfl hinput
      | heartbeat heartbeat => simp [next, hstopped]
      | flush => simp [next, hstopped]
      | completion flushRequired callback => simp [next, hstopped]
    rw [hnext]
    cases hclosed : (s.group.getD .initial).closed with
    | true =>
      rw [HeartbeatState.map_of_closed hclosed hinput, balance_emit_close_none]
      rfl
    | false =>
      rw [balance_emit (HeartbeatState.map_ne_close_none hclosed input)]
      simp [balance]

/-- For a stream of a run the open streams are those created, less those that were closed. -/
lemma Inv.toInt_isOpen (h : Inv s) : s.isOpen.toInt = s.created.toInt - s.called.length := by
  rcases h.phase with rfl | ⟨hcreated, ⟨st, hopen⟩ | hdone⟩
  · rfl
  · simp [isOpen, hcreated, hopen.called]
  · obtain ⟨c, -, hcalled⟩ := hdone.called
    simp [isOpen, hcreated, hcalled]

/-- The counter follows the stream, and loses one more with a rogue heartbeat. -/
lemma Inv.numHeartbeating_step {input : ActivityInput D K} (h : Inv s) (hstep : s.step input = some t) :
    t.numHeartbeating - s.numHeartbeating = t.isOpen.toInt - s.isOpen.toInt - (s.rogue input).toInt := by
  have hbalance : t.balance - t.created.toInt = s.balance - s.created.toInt - (s.rogue input).toInt := by
    cases input with
    | create =>
      rcases h.phase with rfl | ⟨hcreated, -⟩
      · cases hstep
        rfl
      · simp [HeartbeatStream.step, hcreated] at hstep
    | heartbeat details =>
      simp only [HeartbeatStream.step] at hstep
      split at hstep
      · cases hstep
      · cases hstep
        rw [balance_next (by simp), (next_frame _).1]
        simp only [rogue, ActivityInput.isHeartbeat, Bool.true_and]
        simp only [balance, heartbeatEmitted]
        ring
    | completion flushRequired callback =>
      simp only [HeartbeatStream.step] at hstep
      split at hstep
      · cases hstep
      · rename_i hnone
        cases hstep
        rw [balance_next (by simp), (next_frame _).1]
        have hopen : (!s.stopped && (s.group.getD .initial).closed) = false := by
          rcases h.phase with rfl | ⟨hcreated, ⟨st, hopen⟩ | hdone⟩
          · simp [initial] at hnone
          · simp [hopen.group, hopen.closed]
          · obtain ⟨c, hc, -⟩ := hdone.called
            simp [hc] at hnone
        simp only [completed, hopen]
        simp [rogue, ActivityInput.isHeartbeat, balance]
    | encoded encoder result =>
      simp only [HeartbeatStream.step] at hstep
      split at hstep
      · cases hstep
      · rename_i heartbeat hencoder
        cases hstep
        rw [balance_next (by simp), (next_frame _).1]
        have hopen : (!s.stopped && (s.group.getD .initial).closed) = false := by
          rcases h.phase with rfl | ⟨hcreated, ⟨st, hopen⟩ | hdone⟩
          · simp [initial] at hencoder
          · simp [hopen.group, hopen.closed]
          · simp [hdone.sending] at hencoder
        simp only [encoderEnded, hopen]
        simp [rogue, ActivityInput.isHeartbeat, balance]
    | returned =>
      simp only [HeartbeatStream.step] at hstep
      split at hstep
      · cases hstep
      · cases hstep
        rw [balance_closeGroup, closeGroup_frame.1]
        simp [rogue, ActivityInput.isHeartbeat, balance]
  rw [h.toInt_isOpen, (h.step hstep).toInt_isOpen]
  simp only [balance] at hbalance
  linarith

end HeartbeatStream

/-! ### All streams -/

namespace ActivityHeartbeats

open HeartbeatStream

variable {s t : ActivityHeartbeats κ D K}

structure CountInv (s : ActivityHeartbeats κ D K) : Prop where
  streams : ∀ k, (s.streams k).Inv
  finite : Set.Finite {k | (s.streams k).isOpen = true}

lemma step_eq_some {input : κ × ActivityInput D K} (h : s.step input = some t) :
    ∃ stream, (s.streams input.1).step input.2 = some stream ∧
      t.streams = Function.update s.streams input.1 stream ∧
      t.numHeartbeatingActivities = s.numHeartbeatingActivities +
        (stream.numHeartbeating - (s.streams input.1).numHeartbeating) := by
  obtain ⟨base64TaskToken, input⟩ := input
  cases hstream : (s.streams base64TaskToken).step input with
  | none =>
    simp only [ActivityHeartbeats.step, hstream] at h
    cases h
  | some stream =>
    simp only [ActivityHeartbeats.step, hstream] at h
    cases h
    exact ⟨stream, rfl, rfl, rfl⟩

/-- The counter stays the number of open streams but for rogue heartbeats. -/
lemma CountInv.step {input : κ × ActivityInput D K} (h : CountInv s) (hstep : s.step input = some t) :
    CountInv t ∧
      t.numHeartbeatingActivities - Set.ncard {k | (t.streams k).isOpen = true} =
        s.numHeartbeatingActivities - Set.ncard {k | (s.streams k).isOpen = true} -
          ((s.streams input.1).rogue input.2).toInt := by
  obtain ⟨stream, hstream, hstreams, hnum⟩ := step_eq_some hstep
  obtain ⟨hfinite, hcount⟩ := Keyed.ncard_update HeartbeatStream.isOpen s.streams input.1 stream h.finite
  have hchange := (h.streams input.1).numHeartbeating_step hstream
  rw [hnum, hstreams]
  refine ⟨⟨?_, ?_⟩, ?_⟩
  · rw [hstreams]
    intro k
    by_cases hk : k = input.1
    · subst hk
      rw [Function.update_self]
      exact (h.streams input.1).step hstream
    · rw [Function.update_of_ne hk]
      exact h.streams k
  · rw [hstreams]
    exact hfinite
  · rw [hcount]
    linarith

/-- The counter is exact throughout a run if and only if no heartbeat reaches a stream that is
closed. -/
theorem exact_iff_notRogue {inputs : List (κ × ActivityInput D K)}
    (h : Transition.run step initial inputs = some s) :
    Transition.Throughout step Exact initial inputs ↔
      Transition.Meets step NotRogue (initial : ActivityHeartbeats κ D K) inputs := by
  refine Transition.throughout_iff_meets (I := fun s => CountInv s ∧ Exact s) (fun s hs => hs.2)
    ?_ ?_ ?_ h
  · rintro s input t ⟨hinv, hexact, -⟩ hnot hstep
    obtain ⟨hinv', hcount⟩ := hinv.step hstep
    have hzero : ((s.streams input.1).rogue input.2).toInt = 0 := by rw [hnot, Bool.toInt_false]
    refine ⟨hinv', ?_⟩
    have heq : t.numHeartbeatingActivities = Set.ncard {k | (t.streams k).isOpen = true} := by
      linarith
    exact ⟨heq, by rw [heq]; exact Int.natCast_nonneg _⟩
  · rintro s input t ⟨hinv, hexact, -⟩ hnot hstep hexact'
    obtain ⟨-, hcount⟩ := hinv.step hstep
    rw [NotRogue, Bool.not_eq_false] at hnot
    have hone : ((s.streams input.1).rogue input.2).toInt = 1 := by rw [hnot, Bool.toInt_true]
    have hexact := hexact'.1
    linarith
  · have hempty : {k : κ | ((initial : ActivityHeartbeats κ D K).streams k).isOpen = true} = ∅ := by
      ext k
      simp [initial, HeartbeatStream.initial, isOpen]
    refine ⟨⟨fun _ => inv_initial, ?_⟩, ?_, le_refl _⟩
    · rw [hempty]
      exact Set.finite_empty
    · rw [hempty, Set.ncard_empty]
      rfl

/-- Two activities with a heartbeat, the first of which is completed. -/
theorem exact_iff_notRogue_twoActivities :
    Transition.Throughout step Exact (initial : ActivityHeartbeats ℕ ℕ ℕ)
      [(0, .create), (0, .heartbeat 5), (1, .create), (0, .completion false 7),
        (0, .encoded 0 (.error (.other "details"))), (0, .returned), (1, .heartbeat 6)] :=
  (exact_iff_notRogue rfl).mpr (by decide)

/-- An activity heartbeats after its completion: the counter is less than zero. -/
theorem exact_counterexample :
    ∃ s, Transition.run step (initial : ActivityHeartbeats ℕ ℕ ℕ)
        [(0, .create), (0, .completion false 7), (0, .heartbeat 5)] = some s ∧
      s.numHeartbeatingActivities = -1 ∧ ¬s.Exact :=
  ⟨_, rfl, rfl, fun h => absurd h.2 (by decide)⟩

end ActivityHeartbeats

end TemporalSdk
