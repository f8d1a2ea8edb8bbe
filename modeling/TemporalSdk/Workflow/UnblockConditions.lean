import TemporalSdk.Library.LiveMap
import TemporalSdk.Library.Sweep
import TemporalSdk.Workflow.Conditions

/-!
# Unblocking conditions whose predicates have effects

A predicate is workflow code: it may change what later predicates read, and what it reads itself the next
time. The loop deletes from the map that it iterates over.
-/

namespace TemporalSdk

variable {σ : Type}

/-- `Condition`: a predicate with the variables after its evaluation, and the promise that `resolve`
settles -/
structure Condition (σ : Type) where
  fn : σ → Bool × σ
  resolve : ℕ

/-- `resolved` are the promises in the order of the calls of `resolve`, `evaluated` what the predicates were
evaluated to in the current pass, `passes` the same of each earlier pass. -/
structure Unblocking (σ : Type) where
  vars : σ
  blockedConditions : LiveMap Seq (Condition σ)
  numUnblocked : ℕ
  resolved : List ℕ
  evaluated : List (Seq × Bool)
  passes : List (List (Seq × Bool))

namespace Unblocking

def start (vars : σ) (blockedConditions : LiveMap Seq (Condition σ)) : Unblocking σ :=
  ⟨vars, blockedConditions, 0, [], [], []⟩

variable (s : Unblocking σ)

/-- The body of the loop over the blocked conditions -/
def turn (e : Seq × Condition σ) : Unblocking σ :=
  let (value, vars) := e.2.fn s.vars
  let s := { s with vars, evaluated := s.evaluated ++ [(e.1, value)] }
  if value then
    { s with
      resolved := s.resolved ++ [e.2.resolve]
      numUnblocked := s.numUnblocked + 1
      blockedConditions := s.blockedConditions.delete e.1 }
  else s

def pass (fuel : ℕ) : Option (Unblocking σ) :=
  (LiveMap.iterate blockedConditions turn fuel 0 { s with evaluated := [] }).map fun s =>
    { s with passes := s.passes ++ [s.evaluated] }

/-- `fuel` bounds the steps of each pass and the number of passes; where it does not suffice, there is no
result. -/
def tryUnblockConditions (fuel : ℕ) : Option (Unblocking σ) :=
  Sweep.untilDone (·.pass fuel) (fun s t => s.numUnblocked == t.numUnblocked) fuel s

/-! ### One turn -/

/-- The conditions that have been removed are those that have been resolved and counted. -/
def Accounted (blocked : LiveMap Seq (Condition σ)) (s : Unblocking σ) : Prop :=
  ∃ removed, (removed ++ s.blockedConditions.entries).Perm blocked.entries ∧
    s.numUnblocked = removed.length ∧ s.resolved = removed.map (·.2.resolve)

variable {s} {blocked : LiveMap Seq (Condition σ)}

/-- What a turn does: the predicate is false, and the condition stays, or it is true, and the condition is
resolved, counted and removed. -/
lemma turn_cases (s : Unblocking σ) (e : Seq × Condition σ) :
    (∃ vars, s.turn e = { s with vars, evaluated := s.evaluated ++ [(e.1, false)] }) ∨
      ∃ vars, s.turn e =
        { s with
          vars
          evaluated := s.evaluated ++ [(e.1, true)]
          resolved := s.resolved ++ [e.2.resolve]
          numUnblocked := s.numUnblocked + 1
          blockedConditions := s.blockedConditions.delete e.1 } := by
  cases hvalue : (e.2.fn s.vars).1 with
  | false => exact .inl ⟨(e.2.fn s.vars).2, by simp [turn, hvalue]⟩
  | true => exact .inr ⟨(e.2.fn s.vars).2, by simp [turn, hvalue]⟩

lemma turn_blockedConditions (s : Unblocking σ) (e : Seq × Condition σ) :
    (s.turn e).blockedConditions = s.blockedConditions ∨
      (s.turn e).blockedConditions = s.blockedConditions.delete e.1 := by
  rcases s.turn_cases e with ⟨vars, h⟩ | ⟨vars, h⟩
  · exact .inl (by rw [h])
  · exact .inr (by rw [h])

lemma Accounted.turn (h : Accounted blocked s) {e : Seq × Condition σ}
    (he : e ∈ s.blockedConditions.entries) : Accounted blocked (s.turn e) := by
  obtain ⟨removed, hperm, hnum, hresolved⟩ := h
  rcases s.turn_cases e with ⟨vars, h⟩ | ⟨vars, h⟩
  · rw [h]
    exact ⟨removed, hperm, hnum, hresolved⟩
  · rw [h]
    refine ⟨removed ++ [e], ?_, ?_, ?_⟩
    · rw [List.append_assoc, List.singleton_append]
      exact ((LiveMap.perm_delete he).append_left removed).trans hperm
    · simp [hnum]
    · simp [hresolved]

/-! ### One pass -/

/-- A pass as a loop over the entries that it starts with -/
def passed (s : Unblocking σ) : Unblocking σ :=
  let t := s.blockedConditions.entries.foldl turn { s with evaluated := [] }
  { t with passes := t.passes ++ [t.evaluated] }

/-- It is safe to delete elements during the iteration. -/
lemma pass_eq {fuel : ℕ} (hfuel : s.blockedConditions.records.length < fuel) :
    s.pass fuel = some s.passed := by
  rw [pass, LiveMap.iterate_eq turn_blockedConditions (by simpa using hfuel)]
  rfl

/-- A loop over conditions that are blocked, each of them once -/
lemma Accounted.foldl_turn (h : Accounted blocked s) {entries : List (Seq × Condition σ)}
    (hentries : ∀ e ∈ entries, e ∈ s.blockedConditions.entries)
    (hnodup : (entries.map Prod.fst).Nodup) : Accounted blocked (entries.foldl Unblocking.turn s) := by
  induction entries generalizing s with
  | nil => exact h
  | cons e entries ih =>
    rw [List.map_cons, List.nodup_cons] at hnodup
    rw [List.foldl_cons]
    refine ih (h.turn (hentries e List.mem_cons_self)) (fun e' he' => ?_) hnodup.2
    have hblocked := hentries e' (List.mem_cons_of_mem _ he')
    rcases s.turn_blockedConditions e with hsame | hdelete
    · rw [hsame]
      exact hblocked
    · have hne : e'.1 ≠ e.1 := fun heq => hnodup.1 (heq ▸ List.mem_map_of_mem he')
      rw [hdelete, LiveMap.entries_delete]
      exact List.mem_filter.mpr ⟨hblocked, decide_eq_true hne⟩

lemma Accounted.passed (h : Accounted blocked s) : Accounted blocked s.passed := by
  have hstart : Accounted blocked { s with evaluated := [] } := h
  exact hstart.foldl_turn (fun _ he => he) s.blockedConditions.nodupKeys

lemma Accounted.length (h : Accounted blocked s) :
    s.numUnblocked + s.blockedConditions.entries.length = blocked.entries.length := by
  obtain ⟨removed, hperm, hnum, -⟩ := h
  rw [hnum, ← List.length_append, hperm.length_eq]

/-- What a loop over conditions keeps -/
structure Loops (s t : Unblocking σ) : Prop where
  passes : t.passes = s.passes
  records : t.blockedConditions.records.length = s.blockedConditions.records.length
  numUnblocked : s.numUnblocked ≤ t.numUnblocked

lemma Loops.turn (s : Unblocking σ) (e : Seq × Condition σ) : Loops s (s.turn e) := by
  rcases s.turn_cases e with ⟨vars, h⟩ | ⟨vars, h⟩
  · rw [h]
    exact ⟨rfl, rfl, le_refl _⟩
  · rw [h]
    exact ⟨rfl, LiveMap.length_delete _ _, Nat.le_succ _⟩

lemma Loops.foldl_turn (s : Unblocking σ) (entries : List (Seq × Condition σ)) :
    Loops s (entries.foldl Unblocking.turn s) := by
  induction entries generalizing s with
  | nil => exact ⟨rfl, rfl, le_refl _⟩
  | cons e entries ih =>
    have hturn := Loops.turn s e
    have hrest := ih (s.turn e)
    exact ⟨hrest.passes.trans hturn.passes, hrest.records.trans hturn.records,
      hturn.numUnblocked.trans hrest.numUnblocked⟩

/-- Evaluated in turn, each with the variables that the one before has left, the predicates are false. -/
def AllFalse : σ → List (Seq × Condition σ) → σ → Prop
  | vars, [], vars' => vars' = vars
  | vars, e :: entries, vars' => (e.2.fn vars).1 = false ∧ AllFalse (e.2.fn vars).2 entries vars'

/-- Where nothing has been unblocked, every predicate was false. -/
lemma foldl_turn_of_eq {entries : List (Seq × Condition σ)}
    (h : (entries.foldl Unblocking.turn s).numUnblocked = s.numUnblocked) :
    (entries.foldl Unblocking.turn s).blockedConditions = s.blockedConditions ∧
      (entries.foldl Unblocking.turn s).evaluated =
        s.evaluated ++ entries.map (fun e => (e.1, false)) ∧
      AllFalse s.vars entries (entries.foldl Unblocking.turn s).vars := by
  induction entries generalizing s with
  | nil => simp [AllFalse]
  | cons e entries ih =>
    rw [List.foldl_cons] at h ⊢
    have hrest := (Loops.foldl_turn (s.turn e) entries).numUnblocked
    cases hvalue : (e.2.fn s.vars).1 with
    | false =>
      have hturn : s.turn e =
          { s with vars := (e.2.fn s.vars).2, evaluated := s.evaluated ++ [(e.1, false)] } := by
        simp [turn, hvalue]
      obtain ⟨hblocked, hevaluated, hfalse⟩ := ih (h.trans (by rw [hturn]))
      rw [hblocked, hevaluated]
      rw [hturn] at hfalse ⊢
      exact ⟨rfl, by simp, hvalue, hfalse⟩
    | true =>
      have hmore : (s.turn e).numUnblocked = s.numUnblocked + 1 := by simp [turn, hvalue]
      omega

lemma passed_passes (s : Unblocking σ) : s.passed.passes.length = s.passes.length + 1 := by
  have hpasses := (Loops.foldl_turn { s with evaluated := [] } s.blockedConditions.entries).passes
  simp [passed, hpasses]

lemma passed_loops (s : Unblocking σ) :
    s.passed.blockedConditions.records.length = s.blockedConditions.records.length ∧
      s.numUnblocked ≤ s.passed.numUnblocked :=
  have hloops := Loops.foldl_turn { s with evaluated := [] } s.blockedConditions.entries
  ⟨hloops.records, hloops.numUnblocked⟩

/-- The pass after which the loop ends -/
lemma passed_of_eq (h : s.numUnblocked = s.passed.numUnblocked) :
    s.passed.passes.getLast? = some (s.passed.blockedConditions.entries.map fun e => (e.1, false)) ∧
      AllFalse s.vars s.passed.blockedConditions.entries s.passed.vars := by
  obtain ⟨hblocked, hevaluated, hfalse⟩ := foldl_turn_of_eq (s := { s with evaluated := [] }) h.symm
  have hsame : s.passed.blockedConditions = s.blockedConditions := hblocked
  rw [hsame]
  refine ⟨?_, hfalse⟩
  rw [passed, List.getLast?_concat, hevaluated]
  rfl

/-! ### All passes -/

/-- `tryUnblockConditions` ends within one pass more than there are conditions. It has counted the
conditions that it has removed, resolved each of them once and nothing else, and the last pass has found
every condition that remains false: its predicate returned that, with the variables at its turn. -/
structure EndsAtFixpoint (blocked : LiveMap Seq (Condition σ)) (t : Unblocking σ) : Prop where
  passes : t.passes.length ≤ blocked.entries.length + 1
  accounted : Accounted blocked t
  lastPass : t.passes.getLast? = some (t.blockedConditions.entries.map fun e => (e.1, false))
  allFalse : ∃ vars, AllFalse vars t.blockedConditions.entries t.vars

/-- Before each pass, every earlier one has removed a condition. -/
structure PassInv (blocked : LiveMap Seq (Condition σ)) (s : Unblocking σ) : Prop where
  accounted : Accounted blocked s
  passes : s.passes.length ≤ s.numUnblocked
  records : s.blockedConditions.records.length = blocked.records.length

lemma PassInv.passed (h : PassInv blocked s) (hprogress : s.numUnblocked ≠ s.passed.numUnblocked) :
    PassInv blocked s.passed := by
  obtain ⟨hrecords, hle⟩ := s.passed_loops
  have hpasses := h.passes
  refine ⟨h.accounted.passed, ?_, hrecords.trans h.records⟩
  rw [passed_passes]
  omega

/-- The loop ends after a pass that starts with the invariant and has unblocked nothing. -/
lemma exists_lastPass (vars : σ) (blocked : LiveMap Seq (Condition σ)) :
    ∃ r, PassInv blocked r ∧ r.numUnblocked = r.passed.numUnblocked ∧
      ∀ fuel, blocked.records.length < fuel →
        (start vars blocked).tryUnblockConditions fuel = some r.passed := by
  have hstart : PassInv blocked (start vars blocked) := ⟨⟨[], by rfl, rfl, rfl⟩, le_refl _, rfl⟩
  have hnext : ∀ s, PassInv blocked s → (s.numUnblocked == s.passed.numUnblocked) = false →
      PassInv blocked s.passed ∧
        s.passed.blockedConditions.entries.length < s.blockedConditions.entries.length := by
    intro s hs hdone
    have hprogress := ne_of_beq_false hdone
    have hinv := hs.passed hprogress
    have hbefore := hs.accounted.length
    have hafter := hinv.accounted.length
    obtain ⟨-, hle⟩ := s.passed_loops
    exact ⟨hinv, by omega⟩
  obtain ⟨r, hr, hdone, hrun⟩ := Sweep.untilDone_eq
    (fun s t : Unblocking σ => s.numUnblocked == t.numUnblocked)
    (fun s => s.blockedConditions.entries.length) hnext hstart
  refine ⟨r, hr, eq_of_beq hdone, fun fuel hfuel => ?_⟩
  have hentries : blocked.entries.length ≤ blocked.records.length := List.reduceOption_length_le _
  exact hrun (·.pass fuel) fuel (fun s hs => pass_eq (hs.records ▸ hfuel)) (hentries.trans_lt hfuel)

theorem tryUnblockConditions_ends (vars : σ) (blocked : LiveMap Seq (Condition σ)) :
    ∃ t, (∀ fuel, blocked.records.length < fuel →
      (start vars blocked).tryUnblockConditions fuel = some t) ∧ EndsAtFixpoint blocked t := by
  obtain ⟨r, hr, hdone, hrun⟩ := exists_lastPass vars blocked
  obtain ⟨hlast, hfalse⟩ := passed_of_eq hdone
  refine ⟨r.passed, hrun, ?_, hr.accounted.passed, hlast, r.vars, hfalse⟩
  have hpasses := hr.passes
  have hlength := hr.accounted.length
  rw [passed_passes]
  omega

/-- The second predicate changes what the first one reads. -/
example : ((start 0 ⟨[some (1, ⟨fun n => (n == 1, n), 0⟩), some (2, ⟨fun n => (true, n + 1), 1⟩)],
      by decide⟩).tryUnblockConditions 3).map (fun t => (t.resolved, t.passes)) =
    some ([1, 0], [[(1, false), (2, true)], [(1, true)], []]) := rfl

/-! ### Predicates without effects -/

/-- A condition of the isolate, with its key -/
def ofBlocked (e : Σ _ : Seq, BlockedCondition σ) : Seq × Condition σ :=
  (e.1, ⟨fun vars => (e.2.fn vars, vars), e.2.promise⟩)

lemma reduceOption_ofBlocked (entries : List (Σ _ : Seq, BlockedCondition σ)) :
    (entries.map fun e => some (ofBlocked e)).reduceOption = entries.map ofBlocked := by
  rw [List.reduceOption, List.filterMap_map]
  exact congrFun (List.filterMap_eq_map (f := ofBlocked)) entries

def ofOrdered (m : OrderedMap Seq (BlockedCondition σ)) : LiveMap Seq (Condition σ) where
  records := m.entries.map fun e => some (ofBlocked e)
  nodupKeys := by
    rw [reduceOption_ofBlocked, List.map_map]
    exact m.nodupKeys

/-- The same conditions are blocked, on the same variables. -/
structure SameBlocked (s : ConditionState σ) (t : Unblocking σ) : Prop where
  vars : t.vars = s.vars
  entries : t.blockedConditions.entries = s.blockedConditions.entries.map ofBlocked

lemma SameBlocked.turn {s : ConditionState σ} {n : ℕ} {t : Unblocking σ} (h : SameBlocked s t)
    (e : Σ _ : Seq, BlockedCondition σ) :
    SameBlocked (ConditionState.unblock (s, n) e).1 (t.turn (ofBlocked e)) ∧
      (t.turn (ofBlocked e)).numUnblocked + n =
        t.numUnblocked + (ConditionState.unblock (s, n) e).2 := by
  cases hvalue : e.2.fn s.vars with
  | false =>
    have hturn : t.turn (ofBlocked e) = { t with evaluated := t.evaluated ++ [(e.1, false)] } := by
      simp [Unblocking.turn, ofBlocked, h.vars, hvalue]
    rw [ConditionState.unblock_of_false hvalue, hturn]
    exact ⟨⟨h.vars, h.entries⟩, rfl⟩
  | true =>
    obtain ⟨hvars, hblocked⟩ := ConditionState.settle_frame
      { s with blockedConditions := s.blockedConditions.erase e.1 } e.2.promise .resolved
    have hentries : (t.blockedConditions.delete e.1).entries =
        (s.blockedConditions.erase e.1).entries.map ofBlocked := by
      rw [LiveMap.entries_delete, h.entries, OrderedMap.entries_erase, List.filter_map]
      rfl
    rw [ConditionState.unblock_of_true hvalue]
    refine ⟨⟨?_, ?_⟩, ?_⟩
    · simp [Unblocking.turn, ofBlocked, h.vars, hvalue, hvars]
    · simpa [Unblocking.turn, ofBlocked, h.vars, hvalue, hblocked] using hentries
    · simp [Unblocking.turn, ofBlocked, h.vars, hvalue]
      omega

lemma SameBlocked.foldl_turn {s : ConditionState σ} {n : ℕ} {t : Unblocking σ} (h : SameBlocked s t)
    (entries : List (Σ _ : Seq, BlockedCondition σ)) :
    SameBlocked (entries.foldl ConditionState.unblock (s, n)).1
        ((entries.map ofBlocked).foldl Unblocking.turn t) ∧
      ((entries.map ofBlocked).foldl Unblocking.turn t).numUnblocked + n =
        t.numUnblocked + (entries.foldl ConditionState.unblock (s, n)).2 := by
  induction entries generalizing s n t with
  | nil => exact ⟨h, rfl⟩
  | cons e entries ih =>
    obtain ⟨hturn, hcount⟩ := h.turn (n := n) e
    obtain ⟨hrest, hsum⟩ := ih (n := (ConditionState.unblock (s, n) e).2) hturn
    rw [Prod.mk.eta] at hrest hsum
    refine ⟨hrest, ?_⟩
    simp only [List.map_cons, List.foldl_cons]
    omega

lemma SameBlocked.passed {s : ConditionState σ} {t : Unblocking σ} (h : SameBlocked s t) :
    SameBlocked s.unblockPass.1 t.passed ∧
      t.passed.numUnblocked = t.numUnblocked + s.unblockPass.2 := by
  have hstart : SameBlocked s { t with evaluated := [] } := ⟨h.vars, h.entries⟩
  obtain ⟨hsame, hcount⟩ := hstart.foldl_turn (n := 0) s.blockedConditions.entries
  rw [← h.entries] at hsame hcount
  exact ⟨⟨hsame.vars, hsame.entries⟩, hcount⟩

/-- On predicates that only read, this is what the isolate of `ConditionState` does. -/
theorem tryUnblockConditions_ofOrdered (s : ConditionState σ) :
    ∃ t, (start s.vars (ofOrdered s.blockedConditions)).tryUnblockConditions
        (s.blockedConditions.entries.length + 1) = some t ∧
      SameBlocked s.tryUnblockConditions.1 t ∧ t.numUnblocked = s.tryUnblockConditions.2 := by
  have hlength : (ofOrdered s.blockedConditions).records.length = s.blockedConditions.entries.length :=
    List.length_map _
  obtain ⟨r, -, -, hrun⟩ := exists_lastPass s.vars (ofOrdered s.blockedConditions)
  have ht := hrun (s.blockedConditions.entries.length + 1) (hlength ▸ Nat.lt_succ_self _)
  have hstart : SameBlocked s (start s.vars (ofOrdered s.blockedConditions)) :=
    ⟨rfl, reduceOption_ofBlocked _⟩
  have hpass : ∀ (s' : ConditionState σ) (t u : Unblocking σ),
      SameBlocked s' t ∧ t.blockedConditions.records.length = s.blockedConditions.entries.length →
      t.pass (s.blockedConditions.entries.length + 1) = some u →
      (SameBlocked s'.unblockPass.1 u ∧
        u.blockedConditions.records.length = s.blockedConditions.entries.length) ∧
        u.numUnblocked = t.numUnblocked + s'.unblockPass.2 := by
    rintro s' t u ⟨hsame, hrecords⟩ hu
    rw [pass_eq (hrecords ▸ Nat.lt_succ_self _)] at hu
    cases hu
    obtain ⟨hpassed, hcount⟩ := hsame.passed
    exact ⟨⟨hpassed, t.passed_loops.1.trans hrecords⟩, hcount⟩
  obtain ⟨⟨hsame, -⟩, hcount⟩ := Sweep.loop_of_untilDone hpass ⟨hstart, hlength⟩ ht
  exact ⟨r.passed, ht, hsame, hcount.trans (Nat.zero_add _)⟩

end Unblocking

end TemporalSdk
