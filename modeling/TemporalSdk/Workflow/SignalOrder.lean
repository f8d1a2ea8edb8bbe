import TemporalSdk.Workflow.Signals

/-!
# Signals are handed over once and in order

The loop of `dispatchBufferedSignals` can be entered again by the handlers that it calls, so
the invariant holds for any stack of calls: a buffered signal that has a handler is on its way
as long as some call of the loop has not returned. The signals and the handlers are read off the
inputs of the run.
-/

namespace TemporalSdk

variable {F : Type}

/-- The handler that the argument leaves where `current` was set. -/
def HandlerArg.after (current : Option F) : HandlerArg F → Option F
  | function fn => some fn
  | nullish => none
  | invalid _ => current

namespace SignalInput

/-- The signal of a job that has a name for it. -/
def namedSignal : SignalInput F → Option Signal
  | signal activation => if h : activation.name = "" then none else some ⟨activation, h⟩
  | _ => none

/-- The signals that arrive, in order. -/
def arrivals (inputs : List (SignalInput F)) : List Signal := inputs.filterMap namedSignal

def handlerAfter (name : String) (current : Option F) : SignalInput F → Option F
  | setHandler name' handler => if name' = name then handler.after current else current
  | _ => current

def defaultAfter (current : Option F) : SignalInput F → Option F
  | setDefaultSignalHandler handler => handler.after current
  | _ => current

/-- The handler that the calls of `setHandler` leave for the name. -/
def registered (name : String) (inputs : List (SignalInput F)) : Option F :=
  inputs.foldl (handlerAfter name) none

def registeredDefault (inputs : List (SignalInput F)) : Option F := inputs.foldl defaultAfter none

end SignalInput

open SignalInput

/-- The signal goes to its own handler, and to the default one only if it has none of its own. -/
def HandedSignal.GoesTo (call : HandedSignal F) (own default : Option F) : Prop :=
  if call.byDefault then own = none ∧ default = some call.handler else own = some call.handler

namespace SignalState

variable {s t : SignalState F} {arrived : List Signal} {inputs : List (SignalInput F)}

def handedSignals (s : SignalState F) : List Signal := s.handed.map HandedSignal.signal

/-- The signals handed to the default handler. -/
def handedByDefault (s : SignalState F) : List Signal :=
  (s.handed.filter HandedSignal.byDefault).map HandedSignal.signal

/-- The signal has a handler: its own or the default one. -/
def Available (s : SignalState F) (signal : Signal) : Prop :=
  signal.val.name ∈ s.signalHandlers ∨ s.defaultSignalHandler.isSome = true

def signalKey (signal : Signal) : String := signal.val.name

/-- Every signal that arrives is handed over once or is buffered, in order for each name; those
handed to the default handler and the buffered ones are in order across all names; each is handed to a
handler that was registered for it at some moment of the run; and with no call under way, no buffered
signal has a handler. -/
structure InOrder (inputs : List (SignalInput F)) (s : SignalState F) : Prop where
  fifo : Mailbox.Fifo signalKey s.handedSignals s.bufferedSignals (arrivals inputs)
  byDefault : (s.handedByDefault ++ s.bufferedSignals).Sublist (arrivals inputs)
  toHandler : ∀ call ∈ s.handed, ∃ before, before <+: inputs ∧
    call.GoesTo (registered call.signal.val.name before) (registeredDefault before)
  quiescent : s.stack = [] → ∀ signal ∈ s.bufferedSignals,
    registered signal.val.name inputs = none ∧ registeredDefault inputs = none

structure SignalsInv (arrived : List Signal) (s : SignalState F) : Prop where
  fifo : Mailbox.Fifo signalKey s.handedSignals s.bufferedSignals arrived
  byDefault : (s.handedByDefault ++ s.bufferedSignals).Sublist arrived
  dispatched : .dispatch ∈ s.stack ∨ ∀ signal ∈ s.bufferedSignals, ¬s.Available signal

lemma SignalsInv.init : SignalsInv [] (SignalState.init : SignalState F) where
  fifo := Mailbox.Fifo.nil
  byDefault := List.Sublist.refl _
  dispatched := Or.inr fun _ h => absurd h List.not_mem_nil

lemma SignalsInv.quiescent (hinv : SignalsInv arrived s) (hstack : s.stack = []) :
    ∀ signal ∈ s.bufferedSignals, ¬s.Available signal :=
  hinv.dispatched.resolve_left (by simp [hstack])

/-! ### Calls of handlers -/

@[simp] lemma handedSignals_call (signal : Signal) (fn : F) (byDefault : Bool) :
    (s.call signal fn byDefault).handedSignals = s.handedSignals ++ [signal] := by
  simp [handedSignals, call]

@[simp] lemma handedByDefault_call (signal : Signal) (fn : F) (byDefault : Bool) :
    (s.call signal fn byDefault).handedByDefault =
      s.handedByDefault ++ if byDefault then [signal] else [] := by
  cases byDefault <;> simp [handedByDefault, call]

/-- A signal that has a handler is handed to it, to the default one only if it has none of
its own. -/
lemma signalWorkflow_of_available (signal : Signal) (h : s.Available signal) :
    ∃ fn byDefault, s.signalWorkflow signal.val = s.call signal fn byDefault ∧
      (byDefault = true → signal.val.name ∉ s.signalHandlers ∧ s.defaultSignalHandler.isSome = true) := by
  obtain ⟨activation, hname⟩ := signal
  have hnot : ¬(activation.name ∉ s.signalHandlers ∧ s.defaultSignalHandler = none) := by
    rintro ⟨hkey, hnone⟩
    rcases h with h | h
    · exact hkey h
    · simp [hnone] at h
  rw [signalWorkflow, dif_neg hname, if_neg hnot]
  simp only [signalWorkflowNextHandler]
  cases hl : s.signalHandlers.lookup activation.name with
  | some fn => exact ⟨fn, false, by simp, by simp⟩
  | none =>
    have hkey : activation.name ∉ s.signalHandlers := AList.lookup_eq_none.mp hl
    cases hd : s.defaultSignalHandler with
    | some fn => exact ⟨fn, true, by simp, fun _ => ⟨hkey, by simp⟩⟩
    | none => exact absurd ⟨hkey, hd⟩ hnot

lemma signalWorkflow_of_not_available (signal : Signal) (h : ¬s.Available signal) :
    s.signalWorkflow signal.val = { s with bufferedSignals := s.bufferedSignals ++ [signal] } := by
  obtain ⟨activation, hname⟩ := signal
  have hnone : activation.name ∉ s.signalHandlers ∧ s.defaultSignalHandler = none := by
    simpa [Available] using h
  rw [signalWorkflow, dif_neg hname, if_pos hnone]

/-! ### The steps -/

/-- A buffered signal is handed over: the first of its name, and if it goes to the default
handler the first of all. -/
lemma SignalsInv.take (hinv : SignalsInv arrived s) {signal : Signal} {before after : List Signal}
    (hbuffer : s.bufferedSignals = before ++ signal :: after)
    (hbefore : ∀ y ∈ before, signalKey y ≠ signalKey signal) {fn : F} {byDefault : Bool}
    (hfirst : byDefault = true → before = []) :
    SignalsInv arrived ({ s with bufferedSignals := before ++ after }.call signal fn byDefault) where
  fifo := by
    rw [handedSignals_call]
    exact (hbuffer ▸ hinv.fifo).take hbefore
  byDefault := by
    refine List.Sublist.trans ?_ hinv.byDefault
    rw [handedByDefault_call, hbuffer]
    cases byDefault with
    | false =>
      simp only [Bool.false_eq_true, if_false, List.append_nil]
      exact ((List.sublist_cons_self signal after).append_left before).append_left s.handedByDefault
    | true =>
      rw [hfirst rfl]
      simp [call, handedByDefault]
  dispatched := by
    refine hinv.dispatched.imp (fun h => List.mem_cons_of_mem _ h) fun h y hy => ?_
    refine h y ?_
    rw [hbuffer]
    rcases List.mem_append.mp hy with hy | hy
    · exact List.mem_append_left _ hy
    · exact List.mem_append_right _ (List.mem_cons_of_mem _ hy)

lemma SignalsInv.dispatchBufferedSignals (hinv : SignalsInv arrived s) (rest : List SignalFrame) :
    SignalsInv arrived (s.dispatchBufferedSignals rest) := by
  have hreturn : (∀ signal ∈ s.bufferedSignals, ¬s.Available signal) →
      SignalsInv arrived { s with stack := rest } :=
    fun h => ⟨hinv.fifo, hinv.byDefault, Or.inr h⟩
  unfold SignalState.dispatchBufferedSignals
  split
  · rename_i hempty
    exact hreturn (by simp [hempty])
  · rename_i first others hbuffer
    split
    · rename_i hdefault
      obtain ⟨fn, byDefault, hcall, -⟩ := signalWorkflow_of_available
        (s := { s with bufferedSignals := others }) first (Or.inr hdefault)
      rw [hcall]
      have hsplit : s.bufferedSignals = [] ++ first :: others := hbuffer
      exact hinv.take hsplit (by simp) fun _ => rfl
    · rename_i hdefault
      split
      · rename_i hfind
        refine hreturn fun signal hmem havailable => ?_
        rw [List.find?_eq_none] at hfind
        rcases havailable with h | h
        · exact hfind signal hmem (by simpa using h)
        · exact hdefault h
      · rename_i signal hfind
        obtain ⟨hkey, before, after, hsplit, hbefore⟩ := List.find?_eq_some_iff_append.mp hfind
        have hkey' : signal.val.name ∈ s.signalHandlers := by simpa using hkey
        have hbefore' : ∀ y ∈ before, y.val.name ∉ s.signalHandlers := by
          intro y hy
          simpa using hbefore y hy
        have herase : s.bufferedSignals.eraseP (fun signal => signal.val.name ∈ s.signalHandlers) =
            before ++ after := by
          rw [hsplit, List.eraseP_append_right, List.eraseP_cons_of_pos (by simpa using hkey')]
          simpa using hbefore'
        obtain ⟨fn, byDefault, hcall, hown⟩ := signalWorkflow_of_available
          (s := { s with bufferedSignals := before ++ after }) signal (Or.inl hkey')
        rw [herase, hcall]
        refine hinv.take hsplit (fun y hy heq => ?_) fun h => absurd hkey' (hown h).1
        have hname : y.val.name = signal.val.name := heq
        exact hbefore' y hy (by rwa [hname])

lemma namedSignal_eq_none {activation : SignalActivation} (h : activation.name = "") :
    (SignalInput.signal activation : SignalInput F).namedSignal = none := by
  simp [namedSignal, h]

lemma namedSignal_eq_some (signal : Signal) :
    (SignalInput.signal signal.val : SignalInput F).namedSignal = some signal := by
  simp [namedSignal, signal.property]

lemma arrivals_concat (input : SignalInput F) :
    arrivals (inputs ++ [input]) = arrivals inputs ++ input.namedSignal.toList := by
  cases h : input.namedSignal <;> simp [arrivals, h]

lemma arrivals_concat_of_none {input : SignalInput F} (h : input.namedSignal = none) :
    arrivals (inputs ++ [input]) = arrivals inputs := by
  rw [arrivals_concat, h, Option.toList_none, List.append_nil]

lemma SignalsInv.signalWorkflow (hinv : SignalsInv (arrivals inputs) s) (hstack : s.stack = [])
    (activation : SignalActivation) :
    SignalsInv (arrivals (inputs ++ [.signal activation])) (s.signalWorkflow activation) := by
  have hquiet := hinv.quiescent hstack
  rw [arrivals_concat]
  by_cases hname : activation.name = ""
  · rw [namedSignal_eq_none hname, SignalState.signalWorkflow, dif_pos hname, Option.toList_none, List.append_nil]
    exact ⟨hinv.fifo, hinv.byDefault, hinv.dispatched⟩
  generalize hsignal : (⟨activation, hname⟩ : Signal) = signal
  obtain rfl : activation = signal.val := by rw [← hsignal]
  rw [namedSignal_eq_some, Option.toList_some]
  by_cases h : s.Available signal
  · obtain ⟨fn, byDefault, hcall, hdefault⟩ := signalWorkflow_of_available signal h
    rw [hcall]
    refine ⟨?_, ?_, Or.inr hquiet⟩
    · rw [handedSignals_call]
      refine hinv.fifo.handOver fun y hy heq => hquiet y hy ?_
      refine h.imp_left fun hkey => ?_
      exact (show y.val.name = signal.val.name from heq) ▸ hkey
    · rw [handedByDefault_call]
      cases byDefault with
      | false =>
        simp only [Bool.false_eq_true, if_false, List.append_nil]
        exact hinv.byDefault.trans (List.sublist_append_left _ _)
      | true =>
        have hempty : s.bufferedSignals = [] := by
          refine List.eq_nil_iff_forall_not_mem.mpr fun y hy => ?_
          exact hquiet y hy (Or.inr (hdefault rfl).2)
        have hsub := hinv.byDefault
        rw [hempty, List.append_nil] at hsub
        simp only [call, hempty, if_true, List.append_nil]
        exact hsub.append (List.Sublist.refl [signal])
  · rw [signalWorkflow_of_not_available signal h]
    refine ⟨hinv.fifo.enqueue signal, ?_, Or.inr fun y hy => ?_⟩
    · show (s.handedByDefault ++ (s.bufferedSignals ++ [signal])).Sublist (arrivals inputs ++ [signal])
      rw [← List.append_assoc]
      exact hinv.byDefault.append (List.Sublist.refl [signal])
    · rcases List.mem_append.mp hy with hy | hy
      · exact hquiet y hy
      · rw [List.mem_singleton.mp hy]
        exact h

/-- Handlers may be unset at any time, and setting one starts the loop. -/
lemma SignalsInv.of_handlers (hinv : SignalsInv arrived s) (hfifo : t.handed = s.handed)
    (hbuffer : t.bufferedSignals = s.bufferedSignals)
    (hstack : .dispatch ∈ t.stack ∨
      t.stack = s.stack ∧ ∀ signal, t.Available signal → s.Available signal) : SignalsInv arrived t := by
  refine ⟨?_, ?_, ?_⟩
  · simpa [handedSignals, hfifo, hbuffer] using hinv.fifo
  · simpa [handedByDefault, hfifo, hbuffer] using hinv.byDefault
  · rcases hstack with h | ⟨hs, havailable⟩
    · exact Or.inl h
    · rw [hs, hbuffer]
      exact hinv.dispatched.imp_right fun h signal hm hav => h signal hm (havailable signal hav)

lemma SignalsInv.setHandler (hinv : SignalsInv arrived s) (name : String) (handler : HandlerArg F) :
    SignalsInv arrived (s.setHandler name handler) := by
  cases handler with
  | function fn => exact hinv.of_handlers rfl rfl (Or.inl List.mem_cons_self)
  | nullish =>
    refine hinv.of_handlers rfl rfl (Or.inr ⟨rfl, fun signal => Or.imp_left fun h => ?_⟩)
    exact (AList.mem_erase.mp h).2
  | invalid typeof => exact hinv.of_handlers rfl rfl (Or.inr ⟨rfl, fun _ => id⟩)

lemma SignalsInv.setDefaultSignalHandler (hinv : SignalsInv arrived s) (handler : HandlerArg F) :
    SignalsInv arrived (s.setDefaultSignalHandler handler) := by
  cases handler with
  | function fn => exact hinv.of_handlers rfl rfl (Or.inl List.mem_cons_self)
  | nullish =>
    refine hinv.of_handlers rfl rfl (Or.inr ⟨rfl, fun signal h => Or.inl ?_⟩)
    exact h.resolve_right (by simp [SignalState.setDefaultSignalHandler])
  | invalid typeof => exact hinv.of_handlers rfl rfl (Or.inr ⟨rfl, fun _ => id⟩)

/-- What a step can do. -/
lemma step_cases {input : SignalInput F} (hstep : s.step input = some t) :
    (∃ activation, input = .signal activation ∧ s.stack = [] ∧ t = s.signalWorkflow activation) ∨
    (∃ name handler, input = .setHandler name handler ∧ t = s.setHandler name handler) ∨
    (∃ handler, input = .setDefaultSignalHandler handler ∧ t = s.setDefaultSignalHandler handler) ∨
    (∃ rest, input = .dispatch ∧ s.stack = .dispatch :: rest ∧ t = s.dispatchBufferedSignals rest) ∨
    ∃ rest, input = .handlerReturns ∧ s.stack = .handler :: rest ∧ t = { s with stack := rest } := by
  unfold SignalState.step at hstep
  split at hstep
  · rename_i activation
    split at hstep
    · rename_i hstack
      exact .inl ⟨activation, rfl, hstack, (Option.some.inj hstep).symm⟩
    · cases hstep
  · rename_i name handler
    split at hstep
    · exact .inr (.inl ⟨name, handler, rfl, (Option.some.inj hstep).symm⟩)
    · cases hstep
  · rename_i handler
    split at hstep
    · exact .inr (.inr (.inl ⟨handler, rfl, (Option.some.inj hstep).symm⟩))
    · cases hstep
  · split at hstep
    · rename_i rest hstack
      exact .inr (.inr (.inr (.inl ⟨rest, rfl, hstack, (Option.some.inj hstep).symm⟩)))
    · cases hstep
  · split at hstep
    · rename_i rest hstack
      exact .inr (.inr (.inr (.inr ⟨rest, rfl, hstack, (Option.some.inj hstep).symm⟩)))
    · cases hstep

lemma SignalsInv.step {input : SignalInput F} (hinv : SignalsInv (arrivals inputs) s)
    (hstep : s.step input = some t) : SignalsInv (arrivals (inputs ++ [input])) t := by
  obtain ⟨activation, rfl, hstack, rfl⟩ | ⟨name, handler, rfl, rfl⟩ | ⟨handler, rfl, rfl⟩ |
    ⟨rest, rfl, hstack, rfl⟩ | ⟨rest, rfl, hstack, rfl⟩ := step_cases hstep
  · exact hinv.signalWorkflow hstack activation
  · rw [arrivals_concat_of_none rfl]
    exact hinv.setHandler name handler
  · rw [arrivals_concat_of_none rfl]
    exact hinv.setDefaultSignalHandler handler
  · rw [arrivals_concat_of_none rfl]
    exact hinv.dispatchBufferedSignals rest
  · rw [arrivals_concat_of_none rfl]
    refine ⟨hinv.fifo, hinv.byDefault, hinv.dispatched.imp_left fun h => ?_⟩
    rw [hstack] at h
    exact (List.mem_cons.mp h).resolve_left (by simp)

/-! ### The handlers of the calls -/

/-- The maps of handlers are those of the inputs so far, and so was the handler of each call. -/
structure HandlersInv (inputs : List (SignalInput F)) (s : SignalState F) : Prop where
  own : ∀ name, s.signalHandlers.lookup name = registered name inputs
  default : s.defaultSignalHandler = registeredDefault inputs
  toHandler : ∀ call ∈ s.handed, ∃ before, before <+: inputs ∧
    call.GoesTo (registered call.signal.val.name before) (registeredDefault before)

lemma registered_concat (name : String) (input : SignalInput F) :
    registered name (inputs ++ [input]) = handlerAfter name (registered name inputs) input := by
  simp [registered]

lemma registeredDefault_concat (input : SignalInput F) :
    registeredDefault (inputs ++ [input]) = defaultAfter (registeredDefault inputs) input := by
  simp [registeredDefault]

/-- A step sets the handlers as its input says, and calls a handler that is set before it, if any. -/
lemma step_handlers {input : SignalInput F} (hstep : s.step input = some t) :
    (∀ name, t.signalHandlers.lookup name = handlerAfter name (s.signalHandlers.lookup name) input) ∧
    t.defaultSignalHandler = defaultAfter s.defaultSignalHandler input ∧
    (t.handed = s.handed ∨ ∃ call, t.handed = s.handed ++ [call] ∧
      call.GoesTo (s.signalHandlers.lookup call.signal.val.name) s.defaultSignalHandler) := by
  have hsignal : ∀ (u : SignalState F) activation,
      (u.signalWorkflow activation).signalHandlers = u.signalHandlers ∧
      (u.signalWorkflow activation).defaultSignalHandler = u.defaultSignalHandler ∧
      ((u.signalWorkflow activation).handed = u.handed ∨
        ∃ call, (u.signalWorkflow activation).handed = u.handed ++ [call] ∧
          call.GoesTo (u.signalHandlers.lookup call.signal.val.name) u.defaultSignalHandler) := by
    intro u activation
    unfold SignalState.signalWorkflow
    split
    · exact ⟨rfl, rfl, .inl rfl⟩
    split
    · exact ⟨rfl, rfl, .inl rfl⟩
    unfold signalWorkflowNextHandler
    split
    · rename_i fn hown
      exact ⟨rfl, rfl, .inr ⟨_, rfl, by simpa [HandedSignal.GoesTo] using hown⟩⟩
    · rename_i fn hown hdefault
      exact ⟨rfl, rfl, .inr ⟨_, rfl, by simpa [HandedSignal.GoesTo] using ⟨hown, hdefault⟩⟩⟩
    · exact ⟨rfl, rfl, .inl rfl⟩
  obtain ⟨activation, rfl, -, rfl⟩ | ⟨name, handler, rfl, rfl⟩ | ⟨handler, rfl, rfl⟩ |
    ⟨rest, rfl, -, rfl⟩ | ⟨rest, rfl, -, rfl⟩ := step_cases hstep
  · obtain ⟨hown, hdefault, hhanded⟩ := hsignal s activation
    exact ⟨fun name => by rw [hown]; rfl, hdefault, hhanded⟩
  · refine ⟨fun name' => ?_, by cases handler <;> rfl, .inl (by cases handler <;> rfl)⟩
    by_cases hname : name' = name
    · subst hname
      cases handler <;> simp [SignalState.setHandler, handlerAfter, HandlerArg.after, OrderedMap.lookup_set]
    · cases handler <;>
        simp [SignalState.setHandler, handlerAfter, OrderedMap.lookup_set, hname, Ne.symm hname]
  · exact ⟨fun name => by cases handler <;> rfl, by cases handler <;> rfl, .inl (by cases handler <;> rfl)⟩
  · unfold SignalState.dispatchBufferedSignals
    split
    · exact ⟨fun _ => rfl, rfl, .inl rfl⟩
    rename_i first others hbuffer
    split
    · obtain ⟨hown, hdefault, hhanded⟩ := hsignal { s with bufferedSignals := others } first.val
      exact ⟨fun name => by rw [hown]; rfl, hdefault, hhanded⟩
    split
    · exact ⟨fun _ => rfl, rfl, .inl rfl⟩
    rename_i signal hfind
    obtain ⟨hown, hdefault, hhanded⟩ := hsignal ({ s with
      bufferedSignals := s.bufferedSignals.eraseP fun signal => signal.val.name ∈ s.signalHandlers }) signal.val
    exact ⟨fun name => by rw [hown]; rfl, hdefault, hhanded⟩
  · exact ⟨fun _ => rfl, rfl, .inl rfl⟩

lemma HandlersInv.step {input : SignalInput F} (hinv : HandlersInv inputs s)
    (hstep : s.step input = some t) : HandlersInv (inputs ++ [input]) t := by
  obtain ⟨hown, hdefault, hhanded⟩ := step_handlers hstep
  have hprefix : inputs <+: inputs ++ [input] := List.prefix_append inputs [input]
  have hbefore : ∀ call ∈ s.handed, ∃ before, before <+: inputs ++ [input] ∧
      call.GoesTo (registered call.signal.val.name before) (registeredDefault before) := by
    intro call hcall
    obtain ⟨before, hp, hgoes⟩ := hinv.toHandler call hcall
    exact ⟨before, hp.trans hprefix, hgoes⟩
  refine ⟨fun name => ?_, ?_, ?_⟩
  · rw [hown, hinv.own, registered_concat]
  · rw [hdefault, hinv.default, registeredDefault_concat]
  · rcases hhanded with h | ⟨call, h, hgoes⟩
    · rw [h]
      exact hbefore
    · intro call' hcall
      rw [h, List.mem_append, List.mem_singleton] at hcall
      rcases hcall with hcall | rfl
      · exact hbefore call' hcall
      · rw [hinv.own, hinv.default] at hgoes
        exact ⟨inputs, hprefix, hgoes⟩

lemma HandlersInv.not_available (hinv : HandlersInv inputs s) {signal : Signal}
    (h : ¬s.Available signal) :
    registered signal.val.name inputs = none ∧ registeredDefault inputs = none := by
  rw [← hinv.own, ← hinv.default]
  rw [Available, not_or] at h
  exact ⟨AList.lookup_eq_none.mpr h.1, by simpa using h.2⟩

/-- No run loses, repeats or reorders signals, or leaves one buffered that has a handler. -/
theorem signals_inOrder (inputs : List (SignalInput F)) (s : SignalState F)
    (hrun : Transition.run SignalState.step SignalState.init inputs = some s) : s.InOrder inputs := by
  have hsignals : SignalsInv (arrivals inputs) s :=
    Transition.invariant_of_inputs (I := fun inputs => SignalsInv (arrivals inputs))
      (fun _ _ _ _ => SignalsInv.step) SignalsInv.init hrun
  have hhandlers : HandlersInv inputs s :=
    Transition.invariant_of_inputs (fun _ _ _ _ => HandlersInv.step)
      ⟨fun _ => rfl, rfl, fun _ h => absurd h List.not_mem_nil⟩ hrun
  exact ⟨hsignals.fifo, hsignals.byDefault, hhandlers.toHandler,
    fun hstack signal hmem => hhandlers.not_available (hsignals.quiescent hstack signal hmem)⟩

/-- The handler of `a` sets the default handler, which takes the first `b` and sets a handler of `b` that takes the
second one and unsets both: the last `b` waits. -/
def nestedDrains : List (SignalInput ℕ) :=
  [.signal ⟨some "b", []⟩, .signal ⟨none, []⟩, .signal ⟨some "a", []⟩, .signal ⟨some "b", []⟩,
    .setHandler "a" (.function 0), .dispatch,
    .setDefaultSignalHandler (.function 1), .dispatch,
    .setHandler "b" (.function 2), .dispatch,
    .setDefaultSignalHandler .nullish, .setHandler "b" .nullish, .handlerReturns, .dispatch,
    .handlerReturns, .dispatch, .handlerReturns, .dispatch, .signal ⟨some "b", []⟩]

theorem signals_inOrder_nestedDrains :
    ∃ s, Transition.run SignalState.step SignalState.init nestedDrains = some s ∧ s.InOrder nestedDrains ∧
      s.handed.map (fun call => (call.signal.val.name, call.handler, call.byDefault)) =
        [("a", 0, false), ("b", 1, true), ("b", 2, false)] ∧
      s.bufferedSignals.map signalKey = ["b"] ∧ s.stack = [] :=
  ⟨_, rfl, signals_inOrder nestedDrains _ rfl, rfl, rfl, rfl⟩

/-! ### The loop ends -/

/-- Each iteration hands a buffered signal over or returns, each handler returns once. -/
def work (s : SignalState F) : ℕ := 2 * s.bufferedSignals.length + s.stack.length

lemma work_dispatchBufferedSignals {rest : List SignalFrame} (hstack : s.stack = .dispatch :: rest) :
    (s.dispatchBufferedSignals rest).work + 1 = s.work := by
  have hreturn : ({ s with stack := rest } : SignalState F).work + 1 = s.work := by
    simp only [work, hstack, List.length_cons]
    omega
  have hcall : ∀ (buffer : List Signal) signal (fn : F) byDefault,
      buffer.length + 1 = s.bufferedSignals.length →
      (({ s with bufferedSignals := buffer } : SignalState F).call signal fn byDefault).work + 1 =
        s.work := by
    intro buffer signal fn byDefault hlen
    simp only [work, call, hstack, List.length_cons]
    omega
  unfold SignalState.dispatchBufferedSignals
  split
  · exact hreturn
  · rename_i first others hbuffer
    split
    · rename_i hdefault
      obtain ⟨fn, byDefault, hsignal, -⟩ := signalWorkflow_of_available
        (s := { s with bufferedSignals := others }) first (Or.inr hdefault)
      rw [hsignal]
      exact hcall others first fn byDefault (by simp [hbuffer])
    · split
      · exact hreturn
      · rename_i signal hfind
        have hkey : signal.val.name ∈ s.signalHandlers := by simpa using List.find?_some hfind
        obtain ⟨fn, byDefault, hsignal, -⟩ := signalWorkflow_of_available
          (s := { s with bufferedSignals :=
            s.bufferedSignals.eraseP fun signal => signal.val.name ∈ s.signalHandlers })
          signal (Or.inl hkey)
        rw [hsignal]
        have hmem := List.mem_of_find?_eq_some hfind
        refine hcall _ signal fn byDefault ?_
        rw [List.length_eraseP_of_mem hmem (by simpa using hkey)]
        have hpos := List.length_pos_of_mem hmem
        omega

lemma work_step {input : SignalInput F} (hsignal : input.isSignal = false)
    (hstep : s.step input = some t) :
    t.work + (if input.isSet then 0 else 1) ≤ s.work + (if input.isSet then 1 else 0) := by
  cases input with
  | signal activation => cases hsignal
  | setHandler name handler =>
    simp only [SignalState.step] at hstep
    split at hstep
    · cases hstep
      simp only [SignalInput.isSet, if_true, Nat.add_zero]
      cases handler with
      | function fn => exact le_rfl
      | nullish => exact Nat.le_succ _
      | invalid typeof => exact Nat.le_succ _
    · cases hstep
  | setDefaultSignalHandler handler =>
    simp only [SignalState.step] at hstep
    split at hstep
    · cases hstep
      simp only [SignalInput.isSet, if_true, Nat.add_zero]
      cases handler with
      | function fn => exact le_rfl
      | nullish => exact Nat.le_succ _
      | invalid typeof => exact Nat.le_succ _
    · cases hstep
  | dispatch =>
    simp only [SignalState.step] at hstep
    split at hstep
    · rename_i rest hstack
      cases hstep
      have hwork := work_dispatchBufferedSignals hstack
      simp only [SignalInput.isSet, Bool.false_eq_true, if_false]
      omega
    · cases hstep
  | handlerReturns =>
    simp only [SignalState.step] at hstep
    split at hstep
    · rename_i rest hstack
      cases hstep
      simp only [SignalInput.isSet, Bool.false_eq_true, if_false, work, hstack, List.length_cons]
      omega
    · cases hstep

/-- Between two jobs, the iterations and returns are bounded by the work at hand and the calls
that set handlers: the nested loops end if the handlers do. -/
theorem drain_bounded {inputs : List (SignalInput F)}
    (hsignal : ∀ input ∈ inputs, input.isSignal = false)
    (hrun : Transition.run SignalState.step s inputs = some t) :
    inputs.countP (fun input => !input.isSet) ≤ s.work + inputs.countP SignalInput.isSet := by
  induction inputs generalizing s with
  | nil => simp
  | cons input inputs ih =>
    obtain ⟨u, hu, ht⟩ := Transition.run_cons_eq_some.mp hrun
    have hstep := work_step (hsignal input (by simp)) hu
    have hrest := ih (fun i hi => hsignal i (by simp [hi])) ht
    cases hset : input.isSet <;>
      simp only [List.countP_cons, hset, Bool.not_false, Bool.not_true, if_true, if_false,
        Bool.false_eq_true] at hstep ⊢ <;> omega

/-- Two signals have arrived before the handler is set that takes both. -/
def twoBuffered : SignalState Unit :=
  (SignalState.init.signalWorkflow ⟨some "a", []⟩).signalWorkflow ⟨some "a", []⟩

def takeBoth : List (SignalInput Unit) :=
  [.setHandler "a" (.function ()), .dispatch, .handlerReturns, .dispatch, .handlerReturns, .dispatch]

theorem drain_bounded_takeBoth :
    takeBoth.countP (fun input => !input.isSet) ≤
      twoBuffered.work + takeBoth.countP SignalInput.isSet :=
  drain_bounded (s := twoBuffered) (by decide) rfl

end SignalState

end TemporalSdk
