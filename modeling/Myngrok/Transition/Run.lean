import Mathlib.Data.List.Induction
import Mathlib.Tactic.Common

namespace transition

variable {State Event : Type}

/-- The state after a list of events, or `none` once an event is not enabled. All nondeterminism of a system is in the
    choice of its events. -/
def run (step : State → Event → Option State) (start : State) (events : List Event) : Option State :=
  events.foldlM step start

variable {step : State → Event → Option State} {start final state : State} {events first second : List Event}
  {P : List Event → State → Prop} {Allowed : State → Event → Prop}

@[simp] theorem run_nil : run step start [] = some start := rfl

theorem run_cons (e : Event) (events : List Event) :
    run step start (e :: events) = (step start e).bind fun next => run step next events := rfl

theorem run_append (first second : List Event) :
    run step start (first ++ second) = (run step start first).bind fun next => run step next second :=
  List.foldlM_append

theorem run_concat_eq_some {e : Event} :
    run step start (events ++ [e]) = some final ↔
      ∃ state, run step start events = some state ∧ step state e = some final := by
  rw [run_append, Option.bind_eq_some_iff]
  simp [run_cons]

theorem run_trans (hfirst : run step start first = some state) (hsecond : run step state second = some final) :
    run step start (first ++ second) = some final := by
  rw [run_append, hfirst]
  exact hsecond

/-- What is seen of a run through `label`, one event later. -/
theorem filterMap_concat {Label : Type} (label : Event → Option Label) (events : List Event) (e : Event) :
    (events ++ [e]).filterMap label = events.filterMap label ++ (label e).toList := by
  rw [List.filterMap_append]
  cases hlabel : label e <;> simp [hlabel]

/-- A prefix of a run is a run. -/
theorem exists_run_of_append (h : run step start (first ++ second) = some final) :
    ∃ state, run step start first = some state ∧ run step state second = some final := by
  rw [run_append] at h
  exact Option.bind_eq_some_iff.mp h

/-- Invariants over whole runs, relating the events so far to the state they led to: one step at a time is enough. -/
theorem run_induction (hstart : P [] start)
    (hstep : ∀ events state e next, run step start events = some state → P events state →
      step state e = some next → P (events ++ [e]) next) (h : run step start events = some final) : P events final := by
  induction events using List.reverseRecOn generalizing final with
  | nil =>
    cases h
    exact hstart
  | append_singleton events e ih =>
    obtain ⟨state, hrun, hlast⟩ := run_concat_eq_some.mp h
    exact hstep events state e final hrun (ih hrun) hlast

/-- Forward simulation: when every step of one system is matched by some steps of another, so is every run. What the
    steps are like may depend on the events before. -/
theorem run_simulation {State' Event' : Type} {step' : State' → Event' → Option State'} {start' : State'}
    {R : List Event → State → State' → Prop} {A : List Event → Event → Prop} (hstart : R [] start start')
    (hstep : ∀ events state e next events' state', run step start events = some state →
      run step' start' events' = some state' → R events state state' → A events e → step state e = some next →
      ∃ more next', run step' state' more = some next' ∧ R (events ++ [e]) next next')
    (hrun : run step start events = some final) (hallowed : ∀ i e, events[i]? = some e → A (events.take i) e) :
    ∃ events' final', run step' start' events' = some final' ∧ R events final final' := by
  refine run_induction (P := fun events final => (∀ i e, events[i]? = some e → A (events.take i) e) →
    ∃ events' final', run step' start' events' = some final' ∧ R events final final') ?_ ?_ hrun hallowed
  · exact fun _ => ⟨[], start', rfl, hstart⟩
  · intro events state e next hbefore ih hlast hallowed
    have hearlier : ∀ i e, events[i]? = some e → A (events.take i) e := by
      intro i e' he
      obtain ⟨hi, -⟩ := List.getElem?_eq_some_iff.mp he
      rw [← List.take_append_of_le_length (Nat.le_of_lt hi)]
      exact hallowed i e' ((List.getElem?_append_left hi).trans he)
    have hallowed_last : A events e := by
      have hat := hallowed events.length e List.getElem?_concat_length
      rwa [List.take_left] at hat
    obtain ⟨events', state', hrun', hR⟩ := ih hearlier
    obtain ⟨more, next', hmore, hnext⟩ := hstep events state e next events' state' hbefore hrun' hR hallowed_last hlast
    exact ⟨events' ++ more, next', run_trans hrun' hmore, hnext⟩

/-- What the steps of a run give out, in order. -/
def outputs {Output : Type} (step : State → Event → Option State) (output : State → Event → List Output) :
    State → List Event → List Output
  | _, [] => []
  | state, e :: events => output state e ++
    match step state e with
    | some next => outputs step output next events
    | none => []

theorem outputs_concat {Output : Type} {output : State → Event → List Output}
    (hrun : run step start events = some state) (e : Event) :
    outputs step output start (events ++ [e]) = outputs step output start events ++ output state e := by
  induction events generalizing start with
  | nil =>
    cases hrun
    cases hstep : step state e <;> simp [outputs, hstep]
  | cons first events ih =>
    obtain ⟨next, hstep, hrest⟩ := Option.bind_eq_some_iff.mp ((run_cons first events).symm.trans hrun)
    simp only [List.cons_append, outputs, hstep, List.append_assoc, ih hrest]

/-- Every step of a run meets a condition on its event and the state it is taken from. -/
def AllSteps (step : State → Event → Option State) (Allowed : State → Event → Prop) : State → List Event → Prop
  | _, [] => True
  | state, e :: events => Allowed state e ∧
    match step state e with
    | some next => AllSteps step Allowed next events
    | none => True

instance decidableAllSteps (step : State → Event → Option State) (Allowed : State → Event → Prop)
    [∀ state e, Decidable (Allowed state e)] :
    ∀ (state : State) (events : List Event), Decidable (AllSteps step Allowed state events)
  | _, [] => isTrue trivial
  | state, e :: events =>
    have : Decidable (match step state e with
        | some next => AllSteps step Allowed next events
        | none => True) :=
      match step state e with
      | some next => decidableAllSteps step Allowed next events
      | none => isTrue trivial
    inferInstanceAs (Decidable (_ ∧ _))

theorem AllSteps.append (h : AllSteps step Allowed start (first ++ second)) (hrun : run step start first = some state) :
    AllSteps step Allowed start first ∧ AllSteps step Allowed state second := by
  induction first generalizing start with
  | nil =>
    cases hrun
    exact ⟨trivial, h⟩
  | cons e rest ih =>
    rw [run_cons] at hrun
    obtain ⟨next, hstep, hrest⟩ := Option.bind_eq_some_iff.mp hrun
    obtain ⟨hallowed, hafter⟩ := h
    simp only [hstep] at hafter
    obtain ⟨hfirst, hsecond⟩ := ih hafter hrest
    refine ⟨⟨hallowed, ?_⟩, hsecond⟩
    simpa only [hstep] using hfirst

theorem AllSteps.mono {Allowed' : State → Event → Prop} (hmono : ∀ state e, Allowed state e → Allowed' state e)
    (h : AllSteps step Allowed start events) : AllSteps step Allowed' start events := by
  induction events generalizing start with
  | nil => trivial
  | cons e events ih =>
    obtain ⟨hallowed, hrest⟩ := h
    refine ⟨hmono start e hallowed, ?_⟩
    cases hstep : step start e with
    | none => trivial
    | some next =>
      simp only [hstep] at hrest
      exact ih hrest

/-- The induction rule for runs whose steps all meet a condition. -/
theorem run_induction_of_steps (hstart : P [] start)
    (hstep : ∀ events state e next, run step start events = some state → P events state →
      Allowed state e → step state e = some next → P (events ++ [e]) next) (h : run step start events = some final)
    (hallowed : AllSteps step Allowed start events) : P events final := by
  refine run_induction (P := fun events final => AllSteps step Allowed start events → P events final)
    (fun _ => hstart) ?_ h hallowed
  intro events state e next hrun ih hlast hallowed
  obtain ⟨hearlier, hfinal⟩ := hallowed.append hrun
  exact hstep events state e next hrun (ih hearlier) hfinal.1 hlast

/-- A goal is reached by steps of one kind, when from every state of an invariant one of them leads to a state of the
    invariant with a smaller measure. -/
theorem exists_run_of_measure {Inv Goal : State → Prop} {Kind : Event → Prop} (measure : State → Nat)
    (hprogress : ∀ state, Inv state → Goal state ∨ ∃ e next, Kind e ∧ step state e = some next ∧ Inv next ∧
      measure next < measure state) (hstart : Inv state) :
    ∃ events final, (∀ e ∈ events, Kind e) ∧ run step state events = some final ∧ Inv final ∧ Goal final := by
  induction hmeasure : measure state using Nat.strongRecOn generalizing state with
  | ind m ih =>
    obtain hgoal | ⟨e, next, hkind, hstep, hinv, hlt⟩ := hprogress state hstart
    · exact ⟨[], state, by simp, rfl, hstart, hgoal⟩
    · obtain ⟨events, final, hkinds, hrun, hfinal⟩ := ih _ (hmeasure ▸ hlt) hinv rfl
      refine ⟨e :: events, final, ?_, ?_, hfinal⟩
      · intro e' hmem
        rw [List.mem_cons] at hmem
        obtain rfl | hmem := hmem
        · exact hkind
        · exact hkinds e' hmem
      · rw [run_cons, hstep]
        exact hrun

/-- One system inside another: when every step of a run of the outer system is, seen through a projection, a step of the
    inner one or none at all, so is every run. -/
theorem run_project {State' Event' : Type} {step' : State' → Event' → Option State'} (project : State → State')
    (label : Event → Option Event')
    (hstep : ∀ events state e next, run step start events = some state → step state e = some next →
      (∀ e', label e = some e' → step' (project state) e' = some (project next)) ∧
      (label e = none → project next = project state)) (h : run step start events = some final) :
    run step' (project start) (events.filterMap label) = some (project final) := by
  apply run_induction
    (P := fun events final => run step' (project start) (events.filterMap label) = some (project final)) rfl _ h
  intro events state e next hrun ih hlast
  obtain ⟨hvisible, hsilent⟩ := hstep events state e next hrun hlast
  rw [List.filterMap_append]
  cases hlabel : label e with
  | none => simpa [hlabel, hsilent hlabel] using ih
  | some e' =>
    have hsingle : [e].filterMap label = [e'] := by simp [hlabel]
    rw [hsingle, run_concat_eq_some]
    exact ⟨project state, ih, hvisible e' hlabel⟩

end transition
