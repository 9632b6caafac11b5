import Myngrok.Transition.Run

namespace transition

variable {State Event Output : Type}

/-- The events of a run that are the observer's own. -/
def purge (step : State → Event → Option State) (own : State → Event → Bool) (start : State) (events : List Event) :
    List Event :=
  outputs step (fun state e => if own state e then [e] else []) start events

/-- What the observer's own events give out. -/
def observed (step : State → Event → Option State) (own : State → Event → Bool) (output : State → Event → List Output)
    (start : State) (events : List Event) : List Output :=
  outputs step (fun state e => if own state e then output state e else []) start events

/-- Unwinding: the observer's own steps work on the observer's part of a state as on the state, and the steps of others
    leave that part alone. So the observer's events make a run by themselves, which ends in the observer's part, and the
    observer sees the same. -/
theorem run_purge {step : State → Event → Option State} {own : State → Event → Bool}
    {output : State → Event → List Output} {start : State} (part : State → State) (hstart : part start = start)
    (hown : ∀ before state e next, run step start before = some state → step state e = some next → own state e = true →
      step (part state) e = some (part next) ∧ own (part state) e = true ∧ output (part state) e = output state e)
    (hothers : ∀ before state e next, run step start before = some state → step state e = some next →
      own state e = false → part next = part state)
    {events : List Event} {final : State} (hrun : run step start events = some final) :
    run step start (purge step own start events) = some (part final) ∧
      observed step own output start (purge step own start events) = observed step own output start events := by
  apply run_induction (P := fun events final => run step start (purge step own start events) = some (part final) ∧
    observed step own output start (purge step own start events) = observed step own output start events) _ _ hrun
  · exact ⟨congrArg some hstart.symm, rfl⟩
  · intro events state e next hbefore ih hstep
    obtain ⟨halone, hsame⟩ := ih
    have hpurge : purge step own start (events ++ [e]) = purge step own start events ++ if own state e then [e] else [] :=
      outputs_concat hbefore e
    have hobserved : observed step own output start (events ++ [e]) =
        observed step own output start events ++ if own state e then output state e else [] := outputs_concat hbefore e
    cases hmine : own state e with
    | false =>
      rw [hpurge, hobserved, hmine, if_neg Bool.false_ne_true, if_neg Bool.false_ne_true, List.append_nil,
        List.append_nil, hothers _ _ _ _ hbefore hstep hmine]
      exact ⟨halone, hsame⟩
    | true =>
      obtain ⟨hpart, hpartOwn, houtput⟩ := hown _ _ _ _ hbefore hstep hmine
      have hlast : observed step own output start (purge step own start events ++ [e]) =
          observed step own output start (purge step own start events) ++
            if own (part state) e then output (part state) e else [] := outputs_concat halone e
      rw [hpurge, hobserved, hmine, if_pos rfl, if_pos rfl, hlast, hpartOwn, if_pos rfl, hsame, houtput]
      exact ⟨run_concat_eq_some.mpr ⟨_, halone, hpart⟩, rfl⟩

end transition
