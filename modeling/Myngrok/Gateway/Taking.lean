import Myngrok.Gateway.Completion

open golang transition

namespace myngrok.gateway

variable {Thread : Type} {ch : Chan} {t : Thread} {after events : List (CallEvent Thread)} {e : CallEvent Thread}
  {next s : Calls Thread}

/-- The critical section of a call of `t` that takes the entry of `id` under `sessionID`. -/
def CallEvent.TakesFor (t : Thread) (sessionID id : GoString) : CallEvent Thread → Prop
  | .deliverLocked u other _ => u = t ∧ other = id
  | .removeLocked u other _ => u = t ∧ other = sessionID
  | _ => False

/-- A `DeliverResponse` or `Remove` call of `t` took the entry registered with `ch`, and `after` is what happened
    since. -/
def TookEntry (events : List (CallEvent Thread)) (t : Thread) (ch : Chan) (after : List (CallEvent Thread)) : Prop :=
  ∃ before e sessionID id, events = before ++ e :: after ∧ Live before sessionID id ch ∧ e.TakesFor t sessionID id

theorem tookEntry_concat (h : TookEntry (events ++ [e]) t ch after) :
    (after = [] ∧ ∃ sessionID id, Live events sessionID id ch ∧ e.TakesFor t sessionID id) ∨
      ∃ earlier, after = earlier ++ [e] ∧ TookEntry events t ch earlier := by
  obtain ⟨before, taking, sessionID, id, hevents, hlive, htakes⟩ := h
  rcases List.eq_nil_or_concat after with rfl | ⟨earlier, last, rfl⟩
  · obtain ⟨rfl, he⟩ := List.append_inj' hevents rfl
    cases he
    exact .inl ⟨rfl, sessionID, id, hlive, htakes⟩
  · rw [List.concat_eq_append, ← List.cons_append, ← List.append_assoc] at hevents
    obtain ⟨rfl, he⟩ := List.append_inj' hevents rfl
    cases he
    exact .inr ⟨earlier, by simp, before, taking, sessionID, id, rfl, hlive, htakes⟩

variable [DecidableEq Thread]

/-- A call that still has to send on a channel neither begins nor returns. -/
theorem Calls.step_not_delimits (h : s.step e = some next) (hholds : s.Holds ch (.call t)) : ¬ e.Delimits t := by
  intro hdelimits
  cases Calls.step_cases h with
  | deliverFound response hthread | deliverMissing response hthread | deliverReturn hthread
  | removeLocked sessionID hthread | removeReturn hthread =>
    cases hdelimits
    rw [Calls.Holds, hthread] at hholds
    cases hholds
  | _ => cases hdelimits

/-- The goroutine whose critical section takes a live entry holds its channel. -/
theorem Calls.step_takesFor (h : s.step e = some next) {sessionID id : GoString}
    (hlookup : s.manager.pending.lookup id = some { sessionID, response := ch }) (htakes : e.TakesFor t sessionID id) :
    next.Holds ch (.call t) := by
  cases Calls.step_cases h with
  | deliverFound response hidle hfound =>
    obtain ⟨rfl, rfl⟩ := htakes
    rw [hlookup] at hfound
    cases hfound
    rw [Calls.Holds, Calls.setThread_threads, if_pos rfl]
    rfl
  | deliverMissing response hidle hmissing =>
    obtain ⟨rfl, rfl⟩ := htakes
    rw [hlookup] at hmissing
    cases hmissing
  | removeLocked other hidle horder =>
    obtain ⟨rfl, rfl⟩ := htakes
    rw [Calls.Holds, Calls.setThread_threads, if_pos rfl]
    exact (SessionManager.mem_removeLocked_cancelled _ _ horder ch).mpr ⟨id, hlookup⟩
  | _ => cases htakes

/-- A call that took an entry has sent on its channel, or still holds it and has not returned. -/
theorem Calls.sent_or_holds (h : run Calls.step Calls.start events = some s) (htook : TookEntry events t ch after) :
    sends ch events ≠ [] ∨ (s.Holds ch (.call t) ∧ ∀ e ∈ after, ¬ e.Delimits t) := by
  revert after
  apply run_induction (P := fun events s => ∀ after, TookEntry events t ch after →
    sends ch events ≠ [] ∨ (s.Holds ch (.call t) ∧ ∀ e ∈ after, ¬ e.Delimits t)) _ _ h
  · rintro after ⟨before, e, _, _, hevents, _⟩
    cases before <;> cases hevents
  · intro events state e next hrun ih hstep after htook
    have hsent : sends ch events ≠ [] ∨ e.sent ch ≠ none → sends ch (events ++ [e]) ≠ [] := by
      rintro hsome hnil
      rw [sends_concat, List.append_eq_nil_iff, Option.toList_eq_nil_iff] at hnil
      exact hsome.elim (fun hne => hne hnil.1) (fun hne => hne hnil.2)
    obtain ⟨rfl, sessionID, id, hlive, htakes⟩ | ⟨earlier, rfl, hearlier⟩ := tookEntry_concat htook
    · right
      have hlookup := (Calls.pending_iff_live hrun sessionID id ch).mpr hlive
      exact ⟨Calls.step_takesFor hstep hlookup htakes, fun _ he => by cases he⟩
    · obtain hold | ⟨hholds, hopen⟩ := ih earlier hearlier
      · exact .inl (hsent (.inl hold))
      · obtain hkept | hnew := Calls.step_call_holds hstep hholds
        · refine .inr ⟨hkept, fun e' he' => ?_⟩
          rcases List.mem_append.mp he' with he' | he'
          · exact hopen e' he'
          · rw [List.mem_singleton] at he'
            exact he' ▸ Calls.step_not_delimits hstep hholds
        · exact .inl (hsent (.inr hnew))

/-- Whoever still holds a channel took its entry, and a channel that was sent to had its entry taken. -/
theorem Calls.tookEntry (h : run Calls.step Calls.start events = some s)
    (hgone : (∃ t, s.Holds ch (.call t)) ∨ s.buffers ch ≠ []) : ∃ t after, TookEntry events t ch after := by
  have horigins := Calls.origins h
  obtain ⟨t, hholds⟩ | hbuffer := hgone
  · rw [Calls.Holds] at hholds
    cases hthread : s.threads t with
    | delivering other response =>
      rw [hthread] at hholds
      cases hholds
      obtain ⟨before, id, sessionID, middle, rfl, hlive, _⟩ := horigins.delivering hthread
      exact ⟨t, middle, before, _, sessionID, id, rfl, hlive, rfl, rfl⟩
    | removing cancelled =>
      rw [hthread] at hholds
      obtain ⟨before, sessionID, id, order, middle, rfl, hlive⟩ := horigins.removing hthread ch hholds
      exact ⟨t, middle, before, _, sessionID, id, rfl, hlive, rfl, rfl⟩
    | idle | returning =>
      rw [hthread] at hholds
      cases hholds
  · obtain ⟨response, hmem⟩ := List.exists_mem_of_ne_nil _ hbuffer
    have hsent : response ∈ sends ch events := by
      rw [(Calls.tokens h).buffer ch]
      exact List.mem_append_right _ hmem
    obtain ⟨before, t, id, sessionID, after, rfl, hlive⟩ | ⟨_, before, t, sessionID, id, order, after, rfl, hlive⟩ :=
      horigins.sent hsent
    · exact ⟨t, after, before, _, sessionID, id, rfl, hlive, rfl, rfl⟩
    · exact ⟨t, after, before, _, sessionID, id, rfl, hlive, rfl, rfl⟩

end myngrok.gateway
