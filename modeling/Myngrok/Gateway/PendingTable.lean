import Myngrok.Gateway.Calls

open golang transition

namespace myngrok.gateway

variable {Thread : Type} {id sessionID : GoString} {e : CallEvent Thread} {events : List (CallEvent Thread)}
  {next s : Calls Thread}

/-- The events that take the entry registered for `id` under `sessionID` out of the pending table. -/
def CallEvent.Takes (sessionID id : GoString) : CallEvent Thread → Prop
  | .registerRequest _ other _ => other = id
  | .cancelRequest other => other = id
  | .deliverLocked _ other _ => other = id
  | .removeLocked _ other _ => other = sessionID
  | _ => False

/-- `RegisterRequest(sessionID, id)` returned `ch`, and the entry has not been cancelled, replaced, delivered to or
    removed since. -/
def Live (events : List (CallEvent Thread)) (sessionID id : GoString) (ch : Chan) : Prop :=
  ∃ before after, events = before ++ .registerRequest sessionID id ch :: after ∧
    ∀ e ∈ after, ¬ e.Takes sessionID id

theorem not_live_nil {ch : Chan} : ¬ Live ([] : List (CallEvent Thread)) sessionID id ch := by
  rintro ⟨before, after, h, _⟩
  cases before <;> cases h

theorem live_concat {ch : Chan} :
    Live (events ++ [e]) sessionID id ch ↔
      e = .registerRequest sessionID id ch ∨ (Live events sessionID id ch ∧ ¬ e.Takes sessionID id) := by
  constructor
  · rintro ⟨before, after, h, hkept⟩
    rcases List.eq_nil_or_concat after with rfl | ⟨after, last, rfl⟩
    · left
      exact (List.append_inj' h rfl).2 |> List.singleton_inj.mp
    · right
      rw [List.concat_eq_append] at h hkept
      rw [← List.cons_append, ← List.append_assoc] at h
      obtain ⟨hevents, hlast⟩ := List.append_inj' h rfl
      cases hlast
      exact ⟨⟨before, after, hevents, fun e he => hkept e (by simp [he])⟩, hkept e (by simp)⟩
  · rintro (rfl | ⟨⟨before, after, rfl, hkept⟩, hlast⟩)
    · exact ⟨events, [], rfl, by simp⟩
    · refine ⟨before, after ++ [e], by simp, ?_⟩
      intro e' he'
      rcases List.mem_append.mp he' with he' | he'
      · exact hkept e' he'
      · rw [List.mem_singleton] at he'
        exact he' ▸ hlast

variable [DecidableEq Thread]

/-- How one action changes the pending table: a registration adds its entry, and an entry stays unless the action takes
    it. -/
theorem Calls.step_pending (h : s.step e = some next) (sessionID id : GoString) (ch : Chan) :
    next.manager.pending.lookup id = some { sessionID, response := ch } ↔
      e = .registerRequest sessionID id ch ∨
        (s.manager.pending.lookup id = some { sessionID, response := ch } ∧ ¬ e.Takes sessionID id) := by
  cases Calls.step_cases h with
  | registerRequest otherSession other =>
    simp only [SessionManager.registerRequest, Map.lookup_insert_eq, CallEvent.Takes]
    by_cases hid : id = other
    · subst hid
      simp [eq_comm]
    · simp [hid, Ne.symm hid, eq_comm]
  | cancelRequest other =>
    simp only [SessionManager.cancelRequest, Map.lookup_erase_eq, CallEvent.Takes]
    by_cases hid : id = other
    · simp [hid]
    · simp [hid, Ne.symm hid]
  | @deliverFound t other entry response hidle hlookup =>
    simp only [Calls.setThread_manager, SessionManager.cancelRequest, Map.lookup_erase_eq, CallEvent.Takes]
    by_cases hid : id = other
    · simp [hid]
    · simp [hid, Ne.symm hid]
  | @deliverMissing t other response hidle hlookup =>
    simp only [Calls.setThread_manager, CallEvent.Takes]
    by_cases hid : other = id
    · subst hid
      simp [hlookup]
    · simp [hid]
  | removeLocked otherSession hidle horder =>
    simp only [Calls.setThread_manager, CallEvent.Takes,
      SessionManager.removeLocked_pending _ otherSession horder]
    simp [eq_comm]
  | register session now => simp [CallEvent.Takes, SessionManager.register]
  | _ => simp [CallEvent.Takes]

/-- A session stays in the map until it is removed. -/
theorem Calls.step_sessions (h : s.step e = some next) (hmem : sessionID ∈ s.manager.sessions)
    (hkept : ∀ t order, e ≠ .removeLocked t sessionID order) : sessionID ∈ next.manager.sessions := by
  cases Calls.step_cases h with
  | @removeLocked t other order hidle horder =>
    have hne : sessionID ≠ other := fun heq => hkept t order (heq ▸ rfl)
    simp only [Calls.setThread_manager, SessionManager.removeLocked]
    split
    · exact AList.mem_erase.mpr ⟨hne, hmem⟩
    · exact hmem
  | register session now =>
    simp only [SessionManager.register]
    exact (AList.mem_insert _).mpr (.inr hmem)
  | _ => exact hmem

/-- A session comes into the map by `Register`, with the channel given there. -/
theorem Calls.step_sessions_lookup (h : s.step e = some next) {session : Session}
    (hlookup : next.manager.sessions.lookup sessionID = some session) :
    s.manager.sessions.lookup sessionID = some session ∨
      ∃ given now, e = .register given now ∧ given.id = sessionID ∧ session.outbound = given.outbound := by
  cases Calls.step_cases h with
  | @removeLocked t other order hidle horder =>
    left
    simp only [Calls.setThread_manager, SessionManager.removeLocked] at hlookup
    split at hlookup
    · rw [Map.lookup_erase_eq] at hlookup
      split at hlookup
      · cases hlookup
      · exact hlookup
    · exact hlookup
  | register given now =>
    obtain ⟨stored, hsessions, houtbound⟩ := s.manager.register_sessions given now
    rw [hsessions, Map.lookup_insert_eq] at hlookup
    split at hlookup
    · rename_i hid
      cases hlookup
      exact .inr ⟨given, now, rfl, hid.symm, houtbound⟩
    · exact .inl hlookup
  | _ => exact .inl hlookup

/-- The pending table holds exactly the live registrations. -/
theorem Calls.pending_iff_live (h : run Calls.step Calls.start events = some s) (sessionID id : GoString) (ch : Chan) :
    s.manager.pending.lookup id = some { sessionID, response := ch } ↔ Live events sessionID id ch := by
  revert sessionID id ch
  apply run_induction (P := fun events s => ∀ sessionID id ch,
    s.manager.pending.lookup id = some { sessionID, response := ch } ↔ Live events sessionID id ch) _ _ h
  · intro sessionID id ch
    constructor
    · intro hlookup
      cases hlookup
    · intro hlive
      exact absurd hlive not_live_nil
  · intro events state e next _ ih hstep sessionID id ch
    rw [Calls.step_pending hstep, live_concat, ih]

end myngrok.gateway
