import Myngrok.Gateway.PendingTable

open golang

namespace myngrok.gateway

variable {Thread : Type} {s next : Calls Thread} {ch : Chan} {t : Thread} {e : CallEvent Thread}
  {id sessionID : GoString}

/-- What an action sends on `ch`, if anything. -/
def CallEvent.sent (ch : Chan) : CallEvent Thread → Option Response
  | .deliverSend _ other response => if other = ch then some response else none
  | .removeSend _ other => if other = ch then some disconnected else none
  | _ => none

/-- All responses sent on `ch` in a run, in order. -/
def sends (ch : Chan) (events : List (CallEvent Thread)) : List Response :=
  events.filterMap (CallEvent.sent ch)

def CallEvent.received (ch : Chan) : CallEvent Thread → Option Response
  | .receive other response => if other = ch then some response else none
  | _ => none

/-- All responses read from `ch` in a run, in order. -/
def receives (ch : Chan) (events : List (CallEvent Thread)) : List Response :=
  events.filterMap (CallEvent.received ch)

theorem sends_concat (ch : Chan) (events : List (CallEvent Thread)) (e : CallEvent Thread) :
    sends ch (events ++ [e]) = sends ch events ++ (e.sent ch).toList := by
  rw [sends, List.filterMap_append]
  cases hsent : e.sent ch <;> simp [hsent, sends]

theorem receives_concat (ch : Chan) (events : List (CallEvent Thread)) (e : CallEvent Thread) :
    receives ch (events ++ [e]) = receives ch events ++ (e.received ch).toList := by
  rw [receives, List.filterMap_append]
  cases hreceived : e.received ch <;> simp [hreceived, receives]

/-- Who may still send on a channel: the table entry of a request ID, or the call of a goroutine that has taken the
    entry. -/
inductive Holder (Thread : Type) where
  | entry (id : GoString)
  | call (t : Thread)

/-- The channels a call in progress is still going to send on. -/
def CallState.Holds (ch : Chan) : CallState → Prop
  | .delivering other _ => other = ch
  | .removing cancelled => ch ∈ cancelled
  | _ => False

def Calls.Holds (s : Calls Thread) (ch : Chan) : Holder Thread → Prop
  | .entry id => ∃ sessionID, s.manager.pending.lookup id = some { sessionID, response := ch }
  | .call t => (s.threads t).Holds ch

variable [DecidableEq Thread]

theorem Calls.holds_setThread {u : Thread} {state : CallState} (h : (s.setThread u state).Holds ch (.call t)) :
    (t = u ∧ state.Holds ch) ∨ (t ≠ u ∧ s.Holds ch (.call t)) := by
  rw [Calls.Holds, Calls.setThread_threads] at h
  split at h
  · rename_i heq
    exact .inl ⟨heq, h⟩
  · rename_i hne
    exact .inr ⟨hne, h⟩

/-- A critical section hands the entry of `id` to the goroutine `t`. -/
def CallEvent.Acquires (t : Thread) (id : GoString) : CallEvent Thread → Prop
  | .deliverLocked u other _ => u = t ∧ other = id
  | .removeLocked u _ _ => u = t
  | _ => False

/-- How the right to send on a channel moves in one action: it stays, it comes into being with the channel, or it passes
    from the table to the goroutine whose critical section took the entry. -/
theorem Calls.step_holds (h : s.step e = some next) {holder : Holder Thread} (hholds : next.Holds ch holder) :
    s.Holds ch holder ∨
      (ch = s.made ∧ ∃ sessionID id, e = .registerRequest sessionID id ch ∧ holder = .entry id) ∨
      (∃ t id, holder = .call t ∧ e.Acquires t id ∧ s.Holds ch (.entry id) ∧ ¬ next.Holds ch (.entry id)) := by
  have hpending := fun id sessionID => Calls.step_pending h sessionID id ch
  cases holder with
  | entry id =>
    obtain ⟨sessionID, hlookup⟩ := hholds
    obtain he | ⟨hold, _⟩ := (hpending id sessionID).mp hlookup
    · subst he
      cases Calls.step_cases h
      exact .inr (.inl ⟨rfl, sessionID, id, rfl, rfl⟩)
    · exact .inl ⟨sessionID, hold⟩
  | call t =>
    cases Calls.step_cases h with
    | @deliverFound u id entry response hidle hlookup =>
      obtain ⟨rfl, hch⟩ | ⟨_, hold⟩ := Calls.holds_setThread hholds
      · cases hch
        refine .inr (.inr ⟨t, id, rfl, ⟨rfl, rfl⟩, ⟨entry.sessionID, hlookup⟩, ?_⟩)
        rintro ⟨sessionID, hnext⟩
        obtain he | ⟨_, hkept⟩ := (hpending id sessionID).mp hnext
        · cases he
        · exact hkept rfl
      · exact .inl hold
    | @removeLocked u sessionID order hidle horder =>
      obtain ⟨rfl, hmem⟩ | ⟨_, hold⟩ := Calls.holds_setThread hholds
      · obtain ⟨id, hlookup⟩ :=
          (SessionManager.mem_removeLocked_cancelled s.manager sessionID horder ch).mp hmem
        refine .inr (.inr ⟨t, id, rfl, rfl, ⟨sessionID, hlookup⟩, ?_⟩)
        rintro ⟨otherSession, hnext⟩
        obtain he | ⟨hold, hkept⟩ := (hpending id otherSession).mp hnext
        · cases he
        · rw [hlookup] at hold
          cases hold
          exact hkept rfl
      · exact .inl hold
    | @removeSend u other rest hthread hroom =>
      obtain ⟨rfl, hmem⟩ | ⟨_, hold⟩ := Calls.holds_setThread hholds
      · left
        rw [Calls.Holds, hthread]
        exact List.mem_cons_of_mem _ hmem
      · exact .inl hold
    | deliverMissing | deliverSend | deliverReturn | removeReturn =>
      obtain ⟨_, hnone⟩ | ⟨_, hold⟩ := Calls.holds_setThread hholds
      · cases hnone
      · exact .inl hold
    | registerRequest | cancelRequest | receive | register => exact .inl hholds

/-- An action that sends on `ch` belongs to a call that held `ch`, found room in the buffer, and gave the right to send
    up. -/
theorem Calls.step_sent (h : s.step e = some next) {response : Response} (hsent : e.sent ch = some response) :
    ∃ t, s.Holds ch (.call t) ∧ (s.buffers ch).length < Calls.responseCapacity ∧
      ((s.threads t = .delivering ch response ∧ next.threads t = .returning true) ∨
        (response = disconnected ∧
          ∃ rest, s.threads t = .removing (ch :: rest) ∧ next.threads t = .removing rest)) := by
  cases Calls.step_cases h with
  | @deliverSend t other sent hthread hroom =>
    simp only [CallEvent.sent] at hsent
    split at hsent <;> cases hsent
    rename_i hother
    subst hother
    refine ⟨t, ?_, hroom, .inl ⟨hthread, ?_⟩⟩
    · rw [Calls.Holds, hthread]
      rfl
    · rw [Calls.setThread_threads, if_pos rfl]
  | @removeSend t other rest hthread hroom =>
    simp only [CallEvent.sent] at hsent
    split at hsent <;> cases hsent
    rename_i hother
    subst hother
    refine ⟨t, ?_, hroom, .inr ⟨rfl, rest, hthread, ?_⟩⟩
    · rw [Calls.Holds, hthread]
      exact List.mem_cons_self
    · rw [Calls.setThread_threads, if_pos rfl]
  | _ => cases hsent

/-- A response for the request is still to come or to be read: its entry is in the table, a call holds its channel, or
    the channel holds a response. -/
def Calls.Owed (s : Calls Thread) (sessionID id : GoString) (ch : Chan) : Prop :=
  s.manager.pending.lookup id = some { sessionID, response := ch } ∨ (∃ t, s.Holds ch (.call t)) ∨
    s.buffers ch ≠ []

/-- A call that holds a channel keeps it until it has sent. -/
theorem Calls.step_call_holds (h : s.step e = some next) (hholds : s.Holds ch (.call t)) :
    next.Holds ch (.call t) ∨ e.sent ch ≠ none := by
  have hidle : ∀ {u}, s.threads u = .idle → u ≠ t := by
    rintro u hu rfl
    rw [Calls.Holds, hu] at hholds
    exact hholds
  cases Calls.step_cases h with
  | deliverFound response hthread | deliverMissing response hthread | removeLocked sessionID hthread =>
    left
    rw [Calls.Holds, Calls.setThread_threads, if_neg (hidle hthread).symm]
    exact hholds
  | @deliverSend u other response hthread hroom =>
    by_cases htu : t = u
    · subst htu
      rw [Calls.Holds, hthread] at hholds
      cases hholds
      right
      simp [CallEvent.sent]
    · left
      rw [Calls.Holds, Calls.setThread_threads, if_neg htu]
      exact hholds
  | @removeSend u other rest hthread hroom =>
    by_cases htu : t = u
    · subst htu
      rw [Calls.Holds, hthread] at hholds
      obtain rfl | hrest := List.mem_cons.mp hholds
      · right
        simp [CallEvent.sent]
      · left
        rw [Calls.Holds, Calls.setThread_threads, if_pos rfl]
        exact hrest
    · left
      rw [Calls.Holds, Calls.setThread_threads, if_neg htu]
      exact hholds
  | @deliverReturn u result hthread | @removeReturn u hthread =>
    have hne : t ≠ u := by
      rintro rfl
      rw [Calls.Holds, hthread] at hholds
      cases hholds
    left
    rw [Calls.Holds, Calls.setThread_threads, if_neg hne]
    exact hholds
  | registerRequest | cancelRequest | receive | register => exact .inl hholds

/-- An entry that leaves the table by a critical section of `DeliverResponse` or `Remove` is held by the goroutine that
    took it. -/
theorem Calls.step_taken (h : s.step e = some next)
    (hlookup : s.manager.pending.lookup id = some { sessionID, response := ch })
    (hregister : ∀ other ch', e ≠ .registerRequest other id ch') (hcancel : e ≠ .cancelRequest id) :
    next.manager.pending.lookup id = some { sessionID, response := ch } ∨ ∃ t, next.Holds ch (.call t) := by
  by_cases htakes : e.Takes sessionID id
  · right
    cases Calls.step_cases h with
    | registerRequest other other' =>
      cases htakes
      exact absurd rfl (hregister _ _)
    | cancelRequest =>
      cases htakes
      exact absurd rfl hcancel
    | @deliverFound t other entry response hidle hfound =>
      cases htakes
      rw [hlookup] at hfound
      cases hfound
      exact ⟨t, by rw [Calls.Holds, Calls.setThread_threads, if_pos rfl]; rfl⟩
    | deliverMissing response hidle hmissing =>
      cases htakes
      rw [hlookup] at hmissing
      cases hmissing
    | @removeLocked t other order hidle horder =>
      cases htakes
      refine ⟨t, ?_⟩
      rw [Calls.Holds, Calls.setThread_threads, if_pos rfl]
      exact (SessionManager.mem_removeLocked_cancelled _ _ horder ch).mpr ⟨id, hlookup⟩
    | _ => cases htakes
  · exact .inl ((Calls.step_pending h sessionID id ch).mpr (.inr ⟨hlookup, htakes⟩))

/-- Buffers change by what is sent and what is read, at opposite ends. -/
theorem Calls.step_buffers (h : s.step e = some next) (ch : Chan) :
    s.buffers ch ++ (e.sent ch).toList = (e.received ch).toList ++ next.buffers ch := by
  cases Calls.step_cases h with
  | @deliverSend t other response hthread hroom =>
    by_cases hch : other = ch
    · subst hch
      simp [CallEvent.sent, CallEvent.received, Calls.setBuffer_buffers]
    · simp [CallEvent.sent, CallEvent.received, Calls.setBuffer_buffers, hch, Ne.symm hch]
  | @removeSend t other rest hthread hroom =>
    by_cases hch : other = ch
    · subst hch
      simp [CallEvent.sent, CallEvent.received, Calls.setBuffer_buffers]
    · simp [CallEvent.sent, CallEvent.received, Calls.setBuffer_buffers, hch, Ne.symm hch]
  | @receive other response rest hbuffer =>
    by_cases hch : other = ch
    · subst hch
      simp [CallEvent.sent, CallEvent.received, Calls.setBuffer_buffers, hbuffer]
    · simp [CallEvent.sent, CallEvent.received, Calls.setBuffer_buffers, hch, Ne.symm hch]
  | _ => simp [CallEvent.sent, CallEvent.received]

/-- What is owed stays owed until the request is given up or the response is read. -/
theorem Calls.Owed.step (howed : s.Owed sessionID id ch) (h : s.step e = some next)
    (hregister : ∀ other ch', e ≠ .registerRequest other id ch') (hcancel : e ≠ .cancelRequest id)
    (hreceive : ∀ response, e ≠ .receive ch response) : next.Owed sessionID id ch := by
  have hunread : e.received ch = none := by
    cases e with
    | receive other response =>
      simp only [CallEvent.received, ite_eq_right_iff, reduceCtorEq, imp_false]
      rintro rfl
      exact hreceive response rfl
    | _ => rfl
  have hbuffers := Calls.step_buffers h ch
  rw [hunread, Option.toList_none, List.nil_append] at hbuffers
  obtain hlookup | ⟨t, hholds⟩ | hbuffer := howed
  · obtain hkept | htaken := Calls.step_taken h hlookup hregister hcancel
    · exact .inl hkept
    · exact .inr (.inl htaken)
  · obtain hkept | hsent := Calls.step_call_holds h hholds
    · exact .inr (.inl ⟨t, hkept⟩)
    · refine .inr (.inr fun hnil => hsent ?_)
      rw [hnil] at hbuffers
      exact Option.toList_eq_nil_iff.mp (List.append_eq_nil_iff.mp hbuffers).2
  · refine .inr (.inr fun hnil => hbuffer ?_)
    rw [hnil] at hbuffers
    exact (List.append_eq_nil_iff.mp hbuffers).1

end myngrok.gateway
