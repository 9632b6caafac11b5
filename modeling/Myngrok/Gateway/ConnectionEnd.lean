import Myngrok.Gateway.ReadGoroutine
import Myngrok.Gateway.SessionBinding

open golang Result websocket transition myngrok.protocol

namespace myngrok.gateway

section calls

variable {Thread : Type} [DecidableEq Thread] {t : Thread}

/-- A `DeliverResponse` that has found a request has sent the response on its channel, or is about to. -/
theorem Calls.sent_or_delivering {events : List (CallEvent Thread)} {s : Calls Thread}
    (h : run Calls.step Calls.start events = some s) {before after : List (CallEvent Thread)} {sessionID id : GoString}
    {ch : Chan} {response : Response} (hevents : events = before ++ .deliverLocked t id response :: after)
    (hlive : Live before sessionID id ch) :
    .deliverSend t ch response ∈ after ∨ s.threads t = .delivering ch response := by
  suffices hall : ∀ after, events = before ++ CallEvent.deliverLocked t id response :: after →
      CallEvent.deliverSend t ch response ∈ after ∨ s.threads t = .delivering ch response from hall after hevents
  apply run_induction (P := fun events s => ∀ after, events = before ++ CallEvent.deliverLocked t id response :: after →
    CallEvent.deliverSend t ch response ∈ after ∨ s.threads t = .delivering ch response) _ _ h
  · intro after hevents
    cases before <;> cases hevents
  · intro events state e next hrun ih hstep after hevents
    rcases List.eq_nil_or_concat after with rfl | ⟨earlier, last, rfl⟩
    · obtain ⟨rfl, he⟩ := List.append_inj' hevents rfl
      cases he
      have hlookup := (Calls.pending_iff_live hrun sessionID id ch).mpr hlive
      cases Calls.step_cases hstep with
      | deliverFound _ _ hfound =>
        rw [hlookup] at hfound
        cases hfound
        exact .inr ((Calls.setThread_threads _ _ _ _).trans (if_pos rfl))
      | deliverMissing _ _ hmissing =>
        rw [hlookup] at hmissing
        cases hmissing
    · rw [List.concat_eq_append, ← List.cons_append, ← List.append_assoc] at hevents
      obtain ⟨hearlier, he⟩ := List.append_inj' hevents rfl
      cases he
      rcases ih earlier hearlier with hsent | hthread
      · exact .inl (by simp [hsent])
      · by_cases hby : e.By t
        · -- A goroutine with a response in its hands can only send it.
          left
          cases Calls.step_cases hstep with
          | deliverSend hdelivering =>
            cases hby
            rw [hthread] at hdelivering
            cases hdelivering
            simp
          | deliverFound _ hidle | deliverMissing _ hidle | deliverReturn hidle | removeLocked _ hidle
          | removeSend hidle | removeReturn hidle =>
            cases hby
            rw [hthread] at hidle
            cases hidle
          | registerRequest | cancelRequest | receive | register => cases hby
        · exact .inr ((Calls.step_threads hstep hby).trans hthread)

/-- A goroutine that is in no call stays out of calls until it begins one. -/
theorem Calls.step_idle {s next : Calls Thread} {e : CallEvent Thread} (h : s.step e = some next)
    (hplaced : e.Placed = false) (hidle : s.threads t = .idle) : next.threads t = .idle := by
  by_cases hby : e.By t
  · exfalso
    cases Calls.step_cases h with
    | deliverSend hthread | deliverReturn hthread | removeSend hthread | removeReturn hthread =>
      cases hby
      rw [hidle] at hthread
      cases hthread
    | deliverFound | deliverMissing | removeLocked => cases hplaced
    | registerRequest | cancelRequest | receive | register => cases hby
  · exact (Calls.step_threads h hby).trans hidle

end calls

namespace Sessions

variable {dec : Decoder} {next s : Sessions}

/-- The loop takes its next round when its last call has returned. -/
theorem step_loop_idle {sessionID : GoString} {e : LoopEvent} (h : s.step dec (.loop sessionID e) = some next) :
    s.calls.threads sessionID = .idle := by
  simp only [step] at h
  split at h
  · split at h
    · next hidle => exact hidle
    · cases h
  · cases h

/-- No call is in progress in a session whose loop has returned, until it is removed. -/
theorem idle_of_ended {events : List SessionEvent} (h : run (Sessions.step dec) start events = some s) {t : GoString}
    (hended : s.loops.lookup t = some .ended) : s.calls.threads t = .idle := by
  revert hended
  apply run_induction (P := fun _ s => s.loops.lookup t = some .ended → s.calls.threads t = .idle) _ _ h
  · intro _
    rfl
  · intro events state e next hrun ih hstep hended
    have helse : ∀ {id loopState}, t ≠ id → (state.setLoop id loopState).loops.lookup t = some .ended →
        state.calls.threads t = .idle := by
      intro id loopState hne hloop
      rw [setLoop_loops, if_neg hne] at hloop
      exact ih hloop
    cases step_cases hstep with
    | @connect session now calls _ hcall =>
      by_cases ht : t = session.id
      · rw [setLoop_loops, if_pos ht] at hended
        cases hended
      · exact (Calls.step_threads hcall (fun hby => hby)).trans (helse ht hended)
    | @round sessionID _ _ _ effects _ _ =>
      by_cases ht : t = sessionID
      · rw [setLoop_loops, if_pos ht] at hended
        unfold afterRound at hended
        split at hended <;> cases hended
      · exact helse ht hended
    | @finish sessionID _ _ _ =>
      by_cases ht : t = sessionID
      · have hidle := step_loop_idle hstep
        rw [ht]
        exact hidle
      · exact helse ht hended
    | @deliver u _ _ _ _ _ hcall =>
      by_cases ht : t = u
      · rw [setLoop_loops, if_pos ht] at hended
        cases hended
      · exact (Calls.step_threads hcall (Ne.symm ht)).trans (helse ht hended)
    | @remove u _ _ _ hcall =>
      by_cases ht : t = u
      · rw [setLoop_loops, if_pos ht] at hended
        cases hended
      · exact (Calls.step_threads hcall (Ne.symm ht)).trans (helse ht hended)
    | call hplaced hcall => exact Calls.step_idle hcall hplaced (ih hended)

/-- A delivery that is to be made stays so until it is made. -/
theorem delivering_step {e : SessionEvent} {t id : GoString} {responses : Responses} {response : Response}
    (hloop : s.loops.lookup t = some (.delivering responses id response)) (h : s.step dec e = some next) :
    e = .call (.deliverLocked t id response) ∨ next.loops.lookup t = some (.delivering responses id response) := by
  have hne : ∀ {u loopState}, s.loops.lookup u = some loopState → loopState ≠ .delivering responses id response → t ≠ u := by
    rintro u loopState hother hdelivering rfl
    exact hdelivering (Option.some.inj (hother.symm.trans hloop))
  have helse : ∀ {u loopState}, t ≠ u → (s.setLoop u loopState).loops.lookup t = some (.delivering responses id response) := by
    intro u loopState ht
    rw [setLoop_loops, if_neg ht]
    exact hloop
  cases step_cases h with
  | connect session _ habsent =>
    refine .inr (helse ?_)
    rintro rfl
    exact habsent ((Map.mem_iff_lookup s.loops _).mpr ⟨_, hloop⟩)
  | round hother => exact .inr (helse (hne hother nofun))
  | finish _ hother => exact .inr (helse (hne hother nofun))
  | @deliver u _ _ _ _ hother _ =>
    by_cases ht : t = u
    · subst ht
      rw [hloop] at hother
      cases hother
      exact .inl rfl
    · exact .inr (helse ht)
  | remove hother => exact .inr (helse (hne hother nofun))
  | call => exact .inr hloop

end Sessions

namespace Connections

variable {dec : Decoder} {next s : Connections} {e : ConnectionEvent} {events : List ConnectionEvent} {id t : GoString}
  {response : Response}

/-- The loop takes the error only when no message is left on `readCh`. -/
def drained (s : Connections) : ConnectionEvent → Bool
  | .session (.loop sessionID .readError) => (s.inboxes sessionID).readCh.isEmpty
  | _ => true

/-- Where the messages are that have been read, and what is left when the loop has taken the error. -/
structure Ordered (inbox : Inbox) : Prop where
  received : inbox.reader ≠ .quit → inbox.received = inbox.processed ++ inbox.readCh ++ inbox.reader.held
  failed : inbox.errCh = true → inbox.reader = .failed
  ended : inbox.byError = true → inbox.reader = .failed ∧ inbox.readCh = []

theorem Ordered.not_error {inbox : Inbox} (h : Ordered inbox) (hreader : inbox.reader ≠ .failed) :
    inbox.errCh ≠ true ∧ inbox.byError ≠ true :=
  ⟨fun herr => hreader (h.failed herr), fun herror => hreader (h.ended herror).1⟩

theorem ordered_step (h : ∀ t, Ordered (s.inboxes t)) (hdrained : s.drained e = true)
    (hstep : s.step dec e = some next) : ∀ t, Ordered (next.inboxes t) := by
  have hset : ∀ {state : Connections} {t inbox}, state.inboxes = s.inboxes → Ordered inbox →
      ∀ u, Ordered ((state.setInbox t inbox).inboxes u) := by
    intro state t inbox hsame hinbox u
    rw [setInbox_inboxes]
    split
    · exact hinbox
    · rw [hsame]
      exact h u
  cases step_cases hstep with
  | done | other => exact h
  | @take t answers message rest sessions hready _ =>
    obtain ⟨hreceived, hfailed, hended⟩ := h t
    rw [hready] at hreceived hended
    refine hset rfl ⟨fun hreader => ?_, hfailed, fun herror => ?_⟩
    · rw [hreceived hreader]
      simp
    · cases (hended herror).2
  | @error t sessions hready _ =>
    obtain ⟨hreceived, hfailed, _⟩ := h t
    exact hset rfl ⟨hreceived, nofun, fun _ => ⟨hfailed hready, List.isEmpty_iff.mp hdrained⟩⟩
  | @read t message _ hreader =>
    have hreceived := (h t).received (by rw [hreader]; exact nofun)
    obtain ⟨herr, herror⟩ := (h t).not_error (by rw [hreader]; exact nofun)
    refine hset rfl ⟨fun _ => ?_, fun h => absurd h herr, fun h => absurd h herror⟩
    simp [hreceived, hreader, Reader.held]
  | @readFail t _ hreader =>
    have hreceived := (h t).received (by rw [hreader]; exact nofun)
    obtain ⟨_, herror⟩ := (h t).not_error (by rw [hreader]; exact nofun)
    refine hset rfl ⟨fun _ => ?_, fun _ => rfl, fun h => absurd h herror⟩
    simp [hreceived, hreader, Reader.held]
  | @place t message hreader _ =>
    have hreceived := (h t).received (by rw [hreader]; exact nofun)
    obtain ⟨herr, herror⟩ := (h t).not_error (by rw [hreader]; exact nofun)
    refine hset rfl ⟨fun _ => ?_, fun h => absurd h herr, fun h => absurd h herror⟩
    simp [hreceived, hreader, Reader.held]
  | @quit t hheld _ =>
    obtain ⟨herr, herror⟩ := (h t).not_error (fun hfailed => hheld (by rw [hfailed]; rfl))
    exact hset rfl ⟨fun hreader => absurd rfl hreader, fun h => absurd h herr, fun h => absurd h herror⟩
  | cancel t => exact hset rfl ⟨(h t).received, (h t).failed, (h t).ended⟩

theorem ordered_of_drained (h : run (Connections.step dec) start events = some s)
    (hdrained : AllSteps (Connections.step dec) (fun state e => state.drained e = true) start events)
    (sessionID : GoString) : Ordered (s.inboxes sessionID) := by
  refine run_induction_of_steps (P := fun _ s => ∀ t, Ordered (s.inboxes t)) ?_ ?_ h hdrained sessionID
  · intro t
    exact ⟨fun _ => rfl, nofun, nofun⟩
  · intro _ state e next _ hordered hdrained hstep
    exact ordered_step hordered hdrained hstep

/-- A delivery becomes due when the loop takes the message that asks for it. -/
theorem mem_due_step (hstep : s.step dec e = some next) (hmem : (id, response) ∈ (next.inboxes t).due) :
    (id, response) ∈ (s.inboxes t).due ∨
      ∃ responses, next.sessions.loops.lookup t = some (.delivering responses id response) := by
  have hset : ∀ {state : Connections} {u inbox}, (id, response) ∈ ((state.setInbox u inbox).inboxes t).due →
      state.inboxes = s.inboxes → inbox.due = (s.inboxes u).due → (id, response) ∈ (s.inboxes t).due := by
    intro state u inbox hmem hsame hdue
    rw [setInbox_inboxes] at hmem
    split at hmem
    · next hself =>
      rw [hself, ← hdue]
      exact hmem
    · rw [← hsame]
      exact hmem
  cases step_cases hstep with
  | done | other => exact .inl hmem
  | error | read | readFail | place | quit | cancel => exact .inl (hset hmem rfl rfl)
  | @take u answers message rest sessions _ _ =>
    rw [setInbox_inboxes] at hmem
    split at hmem
    · next hself =>
      subst hself
      rcases List.mem_append.mp hmem with hmem | hasked
      · exact .inl hmem
      · right
        simp only [asked] at hasked
        split at hasked
        · next responses _ _ hloop =>
          rw [List.mem_singleton] at hasked
          cases hasked
          exact ⟨responses, hloop⟩
        · cases hasked
    · exact .inl hmem

/-- Every delivery that was due has been begun, or the loop is about to begin it. -/
theorem due_called (h : run (Connections.step dec) start events = some s) (hdue : (id, response) ∈ (s.inboxes t).due) :
    CallEvent.deliverLocked t id response ∈ Sessions.callEvents (sessionEvents events) ∨
      ∃ responses, s.sessions.loops.lookup t = some (.delivering responses id response) := by
  revert hdue
  apply run_induction (P := fun events s => (id, response) ∈ (s.inboxes t).due →
    CallEvent.deliverLocked t id response ∈ Sessions.callEvents (sessionEvents events) ∨
      ∃ responses, s.sessions.loops.lookup t = some (.delivering responses id response)) _ _ h
  · intro hdue
    cases hdue
  · intro events state e next _ ih hstep hdue
    rw [sessionEvents, filterMap_concat, Sessions.callEvents, List.filterMap_append, List.mem_append]
    rcases mem_due_step hstep hdue with hdue | hloop
    · rcases ih hdue with hcalled | ⟨responses, hloop⟩
      · exact .inl (.inl hcalled)
      · obtain ⟨hvisible, hsilent⟩ := step_sessions hstep
        cases hevent : ConnectionEvent.sessionEvent e with
        | none =>
          rw [hsilent hevent]
          exact .inr ⟨responses, hloop⟩
        | some e' =>
          rcases Sessions.delivering_step hloop (hvisible e' hevent) with rfl | hstill
          · exact .inl (.inr List.mem_cons_self)
          · exact .inr ⟨responses, hstill⟩
    · exact .inr hloop

/-- The loop has processed all that was read from the connection. For every response that had come to its end
    `DeliverResponse` has been called, and a request that was still waiting has it. -/
def AllProcessed (events : List ConnectionEvent) (s : Connections) (sessionID : GoString) : Prop :=
  (s.inboxes sessionID).processed = (s.inboxes sessionID).received ∧
    ∀ id response, (id, response) ∈ (s.inboxes sessionID).due →
      ∃ before after, Sessions.callEvents (sessionEvents events) =
          before ++ CallEvent.deliverLocked sessionID id response :: after ∧
        ∀ owner ch, Live before owner id ch → CallEvent.deliverSend sessionID ch response ∈ after

/-- In a run in which no loop takes the error while a message is left on `readCh`, nothing is lost when `serveSession`
    returns because of the error. -/
theorem all_processed_of_drained (dec : Decoder) {events : List ConnectionEvent} {s : Connections}
    (h : run (Connections.step dec) start events = some s)
    (hdrained : AllSteps (Connections.step dec) (fun state e => state.drained e = true) start events)
    {sessionID : GoString} (hended : s.sessions.loops.lookup sessionID = some .ended)
    (herror : (s.inboxes sessionID).byError = true) : AllProcessed events s sessionID := by
  obtain ⟨hreceived, _, hleft⟩ := ordered_of_drained h hdrained sessionID
  obtain ⟨hreader, hempty⟩ := hleft herror
  have hsessions := run_sessions h
  constructor
  · have hall := hreceived (by rw [hreader]; exact nofun)
    rw [hreader, hempty] at hall
    simpa [Reader.held] using hall.symm
  · intro id response hmem
    rcases due_called h hmem with hcalled | ⟨responses, hloop⟩
    · obtain ⟨before, after, hsplit⟩ := List.append_of_mem hcalled
      refine ⟨before, after, hsplit, fun owner ch hlive => ?_⟩
      rcases Calls.sent_or_delivering (Sessions.run_calls hsessions) hsplit hlive with hsent | hthread
      · exact hsent
      · rw [Sessions.idle_of_ended hsessions hended] at hthread
        cases hthread
    · rw [hended] at hloop
      cases hloop

/-- A request waits, and the agent sends the two messages of a response and closes the connection. -/
def answeredAndClosed : List ConnectionEvent :=
  let start := httpResponseStartMessage Sessions.madeUpResponse
  [.session (.connect
      { id := lit "ses_a", agentID := [], agentTokenHash := [], lastSeen := none, outbound := some 0 } 0),
    .session (.call (.registerRequest (lit "ses_a") (lit "req_1") 0)),
    .read (lit "ses_a") start,
    .place (lit "ses_a"),
    .session (.loop (lit "ses_a") (.inbound quietAnswers start)),
    .read (lit "ses_a") (httpResponseEndMessage (lit "req_1")),
    .place (lit "ses_a"),
    .readFail (lit "ses_a")]

/-- The loop takes the last message, and then the error. -/
def messageFirst : List ConnectionEvent :=
  let response : Response := { statusCode := 200, headers := ∅, body := [], error := [] }
  answeredAndClosed ++
    [.session (.loop (lit "ses_a") (.inbound quietAnswers (httpResponseEndMessage (lit "req_1")))),
      .session (.call (.deliverLocked (lit "ses_a") (lit "req_1") response)),
      .session (.call (.deliverSend (lit "ses_a") 0 response)),
      .session (.call (.deliverReturn (lit "ses_a") true)),
      .session (.loop (lit "ses_a") .readError)]

/-- Both channels are ready, and the loop takes the error. -/
def errorFirst : List ConnectionEvent := answeredAndClosed ++ [.session (.loop (lit "ses_a") .readError)]

theorem all_processed_message_first :
    ∃ s, run (Connections.step Sessions.answeredDecoder) start messageFirst = some s ∧
      (s.inboxes (lit "ses_a")).due.length = 1 ∧ AllProcessed messageFirst s (lit "ses_a") := by
  have hrun : (run (Connections.step Sessions.answeredDecoder) start messageFirst).any (fun s =>
      decide (s.sessions.loops.lookup (lit "ses_a") = some .ended) && (s.inboxes (lit "ses_a")).byError &&
        decide ((s.inboxes (lit "ses_a")).due.length = 1)) = true := by decide +kernel
  obtain ⟨s, hs, hfacts⟩ := (Option.any_eq_true _ _).mp hrun
  simp only [Bool.and_eq_true, decide_eq_true_eq] at hfacts
  obtain ⟨⟨hended, herror⟩, hdue⟩ := hfacts
  have hdrained : AllSteps (Connections.step Sessions.answeredDecoder) (fun state e => state.drained e = true) start
      messageFirst := by decide +kernel
  exact ⟨s, hs, hdue, all_processed_of_drained Sessions.answeredDecoder hs hdrained hended herror⟩

/-- With the end of the response still on `readCh` the loop returns because of the error; the request that was waiting
    for it is told that the agent is disconnected. -/
theorem response_end_lost_to_error :
    (∃ s, run (Connections.step Sessions.answeredDecoder) start errorFirst = some s ∧
      s.sessions.loops.lookup (lit "ses_a") = some .ended ∧ (s.inboxes (lit "ses_a")).byError = true ∧
      (s.inboxes (lit "ses_a")).readCh = [httpResponseEndMessage (lit "req_1")] ∧
      ¬ AllProcessed errorFirst s (lit "ses_a")) ∧
    (run (Connections.step Sessions.answeredDecoder) start
      (errorFirst ++ [.session (.call (.removeLocked (lit "ses_a") (lit "ses_a") [lit "req_1"])),
        .session (.call (.removeSend (lit "ses_a") 0)), .session (.call (.removeReturn (lit "ses_a"))),
        .session (.call (.receive 0 disconnected))])).isSome = true := by
  have hrun : (run (Connections.step Sessions.answeredDecoder) start errorFirst).any (fun s =>
      decide (s.sessions.loops.lookup (lit "ses_a") = some .ended) && (s.inboxes (lit "ses_a")).byError &&
        decide ((s.inboxes (lit "ses_a")).readCh = [httpResponseEndMessage (lit "req_1")]) &&
        !decide ((s.inboxes (lit "ses_a")).processed = (s.inboxes (lit "ses_a")).received)) = true := by decide +kernel
  obtain ⟨s, hs, hfacts⟩ := (Option.any_eq_true _ _).mp hrun
  simp only [Bool.and_eq_true, Bool.not_eq_true', decide_eq_true_eq, decide_eq_false_iff_not] at hfacts
  obtain ⟨⟨⟨hended, herror⟩, hleft⟩, hlost⟩ := hfacts
  exact ⟨⟨s, hs, hended, herror, hleft, fun hall => hlost hall.1⟩, by decide +kernel⟩

end Connections

end myngrok.gateway
