import Myngrok.Gateway.Sessions

open golang Result websocket streams transition myngrok.protocol

namespace myngrok.gateway

variable {Thread : Type} [DecidableEq Thread] {events : List (CallEvent Thread)}

/-- A channel is returned by one `RegisterRequest` only. -/
theorem Calls.registered_once {s : Calls Thread} (h : run Calls.step Calls.start events = some s) :
    (∀ sessionID id ch, .registerRequest sessionID id ch ∈ events → ch < s.made) ∧
    (∀ sessionID id sessionID' id' ch, .registerRequest sessionID id ch ∈ events →
      .registerRequest sessionID' id' ch ∈ events → sessionID = sessionID' ∧ id = id') := by
  apply run_induction (P := fun (events : List (CallEvent Thread)) (s : Calls Thread) =>
    (∀ sessionID id ch, .registerRequest sessionID id ch ∈ events → ch < s.made) ∧
    (∀ sessionID id sessionID' id' ch, .registerRequest sessionID id ch ∈ events →
      .registerRequest sessionID' id' ch ∈ events → sessionID = sessionID' ∧ id = id')) _ _ h
  · simp
  · rintro events state e next _ ⟨hmade, honce⟩ hstep
    have hle := Calls.step_made hstep
    -- The channel of a new registration is above all the earlier ones.
    have hnew : ∀ sessionID id ch, e = .registerRequest sessionID id ch → ch = state.made ∧ ch < next.made := by
      rintro sessionID id ch rfl
      cases Calls.step_cases hstep
      exact ⟨rfl, Nat.lt_succ_self _⟩
    simp only [List.mem_append, List.mem_singleton]
    refine ⟨?_, ?_⟩
    · rintro sessionID id ch (hold | heq)
      · exact Nat.lt_of_lt_of_le (hmade _ _ _ hold) hle
      · exact (hnew _ _ _ heq.symm).2
    · rintro sessionID id sessionID' id' ch (hold | heq) (hold' | heq')
      · exact honce _ _ _ _ _ hold hold'
      · exact absurd (hnew _ _ _ heq'.symm).1 (Nat.ne_of_lt (hmade _ _ _ hold))
      · exact absurd (hnew _ _ _ heq.symm).1 (Nat.ne_of_lt (hmade _ _ _ hold'))
      · rw [← heq] at heq'
        cases heq'
        exact ⟨rfl, rfl⟩

omit [DecidableEq Thread] in
theorem Live.registered {sessionID id : GoString} {ch : Chan} (h : Live events sessionID id ch) :
    .registerRequest sessionID id ch ∈ events := by
  obtain ⟨before, after, rfl, _⟩ := h
  simp

namespace Sessions

/-- The message `http_response_end` for `id` was read on the WebSocket of `sessionID`. -/
def EndedOn (dec : Decoder) (events : List SessionEvent) (sessionID id : GoString) : Prop :=
  ∃ answers message, .loop sessionID (.inbound answers message) ∈ events ∧
    responseItem dec message = .close id

/-- Every request that was completed was completed by its own session: by a response stream that came in on the
    WebSocket of that session, or by its removal. -/
def BoundToOwner (dec : Decoder) (events : List SessionEvent) : Prop :=
  ∀ sessionID id ch, .call (.registerRequest sessionID id ch) ∈ events →
    (∀ before t response after, events = before ++ .call (.deliverSend t ch response) :: after →
      t = sessionID ∧ EndedOn dec before sessionID id) ∧
    (∀ t, .call (.removeSend t ch) ∈ events → t = sessionID)

/-- The goroutine is about to deliver a response for `id`. -/
def Delivers (id : GoString) : Option LoopState → Bool
  | some (.delivering _ other _) => other = id
  | _ => false

/-- The discipline that would keep sessions apart, which the code leaves to the agents: a session ends a response stream
    only when no other session has a request of that ID pending, and no request is registered under an ID that another
    session is just delivering. -/
def ownResponses (dec : Decoder) (s : Sessions) : SessionEvent → Bool
  | .loop sessionID (.inbound _ message) =>
    match responseItem dec message with
    | .close id => (s.calls.manager.pending.lookup id).all fun entry => entry.sessionID = sessionID
    | _ => true
  | .call (.registerRequest sessionID id _) =>
    s.loops.keys.all fun t => !Delivers id (s.loops.lookup t) || t = sessionID
  | _ => true

def Registered (events : List SessionEvent) (sessionID id : GoString) (ch : Chan) : Prop :=
  .call (.registerRequest sessionID id ch) ∈ events

variable {dec : Decoder} {id sessionID t : GoString} {events : List SessionEvent} {response : Response}
  {next s : Sessions} {e : SessionEvent}

theorem EndedOn.concat (h : EndedOn dec events sessionID id) (e : SessionEvent) :
    EndedOn dec (events ++ [e]) sessionID id := by
  obtain ⟨answers, message, hmem, hitem⟩ := h
  exact ⟨answers, message, List.mem_append_left _ hmem, hitem⟩

/-- What the discipline maintains: whatever a session goroutine is about to deliver, holds, or has sent belongs to its
    own session. -/
structure Owned (dec : Decoder) (events : List SessionEvent) (s : Sessions) : Prop where
  loops : ∀ {t responses id response}, s.loops.lookup t = some (.delivering responses id response) →
    EndedOn dec events t id ∧
      ∀ entry, s.calls.manager.pending.lookup id = some entry → entry.sessionID = t
  delivering : ∀ {t ch response}, s.calls.threads t = .delivering ch response →
    ∃ id, Registered events t id ch ∧ EndedOn dec events t id
  removing : ∀ {t cancelled}, s.calls.threads t = .removing cancelled → ∀ ch ∈ cancelled,
    ∃ id, Registered events t id ch
  delivered : ∀ {before t ch response after}, events = before ++ .call (.deliverSend t ch response) :: after →
    ∃ id, Registered events t id ch ∧ EndedOn dec before t id
  removed : ∀ {t ch}, .call (.removeSend t ch) ∈ events → ∃ id, Registered events t id ch

theorem owned_start (dec : Decoder) : Owned dec [] start := by
  refine ⟨?_, ?_, ?_, ?_, ?_⟩
  · intro t responses id response h
    cases h
  · intro t ch response h
    cases h
  · intro t cancelled h
    cases h
  · intro before t ch response after h
    cases before <;> cases h
  · intro t ch h
    cases h

/-- A round of the loop that ends in a delivery read the end of that stream. -/
theorem afterRound_delivering {responses next rest : Responses} {e : LoopEvent} {effects : List Effect}
    (hserve : serveSession dec responses e = ok (.continued next effects))
    (hafter : afterRound next effects = .delivering rest id response) :
    ∃ answers message, e = .inbound answers message ∧ responseItem dec message = .close id := by
  have hdeliver : effects = [.deliver id response] := by
    unfold afterRound at hafter
    split at hafter <;> cases hafter
    rfl
  subst hdeliver
  obtain ⟨item, hitem, hserves⟩ | ⟨_, _, hsilent⟩ := serveSession_continued hserve
  · cases e with
    | inbound answers message =>
      cases hitem
      refine ⟨answers, message, rfl, ?_⟩
      generalize responseItem dec message = item at hserves
      cases hserves with
      | close => rfl
      | skip hsilent => exact absurd List.mem_cons_self (hsilent id response)
    | _ => cases hitem
  · exact absurd List.mem_cons_self (hsilent id response)

/-- A goroutine that is about to deliver was so before, or has just read the end of the stream. -/
theorem step_loops (h : s.step dec e = some next) {responses : Responses}
    (hnext : next.loops.lookup t = some (.delivering responses id response)) :
    s.loops.lookup t = some (.delivering responses id response) ∨
      ∃ answers message, e = .loop t (.inbound answers message) ∧ responseItem dec message = .close id := by
  cases step_cases h with
  | call => exact .inl hnext
  | round hloop hserve =>
    rw [setLoop_loops] at hnext
    split at hnext
    · rename_i ht
      subst ht
      obtain ⟨answers, message, rfl, hitem⟩ := afterRound_delivering hserve (Option.some.inj hnext)
      exact .inr ⟨answers, message, rfl, hitem⟩
    · exact .inl hnext
  | connect | finish | deliver | remove =>
    rw [setLoop_loops] at hnext
    split at hnext
    · cases hnext
    · exact .inl hnext

theorem registered_iff {ch : Chan} :
    .registerRequest sessionID id ch ∈ callEvents events ↔ Registered events sessionID id ch := by
  rw [callEvents, List.mem_filterMap, Registered]
  constructor
  · rintro ⟨e, hmem, hcall⟩
    cases e with
    | call c =>
      cases hcall
      exact hmem
    | _ => cases hcall
  · intro hmem
    exact ⟨_, hmem, rfl⟩

/-- A step keeps the pending entry of `id` or registers a new one. -/
theorem step_pending (h : s.step dec e = some next) {entry : PendingRequest}
    (hnext : next.calls.manager.pending.lookup id = some entry) :
    e = .call (.registerRequest entry.sessionID id entry.response) ∨
      s.calls.manager.pending.lookup id = some entry := by
  obtain ⟨hvisible, hsilent⟩ := step_calls h
  cases hcall : SessionEvent.callEvent e with
  | none =>
    have hcalls := hsilent hcall
    exact .inr (hcalls ▸ hnext)
  | some c =>
    have hcalls := hvisible c hcall
    obtain rfl | ⟨hold, _⟩ := (Calls.step_pending hcalls entry.sessionID id entry.response).mp hnext
    · cases e <;> cases hcall
      exact .inl rfl
    · exact .inr hold

/-- The goroutine of `t` starts to send on the channel of a pending request. -/
theorem step_delivering (h : s.step dec e = some next) {ch : Chan}
    (hnext : next.calls.threads t = .delivering ch response) :
    s.calls.threads t = .delivering ch response ∨
      ∃ id sessionID responses, s.loops.lookup t = some (.delivering responses id response) ∧
        s.calls.manager.pending.lookup id = some { sessionID, response := ch } := by
  obtain ⟨hvisible, hsilent⟩ := step_calls h
  cases hcall : SessionEvent.callEvent e with
  | none =>
    have hcalls := hsilent hcall
    exact .inl (hcalls ▸ hnext)
  | some c =>
    have hcalls := hvisible c hcall
    by_cases hby : c.By t
    · obtain ⟨id, sessionID, rfl, hlookup⟩ := Calls.step_delivering hcalls hby hnext
      cases step_cases h with
      | connect | round | finish | remove => cases hcall
      | deliver hloop =>
        cases hcall
        exact .inr ⟨id, sessionID, _, hloop, hlookup⟩
      | call hplaced =>
        cases hcall
        cases hplaced
    · rw [Calls.step_threads hcalls hby] at hnext
      exact .inl hnext

theorem step_removing (h : s.step dec e = some next) {cancelled : List Chan}
    (hnext : next.calls.threads t = .removing cancelled) :
    (∃ earlier, s.calls.threads t = .removing (earlier ++ cancelled)) ∨
      ∀ ch ∈ cancelled, ∃ id, s.calls.manager.pending.lookup id = some { sessionID := t, response := ch } := by
  obtain ⟨hvisible, hsilent⟩ := step_calls h
  cases hcall : SessionEvent.callEvent e with
  | none =>
    have hcalls := hsilent hcall
    exact .inl ⟨[], hcalls ▸ hnext⟩
  | some c =>
    have hcalls := hvisible c hcall
    obtain hold | ⟨sessionID, order, rfl, horder, rfl⟩ := Calls.step_removing hcalls hnext
    · exact .inl hold
    · cases step_cases h with
      | connect | round | finish | deliver => cases hcall
      | remove =>
        cases hcall
        exact .inr fun ch hmem =>
          (SessionManager.mem_removeLocked_cancelled s.calls.manager _ horder ch).mp hmem
      | call hplaced =>
        cases hcall
        cases hplaced

theorem Owned.step
    (hpending : ∀ sessionID id ch, s.calls.manager.pending.lookup id = some { sessionID, response := ch } →
      Registered events sessionID id ch) (howned : Owned dec events s) (hown : ownResponses dec s e)
    (h : s.step dec e = some next) : Owned dec (events ++ [e]) next := by
  have hkeep : ∀ {sessionID id ch}, Registered events sessionID id ch → Registered (events ++ [e]) sessionID id ch :=
    fun hreg => List.mem_append_left _ hreg
  have hdelivering : ∀ {t ch response}, s.calls.threads t = .delivering ch response →
      ∃ id, Registered (events ++ [e]) t id ch ∧ EndedOn dec events t id := by
    intro t ch response hthread
    obtain ⟨id, hreg, hended⟩ := howned.delivering hthread
    exact ⟨id, hkeep hreg, hended⟩
  refine ⟨?_, ?_, ?_, ?_, ?_⟩
  · intro t responses id response hnext
    obtain hold | ⟨answers, message, rfl, hitem⟩ := step_loops h hnext
    · obtain ⟨hended, hentry⟩ := howned.loops hold
      refine ⟨hended.concat e, fun entry hlookup => ?_⟩
      obtain rfl | hlookup := step_pending h hlookup
      · have ht : t ∈ s.loops.keys := AList.mem_keys.mp ((Map.mem_iff_lookup _ _).mpr ⟨_, hold⟩)
        have hsame := List.all_eq_true.mp hown t ht
        simp only [hold, Delivers, decide_true, Bool.not_true, Bool.false_or, decide_eq_true_eq] at hsame
        exact hsame.symm
      · exact hentry entry hlookup
    · refine ⟨⟨answers, message, by simp, hitem⟩, fun entry hlookup => ?_⟩
      obtain he | hlookup := step_pending h hlookup
      · cases he
      · simpa [ownResponses, hitem, hlookup] using hown
  · intro t ch response hnext
    obtain hold | ⟨id, sessionID, responses, hloop, hlookup⟩ := step_delivering h hnext
    · obtain ⟨id, hreg, hended⟩ := hdelivering hold
      exact ⟨id, hreg, hended.concat e⟩
    · obtain ⟨hended, hentry⟩ := howned.loops hloop
      have hsession : sessionID = t := hentry _ hlookup
      subst hsession
      exact ⟨id, hkeep (hpending _ _ _ hlookup), hended.concat e⟩
  · intro t cancelled hnext ch hmem
    obtain ⟨earlier, hold⟩ | hnew := step_removing h hnext
    · obtain ⟨id, hreg⟩ := howned.removing hold ch (List.mem_append_right _ hmem)
      exact ⟨id, hkeep hreg⟩
    · obtain ⟨id, hlookup⟩ := hnew ch hmem
      exact ⟨id, hkeep (hpending _ _ _ hlookup)⟩
  · intro before t ch response after hsplit
    rcases List.eq_nil_or_concat after with rfl | ⟨after, last, rfl⟩
    · obtain ⟨rfl, hlast⟩ := List.append_inj' hsplit rfl
      cases hlast
      cases step_cases h with
      | call hplaced hcall =>
        cases Calls.step_cases hcall with
        | deliverSend hthread => exact hdelivering hthread
    · rw [List.concat_eq_append, ← List.cons_append, ← List.append_assoc] at hsplit
      obtain ⟨hevents, _⟩ := List.append_inj' hsplit rfl
      obtain ⟨id, hreg, hended⟩ := howned.delivered hevents
      exact ⟨id, hkeep hreg, hended⟩
  · intro t ch hmem
    rcases List.mem_append.mp hmem with hold | hlast
    · obtain ⟨id, hreg⟩ := howned.removed hold
      exact ⟨id, hkeep hreg⟩
    · rw [List.mem_singleton] at hlast
      subst hlast
      cases step_cases h with
      | call hplaced hcall =>
        cases Calls.step_cases hcall with
        | removeSend hthread =>
          obtain ⟨id, hreg⟩ := howned.removing hthread ch List.mem_cons_self
          exact ⟨id, hkeep hreg⟩

/-- As long as sessions end only streams of their own requests, every request is completed by its own session. -/
theorem bound_to_owner_of_own_responses (dec : Decoder) {events : List SessionEvent} {s : Sessions}
    (h : run (Sessions.step dec) start events = some s)
    (hown : AllSteps (Sessions.step dec) (fun state e => ownResponses dec state e) start events) :
    BoundToOwner dec events := by
  have howned : Owned dec events s := by
    apply run_induction_of_steps (P := fun events s => Owned dec events s) (owned_start dec) _ h hown
    intro events state e next hrun howned hown hstep
    refine howned.step (fun sessionID id ch hlookup => ?_) hown hstep
    have hlive := (Calls.pending_iff_live (run_calls hrun) sessionID id ch).mp hlookup
    exact registered_iff.mp hlive.registered
  have honce := (Calls.registered_once (run_calls h)).2
  intro sessionID id ch hreg
  refine ⟨?_, ?_⟩
  · intro before t response after hsplit
    obtain ⟨id', hreg', hended⟩ := howned.delivered hsplit
    obtain ⟨rfl, rfl⟩ := honce _ _ _ _ _ (registered_iff.mpr hreg') (registered_iff.mpr hreg)
    exact ⟨rfl, hended⟩
  · intro t hmem
    obtain ⟨id', hreg'⟩ := howned.removed hmem
    exact (honce _ _ _ _ _ (registered_iff.mpr hreg') (registered_iff.mpr hreg)).1

/-- The response that an agent makes up for a request it may never have seen. -/
def madeUpResponse : HTTPResponsePayload :=
  { requestID := lit "req_1", statusCode := 200, headers := ∅, contentLength := 0, error := [] }

/-- Two sessions; a request is registered under the first, and `answering` sends a whole response stream for it. -/
def answeredRun (answering : GoString) : List SessionEvent :=
  let response : Response := { statusCode := 200, headers := ∅, body := [], error := [] }
  [.connect { id := lit "ses_a", agentID := [], agentTokenHash := [], lastSeen := none, outbound := some 0 } 0,
    .connect { id := lit "ses_b", agentID := [], agentTokenHash := [], lastSeen := none, outbound := some 1 } 1,
    .call (.registerRequest (lit "ses_a") (lit "req_1") 0),
    .loop answering (.inbound quietAnswers (httpResponseStartMessage madeUpResponse)),
    .loop answering (.inbound quietAnswers (httpResponseEndMessage (lit "req_1"))),
    .call (.deliverLocked answering (lit "req_1") response),
    .call (.deliverSend answering 0 response),
    .call (.deliverReturn answering true),
    .call (.receive 0 response)]

def answeredDecoder : Decoder := .knowing [] [madeUpResponse] [lit "req_1"]

theorem bound_to_owner_of_own_responses_answered :
    AllSteps (Sessions.step answeredDecoder) (fun state e => ownResponses answeredDecoder state e) start
      (answeredRun (lit "ses_a")) ∧
    BoundToOwner answeredDecoder (answeredRun (lit "ses_a")) := by
  have hsome : (run (Sessions.step answeredDecoder) start (answeredRun (lit "ses_a"))).isSome = true := by
    decide +kernel
  obtain ⟨s, hs⟩ := Option.isSome_iff_exists.mp hsome
  have hown : AllSteps (Sessions.step answeredDecoder) (fun state e => ownResponses answeredDecoder state e) start
      (answeredRun (lit "ses_a")) := by decide +kernel
  exact ⟨hown, bound_to_owner_of_own_responses answeredDecoder hs hown⟩

/-- `DeliverResponse` does not look at the session, so the second session completes the request of the first. -/
theorem response_of_another_session_delivered :
    ¬ ∀ (dec : Decoder) (events : List SessionEvent) (s : Sessions),
      run (Sessions.step dec) start events = some s → BoundToOwner dec events := by
  intro hbound
  have hsome : (run (Sessions.step answeredDecoder) start (answeredRun (lit "ses_b"))).isSome = true := by
    decide +kernel
  obtain ⟨s, hs⟩ := Option.isSome_iff_exists.mp hsome
  have hreg : .call (.registerRequest (lit "ses_a") (lit "req_1") 0) ∈ answeredRun (lit "ses_b") :=
    .tail _ (.tail _ (.head _))
  obtain ⟨hdelivered, _⟩ := hbound answeredDecoder _ s hs (lit "ses_a") (lit "req_1") 0 hreg
  have hsession := (hdelivered ((answeredRun (lit "ses_b")).take 6) (lit "ses_b") _ _ rfl).1
  exact absurd hsession (by decide)

end Sessions

end myngrok.gateway
