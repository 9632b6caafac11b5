import Myngrok.Gateway.Sessions

open golang websocket transition myngrok.protocol

namespace myngrok.gateway

/-- Where the goroutine stands that reads from the connection of an agent: in `conn.Read`, in its `select` with a
    message, back after an error, or back because the context was done. -/
inductive Reader where
  | reading
  | holding (message : Message)
  | failed
  | quit
  deriving DecidableEq

/-- The message that has been read and not been put on `readCh`. -/
def Reader.held : Reader → List Message
  | .holding message => [message]
  | _ => []

/-- What lies between the connection of a session and its loop. The last four fields are the history: what `conn.Read`
    has returned, what the loop has taken, the calls of `DeliverResponse` that this asked for, and whether the loop has
    returned because of the error. -/
structure Inbox where
  reader : Reader
  readCh : List Message
  errCh : Bool
  cancelled : Bool
  received : List Message
  processed : List Message
  due : List (GoString × Response)
  byError : Bool
  deriving DecidableEq

def Inbox.start : Inbox :=
  { reader := .reading, readCh := [], errCh := false, cancelled := false, received := [], processed := [], due := []
    byError := false }

/-- The capacity of `readCh`. -/
def inboundCapacity : Nat := 1

/-- All agent sessions, each with its read goroutine. -/
structure Connections where
  sessions : Sessions
  inboxes : GoString → Inbox

/-- `read` and `readFail` are what `conn.Read` returns, `place` and `quit` the cases of the `select` after it; `cancel`
    is the end of the session's context. -/
inductive ConnectionEvent where
  | session (e : SessionEvent)
  | read (sessionID : GoString) (message : Message)
  | readFail (sessionID : GoString)
  | place (sessionID : GoString)
  | quit (sessionID : GoString)
  | cancel (sessionID : GoString)

/-- The cases of the loop's `select` that depend on the read goroutine or on the context. -/
def SessionEvent.Channelled : SessionEvent → Bool
  | .loop _ (.inbound ..) => true
  | .loop _ .readError => true
  | .loop _ .ctxDone => true
  | _ => false

namespace Connections

def start : Connections := { sessions := Sessions.start, inboxes := fun _ => Inbox.start }

def setInbox (s : Connections) (sessionID : GoString) (inbox : Inbox) : Connections :=
  { s with inboxes := Function.update s.inboxes sessionID inbox }

/-- The delivery that the loop of a session is about to make. -/
def asked (s : Sessions) (sessionID : GoString) : List (GoString × Response) :=
  match s.loops.lookup sessionID with
  | some (.delivering _ id response) => [(id, response)]
  | _ => []

def step (dec : Decoder) (s : Connections) : ConnectionEvent → Option Connections
  | .session (.loop sessionID (.inbound answers message)) =>
    let inbox := s.inboxes sessionID
    match inbox.readCh with
    | [] => none
    | next :: rest =>
      if next = message then
        (s.sessions.step dec (.loop sessionID (.inbound answers message))).map fun sessions =>
          { s with sessions }.setInbox sessionID
            { inbox with readCh := rest, processed := inbox.processed ++ [message]
                         due := inbox.due ++ asked sessions sessionID }
      else none
  | .session (.loop sessionID .readError) =>
    let inbox := s.inboxes sessionID
    if inbox.errCh then
      (s.sessions.step dec (.loop sessionID .readError)).map fun sessions =>
        { s with sessions }.setInbox sessionID { inbox with errCh := false, byError := true }
    else none
  | .session (.loop sessionID .ctxDone) =>
    if (s.inboxes sessionID).cancelled then
      (s.sessions.step dec (.loop sessionID .ctxDone)).map fun sessions => { s with sessions }
    else none
  | .session e => (s.sessions.step dec e).map fun sessions => { s with sessions }
  | .read sessionID message =>
    let inbox := s.inboxes sessionID
    if sessionID ∈ s.sessions.loops ∧ inbox.reader = .reading then
      some (s.setInbox sessionID { inbox with reader := .holding message, received := inbox.received ++ [message] })
    else none
  | .readFail sessionID =>
    let inbox := s.inboxes sessionID
    if sessionID ∈ s.sessions.loops ∧ inbox.reader = .reading then
      some (s.setInbox sessionID { inbox with reader := .failed, errCh := true })
    else none
  | .place sessionID =>
    let inbox := s.inboxes sessionID
    match inbox.reader with
    | .holding message =>
      if inbox.readCh.length < inboundCapacity then
        some (s.setInbox sessionID { inbox with reader := .reading, readCh := inbox.readCh ++ [message] })
      else none
    | _ => none
  | .quit sessionID =>
    let inbox := s.inboxes sessionID
    if inbox.reader.held ≠ [] ∧ inbox.cancelled = true then some (s.setInbox sessionID { inbox with reader := .quit })
    else none
  | .cancel sessionID => some (s.setInbox sessionID { s.inboxes sessionID with cancelled := true })

theorem setInbox_inboxes (s : Connections) (sessionID : GoString) (inbox : Inbox) (query : GoString) :
    (s.setInbox sessionID inbox).inboxes query = if query = sessionID then inbox else s.inboxes query := by
  simp only [setInbox, Function.update_apply]

/-- The ways a step can go. -/
inductive Step (dec : Decoder) (s : Connections) : ConnectionEvent → Connections → Prop where
  | take {sessionID answers message rest sessions} (hready : (s.inboxes sessionID).readCh = message :: rest)
      (hstep : s.sessions.step dec (.loop sessionID (.inbound answers message)) = some sessions) :
    Step dec s (.session (.loop sessionID (.inbound answers message)))
      ({ s with sessions }.setInbox sessionID
        { s.inboxes sessionID with readCh := rest, processed := (s.inboxes sessionID).processed ++ [message]
                                   due := (s.inboxes sessionID).due ++ asked sessions sessionID })
  | error {sessionID sessions} (hready : (s.inboxes sessionID).errCh = true)
      (hstep : s.sessions.step dec (.loop sessionID .readError) = some sessions) :
    Step dec s (.session (.loop sessionID .readError))
      ({ s with sessions }.setInbox sessionID { s.inboxes sessionID with errCh := false, byError := true })
  | done {sessionID sessions} (hcancelled : (s.inboxes sessionID).cancelled = true)
      (hstep : s.sessions.step dec (.loop sessionID .ctxDone) = some sessions) :
    Step dec s (.session (.loop sessionID .ctxDone)) { s with sessions }
  | other {e : SessionEvent} {sessions} (hother : e.Channelled = false) (hstep : s.sessions.step dec e = some sessions)
      :
    Step dec s (.session e) { s with sessions }
  | read {sessionID} (message : Message) (hloop : sessionID ∈ s.sessions.loops)
      (hreader : (s.inboxes sessionID).reader = .reading) :
    Step dec s (.read sessionID message)
      (s.setInbox sessionID
        { s.inboxes sessionID with reader := .holding message, received := (s.inboxes sessionID).received ++ [message] })
  | readFail {sessionID} (hloop : sessionID ∈ s.sessions.loops) (hreader : (s.inboxes sessionID).reader = .reading) :
    Step dec s (.readFail sessionID)
      (s.setInbox sessionID { s.inboxes sessionID with reader := .failed, errCh := true })
  | place {sessionID message} (hreader : (s.inboxes sessionID).reader = .holding message)
      (hroom : (s.inboxes sessionID).readCh.length < inboundCapacity) :
    Step dec s (.place sessionID)
      (s.setInbox sessionID
        { s.inboxes sessionID with reader := .reading, readCh := (s.inboxes sessionID).readCh ++ [message] })
  | quit {sessionID} (hheld : (s.inboxes sessionID).reader.held ≠ [])
      (hcancelled : (s.inboxes sessionID).cancelled = true) :
    Step dec s (.quit sessionID) (s.setInbox sessionID { s.inboxes sessionID with reader := .quit })
  | cancel (sessionID : GoString) :
    Step dec s (.cancel sessionID) (s.setInbox sessionID { s.inboxes sessionID with cancelled := true })

variable {dec : Decoder} {next s : Connections} {e : ConnectionEvent}

theorem step_cases (h : s.step dec e = some next) : Step dec s e next := by
  cases e with
  | session e =>
    have hother : ∀ e : SessionEvent, e.Channelled = false →
        (s.sessions.step dec e).map (fun sessions => { s with sessions }) = some next → Step dec s (.session e) next := by
      intro e hchannelled h
      obtain ⟨sessions, hstep, rfl⟩ := Option.map_eq_some_iff.mp h
      exact .other hchannelled hstep
    cases e with
    | connect session now => exact hother _ rfl h
    | call e => exact hother _ rfl h
    | loop sessionID e =>
      cases e with
      | tick write => exact hother _ rfl h
      | outbound message write => exact hother _ rfl h
      | inbound answers message =>
        simp only [step] at h
        split at h
        · cases h
        · next first rest hready =>
          split at h
          · next hfirst =>
            subst hfirst
            obtain ⟨sessions, hstep, rfl⟩ := Option.map_eq_some_iff.mp h
            exact .take hready hstep
          · cases h
      | readError =>
        simp only [step] at h
        split at h
        · next hready =>
          obtain ⟨sessions, hstep, rfl⟩ := Option.map_eq_some_iff.mp h
          exact .error hready hstep
        · cases h
      | ctxDone =>
        simp only [step] at h
        split at h
        · next hcancelled =>
          obtain ⟨sessions, hstep, rfl⟩ := Option.map_eq_some_iff.mp h
          exact .done hcancelled hstep
        · cases h
  | read sessionID message =>
    simp only [step] at h
    split at h
    · next hguard =>
      cases h
      exact .read message hguard.1 hguard.2
    · cases h
  | readFail sessionID =>
    simp only [step] at h
    split at h
    · next hguard =>
      cases h
      exact .readFail hguard.1 hguard.2
    · cases h
  | place sessionID =>
    simp only [step] at h
    split at h
    · next message hreader =>
      split at h
      · next hroom =>
        cases h
        exact .place hreader hroom
      · cases h
    · cases h
  | quit sessionID =>
    simp only [step] at h
    split at h
    · next hguard =>
      cases h
      exact .quit hguard.1 hguard.2
    · cases h
  | cancel sessionID =>
    cases h
    exact .cancel sessionID

/-- What a step is for the sessions. -/
def ConnectionEvent.sessionEvent : ConnectionEvent → Option SessionEvent
  | .session e => some e
  | _ => none

def sessionEvents (events : List ConnectionEvent) : List SessionEvent :=
  events.filterMap ConnectionEvent.sessionEvent

theorem step_sessions (h : s.step dec e = some next) :
    (∀ e', ConnectionEvent.sessionEvent e = some e' → s.sessions.step dec e' = some next.sessions) ∧
      (ConnectionEvent.sessionEvent e = none → next.sessions = s.sessions) := by
  cases step_cases h with
  | take _ hstep | error _ hstep | done _ hstep | other _ hstep =>
    refine ⟨fun e' heq => ?_, fun hnone => by cases hnone⟩
    cases heq
    exact hstep
  | read | readFail | place | quit | cancel => exact ⟨fun e' heq => (by cases heq), fun _ => rfl⟩

/-- With the read goroutines, only some of the runs of the sessions are left. -/
theorem run_sessions {events : List ConnectionEvent} (h : run (Connections.step dec) start events = some s) :
    run (Sessions.step dec) Sessions.start (sessionEvents events) = some s.sessions :=
  run_project Connections.sessions ConnectionEvent.sessionEvent (fun _ _ _ _ _ => step_sessions) h

end Connections

end myngrok.gateway
