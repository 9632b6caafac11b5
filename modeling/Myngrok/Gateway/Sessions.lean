import Myngrok.Gateway.Assembly
import Myngrok.Gateway.Completion

open golang Result websocket transition myngrok.protocol

namespace myngrok.gateway

/-- Where the goroutine of one agent session stands: in the `select` of `serveSession`, about to call `DeliverResponse`,
    back from the loop with the deferred `Remove` still to come, or through with it. -/
inductive LoopState where
  | serving (responses : Responses)
  | delivering (responses : Responses) (id : GoString) (response : Response)
  | ended
  | removed
  deriving DecidableEq

/-- All agent sessions of the gateway, by their IDs. They share one session manager, and each goroutine makes its calls
    under its own session ID. -/
structure Sessions where
  calls : Calls GoString
  loops : Map GoString LoopState

inductive SessionEvent where
  | connect (session : Session) (now : Nat)
  | loop (sessionID : GoString) (e : LoopEvent)
  | call (e : CallEvent GoString)

/-- The calls that only a session goroutine makes, at a place of its own. -/
def CallEvent.Placed {Thread : Type} : CallEvent Thread → Bool
  | .deliverLocked .. => true
  | .removeLocked .. => true
  | .register .. => true
  | _ => false

namespace Sessions

def start : Sessions := { calls := Calls.start, loops := ∅ }

/-- A delivery is the last thing a round of the loop does. -/
def afterRound (responses : Responses) : List Effect → LoopState
  | [.deliver id response] => .delivering responses id response
  | _ => .serving responses

def setLoop (s : Sessions) (sessionID : GoString) (state : LoopState) : Sessions :=
  { s with loops := s.loops.insert sessionID state }

def step (dec : Decoder) (s : Sessions) : SessionEvent → Option Sessions
  | .connect session now =>
    if session.id ∉ s.loops then
      (s.calls.step (.register session now)).map fun calls =>
        { s with calls }.setLoop session.id (.serving ∅)
    else none
  | .loop sessionID e =>
    match s.loops.lookup sessionID with
    | some (.serving responses) =>
      if s.calls.threads sessionID = .idle then
        match serveSession dec responses e with
        | ok (.continued next effects) => some (s.setLoop sessionID (afterRound next effects))
        | ok _ => some (s.setLoop sessionID .ended)
        | .panic => none
      else none
    | _ => none
  | .call (.deliverLocked t id response) =>
    match s.loops.lookup t with
    | some (.delivering responses id' response') =>
      if id' = id ∧ response' = response then
        (s.calls.step (.deliverLocked t id response)).map fun calls =>
          { s with calls }.setLoop t (.serving responses)
      else none
    | _ => none
  | .call (.removeLocked t sessionID order) =>
    if s.loops.lookup t = some .ended ∧ sessionID = t then
      (s.calls.step (.removeLocked t sessionID order)).map fun calls => { s with calls }.setLoop t .removed
    else none
  | .call e =>
    if e.Placed then none else (s.calls.step e).map fun calls => { s with calls }

theorem setLoop_loops (s : Sessions) (sessionID : GoString) (state : LoopState) (query : GoString) :
    (s.setLoop sessionID state).loops.lookup query =
      if query = sessionID then some state else s.loops.lookup query :=
  Map.lookup_insert_eq _ _ _ _

/-- The ways a step can go. -/
inductive Step (dec : Decoder) (s : Sessions) : SessionEvent → Sessions → Prop where
  | connect (session : Session) (now : Nat) {calls} (habsent : session.id ∉ s.loops)
      (hcall : s.calls.step (.register session now) = some calls) :
    Step dec s (.connect session now) ({ s with calls }.setLoop session.id (.serving ∅))
  | round {sessionID e responses next effects} (hloop : s.loops.lookup sessionID = some (.serving responses))
      (hserve : serveSession dec responses e = ok (.continued next effects)) :
    Step dec s (.loop sessionID e) (s.setLoop sessionID (afterRound next effects))
  | finish {sessionID} (e : LoopEvent) {responses} (hloop : s.loops.lookup sessionID = some (.serving responses)) :
    Step dec s (.loop sessionID e) (s.setLoop sessionID .ended)
  | deliver {t id response responses calls} (hloop : s.loops.lookup t = some (.delivering responses id response))
      (hcall : s.calls.step (.deliverLocked t id response) = some calls) :
    Step dec s (.call (.deliverLocked t id response)) ({ s with calls }.setLoop t (.serving responses))
  | remove {t order calls} (hloop : s.loops.lookup t = some .ended)
      (hcall : s.calls.step (.removeLocked t t order) = some calls) :
    Step dec s (.call (.removeLocked t t order)) ({ s with calls }.setLoop t .removed)
  | call {e : CallEvent GoString} {calls} (hplaced : e.Placed = false) (hcall : s.calls.step e = some calls) :
    Step dec s (.call e) { s with calls }

variable {dec : Decoder} {next s : Sessions} {e : SessionEvent}

theorem step_cases (h : s.step dec e = some next) : Step dec s e next := by
  cases e with
  | connect session now =>
    simp only [step] at h
    split at h
    · rename_i habsent
      obtain ⟨calls, hcall, rfl⟩ := Option.map_eq_some_iff.mp h
      exact .connect session now habsent hcall
    · cases h
  | loop sessionID e =>
    simp only [step] at h
    split at h
    · rename_i responses hloop
      split at h
      · split at h
        · rename_i next effects hserve
          cases h
          exact .round hloop hserve
        · cases h
          exact .finish e hloop
        · cases h
      · cases h
    · cases h
  | call e =>
    cases e with
    | deliverLocked t id response =>
      simp only [step] at h
      split at h
      · rename_i responses id' response' hloop
        split at h
        · rename_i heq
          obtain ⟨rfl, rfl⟩ := heq
          obtain ⟨calls, hcall, rfl⟩ := Option.map_eq_some_iff.mp h
          exact .deliver hloop hcall
        · cases h
      · cases h
    | removeLocked t sessionID order =>
      simp only [step] at h
      split at h
      · rename_i hguard
        obtain ⟨hloop, rfl⟩ := hguard
        obtain ⟨calls, hcall, rfl⟩ := Option.map_eq_some_iff.mp h
        exact .remove hloop hcall
      · cases h
    | register session now => cases h
    | _ =>
      simp only [step, CallEvent.Placed, Bool.false_eq_true, if_false] at h
      obtain ⟨calls, hcall, rfl⟩ := Option.map_eq_some_iff.mp h
      exact .call rfl hcall

/-- What a step is for the session manager. -/
def SessionEvent.callEvent : SessionEvent → Option (CallEvent GoString)
  | .connect session now => some (.register session now)
  | .call e => some e
  | .loop .. => none

def callEvents (events : List SessionEvent) : List (CallEvent GoString) :=
  events.filterMap SessionEvent.callEvent

theorem step_calls (h : s.step dec e = some next) :
    (∀ c, SessionEvent.callEvent e = some c → s.calls.step c = some next.calls) ∧
      (SessionEvent.callEvent e = none → next.calls = s.calls) := by
  cases step_cases h with
  | round | finish => exact ⟨fun c hcall => (by cases hcall), fun _ => rfl⟩
  | connect _ _ _ hcall | deliver _ hcall | remove _ hcall | call _ hcall =>
    refine ⟨fun c heq => ?_, fun hnone => by cases hnone⟩
    cases heq
    exact hcall

/-- The goroutines of the sessions and the public side are one of the interleavings of session manager calls. -/
theorem run_calls {events : List SessionEvent} (h : run (Sessions.step dec) start events = some s) :
    run Calls.step Calls.start (callEvents events) = some s.calls :=
  run_project Sessions.calls SessionEvent.callEvent (fun _ _ _ _ _ => step_calls) h

end Sessions

end myngrok.gateway
