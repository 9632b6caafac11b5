import Myngrok.Gateway.AtMostOnce
import Myngrok.Pipeline.ExactlyOnce
import Myngrok.Tunnels.Routes

open golang Result websocket transition myngrok.protocol myngrok.gateway myngrok.tunnels
open myngrok.gatewayclient hiding BinaryFrame responseBodyChunk requestBodyChunk parseBinaryFrame

namespace myngrok.pipeline

/-- One session of the gateway among others: the way of its responses, the session manager and the `Registry` that it
    shares with them, the session that each request so far was registered for, and how many of its `DeliverResponse`
    calls the session loop has begun. -/
structure Serving (n : Nat) where
  way : Responding n
  calls : Calls GoString
  registry : Registry
  requests : Map GoString GoString
  called : Nat

/-- The goroutine of a session goes by the session's ID. -/
inductive ServingEvent (n : Nat) where
  | respond (e : RespondingEvent n)
  | call (e : CallEvent GoString)
  | openTunnel (tunnel : ActiveTunnel)
  | closeSession (sessionID : GoString) (order : List GoString)

namespace Serving

variable {n : Nat}

/-- The session has been registered, and its loop begins. -/
def start (session : Session) (now : Nat) : Serving n :=
  { way := .start, calls := { Calls.start with manager := newSessionManager.register session now }
    registry := newRegistry, requests := ∅, called := 0 }

/-- The agent gets the requests that were registered for its session. The loop takes a message when the calls for the
    one before have returned. -/
def Ready (sessionID : GoString) (s : Serving n) : RespondingEvent n → Prop
  | .take _ job => s.requests.lookup job.request.id = some sessionID
  | .inbound _ _ => s.called = s.way.delivered.length ∧ s.calls.threads sessionID = .idle
  | _ => True

/-- Request IDs and session IDs are not used twice. The loop of this session calls `DeliverResponse` for what it has
    collected. `Remove` is called by the goroutine of a session for this session, after its loop has returned; other
    sessions may do the rest as they like. -/
def Permits (sessionID : GoString) (s : Serving n) : CallEvent GoString → Prop
  | .registerRequest _ id _ => id ∉ s.requests
  | .deliverLocked t id response => t = sessionID → s.way.delivered[s.called]? = some (id, response)
  | .removeLocked t id _ => t = id ∧
    (t = sessionID → s.way.responses.isNone ∧ s.called = s.way.delivered.length)
  | .register session _ => session.id ≠ sessionID
  | _ => True

/-- A tunnel comes with the ID and the subdomain of its row, and is not one of this session's unless the session opens
    it. -/
def Admits (sessionID : GoString) (s : Serving n) (tunnel : ActiveTunnel) : Prop :=
  ((s.registry.get tunnel.subdomain).all fun routed =>
    routed.id = tunnel.id ∧ (routed.sessionID = sessionID → tunnel.sessionID = sessionID)) ∧
  (s.registry.byID.lookup tunnel.id).all fun subdomain => subdomain = tunnel.subdomain

/-- `CloseSession` follows `Remove` in the goroutine of the session. -/
def Closes (sessionID : GoString) (s : Serving n) (id : GoString) (order : List GoString) : Prop :=
  order.Perm s.registry.byID.keys ∧
    (id = sessionID → sessionID ∉ s.calls.manager.sessions ∧ s.calls.threads sessionID = .idle)

instance (sessionID : GoString) (s : Serving n) : (e : RespondingEvent n) → Decidable (s.Ready sessionID e)
  | .take _ job => inferInstanceAs (Decidable (s.requests.lookup job.request.id = some sessionID))
  | .inbound _ _ =>
    inferInstanceAs (Decidable (s.called = s.way.delivered.length ∧ s.calls.threads sessionID = .idle))
  | .send _ _ | .finish _ | .pong | .writerTake _ | .write _ | .read _ | .place _ => isTrue trivial

instance (sessionID : GoString) (s : Serving n) : (e : CallEvent GoString) → Decidable (s.Permits sessionID e)
  | .registerRequest _ id _ => inferInstanceAs (Decidable (id ∉ s.requests))
  | .deliverLocked t id response =>
    inferInstanceAs (Decidable (t = sessionID → s.way.delivered[s.called]? = some (id, response)))
  | .removeLocked t id _ => inferInstanceAs (Decidable (t = id ∧
      (t = sessionID → s.way.responses.isNone ∧ s.called = s.way.delivered.length)))
  | .register session _ => inferInstanceAs (Decidable (session.id ≠ sessionID))
  | .cancelRequest _ | .deliverSend _ _ _ | .deliverReturn _ _ | .removeSend _ _ | .removeReturn _
  | .receive _ _ => isTrue trivial

instance (sessionID : GoString) (s : Serving n) (tunnel : ActiveTunnel) : Decidable (s.Admits sessionID tunnel) :=
  inferInstanceAs (Decidable (_ ∧ _))

instance (sessionID : GoString) (s : Serving n) (id : GoString) (order : List GoString) :
    Decidable (s.Closes sessionID id order) := inferInstanceAs (Decidable (_ ∧ _))

/-- A call by anyone; one of `DeliverResponse` by the session loop is counted. -/
def make (sessionID : GoString) (s : Serving n) (calls : Calls GoString) : CallEvent GoString → Serving n
  | .registerRequest owner id _ => { s with calls, requests := s.requests.insert id owner }
  | .deliverLocked t _ _ => { s with calls, called := if t = sessionID then s.called + 1 else s.called }
  | _ => { s with calls }

def step (dec : Decoder) (localAddress : GoString) (capacity : Nat) (sessionID : GoString) (s : Serving n) :
    ServingEvent n → Option (Serving n)
  | .respond e =>
    if s.Ready sessionID e then (s.way.step dec localAddress capacity e).map fun way => { s with way } else none
  | .call e => if s.Permits sessionID e then (s.calls.step e).map fun calls => s.make sessionID calls e else none
  | .openTunnel tunnel =>
    if s.Admits sessionID tunnel then some { s with registry := s.registry.open tunnel } else none
  | .closeSession id order =>
    if s.Closes sessionID id order then some { s with registry := s.registry.closeSession id order } else none

variable {dec : Decoder} {localAddress : GoString} {capacity : Nat} {sessionID : GoString} {s next : Serving n}

section

variable (dec : Decoder) (localAddress : GoString) (capacity : Nat) (sessionID : GoString) (s : Serving n)

/-- The ways a step can go. -/
inductive Step : ServingEvent n → Serving n → Prop where
  | respond {e way} (hready : s.Ready sessionID e) (hway : s.way.step dec localAddress capacity e = some way) :
    Step (.respond e) { s with way }
  | call {e calls} (hpermits : s.Permits sessionID e) (hcalls : s.calls.step e = some calls) :
    Step (.call e) (s.make sessionID calls e)
  | openTunnel {tunnel} (hadmits : s.Admits sessionID tunnel) :
    Step (.openTunnel tunnel) { s with registry := s.registry.open tunnel }
  | closeSession {id order} (hcloses : s.Closes sessionID id order) :
    Step (.closeSession id order) { s with registry := s.registry.closeSession id order }

end

theorem step_eq_some {e : ServingEvent n} :
    s.step dec localAddress capacity sessionID e = some next ↔
      Step dec localAddress capacity sessionID s e next := by
  constructor
  · intro h
    cases e with
    | respond e =>
      simp only [step] at h
      split at h
      · rename_i hready
        obtain ⟨way, hway, rfl⟩ := Option.map_eq_some_iff.mp h
        exact .respond hready hway
      · cases h
    | call e =>
      simp only [step] at h
      split at h
      · rename_i hpermits
        obtain ⟨calls, hcalls, rfl⟩ := Option.map_eq_some_iff.mp h
        exact .call hpermits hcalls
      · cases h
    | openTunnel tunnel =>
      simp only [step] at h
      split at h <;> cases h
      rename_i hadmits
      exact .openTunnel hadmits
    | closeSession id order =>
      simp only [step] at h
      split at h <;> cases h
      rename_i hcloses
      exact .closeSession hcloses
  · intro h
    cases h with
    | respond hready hway => rw [step, if_pos hready, hway, Option.map_some]
    | call hpermits hcalls => rw [step, if_pos hpermits, hcalls, Option.map_some]
    | openTunnel hadmits => rw [step, if_pos hadmits]
    | closeSession hcloses => rw [step, if_pos hcloses]

@[simp] theorem make_way (s : Serving n) (calls : Calls GoString) (e : CallEvent GoString) :
    (s.make sessionID calls e).way = s.way := by cases e <;> rfl

@[simp] theorem make_calls (s : Serving n) (calls : Calls GoString) (e : CallEvent GoString) :
    (s.make sessionID calls e).calls = calls := by cases e <;> rfl

@[simp] theorem make_registry (s : Serving n) (calls : Calls GoString) (e : CallEvent GoString) :
    (s.make sessionID calls e).registry = s.registry := by cases e <;> rfl

end Serving

namespace ServingEvent

variable {n : Nat}

def responding : ServingEvent n → Option (RespondingEvent n)
  | .respond e => some e
  | _ => none

def calling : ServingEvent n → Option (CallEvent GoString)
  | .call e => some e
  | _ => none

/-- A step of the agent and of the session loop with what they have: no new job or ping, and nothing that anybody else
    does. -/
def Internal (sessionID : GoString) : ServingEvent n → Prop
  | .respond e => e.arrives = false
  | .call (.deliverLocked t _ _) | .call (.deliverSend t _ _) | .call (.deliverReturn t _)
  | .call (.removeSend t _) | .call (.removeReturn t) => t = sessionID
  | _ => False

end ServingEvent

variable {n : Nat} {dec : Decoder} {localAddress : GoString} {capacity : Nat} {sessionID : GoString}
  {events : List (ServingEvent n)} {s : Serving n}

/-- The jobs that the agent's workers have taken. -/
def served (events : List (ServingEvent n)) : List Job := jobs (events.filterMap ServingEvent.responding)

theorem Serving.way_of_run {start : Serving n}
    (hrun : run (Serving.step dec localAddress capacity sessionID) start events = some s) :
    run (Responding.step dec localAddress capacity) start.way (events.filterMap ServingEvent.responding) =
      some s.way := by
  refine run_project Serving.way ServingEvent.responding ?_ hrun
  intro _ s e next _ hstep
  cases Serving.step_eq_some.mp hstep with
  | respond hready hway =>
    refine ⟨?_, fun hnone => by cases hnone⟩
    rintro e' ⟨⟩
    exact hway
  | call => exact ⟨fun e' hsome => (by cases hsome), fun _ => Serving.make_way _ _ _⟩
  | openTunnel | closeSession => exact ⟨fun e' hsome => (by cases hsome), fun _ => rfl⟩

theorem Serving.calls_of_run {session : Session} {now : Nat}
    (hrun : run (Serving.step dec localAddress capacity sessionID) (Serving.start session now) events = some s) :
    run Calls.step Calls.start (.register session now :: events.filterMap ServingEvent.calling) = some s.calls := by
  refine run_project Serving.calls ServingEvent.calling ?_ hrun
  intro _ s e next _ hstep
  cases Serving.step_eq_some.mp hstep with
  | call hpermits hcalls =>
    refine ⟨?_, fun hnone => by cases hnone⟩
    rintro e' ⟨⟩
    rw [Serving.make_calls]
    exact hcalls
  | respond | openTunnel | closeSession => exact ⟨fun e' hsome => (by cases hsome), fun _ => rfl⟩

theorem served_append (first second : List (ServingEvent n)) :
    served (first ++ second) = served first ++ served second := by
  simp only [served, jobs, List.filterMap_append]

theorem served_eq_nil (hinternal : ∀ e ∈ events, e.Internal sessionID) : served events = [] := by
  rw [served, jobs, List.filterMap_filterMap, List.filterMap_eq_nil_iff]
  intro e hmem
  have he := hinternal e hmem
  cases e with
  | respond e =>
    cases e with
    | take => cases he
    | _ => rfl
  | call | openTunnel | closeSession => rfl

end myngrok.pipeline
