import Myngrok.Pipeline.Delivery
import Myngrok.Pipeline.RequestIntegrity

open golang Result websocket transition myngrok.protocol myngrok.tunnels
open myngrok.gateway (Response)
open myngrok.gatewayclient (Job Reading Request)

namespace myngrok.pipeline

/-- The agent of one session and the two ways between it and the gateway. `unread` is what the session loop has written
    and the agent has not read; the workers have taken the first `taken` of the requests that the agent has dispatched,
    the others wait in `jobs`; and `passed` of the responses that the session loop has put together were given to
    `DeliverResponse`. -/
structure Endpoint (n : Nat) where
  unread : List Message
  reading : Reading
  taken : Nat
  responding : Responding n
  passed : Nat

/-- The gateway and the agents of all its sessions. The goroutine of a session makes its calls under the session ID. -/
structure Tunnelling (n : Nat) where
  gateway : PublicSystem GoString
  endpoints : GoString → Endpoint n

/-- Besides the actions of the gateway itself: the agent of a session reads a message, one of its workers takes a
    request from `jobs` and meets the local service, a response makes a step towards the gateway, and the session loop
    hands one over. -/
inductive TunnelEvent (n : Nat) where
  | gateway (e : PublicEvent GoString)
  | read (sessionID : GoString) (message : Message)
  | take (sessionID : GoString) (w : Fin n) (job : Job)
  | respond (sessionID : GoString) (e : RespondingEvent n)
  | deliver (sessionID id : GoString) (response : Response)

variable {n : Nat}

namespace Endpoint

def start : Endpoint n :=
  { unread := [], reading := Reading.start, taken := 0, responding := Responding.start, passed := 0 }

/-- The agent answers this message with a pong. -/
def asksPong (dec : Decoder) (message : Message) : Bool :=
  message.messageType = .text && (dec.requestMessage message.data).any fun content => content.1 = ping

/-- The session loop has written this. -/
def written (endpoint : Endpoint n) (message : Option Message) : Endpoint n :=
  { endpoint with unread := endpoint.unread ++ message.toList }

/-- The pong that goes with a message, if it asks for one. -/
def pong (dec : Decoder) (localAddress : GoString) (capacity : Nat) (endpoint : Endpoint n) (message : Message) :
    Option (Responding n) :=
  if asksPong dec message then endpoint.responding.step dec localAddress capacity .pong
  else some endpoint.responding

/-- A round of the agent's read loop. It waits for room in the outbound queue before a pong and in `jobs`, whose
    capacity is the number of workers, before it dispatches a request. -/
def read (dec : Decoder) (localAddress : GoString) (capacity : Nat) (endpoint : Endpoint n) (message : Message) :
    Option (Endpoint n) :=
  match endpoint.unread, endpoint.reading.step dec message, endpoint.pong dec localAddress capacity message with
  | first :: rest, some reading, some responding =>
    if first = message ∧ reading.dispatched.length ≤ endpoint.taken + n then
      some { endpoint with unread := rest, reading, responding }
    else none
  | _, _, _ => none

/-- A worker takes the oldest request from `jobs`. -/
def take (dec : Decoder) (localAddress : GoString) (capacity : Nat) (endpoint : Endpoint n) (w : Fin n) (job : Job) :
    Option (Endpoint n) :=
  if endpoint.reading.dispatched[endpoint.taken]? = some job.request then
    (endpoint.responding.step dec localAddress capacity (.take w job)).map fun responding =>
      { endpoint with taken := endpoint.taken + 1, responding }
  else none

/-- The response that the session loop has to hand over next. -/
def due (endpoint : Endpoint n) : Option (GoString × Response) := endpoint.responding.delivered[endpoint.passed]?

end Endpoint

namespace Tunnelling

def start : Tunnelling n := { gateway := PublicSystem.start, endpoints := fun _ => Endpoint.start }

def setEndpoint (s : Tunnelling n) (sessionID : GoString) (endpoint : Endpoint n) : Tunnelling n :=
  { s with endpoints := Function.update s.endpoints sessionID endpoint }

theorem setEndpoint_endpoints (s : Tunnelling n) (sessionID : GoString) (endpoint : Endpoint n) (query : GoString) :
    (s.setEndpoint sessionID endpoint).endpoints query = if query = sessionID then endpoint else s.endpoints query := by
  simp [setEndpoint, Function.update_apply]

/-- The goroutine of the session is in no call of the session manager and has none to make for a response. -/
def between (s : Tunnelling n) (sessionID : GoString) : Bool :=
  s.gateway.calls.threads sessionID = .idle && (s.endpoints sessionID).due = none

/-- The session loop is in its `select`. -/
def serving (s : Tunnelling n) (sessionID : GoString) : Bool :=
  s.between sessionID && (s.endpoints sessionID).responding.responses.isSome &&
    (s.gateway.loops.lookup sessionID).any (·.running)

/-- Which actions of the gateway may come now. What the goroutine of a session does comes in its order: the rounds of
    its loop, then the deferred `Remove`. -/
def allows (s : Tunnelling n) : PublicEvent GoString → Bool
  | .dequeue sessionID _ => s.serving sessionID
  | .beat sessionID _ => s.serving sessionID
  | .post sessionID _ => s.serving sessionID
  | .finish sessionID => s.between sessionID
  | .call (.deliverLocked ..) => false
  | .call (.removeLocked t sessionID _) =>
    t = sessionID && s.between sessionID && (s.gateway.loops.lookup sessionID).any fun loop => !loop.running
  | _ => true

/-- Which steps of the way back are steps of their own; `inbound` is the session loop again. -/
def allowsResponse (s : Tunnelling n) (sessionID : GoString) : RespondingEvent n → Bool
  | .take .. => false
  | .pong => false
  | .inbound .. => s.serving sessionID
  | _ => true

/-- One step of the gateway or of an agent. `localAddress` is what the agent of each session was started with,
    `capacity` that of the sockets towards the gateway. -/
def step (dec : Decoder) (baseDomain : GoString) (localAddress : GoString → GoString) (capacity : Nat)
    (s : Tunnelling n) : TunnelEvent n → Option (Tunnelling n)
  | .gateway e =>
    if s.allows e then
      (s.gateway.step baseDomain e).map fun gateway =>
        { gateway, endpoints := fun sessionID => (s.endpoints sessionID).written (e.written sessionID) }
    else none
  | .read sessionID message =>
    ((s.endpoints sessionID).read dec (localAddress sessionID) capacity message).map (s.setEndpoint sessionID)
  | .take sessionID w job =>
    ((s.endpoints sessionID).take dec (localAddress sessionID) capacity w job).map (s.setEndpoint sessionID)
  | .respond sessionID e =>
    if s.allowsResponse sessionID e then
      ((s.endpoints sessionID).responding.step dec (localAddress sessionID) capacity e).map fun responding =>
        s.setEndpoint sessionID { s.endpoints sessionID with responding }
    else none
  | .deliver sessionID id response =>
    if (s.endpoints sessionID).due = some (id, response) then
      (s.gateway.step baseDomain (.call (.deliverLocked sessionID id response))).map fun gateway =>
        { s with gateway }.setEndpoint sessionID
          { s.endpoints sessionID with passed := (s.endpoints sessionID).passed + 1 }
    else none

section

variable (dec : Decoder) (baseDomain : GoString) (localAddress : GoString → GoString) (capacity : Nat)
  (s : Tunnelling n)

/-- The ways a step can go. -/
inductive Step : TunnelEvent n → Tunnelling n → Prop where
  | gateway {e : PublicEvent GoString} {gateway} (hallows : s.allows e)
      (hgateway : s.gateway.step baseDomain e = some gateway) :
    Step (.gateway e) { gateway, endpoints := fun sessionID => (s.endpoints sessionID).written (e.written sessionID) }
  | read {sessionID message rest} {reading : Reading} {responding}
      (hunread : (s.endpoints sessionID).unread = message :: rest)
      (hreading : (s.endpoints sessionID).reading.step dec message = some reading)
      (hpong : (s.endpoints sessionID).pong dec (localAddress sessionID) capacity message = some responding)
      (hroom : reading.dispatched.length ≤ (s.endpoints sessionID).taken + n) :
    Step (.read sessionID message)
      (s.setEndpoint sessionID { s.endpoints sessionID with unread := rest, reading, responding })
  | take {sessionID w} {job : Job} {responding}
      (hnext : (s.endpoints sessionID).reading.dispatched[(s.endpoints sessionID).taken]? = some job.request)
      (hresponding : (s.endpoints sessionID).responding.step dec (localAddress sessionID) capacity (.take w job) =
        some responding) :
    Step (.take sessionID w job)
      (s.setEndpoint sessionID { s.endpoints sessionID with taken := (s.endpoints sessionID).taken + 1, responding })
  | respond {sessionID e responding} (hallows : s.allowsResponse sessionID e)
      (hresponding : (s.endpoints sessionID).responding.step dec (localAddress sessionID) capacity e =
        some responding) :
    Step (.respond sessionID e) (s.setEndpoint sessionID { s.endpoints sessionID with responding })
  | deliver {sessionID id response gateway} (hdue : (s.endpoints sessionID).due = some (id, response))
      (hgateway : s.gateway.step baseDomain (.call (.deliverLocked sessionID id response)) = some gateway) :
    Step (.deliver sessionID id response)
      ({ s with gateway }.setEndpoint sessionID
        { s.endpoints sessionID with passed := (s.endpoints sessionID).passed + 1 })

end

variable {dec : Decoder} {baseDomain : GoString} {localAddress : GoString → GoString} {capacity : Nat}
  {s next : Tunnelling n} {e : TunnelEvent n}

theorem step_cases (h : s.step dec baseDomain localAddress capacity e = some next) :
    Step dec baseDomain localAddress capacity s e next := by
  cases e with
  | gateway e =>
    simp only [step] at h
    split at h
    · rename_i hallows
      obtain ⟨gateway, hgateway, rfl⟩ := Option.map_eq_some_iff.mp h
      exact .gateway hallows hgateway
    · cases h
  | read sessionID message =>
    obtain ⟨endpoint, hread, rfl⟩ := Option.map_eq_some_iff.mp h
    unfold Endpoint.read at hread
    split at hread
    · rename_i first rest reading responding hunread hreading hpong
      split at hread <;> cases hread
      rename_i hguard
      obtain ⟨rfl, hroom⟩ := hguard
      exact .read hunread hreading hpong hroom
    · cases hread
  | take sessionID w job =>
    obtain ⟨endpoint, htake, rfl⟩ := Option.map_eq_some_iff.mp h
    unfold Endpoint.take at htake
    split at htake
    · rename_i hnext
      obtain ⟨responding, hresponding, rfl⟩ := Option.map_eq_some_iff.mp htake
      exact .take hnext hresponding
    · cases htake
  | respond sessionID e =>
    simp only [step] at h
    split at h
    · rename_i hallows
      obtain ⟨responding, hresponding, rfl⟩ := Option.map_eq_some_iff.mp h
      exact .respond hallows hresponding
    · cases h
  | deliver sessionID id response =>
    simp only [step] at h
    split at h
    · rename_i hdue
      obtain ⟨gateway, hgateway, rfl⟩ := Option.map_eq_some_iff.mp h
      exact .deliver hdue hgateway
    · cases h

end Tunnelling

/-! The parts of a run: the gateway, what the agent of a session reads, and the way back of its responses. -/

namespace TunnelEvent

/-- What an event is for the gateway. -/
def gatewayEvent : TunnelEvent n → Option (PublicEvent GoString)
  | .gateway e => some e
  | .deliver sessionID id response => some (.call (.deliverLocked sessionID id response))
  | _ => none

/-- The message that the agent of a session reads. -/
def readBy (sessionID : GoString) : TunnelEvent n → Option Message
  | .read other message => if other = sessionID then some message else none
  | _ => none

/-- What an event is for the way back of a session's responses. -/
def respondingEvent (dec : Decoder) (sessionID : GoString) : TunnelEvent n → Option (RespondingEvent n)
  | .read other message => if other = sessionID then if Endpoint.asksPong dec message then some .pong else none else none
  | .take other w job => if other = sessionID then some (.take w job) else none
  | .respond other e => if other = sessionID then some e else none
  | _ => none

/-- A request that a worker takes, with the session of its agent. -/
def executed : TunnelEvent n → Option (GoString × Job)
  | .take sessionID _ job => some (sessionID, job)
  | _ => none

end TunnelEvent

namespace Tunnelling

variable {dec : Decoder} {baseDomain : GoString} {localAddress : GoString → GoString} {capacity : Nat}
  {events : List (TunnelEvent n)} {s : Tunnelling n} {e : TunnelEvent n}

theorem run_gateway (h : run (step dec baseDomain localAddress capacity) start events = some s) :
    run (PublicSystem.step baseDomain) PublicSystem.start (events.filterMap TunnelEvent.gatewayEvent) =
      some s.gateway := by
  refine run_project Tunnelling.gateway TunnelEvent.gatewayEvent ?_ h
  intro _ _ _ _ _ hstep
  cases step_cases hstep with
  | gateway _ hgateway | deliver _ hgateway =>
    refine ⟨fun e' he' => ?_, fun hnone => by cases hnone⟩
    cases he'
    exact hgateway
  | read | take | respond => exact ⟨fun e' he' => (by cases he'), fun _ => rfl⟩

/-- A step of one endpoint that leaves a part of it alone leaves that part alone everywhere. -/
theorem part_setEndpoint {Part : Type} (part : Endpoint n → Part) {other : GoString} {endpoint : Endpoint n}
    (hsame : part endpoint = part (s.endpoints other)) (sessionID : GoString) :
    part ((s.setEndpoint other endpoint).endpoints sessionID) = part (s.endpoints sessionID) := by
  rw [setEndpoint_endpoints]
  split
  · rename_i hother
    rw [hother, hsame]
  · rfl

/-- What a step of one endpoint is for a part of each of them. -/
theorem project_setEndpoint {Part Label : Type} (stepPart : GoString → Part → Label → Option Part)
    (part : Endpoint n → Part) (other : GoString) (endpoint : Endpoint n) (label : Option Label)
    (hvisible : ∀ l, label = some l → stepPart other (part (s.endpoints other)) l = some (part endpoint))
    (hsilent : label = none → part endpoint = part (s.endpoints other)) (sessionID : GoString) :
    (∀ l, (if other = sessionID then label else none) = some l → stepPart sessionID (part (s.endpoints sessionID)) l =
      some (part ((s.setEndpoint other endpoint).endpoints sessionID))) ∧
    ((if other = sessionID then label else none) = none →
      part ((s.setEndpoint other endpoint).endpoints sessionID) = part (s.endpoints sessionID)) := by
  rw [setEndpoint_endpoints]
  by_cases hother : other = sessionID
  · subst hother
    rw [if_pos rfl, if_pos rfl]
    exact ⟨hvisible, hsilent⟩
  · rw [if_neg hother, if_neg (Ne.symm hother)]
    exact ⟨fun l hl => (by cases hl), fun _ => rfl⟩

theorem run_reading (h : run (step dec baseDomain localAddress capacity) start events = some s) (sessionID : GoString) :
    run (Reading.step dec) Reading.start (events.filterMap (TunnelEvent.readBy sessionID)) =
      some (s.endpoints sessionID).reading := by
  refine run_project (fun s => (s.endpoints sessionID).reading) (TunnelEvent.readBy sessionID) ?_ h
  intro _ s _ _ _ hstep
  cases step_cases hstep with
  | gateway => exact ⟨fun e' he' => (by cases he'), fun _ => rfl⟩
  | read hunread hreading =>
    refine project_setEndpoint (fun _ => Reading.step dec) (·.reading) _ _ (some _) (fun message hmessage => ?_)
      (fun hnone => by cases hnone) sessionID
    cases hmessage
    exact hreading
  | take | respond =>
    refine ⟨fun e' he' => (by cases he'), fun _ => part_setEndpoint (·.reading) ?_ sessionID⟩
    rfl
  | @deliver other id response gateway =>
    refine ⟨fun e' he' => (by cases he'), fun _ => part_setEndpoint (s := { s with gateway }) (·.reading) ?_ sessionID⟩
    rfl

theorem run_responding (h : run (step dec baseDomain localAddress capacity) start events = some s)
    (sessionID : GoString) :
    run (Responding.step dec (localAddress sessionID) capacity) Responding.start
      (events.filterMap (TunnelEvent.respondingEvent dec sessionID)) = some (s.endpoints sessionID).responding := by
  refine run_project (fun s => (s.endpoints sessionID).responding) (TunnelEvent.respondingEvent dec sessionID) ?_ h
  intro _ s _ _ _ hstep
  have hproject := project_setEndpoint (s := s) (fun id => Responding.step dec (localAddress id) capacity) (·.responding)
  cases step_cases hstep with
  | gateway => exact ⟨fun e' he' => (by cases he'), fun _ => rfl⟩
  | @read other message rest reading responding hunread hreading hpong =>
    unfold Endpoint.pong at hpong
    refine hproject other _ _ (fun e' he' => ?_) (fun hnone => ?_) sessionID <;> split at hpong
    · rename_i hasks
      rw [if_pos hasks] at he'
      cases he'
      exact hpong
    · rename_i hsilent
      rw [if_neg hsilent] at he'
      cases he'
    · rename_i hasks
      rw [if_pos hasks] at hnone
      cases hnone
    · cases hpong
      rfl
  | @take other w job responding hnext hresponding =>
    refine hproject other _ _ (fun e' he' => ?_) (fun hnone => by cases hnone) sessionID
    cases he'
    exact hresponding
  | @respond other e responding hallows hresponding =>
    refine hproject other _ _ (fun e' he' => ?_) (fun hnone => by cases hnone) sessionID
    cases he'
    exact hresponding
  | @deliver other id response gateway =>
    refine ⟨fun e' he' => (by cases he'), fun _ => part_setEndpoint (s := { s with gateway }) (·.responding) ?_ sessionID⟩
    rfl

end Tunnelling

end myngrok.pipeline
