import Myngrok.Gateway.Completion
import Myngrok.Gateway.ServeSession
import Myngrok.Tunnels.PublicHandler

open golang websocket myngrok.protocol
open myngrok.gateway (Calls CallEvent Chan Response Session sessionOutboundQueueCapacity)

namespace myngrok.tunnels

/-- A session loop: whether it still runs, and the outbound channel that was made for it. -/
structure Loop where
  running : Bool
  queue : Chan
  deriving DecidableEq

/-- The public side of the gateway: the session manager with the `DeliverResponse` and `Remove` calls in progress, the
    routes, the outbound queues made so far, the loops of all sessions that ever connected, and the `ServeHTTP` calls by
    their request IDs. -/
structure PublicSystem (Thread : Type) where
  calls : Calls Thread
  registry : Registry
  limiter : PublicRateLimiter
  queues : Chan → List Message
  madeQueues : Nat
  loops : Map GoString Loop
  handlers : Map GoString Handler

/-- `dequeue`, `beat`, `post` and `finish` are the session loop: it takes a message from its queue and writes it, writes
    a ping or a pong of its own, puts its `tunnel_opened` answer in the queue, or returns. -/
inductive PublicEvent (Thread : Type) where
  | connect (session : Session) (now : Nat)
  | openTunnel (tunnel : ActiveTunnel)
  | closeTunnel (id : GoString)
  | closeSession (sessionID : GoString) (order : List GoString)
  | route (request : PublicRequest) (now : Time) (random : Option Bytes)
  | handler (id : GoString) (e : HandlerEvent)
  | dequeue (sessionID : GoString) (message : Message)
  | beat (sessionID : GoString) (answer : Bool)
  | post (sessionID : GoString) (opened : TunnelOpenedPayload)
  | finish (sessionID : GoString)
  | call (e : CallEvent Thread)
  deriving DecidableEq

namespace PublicSystem

variable {Thread : Type}

def start : PublicSystem Thread :=
  { calls := Calls.start, registry := newRegistry
    limiter := newPublicRateLimiter publicRateLimit publicRateWindow
    queues := fun _ => [], madeQueues := 0, loops := ∅, handlers := ∅ }

/-- A send on the channel does not block. -/
def hasRoom (s : PublicSystem Thread) (queue : Chan) : Bool :=
  (s.queues queue).length < sessionOutboundQueueCapacity

def setQueue (s : PublicSystem Thread) (queue : Chan) (messages : List Message) : PublicSystem Thread :=
  { s with queues := Function.update s.queues queue messages }

def push (s : PublicSystem Thread) (queue : Chan) (message : Message) : PublicSystem Thread :=
  s.setQueue queue (s.queues queue ++ [message])

def setHandler (s : PublicSystem Thread) (id : GoString) (h : Handler) : PublicSystem Thread :=
  { s with handlers := s.handlers.insert id h }

def setCalls (s : PublicSystem Thread) (calls : Calls Thread) : PublicSystem Thread := { s with calls }

def setRegistry (s : PublicSystem Thread) (registry : Registry) : PublicSystem Thread := { s with registry }

def setLoop (s : PublicSystem Thread) (sessionID : GoString) (loop : Loop) : PublicSystem Thread :=
  { s with loops := s.loops.insert sessionID loop }

/-- The accounting that goes with a response that is passed on. -/
def recordResponse (h : Handler) (response : Response) (registry : Registry) : Registry :=
  if response.error ≠ [] then registry
  else registry.recordTraffic h.tunnel.id h.request.contentLength response.body.length

/-- The actions of `DeliverResponse` and `Remove` calls; the others are the handlers' own. -/
def inCall : CallEvent Thread → Bool
  | .registerRequest .. => false
  | .cancelRequest _ => false
  | .receive .. => false
  | .register .. => false
  | _ => true

variable [DecidableEq Thread]

/-- What an action of a handler needs and does outside the handler. -/
def shared (s : PublicSystem Thread) (h : Handler) : HandlerEvent → Option (PublicSystem Thread)
  | .register sessionID ch => (s.calls.step (.registerRequest sessionID h.id ch)).map s.setCalls
  | .lookup queue => if s.calls.manager.outbound h.tunnel.sessionID = queue then some s else none
  | .cancelLookup queue => if s.calls.manager.outbound h.tunnel.sessionID = queue then some s else none
  | .enqueue =>
    match h.phase with
    | .enqueueing queue message _ => if s.hasRoom queue then some (s.push queue message) else none
    | _ => none
  | .offer taken =>
    match h.phase with
    | .offering queue _ =>
      if s.hasRoom queue then if taken then some (s.push queue (cancelRequestMessage h.id)) else none
      else if taken then none else some s
    | _ => none
  | .receive ch response => (s.calls.step (.receive ch response)).map fun calls =>
    (s.setCalls calls).setRegistry (recordResponse h response s.registry)
  | .cancelRequest => (s.calls.step (.cancelRequest h.id)).map s.setCalls
  | .ctxDone | .read .. | .timeout => some s

/-- One atomic action. Session IDs and request IDs are fresh. -/
def step (baseDomain : GoString) (s : PublicSystem Thread) : PublicEvent Thread → Option (PublicSystem Thread)
  | .connect session now =>
    if session.id ∉ s.loops ∧ session.outbound = some s.madeQueues then
      (s.calls.step (.register session now)).map fun calls =>
        { (s.setCalls calls).setLoop session.id { running := true, queue := s.madeQueues } with
          madeQueues := s.madeQueues + 1 }
    else none
  | .openTunnel tunnel => some (s.setRegistry (s.registry.open tunnel))
  | .closeTunnel id => some (s.setRegistry (s.registry.close id).2)
  | .closeSession sessionID order =>
    if order.Perm s.registry.byID.keys then some (s.setRegistry (s.registry.closeSession sessionID order)) else none
  | .route request now random =>
    match route baseDomain s.registry s.limiter request now random with
    | (.error _, limiter) => some { s with limiter }
    | (.ok h, limiter) => if h.id ∉ s.handlers then some ({ s with limiter }.setHandler h.id h) else none
  | .handler id e =>
    match s.handlers.lookup id with
    | some h => (h.step e).bind fun h' => (s.shared h e).map fun s' => s'.setHandler id h'
    | none => none
  | .dequeue sessionID message =>
    match s.loops.lookup sessionID, s.calls.manager.outbound sessionID with
    | some { running := true, .. }, some queue =>
      match s.queues queue with
      | first :: rest => if first = message then some (s.setQueue queue rest) else none
      | [] => none
    | _, _ => none
  | .beat sessionID _ =>
    match s.loops.lookup sessionID with
    | some { running := true, .. } => some s
    | _ => none
  | .post sessionID opened =>
    match s.loops.lookup sessionID, s.calls.manager.outbound sessionID with
    | some { running := true, .. }, some queue =>
      if s.hasRoom queue then some (s.push queue (tunnelOpenedMessage opened)) else none
    | _, _ => none
  | .finish sessionID =>
    match s.loops.lookup sessionID with
    | some { running := true, queue } => some (s.setLoop sessionID { running := false, queue })
    | _ => none
  | .call e => if inCall e then (s.calls.step e).map s.setCalls else none

/-- What a handler's action needs and does, one case for each way it can go. -/
inductive Acts (s : PublicSystem Thread) (h : Handler) : HandlerEvent → PublicSystem Thread → Handler → Prop where
  | register {ch calls} (hphase : h.phase = .routed)
      (hcall : s.calls.step (.registerRequest h.tunnel.sessionID h.id ch) = some calls) :
    Acts s h (.register h.tunnel.sessionID ch) (s.setCalls calls)
      { h with ch, phase := .sending (httpRequestStartMessage (startPayload h.request h.id)) .started }
  | lookupFound {queue message after} (hphase : h.phase = .sending message after)
      (hlookup : s.calls.manager.outbound h.tunnel.sessionID = some queue) :
    Acts s h (.lookup (some queue)) s (h.goTo (.enqueueing queue message after))
  | lookupMissing {message after} (hphase : h.phase = .sending message after)
      (hlookup : s.calls.manager.outbound h.tunnel.sessionID = none) : Acts s h (.lookup none) s (h.unsent after)
  | enqueue {queue message after} (hphase : h.phase = .enqueueing queue message after) (hroom : s.hasRoom queue) :
    Acts s h .enqueue (s.push queue message) (h.sent after)
  | sendDone {queue message after} (hphase : h.phase = .enqueueing queue message after) :
    Acts s h .ctxDone s (h.unsent after)
  | read {sequence offset count err h'} (hphase : h.phase = .reading sequence offset)
      (hallowed : readAllowed h.request offset count err) (hread : h.afterRead sequence offset count err = some h') :
    Acts s h (.read count err) s h'
  | receive {response calls} (hphase : h.phase = .waiting) (hcall : s.calls.step (.receive h.ch response) = some calls)
      :
    Acts s h (.receive h.ch response) ((s.setCalls calls).setRegistry (recordResponse h response s.registry))
      (h.goTo (.leaving (responseReply response)))
  | waitDone (hphase : h.phase = .waiting) : Acts s h .ctxDone s (h.goTo (.cancelling timedOut))
  | timeout (hphase : h.phase = .waiting) : Acts s h .timeout s (h.goTo (.cancelling timedOut))
  | cancelFound {queue reply} (hphase : h.phase = .cancelling reply)
      (hlookup : s.calls.manager.outbound h.tunnel.sessionID = some queue) :
    Acts s h (.cancelLookup (some queue)) s (h.goTo (.offering queue reply))
  | cancelMissing {reply} (hphase : h.phase = .cancelling reply)
      (hlookup : s.calls.manager.outbound h.tunnel.sessionID = none) :
    Acts s h (.cancelLookup none) s (h.goTo (.leaving reply))
  | offered {queue reply} (hphase : h.phase = .offering queue reply) (hroom : s.hasRoom queue) :
    Acts s h (.offer true) (s.push queue (cancelRequestMessage h.id)) (h.goTo (.leaving reply))
  | refused {queue reply} (hphase : h.phase = .offering queue reply) (hfull : ¬ s.hasRoom queue) :
    Acts s h (.offer false) s (h.goTo (.leaving reply))
  | cancelRequest {reply calls} (hphase : h.phase = .leaving reply)
      (hcall : s.calls.step (.cancelRequest h.id) = some calls) :
    Acts s h .cancelRequest (s.setCalls calls) (h.goTo (.returned reply))

theorem acts_of_shared {s s' : PublicSystem Thread} {h h' : Handler} {e : HandlerEvent} (hstep : h.step e = some h')
    (hshared : s.shared h e = some s') : s.Acts h e s' h' := by
  cases hphase : h.phase with
  | routed =>
    cases e <;> simp only [Handler.step, hphase] at hstep <;> try cases hstep
    split at hstep <;> cases hstep
    rename_i hsession
    subst hsession
    obtain ⟨calls, hcall, rfl⟩ := Option.map_eq_some_iff.mp hshared
    exact .register hphase hcall
  | sending message after =>
    cases e <;> simp only [Handler.step, hphase] at hstep <;> try cases hstep
    simp only [shared] at hshared
    split at hshared <;> cases hshared
    rename_i queue hlookup
    cases queue <;> cases hstep
    · exact .lookupMissing hphase hlookup
    · exact .lookupFound hphase hlookup
  | enqueueing queue message after =>
    cases e <;> simp only [Handler.step, hphase] at hstep <;> cases hstep
    · simp only [shared, hphase] at hshared
      split at hshared <;> cases hshared
      rename_i hroom
      exact .enqueue hphase hroom
    · cases hshared
      exact .sendDone hphase
  | reading sequence offset =>
    cases e <;> simp only [Handler.step, hphase] at hstep <;> try cases hstep
    split at hstep
    · rename_i hallowed
      cases hshared
      exact .read hphase hallowed hstep
    · cases hstep
  | waiting =>
    cases e <;> simp only [Handler.step, hphase] at hstep <;> try cases hstep
    · cases hshared
      exact .waitDone hphase
    · split at hstep <;> cases hstep
      rename_i hch
      subst hch
      obtain ⟨calls, hcall, rfl⟩ := Option.map_eq_some_iff.mp hshared
      exact .receive hphase hcall
    · cases hshared
      exact .timeout hphase
  | cancelling reply =>
    cases e <;> simp only [Handler.step, hphase] at hstep <;> try cases hstep
    simp only [shared] at hshared
    split at hshared <;> cases hshared
    rename_i queue hlookup
    cases queue <;> cases hstep
    · exact .cancelMissing hphase hlookup
    · exact .cancelFound hphase hlookup
  | offering queue reply =>
    cases e <;> simp only [Handler.step, hphase] at hstep <;> cases hstep
    rename_i taken
    simp only [shared, hphase] at hshared
    split at hshared <;> split at hshared <;> cases hshared <;> rename_i hroom htaken
    · cases htaken
      exact .offered hphase hroom
    · cases Bool.eq_false_iff.mpr htaken
      exact .refused hphase hroom
  | leaving reply =>
    cases e <;> simp only [Handler.step, hphase] at hstep <;> cases hstep
    rw [shared] at hshared
    obtain ⟨calls, hcall, rfl⟩ := Option.map_eq_some_iff.mp hshared
    exact .cancelRequest hphase hcall
  | returned reply => cases e <;> simp only [Handler.step, hphase] at hstep <;> cases hstep

section

variable (baseDomain : GoString) (s : PublicSystem Thread)

/-- The ways a step can go. -/
inductive Step : PublicEvent Thread → PublicSystem Thread → Prop where
  | connect {session : Session} {now calls} (habsent : session.id ∉ s.loops)
      (hqueue : session.outbound = some s.madeQueues) (hcall : s.calls.step (.register session now) = some calls) :
    Step (.connect session now)
      { (s.setCalls calls).setLoop session.id { running := true, queue := s.madeQueues } with
        madeQueues := s.madeQueues + 1 }
  | openTunnel (tunnel : ActiveTunnel) : Step (.openTunnel tunnel) (s.setRegistry (s.registry.open tunnel))
  | closeTunnel (id : GoString) : Step (.closeTunnel id) (s.setRegistry (s.registry.close id).2)
  | closeSession (sessionID : GoString) {order : List GoString} (horder : order.Perm s.registry.byID.keys) :
    Step (.closeSession sessionID order) (s.setRegistry (s.registry.closeSession sessionID order))
  | rejected {request now random reply limiter}
      (hroute : route baseDomain s.registry s.limiter request now random = (.error reply, limiter)) :
    Step (.route request now random) { s with limiter }
  | routed {request now random} {h : Handler} {limiter}
      (hroute : route baseDomain s.registry s.limiter request now random = (.ok h, limiter))
      (hfresh : h.id ∉ s.handlers) : Step (.route request now random) ({ s with limiter }.setHandler h.id h)
  | handler {id e h h'} {s' : PublicSystem Thread} (hlookup : s.handlers.lookup id = some h) (hacts : s.Acts h e s' h')
      : Step (.handler id e) (s'.setHandler id h')
  | dequeue {sessionID own queue message rest}
      (hloop : s.loops.lookup sessionID = some { running := true, queue := own })
      (houtbound : s.calls.manager.outbound sessionID = some queue) (hqueue : s.queues queue = message :: rest) :
    Step (.dequeue sessionID message) (s.setQueue queue rest)
  | beat {sessionID own} (answer : Bool) (hloop : s.loops.lookup sessionID = some { running := true, queue := own }) :
    Step (.beat sessionID answer) s
  | post {sessionID own queue} (opened : TunnelOpenedPayload)
      (hloop : s.loops.lookup sessionID = some { running := true, queue := own })
      (houtbound : s.calls.manager.outbound sessionID = some queue) (hroom : s.hasRoom queue) :
    Step (.post sessionID opened) (s.push queue (tunnelOpenedMessage opened))
  | finish {sessionID queue} (hloop : s.loops.lookup sessionID = some { running := true, queue }) :
    Step (.finish sessionID) (s.setLoop sessionID { running := false, queue })
  | call {e calls} (hcalled : inCall e) (hcall : s.calls.step e = some calls) : Step (.call e) (s.setCalls calls)

end

theorem step_cases {baseDomain : GoString} {s next : PublicSystem Thread} {e : PublicEvent Thread}
    (h : s.step baseDomain e = some next) : s.Step baseDomain e next := by
  cases e with
  | connect session now =>
    simp only [step] at h
    split at h
    · rename_i hguard
      obtain ⟨calls, hcall, rfl⟩ := Option.map_eq_some_iff.mp h
      exact .connect hguard.1 hguard.2 hcall
    · cases h
  | openTunnel tunnel =>
    cases h
    exact .openTunnel tunnel
  | closeTunnel id =>
    cases h
    exact .closeTunnel id
  | closeSession sessionID order =>
    simp only [step] at h
    split at h <;> cases h
    rename_i horder
    exact .closeSession sessionID horder
  | route request now random =>
    simp only [step] at h
    split at h
    · rename_i reply limiter hroute
      cases h
      exact .rejected hroute
    · rename_i handler limiter hroute
      split at h <;> cases h
      rename_i hfresh
      exact .routed hroute hfresh
  | handler id e =>
    simp only [step] at h
    split at h
    · rename_i handler hlookup
      obtain ⟨h', hstep, hrest⟩ := Option.bind_eq_some_iff.mp h
      obtain ⟨s', hshared, rfl⟩ := Option.map_eq_some_iff.mp hrest
      exact .handler hlookup (acts_of_shared hstep hshared)
    · cases h
  | dequeue sessionID message =>
    simp only [step] at h
    split at h
    · rename_i own queue hloop houtbound
      split at h
      · rename_i first rest hqueue
        split at h <;> cases h
        rename_i hfirst
        subst hfirst
        exact .dequeue hloop houtbound hqueue
      · cases h
    · cases h
  | beat sessionID answer =>
    simp only [step] at h
    split at h
    · rename_i own hloop
      cases h
      exact .beat answer hloop
    · cases h
  | post sessionID opened =>
    simp only [step] at h
    split at h
    · rename_i own queue hloop houtbound
      split at h <;> cases h
      rename_i hroom
      exact .post opened hloop houtbound hroom
    · cases h
  | finish sessionID =>
    simp only [step] at h
    split at h
    · rename_i queue hloop
      cases h
      exact .finish hloop
    · cases h
  | call e =>
    simp only [step] at h
    split at h
    · rename_i hcalled
      obtain ⟨calls, hcall, rfl⟩ := Option.map_eq_some_iff.mp h
      exact .call hcalled hcall
    · cases h

end PublicSystem

/-- One agent with one tunnel. -/
def sampleSession : Session :=
  { id := lit "ses_1", agentID := lit "agt_1", agentTokenHash := lit "5e88", lastSeen := none, outbound := some 0 }

def sampleTunnel : ActiveTunnel :=
  { id := lit "tun_1", subdomain := lit "demo", agentID := lit "agt_1", userID := lit "usr_1"
    sessionID := lit "ses_1", localAddress := lit "127.0.0.1:3000" }

def sampleRequest (body : Bytes) : PublicRequest :=
  { method := lit "POST", requestURI := lit "/", header := ∅, host := lit "demo.tunnel.example"
    remoteAddr := lit "192.0.2.1:40000", tls := true, contentLength := body.length, body }

/-- The agent connects and opens its tunnel, and a request arrives and is registered. -/
def sampleArrival {Thread : Type} (body random : Bytes) : List (PublicEvent Thread) :=
  [.connect sampleSession 1, .openTunnel sampleTunnel, .route (sampleRequest body) 1 (some random),
    .handler (publicRequestID random) (.register (lit "ses_1") 0)]

end myngrok.tunnels
