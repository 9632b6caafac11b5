import Myngrok.GatewayClient.RequestStreams
import Myngrok.Pipeline.ExactlyOnce

open golang Result websocket myngrok.protocol myngrok.gateway
open myngrok.gatewayclient hiding BinaryFrame responseBodyChunk requestBodyChunk parseBinaryFrame

namespace myngrok.gateway

/-- What an effect of the session loop puts in the outbound queue of the session. -/
def Effect.sent : Effect → Option Message
  | .send data => some { messageType := .text, data }
  | _ => none

/-- What an effect of the session loop writes to the WebSocket. -/
def Effect.written : Effect → Option Message
  | .write message => some message
  | _ => none

/-- What the loop does before its next round, if there is one. -/
def Outcome.effects : Result Outcome → List Effect
  | ok (.continued _ effects) => effects
  | _ => []

/-- The only message that makes the loop write an answer. -/
def isPing (dec : Decoder) (message : Message) : Bool :=
  message.messageType = .text && (dec.message message.data).map Prod.fst = some ping

end myngrok.gateway

namespace myngrok.gatewayclient

/-- Where the read loop of `Connect` stands: in `conn.Read`, in the `select` that puts a job in the job queue, in the
    `send` of a pong, or behind its last `return`. -/
inductive AgentLoop where
  | reading
  | placingJob (request : Request)
  | placingPong
  | ended
  deriving DecidableEq

/-- No message has more than one effect. -/
def AgentLoop.after : List ReadEffect → AgentLoop
  | .pong :: _ => .placingPong
  | .dispatch request :: _ => .placingJob request
  | _ => .reading

end myngrok.gatewayclient

namespace myngrok.pipeline

/-- What stays the same during a session: how JSON is decoded, the address of the local service, and how many messages
    the two directions of the socket hold. -/
structure Setup where
  dec : Decoder
  localAddress : GoString
  toAgentCapacity : Nat
  toGatewayCapacity : Nat

/-- Both directions of one session with an agent of `n` workers. `queue` is the outbound queue of the gateway's session,
    `writing` the message that its loop has to write before anything else, and `jobs` the job queue of the agent. -/
structure Duplex (n : Nat) where
  responding : Responding n
  queue : List Message
  writing : Option Message
  toAgent : List Message
  agent : AgentLoop
  pending : PendingRequests
  jobs : List Request

/-- `enqueue` is the rest of the gateway, `tick` the heartbeat timer; the other events are steps of the parties of the
    session. -/
inductive DuplexEvent (n : Nat) where
  | enqueue (message : Message)
  | tick
  | takeOutbound (message : Message)
  | write (message : Message)
  | agentRead (message : Message)
  | placeJob
  | placePong
  | take (w : Fin n) (job : Job)
  | inbound (answers : Answers) (message : Message)
  | respond (e : RespondingEvent n)

variable {n : Nat}

/-- The steps of the way of the responses that concern nothing else. -/
def RespondingEvent.forwards : RespondingEvent n → Bool
  | .take _ _ => false
  | .pong => false
  | .inbound _ _ => false
  | _ => true

namespace Duplex

def start : Duplex n :=
  { responding := Responding.start, queue := [], writing := none, toAgent := [], agent := .reading, pending := ∅
    jobs := [] }

/-- The read loop of the agent with a message that it took from the socket. `conn.Read` fails on a message above the
    limit. -/
def received (s : Duplex n) (dec : Decoder) (message : Message) : Duplex n :=
  if message.data.length ≤ gatewayclient.websocketReadLimit then
    match readMessage dec s.pending message with
    | ok (.continued pending effects) => { s with pending, agent := AgentLoop.after effects }
    | _ => { s with agent := .ended }
  else { s with agent := .ended }

/-- `Send` finds the session registered while its loop runs, and takes the message when the queue has room. -/
def answering (s : Duplex n) (answers : Answers) : Answers :=
  { answers with send := decide (s.queue.length < sessionOutboundQueueCapacity) }

def step (setup : Setup) (s : Duplex n) : DuplexEvent n → Option (Duplex n)
  | .enqueue message =>
    if s.queue.length < sessionOutboundQueueCapacity then some { s with queue := s.queue ++ [message] } else none
  | .tick =>
    if s.responding.responses.isSome ∧ s.writing = none then some { s with writing := some pingMessage } else none
  | .takeOutbound message =>
    match s.queue with
    | next :: rest =>
      if s.responding.responses.isSome ∧ s.writing = none ∧ next = message then
        some { s with queue := rest, writing := some message }
      else none
    | [] => none
  | .write message =>
    if s.responding.responses.isSome ∧ s.writing = some message ∧ s.toAgent.length < setup.toAgentCapacity then
      some { s with writing := none, toAgent := s.toAgent ++ [message] }
    else none
  | .agentRead message =>
    match s.agent, s.toAgent with
    | .reading, next :: rest =>
      if next = message then some ({ s with toAgent := rest }.received setup.dec message) else none
    | _, _ => none
  | .placeJob =>
    match s.agent with
    | .placingJob request =>
      if s.jobs.length < n then some { s with agent := .reading, jobs := s.jobs ++ [request] } else none
    | _ => none
  | .placePong =>
    match s.agent with
    | .placingPong =>
      (s.responding.step setup.dec setup.localAddress setup.toGatewayCapacity .pong).map fun responding =>
        { s with responding, agent := .reading }
    | _ => none
  | .take w job =>
    match s.jobs with
    | next :: rest =>
      if job.request = next then
        (s.responding.step setup.dec setup.localAddress setup.toGatewayCapacity (.take w job)).map fun responding =>
          { s with responding, jobs := rest }
      else none
    | [] => none
  | .inbound answers message =>
    match s.responding.responses, s.writing with
    | some responses, none =>
      let effects := Outcome.effects (serveInbound setup.dec (s.answering answers) responses message)
      (s.responding.step setup.dec setup.localAddress setup.toGatewayCapacity
        (.inbound (s.answering answers) message)).map fun responding =>
          { s with
            responding, queue := s.queue ++ effects.filterMap Effect.sent
            writing := (effects.filterMap Effect.written).head? }
    | _, _ => none
  | .respond e =>
    if e.forwards then
      (s.responding.step setup.dec setup.localAddress setup.toGatewayCapacity e).map fun responding =>
        { s with responding }
    else none

/-- The ways a step can go. -/
inductive Step (setup : Setup) (s : Duplex n) : DuplexEvent n → Duplex n → Prop where
  | enqueue {message} (hroom : s.queue.length < sessionOutboundQueueCapacity) :
    Step setup s (.enqueue message) { s with queue := s.queue ++ [message] }
  | tick (hopen : s.responding.responses.isSome) (hidle : s.writing = none) :
    Step setup s .tick { s with writing := some pingMessage }
  | takeOutbound {message rest} (hopen : s.responding.responses.isSome) (hidle : s.writing = none)
      (hqueue : s.queue = message :: rest) :
    Step setup s (.takeOutbound message) { s with queue := rest, writing := some message }
  | write {message} (hopen : s.responding.responses.isSome) (hwriting : s.writing = some message)
      (hroom : s.toAgent.length < setup.toAgentCapacity) :
    Step setup s (.write message) { s with writing := none, toAgent := s.toAgent ++ [message] }
  | agentRead {message rest} (hagent : s.agent = .reading) (hqueue : s.toAgent = message :: rest) :
    Step setup s (.agentRead message) ({ s with toAgent := rest }.received setup.dec message)
  | placeJob {request} (hagent : s.agent = .placingJob request) (hroom : s.jobs.length < n) :
    Step setup s .placeJob { s with agent := .reading, jobs := s.jobs ++ [request] }
  | placePong {responding} (hagent : s.agent = .placingPong)
      (hpong : s.responding.step setup.dec setup.localAddress setup.toGatewayCapacity .pong = some responding) :
    Step setup s .placePong { s with responding, agent := .reading }
  | take {w} {job : Job} {rest responding} (hjobs : s.jobs = job.request :: rest)
      (htake : s.responding.step setup.dec setup.localAddress setup.toGatewayCapacity (.take w job) =
        some responding) : Step setup s (.take w job) { s with responding, jobs := rest }
  | inbound {answers message responses responding} {effects : List Effect}
      (hresponses : s.responding.responses = some responses) (hidle : s.writing = none)
      (heffects : effects = Outcome.effects (serveInbound setup.dec (s.answering answers) responses message))
      (hinbound : s.responding.step setup.dec setup.localAddress setup.toGatewayCapacity
        (.inbound (s.answering answers) message) = some responding) :
    Step setup s (.inbound answers message)
      { s with
        responding, queue := s.queue ++ effects.filterMap Effect.sent
        writing := (effects.filterMap Effect.written).head? }
  | respond {e : RespondingEvent n} {responding} (hforwards : e.forwards = true)
      (hstep : s.responding.step setup.dec setup.localAddress setup.toGatewayCapacity e = some responding) :
    Step setup s (.respond e) { s with responding }

theorem step_cases {setup : Setup} {s next : Duplex n} {e : DuplexEvent n} (h : s.step setup e = some next) :
    Step setup s e next := by
  cases e with
  | enqueue message =>
    simp only [step] at h
    split at h <;> cases h
    rename_i hroom
    exact .enqueue hroom
  | tick =>
    simp only [step] at h
    split at h <;> cases h
    rename_i hguard
    exact .tick hguard.1 hguard.2
  | takeOutbound message =>
    simp only [step] at h
    split at h
    · rename_i first rest hqueue
      split at h <;> cases h
      rename_i hguard
      obtain ⟨hopen, hidle, rfl⟩ := hguard
      exact .takeOutbound hopen hidle hqueue
    · cases h
  | write message =>
    simp only [step] at h
    split at h <;> cases h
    rename_i hguard
    exact .write hguard.1 hguard.2.1 hguard.2.2
  | agentRead message =>
    simp only [step] at h
    split at h
    · rename_i first rest hagent hqueue
      split at h <;> cases h
      rename_i hfirst
      subst hfirst
      exact .agentRead hagent hqueue
    · cases h
  | placeJob =>
    simp only [step] at h
    split at h
    · rename_i request hagent
      split at h <;> cases h
      rename_i hroom
      exact .placeJob hagent hroom
    · cases h
  | placePong =>
    simp only [step] at h
    split at h
    · rename_i hagent
      obtain ⟨responding, hpong, rfl⟩ := Option.map_eq_some_iff.mp h
      exact .placePong hagent hpong
    · cases h
  | take w job =>
    simp only [step] at h
    split at h
    · rename_i first rest hjobs
      split at h
      · rename_i hfirst
        subst hfirst
        obtain ⟨responding, htake, rfl⟩ := Option.map_eq_some_iff.mp h
        exact .take hjobs htake
      · cases h
    · cases h
  | inbound answers message =>
    simp only [step] at h
    split at h
    · rename_i responses hresponses hidle
      obtain ⟨responding, hinbound, rfl⟩ := Option.map_eq_some_iff.mp h
      exact .inbound hresponses hidle rfl hinbound
    · cases h
  | respond e =>
    simp only [step] at h
    split at h
    · rename_i hforwards
      obtain ⟨responding, hstep, rfl⟩ := Option.map_eq_some_iff.mp h
      exact .respond hforwards hstep
    · cases h

/-- A received message changes nothing but the map of the read loop and its place. -/
theorem received_frame (s : Duplex n) (dec : Decoder) (message : Message) :
    (s.received dec message).responding = s.responding ∧ (s.received dec message).queue = s.queue ∧
      (s.received dec message).writing = s.writing ∧ (s.received dec message).toAgent = s.toAgent ∧
      (s.received dec message).jobs = s.jobs := by
  unfold received
  split
  · split <;> exact ⟨rfl, rfl, rfl, rfl, rfl⟩
  · exact ⟨rfl, rfl, rfl, rfl, rfl⟩

end Duplex

end myngrok.pipeline
