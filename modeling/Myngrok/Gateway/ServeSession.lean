import Myngrok.Gateway.SessionManager
import Myngrok.Protocol.Decoding
import Myngrok.Protocol.WireAgreement

open golang Result websocket myngrok.protocol

namespace myngrok.gateway

def sessionOutboundQueueCapacity : Nat := 32
def maxPendingResponseStreams : Nat := 32
def websocketReadLimit : Nat := 64 * 1024
def maxTunnelResponseBodyBytes : Nat := 32 * 1024 * 1024

/-- The WebSocket close codes the session loop uses. -/
def statusUnsupportedData : Nat := 1003
def statusPolicyViolation : Nat := 1008

/-- One response stream that has started and not ended. -/
structure ResponseAssembly where
  payload : HTTPResponsePayload
  next : UInt32
  body : Bytes
  deriving DecidableEq

/-- The map `responses` of one session loop. The source stores pointers; a change made through one is written back to
    the map here. -/
abbrev Responses := Map GoString ResponseAssembly

/-- What the rest of the gateway answers while one message is handled: the agent ID of the session, the `openTunnel`
    callback (`none` when it is nil), and whether `Send` and `conn.Write` succeed. -/
structure Answers where
  agentID : Option GoString
  openTunnel : Option (GoString → GoString → Except Error TunnelOpenedPayload)
  send : Bool
  write : Bool

/-- What the loop does outside its own map, in order. -/
inductive Effect where
  | deliver (id : GoString) (response : Response)
  | send (data : Bytes)
  | write (message : Message)
  | touch
  deriving DecidableEq

/-- How one round of the loop ends: `conn.Close` and return, a plain return, or another round. -/
inductive Outcome where
  | closed (status : Nat) (reason : GoString)
  | returned (result : Bool)
  | continued (responses : Responses) (effects : List Effect)
  deriving DecidableEq

/-- The response that is handed over when the stream ends. -/
def ResponseAssembly.response (a : ResponseAssembly) : Response :=
  { statusCode := a.payload.statusCode, headers := a.payload.headers, body := a.body, error := a.payload.error }

/-- The frame `ParseBinaryFrame` returns next to an error. -/
def zeroFrame : BinaryFrame := { type := 0, requestID := [], sequence := 0, payload := [] }

/-- The condition under which a binary message ends the session. `assembly` is nil for an unknown request ID, and only
    the order of the operands keeps the later ones from following it. -/
def invalidChunk (err : Bool) (frame : BinaryFrame) (assembly : Option ResponseAssembly) : Result Bool :=
  Result.or (ok err) <|
  Result.or (ok assembly.isNone) <|
  Result.or (ok (decide (frame.type ≠ responseBodyChunk))) <|
  Result.or (do return decide (frame.sequence ≠ (← deref assembly).next)) <|
  Result.or (do return decide ((← deref assembly).body.length + frame.payload.length > maxTunnelResponseBodyBytes)) do
    let a ← deref assembly
    return decide (a.payload.contentLength ≥ 0 ∧
      ((a.body.length + frame.payload.length : Nat) : Int) > a.payload.contentLength)

def serveBinary (responses : Responses) (data : Bytes) : Result Outcome := do
  let (frame, err) := match ← parseBinaryFrame data with
    | .ok frame => (frame, false)
    | .error _ => (zeroFrame, true)
  let assembly := responses.lookup frame.requestID
  if ← invalidChunk err frame assembly then
    return .closed statusUnsupportedData (lit "invalid response body chunk")
  let a ← deref assembly
  let a := { a with body := a.body ++ frame.payload, next := a.next + 1 }
  return .continued (responses.insert frame.requestID a) []

def serveResponseStart (dec : Decoder) (responses : Responses) (raw : Bytes) : Outcome :=
  match dec.httpResponse raw with
  | none => .closed statusUnsupportedData (lit "invalid response start")
  | some payload =>
    if payload.requestID = [] ∨ payload.contentLength < -1 ∨
        payload.contentLength > maxTunnelResponseBodyBytes then
      .closed statusUnsupportedData (lit "invalid response start")
    else if payload.requestID ∉ responses ∧ responses.len ≥ maxPendingResponseStreams then
      .closed statusPolicyViolation (lit "too many response streams")
    else .continued (responses.insert payload.requestID { payload, next := 0, body := [] }) []

def serveOpenTunnel (dec : Decoder) (answers : Answers) (responses : Responses) (raw : Bytes) : Outcome :=
  match answers.openTunnel, dec.openTunnel raw with
  | some callback, some payload =>
    if payload.requestID = [] ∨ strings.trimSpace payload.localAddress = [] then .returned false
    else match answers.agentID with
      | none => .returned false
      | some agentID =>
        match callback agentID payload.localAddress with
        | .error _ => .returned false
        | .ok opened =>
          let opened := { opened with requestID := payload.requestID }
          let encoded := Envelope.marshal { type := tunnelOpened, payload := some opened.value }
          if answers.send then .continued responses [.send encoded] else .returned false
  | _, _ => .returned false

def serveResponseEnd (dec : Decoder) (responses : Responses) (data : Bytes) : Result Outcome := do
  match dec.responseEnd data with
  | none => return .returned false
  | some id =>
    let assembly := responses.lookup id
    let incomplete ← Result.or (ok assembly.isNone) do
      let a ← deref assembly
      return decide (a.payload.contentLength ≥ 0 ∧ (a.body.length : Int) ≠ a.payload.contentLength)
    if incomplete then return .returned false
    let a ← deref assembly
    return .continued (responses.erase id) [.deliver id a.response]

/-- The case `inbound := <-readCh` of `serveSession`. -/
def serveInbound (dec : Decoder) (answers : Answers) (responses : Responses) (inbound : Message) : Result Outcome :=
  match inbound.messageType with
  | .binary => serveBinary responses inbound.data
  | .other _ => return .closed statusUnsupportedData (lit "invalid message type")
  | .text =>
    match dec.message inbound.data with
    | none => return .closed statusUnsupportedData (lit "invalid message")
    | some (type, raw) =>
      if type = httpResponseStart then return serveResponseStart dec responses raw
      else if type = openTunnel then return serveOpenTunnel dec answers responses raw
      else if type = httpResponseEnd then serveResponseEnd dec responses inbound.data
      else if type = pong then return .continued responses [.touch]
      else if type = ping then
        if answers.write then return .continued responses [.write pongMessage, .touch]
        else return .returned false
      else return .continued responses []

/-- What the `select` of the session loop may pick. -/
inductive LoopEvent where
  | ctxDone
  | tick (write : Bool)
  | outbound (message : Message) (write : Bool)
  | inbound (answers : Answers) (message : Message)
  | readError

/-- One round of the loop of `serveSession`. -/
def serveSession (dec : Decoder) (responses : Responses) : LoopEvent → Result Outcome
  | .ctxDone => return .returned true
  | .tick write =>
    return if write then .continued responses [.write pingMessage] else .returned false
  | .outbound message write =>
    return if write then .continued responses [.write message] else .returned false
  | .inbound answers message => serveInbound dec answers responses message
  | .readError => return .returned true

end myngrok.gateway
