import Myngrok.GatewayClient.Frame
import Myngrok.GatewayClient.LocalHttp

open golang Result websocket myngrok.protocol

namespace myngrok.gatewayclient

def maxPendingRequestStreams : Nat := 32
def outboundQueueCapacity : Nat := 32
def websocketReadLimit : Nat := 64 * 1024

/-- A body that is being put together; `expected` is -1 when its length is unknown. -/
structure ChunkAssembler where
  expected : Int
  next : UInt32
  body : Bytes
  deriving DecidableEq

/-- The largest capacity that `make([]byte, 0, capacity)` does not panic on. -/
def maxAlloc : Int := 2 ^ 48

def newChunkAssembler (expected : Int) : Result (Except Error ChunkAssembler) :=
  if expected < -1 then ok (.error (lit "invalid content length"))
  else
    let capacity := if expected > 0 then expected else 0
    if capacity > maxAlloc then .panic else ok (.ok { expected, next := 0, body := [] })

/-- The result also says whether the announced length has been reached. -/
def ChunkAssembler.add (a : ChunkAssembler) (frame : BinaryFrame) : Except Error (Bool × ChunkAssembler) :=
  if frame.type ≠ requestBodyChunk ∨ frame.sequence ≠ a.next then .error (lit "unexpected request body chunk")
  else if a.expected ≥ 0 ∧ ((a.body.length + frame.payload.length : Nat) : Int) > a.expected then
    .error (lit "request body exceeds content length")
  else
    let a := { a with body := a.body ++ frame.payload, next := a.next + 1 }
    .ok (a.expected ≥ 0 ∧ (a.body.length : Int) = a.expected, a)

def ChunkAssembler.complete (a : ChunkAssembler) : Option Error :=
  if a.expected ≥ 0 ∧ (a.body.length : Int) ≠ a.expected then some (lit "request body is shorter than content length")
  else none

/-- A request stream that has started and not ended. -/
structure PendingRequest where
  payload : HTTPRequestPayload
  assembler : ChunkAssembler
  deriving DecidableEq

/-- The map `pendingRequests` of one connection. -/
abbrev PendingRequests := Map GoString PendingRequest

def PendingRequest.request (p : PendingRequest) : Request :=
  { id := p.payload.requestID, method := p.payload.method, path := p.payload.path, headers := p.payload.headers,
    body := p.assembler.body }

/-- What the loop does outside its own map: it sends a pong, puts the job of a request in the job queue, or cancels the
    context of a job that is active. -/
inductive ReadEffect where
  | pong
  | dispatch (request : Request)
  | cancel (id : GoString)
  deriving DecidableEq

/-- How one round of the loop ends: `Connect` returns an error, or it reads on. -/
inductive ReadOutcome where
  | failed (err : Error)
  | continued (pending : PendingRequests) (effects : List ReadEffect)
  deriving DecidableEq

/-- A frame of the wrong type is reported with a nil `frameErr`. -/
def readChunk (pending : PendingRequests) (data : Bytes) : Result ReadOutcome := do
  match ← parseBinaryFrame data with
  | .error frameErr => return .failed (lit "invalid request body chunk: " ++ frameErr)
  | .ok frame =>
    if frame.type ≠ requestBodyChunk then return .failed (lit "invalid request body chunk: %!w(<nil>)")
    match pending.lookup frame.requestID with
    | none => return .failed (lit "request body chunk for unknown request " ++ strconv.quote frame.requestID)
    | some entry =>
      match entry.assembler.add frame with
      | .error frameErr => return .failed frameErr
      | .ok (_, assembler) => return .continued (pending.insert frame.requestID { entry with assembler }) []

def readStart (pending : PendingRequests) (payload : HTTPRequestPayload) : Result ReadOutcome := do
  if payload.requestID = [] then return .failed (lit "request start has no request ID")
  if payload.requestID ∈ pending then
    return .failed (lit "duplicate request start " ++ strconv.quote payload.requestID)
  if pending.len ≥ maxPendingRequestStreams then return .failed (lit "too many pending request streams")
  match ← newChunkAssembler payload.contentLength with
  | .error assembleErr => return .failed assembleErr
  | .ok assembler => return .continued (pending.insert payload.requestID { payload, assembler }) []

def readEnd (dec : Decoder) (pending : PendingRequests) (data : Bytes) : ReadOutcome :=
  match dec.requestEnd data with
  | none => .failed (lit "invalid request end: " ++ dec.err data)
  | some id =>
    match pending.lookup id with
    | none => .failed (lit "request end for unknown request " ++ strconv.quote id)
    | some entry =>
      match entry.assembler.complete with
      | some err => .failed err
      | none => .continued (pending.erase id) [.dispatch entry.request]

/-- One round of the read loop of `Connect`, for a message that `conn.Read` returned. -/
def readMessage (dec : Decoder) (pending : PendingRequests) (message : Message) : Result ReadOutcome :=
  match message.messageType with
  | .binary => readChunk pending message.data
  | .other code => return .failed (lit "unsupported gateway message type " ++ itoa code)
  | .text =>
    match dec.requestMessage message.data with
    | none => return .failed (lit "invalid gateway message: " ++ dec.err message.data)
    | some (type, payload) =>
      if type = ping then return .continued pending [.pong]
      else if type = httpRequestStart then readStart pending payload
      else if type = httpRequestEnd then return readEnd dec pending message.data
      else if type = cancelRequest then
        return .continued (pending.erase payload.requestID) [.cancel payload.requestID]
      else return .continued pending []

end myngrok.gatewayclient
