import Myngrok.GatewayClient.ReadLoop
import Myngrok.Protocol.Unmarshal

open golang Result websocket myngrok.protocol

namespace myngrok.gatewayclient

def protocolVersion : Int := 1

def defaultMaxConcurrentRequests : Int := 16
def maxConcurrentRequests : Int := 64

/-- What a session of the agent is configured with. -/
structure Config where
  gatewayURL : GoString
  token : GoString
  localAddress : GoString
  maxConcurrentRequests : Int

/-- The checks at the head of `Connect`: an error, or the number of workers. -/
def Config.maxConcurrent (config : Config) : Except Error Nat :=
  if config.gatewayURL = [] ∨ config.token = [] then .error (lit "gateway URL and token are required")
  else
    let maxConcurrent :=
      if config.maxConcurrentRequests ≤ 0 then defaultMaxConcurrentRequests else config.maxConcurrentRequests
    if maxConcurrent > gatewayclient.maxConcurrentRequests then
      .error (lit "max concurrent requests exceeds " ++ itoa gatewayclient.maxConcurrentRequests.toNat)
    else .ok maxConcurrent.toNat

structure ServerHello where
  protocolVersion : Int
  sessionID : GoString

def serverHelloFields : List (json.Field ServerHello) :=
  [.int (lit "protocolVersion") (·.protocolVersion) fun hello value => { hello with protocolVersion := value },
    .string (lit "sessionId") (·.sessionID) fun hello value => { hello with sessionID := value }]

/-- The struct that `Connect` reads the answer to its hello into. -/
structure HelloResponse where
  type : GoString
  payload : ServerHello

def helloResponseFields : List (json.Field HelloResponse) :=
  [.string (lit "type") (·.type) fun response value => { response with type := value },
    .struct (lit "payload") serverHelloFields (·.payload) fun response value => { response with payload := value }]

/-- The session that a server hello opens, if it is valid. -/
def readServerHello (data : Bytes) : Option GoString :=
  let zero : HelloResponse := { type := [], payload := { protocolVersion := 0, sessionID := [] } }
  match json.unmarshal helloResponseFields zero data with
  | none => none
  | some response =>
    if response.type ≠ lit "server_hello" ∨ response.payload.protocolVersion ≠ protocolVersion ∨
        response.payload.sessionID = [] then none
    else some response.payload.sessionID

/-- What one round of `Run` meets: the results of the calls that `Connect` makes until the hello is answered, the
    messages of the session, and the end of its connection; then the context of `Run`. -/
structure Attempt where
  dial : Option Error
  sendHello : Option Error
  hello : Except Error Bytes
  /-- Whether the writer takes the message that opens the tunnel before the session's context is done. -/
  opened : Bool
  /-- The messages in the order in which they are read, each with whether the job queue takes the job that it leads to,
      if any, before the session's context is done. -/
  messages : List (Message × Bool)
  closed : Error
  /-- Whether the context is done when `Connect` has returned. -/
  cancelled : Bool
  /-- Whether it gets done while `Run` waits. -/
  interrupted : Bool

def ReadEffect.isDispatch : ReadEffect → Bool
  | .dispatch _ => true
  | _ => false

/-- The read loop of a session and what it returns: an error, or nil if a job was not taken. -/
def serve (dec : Decoder) (closed : Error) : PendingRequests → List (Message × Bool) → Result (Option Error)
  | _, [] => return some (lit "gateway connection closed: " ++ closed)
  | pending, (message, taken) :: rest => do
    match ← readMessage dec pending message with
    | .failed err => return some err
    | .continued pending effects =>
      if effects.any ReadEffect.isDispatch ∧ taken = false then return none
      else serve dec closed pending rest

/-- The session that `connected` was called with, if it was, and the error. -/
def connect (dec : Decoder) (config : Config) (a : Attempt) : Result (Option GoString × Option Error) :=
  match config.maxConcurrent with
  | .error err => ok (none, some err)
  | .ok _ =>
    match a.dial with
    | some err => ok (none, some (lit "connect to gateway: " ++ err))
    | none =>
      match a.sendHello with
      | some err => ok (none, some (lit "send client hello: " ++ err))
      | none =>
        match a.hello with
        | .error err => ok (none, some (lit "read server hello: " ++ err))
        | .ok data =>
          match readServerHello data with
          | none => ok (none, some (lit "gateway returned an invalid server hello"))
          | some sessionID =>
            if strings.trimSpace config.localAddress ≠ [] ∧ a.opened = false then
              ok (some sessionID, some (lit "gateway connection closed before tunnel open"))
            else do
              let err ← serve dec a.closed ∅ a.messages
              return (some sessionID, err)

end myngrok.gatewayclient
