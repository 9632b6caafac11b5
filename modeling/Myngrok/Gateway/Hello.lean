import Myngrok.Agents.Service
import Myngrok.GatewayClient.Connect
import Myngrok.Go.Base64

open golang websocket

namespace myngrok.protocol

def clientHello : GoString := lit "client_hello"
def serverHello : GoString := lit "server_hello"

structure ServerHelloPayload where
  protocolVersion : Int
  sessionID : GoString
  heartbeatIntervalSeconds : Int

def ClientHelloPayload.value (p : ClientHelloPayload) : json.Value :=
  .object [(lit "protocolVersion", .number p.protocolVersion), (lit "agentVersion", .string p.agentVersion),
    (lit "instanceId", .string p.instanceID), (lit "hostname", .string p.hostname), (lit "os", .string p.os),
    (lit "arch", .string p.arch)]

def ServerHelloPayload.value (p : ServerHelloPayload) : json.Value :=
  .object [(lit "protocolVersion", .number p.protocolVersion), (lit "sessionId", .string p.sessionID),
    (lit "heartbeatIntervalSeconds", .number p.heartbeatIntervalSeconds)]

def clientHelloFields : List (json.Field ClientHelloPayload) :=
  [.int (lit "protocolVersion") (·.protocolVersion) fun p value => { p with protocolVersion := value },
    .string (lit "agentVersion") (·.agentVersion) fun p value => { p with agentVersion := value },
    .string (lit "instanceId") (·.instanceID) fun p value => { p with instanceID := value },
    .string (lit "hostname") (·.hostname) fun p value => { p with hostname := value },
    .string (lit "os") (·.os) fun p value => { p with os := value },
    .string (lit "arch") (·.arch) fun p value => { p with arch := value }]

/-- What arrives where the agent has sent `p`. -/
def ClientHelloPayload.received (p : ClientHelloPayload) : ClientHelloPayload :=
  { protocolVersion := p.protocolVersion, agentVersion := utf8.toValid p.agentVersion
    instanceID := utf8.toValid p.instanceID, hostname := utf8.toValid p.hostname, os := utf8.toValid p.os
    arch := utf8.toValid p.arch }

end myngrok.protocol

namespace myngrok.gatewayclient

open myngrok.protocol

/-- What the agent knows of itself and its machine; `hostname` is empty if `os.Hostname` fails. -/
structure AgentHost where
  token : GoString
  version : GoString
  hostname : GoString
  os : GoString
  arch : GoString
  deriving DecidableEq

def AgentHost.hello (a : AgentHost) : ClientHelloPayload :=
  { protocolVersion, agentVersion := a.version, instanceID := a.hostname, hostname := a.hostname, os := a.os
    arch := a.arch }

def AgentHost.helloMessage (a : AgentHost) : Message :=
  Envelope.message { type := lit "client_hello", payload := some a.hello.value }

end myngrok.gatewayclient

namespace myngrok.gateway

open myngrok.protocol

def defaultHeartbeatIntervalSeconds : Int := 20

/-- The checks of `handshake` on the first message of a connection. -/
def readClientHello (data : Bytes) : Option ClientHelloPayload :=
  let zero : ClientHelloPayload :=
    { protocolVersion := 0, agentVersion := [], instanceID := [], hostname := [], os := [], arch := [] }
  match json.unmarshal (messageFields clientHelloFields) ([], zero) data with
  | none => none
  | some (type, payload) =>
    if type ≠ clientHello ∨ payload.protocolVersion ≠ version then none else some payload

/-- `random` is what `rand.Read` filled in, if it did not fail. -/
def newSessionID (random : Option Bytes) : Option GoString :=
  random.map fun bytes => lit "ses_" ++ base64.encodeToString bytes

def serverHelloMessage (sessionID : GoString) : Message :=
  Envelope.message { type := serverHello, payload := some (ServerHelloPayload.value
    { protocolVersion := version, sessionID, heartbeatIntervalSeconds := defaultHeartbeatIntervalSeconds }) }

/-- The gateway accepts what every agent sends, and reads what the agent knows of itself. -/
theorem readClientHello_helloMessage (a : gatewayclient.AgentHost) :
    readClientHello a.helloMessage.data = some a.hello.received := by
  have hdepth : (json.Value.object [(lit "type", .string (lit "client_hello")),
      (lit "payload", a.hello.value)]).depth ≤ json.maxNestingDepth := by
    simp only [ClientHelloPayload.value, json.Value.depth, json.membersDepth, json.maxNestingDepth]
    omega
  have hversion : IsInt64 gatewayclient.protocolVersion := by decide
  have hpayload : json.intoStruct clientHelloFields
      { protocolVersion := 0, agentVersion := [], instanceID := [], hostname := [], os := [], arch := [] }
      a.hello.value.node = some a.hello.received := by
    rw [ClientHelloPayload.value]
    refine (json.intoStruct_cons rfl (json.Field.set_int (json.intoInt_number hversion))).trans ?_
    iterate 5 refine (json.intoStruct_cons rfl (json.Field.set_string rfl)).trans ?_
    rfl
  have hmessage : json.unmarshal (messageFields clientHelloFields)
      ([], { protocolVersion := 0, agentVersion := [], instanceID := [], hostname := [], os := [], arch := [] })
      a.helloMessage.data = some (clientHello, a.hello.received) := by
    refine (json.unmarshal_encode hdepth).trans ?_
    refine (json.intoStruct_cons rfl (json.Field.set_string rfl)).trans ?_
    refine (json.intoStruct_cons (a := (clientHello, a.hello.received)) rfl ?_).trans ?_
    · exact json.Field.set_struct hpayload
    rfl
  rw [readClientHello, hmessage]
  exact if_neg (by simp [clientHello, ClientHelloPayload.received, gatewayclient.AgentHost.hello, version,
    gatewayclient.protocolVersion])

/-- The agent reads the session ID that the gateway has drawn. -/
theorem readServerHello_serverHelloMessage {random : Option Bytes} {sessionID : GoString}
    (hdrawn : newSessionID random = some sessionID) :
    gatewayclient.readServerHello (serverHelloMessage sessionID).data = some sessionID := by
  obtain ⟨bytes, -, rfl⟩ := Option.map_eq_some_iff.mp hdrawn
  generalize hid : lit "ses_" ++ base64.encodeToString bytes = sessionID
  have hvalid : utf8.toValid sessionID = sessionID := by
    refine utf8.toValid_of_validString (utf8.validString_of_ascii fun b hb => ?_)
    rw [← hid] at hb
    obtain hb | hb := List.mem_append.mp hb
    · have hses : ∀ b ∈ lit "ses_", b.toNat < 0x80 := by decide +kernel
      exact hses b hb
    · exact Nat.lt_of_le_of_lt (base64.range_encodeToString bytes b hb).2 (by decide)
  have hne : sessionID ≠ [] := by
    rw [← hid]
    exact List.cons_ne_nil _ _
  have hdepth : (json.Value.object [(lit "type", .string serverHello), (lit "payload", ServerHelloPayload.value
      { protocolVersion := version, sessionID, heartbeatIntervalSeconds := defaultHeartbeatIntervalSeconds })]).depth ≤
      json.maxNestingDepth := by
    simp only [ServerHelloPayload.value, json.Value.depth, json.membersDepth, json.maxNestingDepth]
    omega
  have hversion : IsInt64 version := by decide
  have hpayload : json.intoStruct gatewayclient.serverHelloFields { protocolVersion := 0, sessionID := [] }
      (ServerHelloPayload.value { protocolVersion := version, sessionID
                                  heartbeatIntervalSeconds := defaultHeartbeatIntervalSeconds }).node =
      some { protocolVersion := version, sessionID } := by
    rw [ServerHelloPayload.value]
    refine (json.intoStruct_cons rfl (json.Field.set_int (json.intoInt_number hversion))).trans ?_
    refine (json.intoStruct_cons rfl (json.Field.set_string rfl)).trans ?_
    refine (json.intoStruct_skip rfl).trans ?_
    exact congrArg (fun id => some (gatewayclient.ServerHello.mk version id)) hvalid
  have hmessage : json.unmarshal gatewayclient.helloResponseFields
      { type := [], payload := { protocolVersion := 0, sessionID := [] } } (serverHelloMessage sessionID).data =
      some { type := serverHello, payload := { protocolVersion := version, sessionID } } := by
    refine (json.unmarshal_encode hdepth).trans ?_
    refine (json.intoStruct_cons rfl (json.Field.set_string rfl)).trans ?_
    refine (json.intoStruct_cons (a := { type := serverHello, payload := { protocolVersion := version, sessionID } })
      rfl ?_).trans ?_
    · exact json.Field.set_struct hpayload
    rfl
  rw [gatewayclient.readServerHello, hmessage]
  refine if_neg ?_
  rintro (htype | hversion | hempty)
  · exact htype rfl
  · exact hversion rfl
  · exact hne hempty

end myngrok.gateway
