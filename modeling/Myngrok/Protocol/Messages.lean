import Myngrok.Go.Header
import Myngrok.Go.Json
import Mathlib.Data.List.Sort

open golang

namespace myngrok.protocol

/-- Header fields as both programs send them. A nil map and an empty one are not told apart. -/
abbrev Headers := http.Header

def version : Int := 1

def ping : GoString := lit "ping"
def pong : GoString := lit "pong"
def openTunnel : GoString := lit "open_tunnel"
def tunnelOpened : GoString := lit "tunnel_opened"
def httpRequestStart : GoString := lit "http_request_start"
def httpRequestEnd : GoString := lit "http_request_end"
def httpResponseStart : GoString := lit "http_response_start"
def httpResponseEnd : GoString := lit "http_response_end"
def cancelRequest : GoString := lit "cancel_request"

/-- The payloads of the messages. The agent declares structs of its own with the same fields and JSON names. -/
structure HTTPRequestPayload where
  requestID : GoString
  method : GoString
  path : GoString
  headers : Headers
  contentLength : Int
  deriving DecidableEq

structure HTTPResponsePayload where
  requestID : GoString
  statusCode : Int
  headers : Headers
  contentLength : Int
  error : GoString
  deriving DecidableEq

structure OpenTunnelPayload where
  requestID : GoString
  localAddress : GoString
  deriving DecidableEq

structure TunnelOpenedPayload where
  requestID : GoString
  tunnelID : GoString
  subdomain : GoString
  publicURL : GoString
  deriving DecidableEq

/-- `encoding/json` writes the keys of a map in sorted order, and a nil map or slice as null. -/
def headersValue (headers : Headers) : json.Value :=
  if headers.keys = [] then .null
  else .object ((headers.keys.insertionSort (· ≤ ·)).map fun name =>
    (name, match (headers.lookup name).getD [] with
      | [] => .null
      | values => .array (values.map .string)))

def HTTPRequestPayload.value (p : HTTPRequestPayload) : json.Value :=
  .object [(lit "requestId", .string p.requestID), (lit "method", .string p.method),
    (lit "path", .string p.path), (lit "headers", headersValue p.headers),
    (lit "contentLength", .number p.contentLength)]

def HTTPResponsePayload.value (p : HTTPResponsePayload) : json.Value :=
  .object ([(lit "requestId", .string p.requestID), (lit "statusCode", .number p.statusCode),
    (lit "headers", headersValue p.headers), (lit "contentLength", .number p.contentLength)] ++
    if p.error = [] then [] else [(lit "error", .string p.error)])

def OpenTunnelPayload.value (p : OpenTunnelPayload) : json.Value :=
  .object [(lit "requestId", .string p.requestID), (lit "localAddress", .string p.localAddress)]

def TunnelOpenedPayload.value (p : TunnelOpenedPayload) : json.Value :=
  .object [(lit "requestId", .string p.requestID), (lit "tunnelId", .string p.tunnelID),
    (lit "subdomain", .string p.subdomain), (lit "publicUrl", .string p.publicURL)]

/-- The payload of the messages that only name a request: `http_request_end`, `http_response_end` and
    `cancel_request`. -/
def requestIDValue (requestID : GoString) : json.Value := .object [(lit "requestId", .string requestID)]

/-- A JSON message; a nil payload is left out. -/
structure Envelope where
  type : GoString
  payload : Option json.Value

def Envelope.marshal (e : Envelope) : Bytes :=
  json.encode (.object ((lit "type", .string e.type) ::
    (e.payload.map fun payload => (lit "payload", payload)).toList))

/-- What `json.Unmarshal` makes of a text, for each of the types that the two programs decode into; `none` is an
    error. -/
structure Decoder where
  /-- The gateway's `struct { Type string; Payload json.RawMessage }`. -/
  message : Bytes → Option (GoString × Bytes)
  httpResponse : Bytes → Option HTTPResponsePayload
  openTunnel : Bytes → Option OpenTunnelPayload
  /-- The request ID in the payload of a whole `http_response_end` message. -/
  responseEnd : Bytes → Option GoString
  /-- The agent's `struct { Type string; Payload httpRequestPayload }`. -/
  requestMessage : Bytes → Option (GoString × HTTPRequestPayload)
  /-- The request ID in the payload of a whole `http_request_end` message. -/
  requestEnd : Bytes → Option GoString
  /-- The text of the error. -/
  err : Bytes → Error

end myngrok.protocol

namespace websocket

inductive MessageType where
  | text
  | binary
  | other (code : Nat)
  deriving DecidableEq

/-- One WebSocket message: what `conn.Read` returns and `conn.Write` takes. -/
structure Message where
  messageType : MessageType
  data : golang.Bytes
  deriving DecidableEq

end websocket

namespace myngrok.protocol

open websocket

def Envelope.message (e : Envelope) : Message := { messageType := .text, data := e.marshal }

example : (Envelope.mk httpResponseEnd (some (requestIDValue (lit "req_1")))).marshal =
    lit "\x7b\"type\":\"http_response_end\",\"payload\":\x7b\"requestId\":\"req_1\"\x7d\x7d" := by decide

end myngrok.protocol
