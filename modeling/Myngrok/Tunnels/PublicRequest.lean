import Myngrok.Tunnels.RequestID

open golang myngrok.protocol

namespace myngrok.tunnels

def requestBodyChunkSize : Nat := 32 * 1024
def maxTunnelBodyBytes : Nat := 32 * 1024 * 1024

/-- The parts of a public `http.Request` that the handler reads, and the bytes that its body holds up to `io.EOF`. -/
structure PublicRequest where
  method : GoString
  requestURI : GoString
  header : Headers
  host : GoString
  remoteAddr : GoString
  tls : Bool
  contentLength : Int
  body : Bytes
  deriving DecidableEq

def requestClientIP (r : PublicRequest) : GoString :=
  let clientIP := match net.splitHostPort r.remoteAddr with
    | some (host, _) => host
    | none => r.remoteAddr
  if clientIP = [] then lit "unknown" else clientIP

def hopByHopHeaders : List GoString :=
  [lit "Connection", lit "Proxy-Connection", lit "Keep-Alive", lit "Proxy-Authenticate",
    lit "Proxy-Authorization", lit "TE", lit "Trailer", lit "Transfer-Encoding", lit "Upgrade"]

/-- The gateway's own copy of the filter that the agent has as well. -/
def withoutHopByHopHeaders (headers : Headers) : Headers :=
  let named := (headers.values (lit "Connection")).flatMap fun value =>
    (strings.splitByte 0x2C value).map strings.trimSpace
  (named ++ hopByHopHeaders).foldl http.Header.del headers

/-- The names of the fields that only the gateway may set. -/
def isForwarded (name : GoString) : Bool :=
  strings.hasPrefix (strings.toLower name) (lit "x-forwarded-") || strings.equalFold name (lit "Forwarded")

def publicRequestHeaders (r : PublicRequest) (requestID : GoString) : Headers :=
  let headers := withoutHopByHopHeaders r.header
  let headers := (headers.keys.filter isForwarded).foldl (fun headers name => headers.erase name) headers
  let clientIP := requestClientIP r
  let headers := if clientIP ≠ [] then http.Header.set headers (lit "X-Forwarded-For") clientIP else headers
  let headers := http.Header.set headers (lit "X-Forwarded-Host") r.host
  let headers := http.Header.set headers (lit "X-Forwarded-Proto") (if r.tls then lit "https" else lit "http")
  http.Header.set headers (lit "X-Tunnel-Request-ID") requestID

/-- The payload of the `http_request_start` message. -/
def startPayload (r : PublicRequest) (requestID : GoString) : HTTPRequestPayload :=
  { requestID, method := r.method, path := r.requestURI, headers := publicRequestHeaders r requestID,
    contentLength := r.contentLength }

end myngrok.tunnels
