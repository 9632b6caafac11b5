import Myngrok.GatewayClient.LocalHttp
import Myngrok.Go.Client

open golang myngrok.protocol

namespace myngrok.gatewayclient

/-- `http.DefaultClient` and all that it can reach, without a proxy: the local service, and every other host. What
    becomes of a request may depend on those that came before it in the same call. -/
structure LocalNetwork where
  newRequest : (method url : GoString) → Option Error
  /-- Why a request is not sent at all: a header field that cannot be written, no host, no connection. -/
  refuses : List LocalRequest → LocalRequest → Option Error
  /-- How many connections that were kept from earlier calls are closed by the other side after the request has gone out
      on them, before one brings an answer. -/
  closed : List LocalRequest → LocalRequest → Nat
  send : List LocalRequest → LocalRequest → Except Error LocalAnswer
  /-- `ContentLength` of an answer. -/
  contentLength : LocalAnswer → Int
  /-- An answer whose body is read through `gzip.Reader`. -/
  gunzip : LocalAnswer → LocalAnswer
  /-- `URL.Parse` of a `Location`, relative to the URL of the request. -/
  resolve : (url location : GoString) → Except Error GoString
  /-- The header of a request that follows a redirect to a URL. -/
  redirectHeader : (first last : LocalRequest) → (url : GoString) → Headers
  redirects : Nat

/-- `isReplayable`, for requests whose body can be had again. -/
def LocalRequest.replayable (request : LocalRequest) : Bool :=
  request.method ∈ [lit "GET", lit "HEAD", lit "OPTIONS", lit "TRACE"] ∨
    lit "Idempotency-Key" ∈ request.header ∨ lit "X-Idempotency-Key" ∈ request.header

/-- The transport asks for gzip by itself, with its own `Accept-Encoding`. -/
def LocalRequest.addsGzip (request : LocalRequest) : Bool :=
  http.Header.get request.header (lit "Accept-Encoding") = [] ∧ http.Header.get request.header (lit "Range") = [] ∧
    request.method ≠ lit "HEAD"

namespace LocalNetwork

def rules (net : LocalNetwork) : http.ClientRules LocalRequest LocalAnswer where
  method := LocalRequest.method
  statusCode := LocalAnswer.statusCode
  location := fun answer => http.Header.get answer.header (lit "Location")
  redirected := fun first last location method includeBody => do
    let url ← net.resolve last.url location
    return { method, url, header := net.redirectHeader first last url, body := if includeBody then first.body else [] }
  redirects := net.redirects

/-- The body of the answer is unpacked before the client sees it. -/
def unpacks (net : LocalNetwork) (request : LocalRequest) (answer : LocalAnswer) : Bool :=
  request.addsGzip ∧ net.contentLength answer ≠ 0 ∧
    strings.equalFold (http.Header.get answer.header (lit "Content-Encoding")) (lit "gzip")

def unpack (net : LocalNetwork) (request : LocalRequest) (answer : LocalAnswer) : LocalAnswer :=
  if net.unpacks request answer then
    { net.gunzip answer with
      statusCode := answer.statusCode
      header := (answer.header.del (lit "Content-Encoding")).del (lit "Content-Length") }
  else answer

/-- `Transport.RoundTrip`: how often it sends the request, and its result. A request that may be sent again is, for as
    long as a kept connection turns out to be closed. -/
def roundTrip (net : LocalNetwork) (via : List LocalRequest) (request : LocalRequest) :
    Nat × Except Error LocalAnswer :=
  match net.refuses via request with
  | some err => (0, .error err)
  | none =>
    if net.closed via request = 0 ∨ request.replayable then
      (net.closed via request + 1, (net.send via request).map (net.unpack request))
    else (1, .error (lit "http: server closed idle connection"))

/-- The answer that comes on the connection on which a request is sent first. -/
def answered (net : LocalNetwork) (request : LocalRequest) : Option LocalAnswer :=
  if net.refuses [] request = none ∧ net.closed [] request = 0 then (net.send [] request).toOption else none

/-- The local service as `StreamLocal` sees it. -/
def service (net : LocalNetwork) : LocalService where
  newRequest := net.newRequest
  perform := fun request => (net.rules.do net.roundTrip request).2

variable {net : LocalNetwork} {localAddress address name : GoString} {request : Request}
  {startErr : LocalResponse → Option Error} {chunkErr : Bytes → Option Error}

section sample

def sampleRequest (path : GoString) : Request :=
  { id := lit "req_1", method := lit "POST", path, headers := ∅, body := [0x31] }

end sample

end LocalNetwork

end myngrok.gatewayclient
