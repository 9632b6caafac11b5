import Myngrok.Gateway.SessionManager
import Myngrok.Protocol.Frame
import Myngrok.Tunnels.PublicHost
import Myngrok.Tunnels.PublicRequest
import Myngrok.Tunnels.RateLimiter
import Myngrok.Tunnels.Registry

open golang Result websocket myngrok.protocol
open myngrok.gateway (Chan Response)

namespace myngrok.tunnels

/-- The error that a `Read` of the request body returns next to its bytes: `io.EOF`, the limit of `http.MaxBytesReader`,
    or something else. -/
inductive ReadError where
  | eof
  | tooLarge
  | failed (err : Error)
  deriving DecidableEq

/-- What the public client is answered: the text given to `http.Error`, with a Retry-After field for the rate limit, or
    the response of the local service. -/
inductive Reply where
  | error (status : Nat) (text : GoString)
  | limited (retryAfter : Int) (text : GoString)
  | response (status : Int) (headers : Headers) (body : Bytes)
  deriving DecidableEq

/-- What follows once a message is in the outbound queue: the body after the start, more of the body, the error that the
    last read returned with its bytes, the end of the request, or the wait for the response. -/
inductive After where
  | started
  | more (sequence : UInt32) (offset : Nat)
  | readFailed (err : ReadError)
  | finish
  | wait
  deriving DecidableEq

/-- Where a `ServeHTTP` call stands. `enqueueing` is the `select` of `sendContext`, with the channel of the session that
    was looked up before; `offering` is the non-blocking `select` of `Send` in `sendCancel`. -/
inductive Phase where
  | routed
  | sending (message : Message) (after : After)
  | enqueueing (queue : Chan) (message : Message) (after : After)
  | reading (sequence : UInt32) (offset : Nat)
  | waiting
  | cancelling (reply : Reply)
  | offering (queue : Chan) (reply : Reply)
  | leaving (reply : Reply)
  | returned (reply : Reply)
  deriving DecidableEq

/-- One `ServeHTTP` call that was admitted. `ch` is the channel that `RegisterRequest` returned. -/
structure Handler where
  request : PublicRequest
  id : GoString
  tunnel : ActiveTunnel
  ch : Chan
  phase : Phase
  deriving DecidableEq

/-- What the handler sees of the rest of the program, one atomic action at a time. -/
inductive HandlerEvent where
  | register (sessionID : GoString) (ch : Chan)
  | lookup (queue : Option Chan)
  | enqueue
  | ctxDone
  | read (count : Nat) (err : Option ReadError)
  | receive (ch : Chan) (response : Response)
  | timeout
  | cancelLookup (queue : Option Chan)
  | offer (taken : Bool)
  | cancelRequest
  deriving DecidableEq

def notFound : Reply := .error 404 (lit "404 page not found")
def tooLarge : Reply := .error 413 (lit "request body too large")
def unavailable : Reply := .error 502 (lit "tunnel agent is unavailable")
def timedOut : Reply := .error 504 (lit "tunnel response timed out")

def readErrorReply : ReadError → Reply
  | .tooLarge => tooLarge
  | .failed err => .error 502 err
  | .eof => .error 502 (lit "EOF")

def responseReply (response : Response) : Reply :=
  if response.error ≠ [] then .error 502 response.error
  else .response response.statusCode (withoutHopByHopHeaders response.headers) response.body

/-- Which bytes a `Read` may return: what is left of the body, through the buffer and the limit of
    `http.MaxBytesReader`. `io.EOF` comes at the end of the body, and the limit is reported when there is more behind
    it. -/
def readAllowed (r : PublicRequest) (offset count : Nat) (err : Option ReadError) : Bool :=
  count ≤ requestBodyChunkSize && offset + count ≤ r.body.length && offset + count ≤ maxTunnelBodyBytes &&
    match err with
    | some .eof => offset + count = r.body.length
    | some .tooLarge => offset + count = maxTunnelBodyBytes && maxTunnelBodyBytes < r.body.length
    | _ => true

/-- The first part of `ServeHTTP`, up to the request ID: the answer of a call that ends here, or the state in which an
    admitted one goes on. `random` is what `rand.Read` filled in, if it did not fail. -/
def route (baseDomain : GoString) (registry : Registry) (limiter : PublicRateLimiter) (r : PublicRequest)
    (now : Time) (random : Option Bytes) : Except Reply Handler × PublicRateLimiter :=
  match (parsePublicHost r.host baseDomain).bind registry.get with
  | none => (.error notFound, limiter)
  | some tunnel =>
    match limiter.allow (tunnel.id ++ lit ":" ++ requestClientIP r) now with
    | ((false, retryAfter), limiter) =>
      (.error (.limited (max 1 (retryAfter / second)) (lit "public request rate limit exceeded")), limiter)
    | ((true, _), limiter) =>
      if r.contentLength > maxTunnelBodyBytes then (.error tooLarge, limiter)
      else match random with
        | none => (.error (.error 500 (lit "request ID generation failed")), limiter)
        | some random =>
          (.ok { request := r, id := publicRequestID random, tunnel, ch := 0, phase := .routed }, limiter)

namespace Handler

def goTo (h : Handler) (phase : Phase) : Handler := { h with phase }

/-- The send returned true. -/
def sent (h : Handler) : After → Handler
  | .started => h.goTo (.reading 0 0)
  | .more sequence offset => h.goTo (.reading sequence offset)
  | .readFailed err => h.goTo (.cancelling (readErrorReply err))
  | .finish => h.goTo (.sending (httpRequestEndMessage h.id) .wait)
  | .wait => h.goTo .waiting

/-- The send returned false. Only when this was the start is the agent not told. -/
def unsent (h : Handler) : After → Handler
  | .started => h.goTo (.leaving unavailable)
  | _ => h.goTo (.cancelling unavailable)

def requestFrame (h : Handler) (sequence : UInt32) (payload : Bytes) : BinaryFrame :=
  { type := requestBodyChunk, requestID := h.id, sequence, payload }

/-- One round of the read loop of `sendRequestBody`. -/
def afterRead (h : Handler) (sequence : UInt32) (offset count : Nat) (err : Option ReadError) : Option Handler :=
  if count > 0 then
    match (h.requestFrame sequence ((h.request.body.drop offset).take count)).marshalBinary with
    | ok (.ok data) => some (h.goTo (.sending { messageType := .binary, data } (match err with
        | none => .more (sequence + 1) (offset + count)
        | some .eof => .finish
        | some err => .readFailed err)))
    | ok (.error err) => some (h.goTo (.cancelling (.error 502 err)))
    | .panic => none
  else match err with
    | none => some (h.goTo (.reading sequence offset))
    | some .eof => some (h.goTo (.sending (httpRequestEndMessage h.id) .wait))
    | some err => some (h.goTo (.cancelling (readErrorReply err)))

/-- One action of a handler; an action that does not fit its place is not enabled. -/
def step (h : Handler) (e : HandlerEvent) : Option Handler :=
  match h.phase, e with
  | .routed, .register sessionID ch =>
    if sessionID = h.tunnel.sessionID then
      some { h with ch, phase := .sending (httpRequestStartMessage (startPayload h.request h.id)) .started }
    else none
  | .sending message after, .lookup (some queue) => some (h.goTo (.enqueueing queue message after))
  | .sending _ after, .lookup none => some (h.unsent after)
  | .enqueueing _ _ after, .enqueue => some (h.sent after)
  | .enqueueing _ _ after, .ctxDone => some (h.unsent after)
  | .reading sequence offset, .read count err =>
    if readAllowed h.request offset count err then h.afterRead sequence offset count err else none
  | .waiting, .receive ch response =>
    if ch = h.ch then some (h.goTo (.leaving (responseReply response))) else none
  | .waiting, .ctxDone => some (h.goTo (.cancelling timedOut))
  | .waiting, .timeout => some (h.goTo (.cancelling timedOut))
  | .cancelling reply, .cancelLookup (some queue) => some (h.goTo (.offering queue reply))
  | .cancelling reply, .cancelLookup none => some (h.goTo (.leaving reply))
  | .offering _ reply, .offer _ => some (h.goTo (.leaving reply))
  | .leaving reply, .cancelRequest => some (h.goTo (.returned reply))
  | _, _ => none

/-- The message that an action puts in the outbound queue. -/
def emits (h : Handler) (e : HandlerEvent) : Option (Chan × Message) :=
  match h.phase, e with
  | .enqueueing queue message _, .enqueue => some (queue, message)
  | .offering queue _, .offer true => some (queue, cancelRequestMessage h.id)
  | _, _ => none

end Handler

end myngrok.tunnels
