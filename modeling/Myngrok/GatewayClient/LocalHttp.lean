import Myngrok.Protocol.Messages

open golang myngrok.protocol

namespace myngrok.gatewayclient

/-- A complete request, as the read loop hands it to a worker. -/
structure Request where
  id : GoString
  method : GoString
  path : GoString
  headers : Headers
  body : Bytes
  deriving DecidableEq

/-- The part of the local answer that is known before its body is read. -/
structure LocalResponse where
  statusCode : Int
  headers : Headers
  deriving DecidableEq

/-- Size of the buffer that the local response body is read into. -/
def localBufferSize : Nat := 32 * 1024

/-- An answer of the local service, as net/http reads it. Its body comes in as many reads without an error as there are
    `pieces`; the last read returns `last` together with `io.EOF`, or with another error when there is a `failure`. -/
structure LocalAnswer where
  statusCode : Int
  header : Headers
  pieces : List Bytes
  last : Bytes
  failure : Option Error
  fits : ∀ piece ∈ last :: pieces, piece.length ≤ localBufferSize

theorem LocalAnswer.fits_empty : ∀ piece ∈ [([] : Bytes)], piece.length ≤ localBufferSize := by
  simp [localBufferSize]

/-- What the agent sends to the local service. -/
structure LocalRequest where
  method : GoString
  url : GoString
  header : Headers
  body : Bytes
  deriving DecidableEq

/-- `http.NewRequestWithContext` (the error, if any) and `http.DefaultClient.Do`, with the local service behind it. A
    cancelled context is one more way for them to fail. -/
structure LocalService where
  newRequest : (method url : GoString) → Option Error
  perform : LocalRequest → Except Error LocalAnswer

def normalizeLocalAddress (localAddress : GoString) : Except Error GoString :=
  let localAddress := strings.trimRightByte (strings.trimSpace localAddress) 0x2F
  if localAddress = [] then .error (lit "local address is required")
  else
    let localAddress := match strconv.parseUint localAddress 16 with
      | some port => if port > 0 then lit "127.0.0.1:" ++ localAddress else localAddress
      | none => localAddress
    if strings.hasPrefix localAddress (lit "http://") ∨ strings.hasPrefix localAddress (lit "https://") then
      .ok localAddress
    else .ok (lit "http://" ++ localAddress)

theorem normalizeLocalAddress_error {localAddress : GoString} {err : Error}
    (h : normalizeLocalAddress localAddress = .error err) : err = lit "local address is required" := by
  unfold normalizeLocalAddress at h
  dsimp only at h
  split at h
  · cases h
    rfl
  · repeat' split at h
    all_goals cases h

def hopByHopHeaders : List GoString :=
  [lit "Connection", lit "Proxy-Connection", lit "Keep-Alive", lit "Proxy-Authenticate",
    lit "Proxy-Authorization", lit "TE", lit "Trailer", lit "Transfer-Encoding", lit "Upgrade"]

/-- The values of `Connection` are read once, before the first deletion. -/
def withoutHopByHopHeaders (headers : Headers) : Headers :=
  let named := (headers.values (lit "Connection")).flatMap fun value =>
    (strings.splitByte 0x2C value).map strings.trimSpace
  (named ++ hopByHopHeaders).foldl http.Header.del headers

/-- The request that is made for the local service: `NewRequest` reads no method as GET. -/
def Request.toLocal (request : Request) (localAddress : GoString) : LocalRequest :=
  { method := if request.method = [] then lit "GET" else request.method, url := localAddress ++ request.path,
    header := withoutHopByHopHeaders request.headers, body := request.body }

/-- What is passed to the `start` callback. -/
def LocalAnswer.response (answer : LocalAnswer) : LocalResponse :=
  { statusCode := answer.statusCode, headers := withoutHopByHopHeaders answer.header }

variable {M : Type → Type} [Monad M]

/-- The read loop of `StreamLocal`: a read that returned bytes is passed on before its error is looked at. -/
def readLocalBody (chunk : Bytes → M (Option Error)) (last : Bytes) (failure : Option Error) :
    List Bytes → M (Option Error)
  | [] => do
    if last.length > 0 then
      if let some err ← chunk last then return some err
    return failure.map (lit "read local response: " ++ ·)
  | piece :: rest => do
    if piece.length > 0 then
      if let some err ← chunk piece then return some err
    readLocalBody chunk last failure rest

/-- `StreamLocal` once the local service has answered. -/
def streamAnswer (answer : LocalAnswer) (start : LocalResponse → M (Option Error))
    (chunk : Bytes → M (Option Error)) : M (Option Error) := do
  if let some err ← start answer.response then return some err
  readLocalBody chunk answer.last answer.failure answer.pieces

/-- `StreamLocal`; the result is its error. -/
def streamLocal (service : LocalService) (localAddress : GoString) (request : Request)
    (start : LocalResponse → M (Option Error)) (chunk : Bytes → M (Option Error)) : M (Option Error) :=
  match normalizeLocalAddress localAddress with
  | .error err => return some err
  | .ok localAddress =>
    match service.newRequest request.method (localAddress ++ request.path) with
    | some err => return some (lit "create local request: " ++ err)
    | none =>
      match service.perform (request.toLocal localAddress) with
      | .error err => return some (lit "send local request: " ++ err)
      | .ok answer => streamAnswer answer start chunk

/-- The outcome of the exchange up to the first read of the body: an error, or an answer. -/
def localExchange (service : LocalService) (localAddress : GoString) (request : Request) : Except Error LocalAnswer :=
  match normalizeLocalAddress localAddress with
  | .error err => .error err
  | .ok localAddress =>
    match service.newRequest request.method (localAddress ++ request.path) with
    | some err => .error (lit "create local request: " ++ err)
    | none =>
      match service.perform (request.toLocal localAddress) with
      | .error err => .error (lit "send local request: " ++ err)
      | .ok answer => .ok answer

theorem streamLocal_eq (service : LocalService) (localAddress : GoString) (request : Request)
    (start : LocalResponse → M (Option Error)) (chunk : Bytes → M (Option Error)) :
    streamLocal service localAddress request start chunk =
      match localExchange service localAddress request with
      | .error err => return some err
      | .ok answer => streamAnswer answer start chunk := by
  unfold streamLocal localExchange
  cases normalizeLocalAddress localAddress with
  | error err => rfl
  | ok address =>
    dsimp only
    cases service.newRequest request.method (address ++ request.path) with
    | some err => rfl
    | none =>
      dsimp only
      cases service.perform _ with
      | error err => rfl
      | ok answer => rfl

example : (normalizeLocalAddress (lit " 8080/ ")).toOption = some (lit "http://127.0.0.1:8080") := by decide

end myngrok.gatewayclient
