import Myngrok.Go.Structs
import Myngrok.Protocol.Decoding

open golang

namespace myngrok.protocol

def requestFields : List (json.Field HTTPRequestPayload) :=
  [.string (lit "requestId") (·.requestID) fun p value => { p with requestID := value },
    .string (lit "method") (·.method) fun p value => { p with method := value },
    .string (lit "path") (·.path) fun p value => { p with path := value },
    .header (lit "headers") (·.headers) fun p value => { p with headers := value },
    .int (lit "contentLength") (·.contentLength) fun p value => { p with contentLength := value }]

def responseFields : List (json.Field HTTPResponsePayload) :=
  [.string (lit "requestId") (·.requestID) fun p value => { p with requestID := value },
    .int (lit "statusCode") (·.statusCode) fun p value => { p with statusCode := value },
    .header (lit "headers") (·.headers) fun p value => { p with headers := value },
    .int (lit "contentLength") (·.contentLength) fun p value => { p with contentLength := value },
    .string (lit "error") (·.error) fun p value => { p with error := value }]

def openTunnelFields : List (json.Field OpenTunnelPayload) :=
  [.string (lit "requestId") (·.requestID) fun p value => { p with requestID := value },
    .string (lit "localAddress") (·.localAddress) fun p value => { p with localAddress := value }]

/-- The payloads that only name a request. -/
def requestIDFields : List (json.Field GoString) := [.string (lit "requestId") id fun _ value => value]

/-- `struct { Type string; Payload T }`. -/
def messageFields {T : Type} (payload : List (json.Field T)) : List (json.Field (GoString × T)) :=
  [.string (lit "type") Prod.fst fun message value => (value, message.2),
    .struct (lit "payload") payload Prod.snd fun message value => (message.1, value)]

/-- `struct { Type string; Payload json.RawMessage }`. -/
def rawMessageFields : List (json.Field (GoString × Bytes)) :=
  [.string (lit "type") Prod.fst fun message value => (value, message.2),
    .raw (lit "payload") fun message value => (message.1, value)]

/-- `struct { Payload T }`, for the payloads that only name a request. -/
def payloadFields : List (json.Field GoString) := [.struct (lit "payload") requestIDFields id fun _ value => value]

def emptyResponse : HTTPResponsePayload :=
  { requestID := [], statusCode := 0, headers := ∅, contentLength := 0, error := [] }

namespace Decoder

/-- `encoding/json`, for each of the types that the two programs decode into. The texts of its errors are left open. -/
def json (err : Bytes → Error) : Decoder where
  message := json.unmarshal rawMessageFields ([], [])
  httpResponse := json.unmarshal responseFields emptyResponse
  openTunnel := json.unmarshal openTunnelFields { requestID := [], localAddress := [] }
  responseEnd := json.unmarshal payloadFields []
  requestMessage := json.unmarshal (messageFields requestFields) ([], emptyRequest [])
  requestEnd := json.unmarshal payloadFields []
  err := err

end Decoder

/-- The header fields that arrive where `headers` were sent: `encoding/json` writes the names in order, and puts U+FFFD
    in place of each byte that is not UTF-8. -/
def receivedHeaders (headers : Headers) : Headers :=
  (headers.keys.insertionSort (· ≤ ·)).foldl (fun received name =>
    received.insert (utf8.toValid name) (((headers.lookup name).getD []).map utf8.toValid)) ∅

def HTTPRequestPayload.received (p : HTTPRequestPayload) : HTTPRequestPayload :=
  { requestID := utf8.toValid p.requestID, method := utf8.toValid p.method, path := utf8.toValid p.path,
    headers := receivedHeaders p.headers, contentLength := p.contentLength }

def HTTPResponsePayload.received (p : HTTPResponsePayload) : HTTPResponsePayload :=
  { requestID := utf8.toValid p.requestID, statusCode := p.statusCode, headers := receivedHeaders p.headers,
    contentLength := p.contentLength, error := utf8.toValid p.error }

/-- The value that is written for one header field. -/
def fieldValue (headers : Headers) (name : GoString) : json.Value :=
  match (headers.lookup name).getD [] with
  | [] => .null
  | values => .array (values.map .string)

theorem intoStrings_fieldValue (headers : Headers) (name : GoString) :
    json.intoStrings (fieldValue headers name).node = some (((headers.lookup name).getD []).map utf8.toValid) := by
  unfold fieldValue
  cases (headers.lookup name).getD [] with
  | nil => rfl
  | cons value rest => exact json.intoStrings_array (value :: rest)

theorem intoHeader_members (headers : Headers) (names : List GoString) (old : Headers) :
    json.intoHeader old (json.Value.object (names.map fun name => (name, fieldValue headers name))).node =
      some (names.foldl (fun received name =>
        received.insert (utf8.toValid name) (((headers.lookup name).getD []).map utf8.toValid)) old) := by
  rw [json.Value.node, json.intoHeader]
  induction names generalizing old with
  | nil => rfl
  | cons name rest ih =>
    rw [List.map_cons, json.memberNodes, List.foldlM_cons, intoStrings_fieldValue, Option.map_some, List.foldl_cons]
    exact ih _

theorem intoHeader_headersValue (headers : Headers) :
    json.intoHeader ∅ (headersValue headers).node = some (receivedHeaders headers) := by
  rw [headersValue, receivedHeaders]
  split
  · next hempty =>
    rw [hempty]
    rfl
  · exact intoHeader_members headers _ ∅

theorem depth_headersValue (headers : Headers) : (headersValue headers).depth ≤ 2 := by
  have hfield : ∀ name, (fieldValue headers name).depth ≤ 1 := by
    intro name
    have hitems : ∀ texts : List GoString, json.itemsDepth (texts.map .string) = 0 := by
      intro texts
      induction texts with
      | nil => rfl
      | cons text rest ih =>
        rw [List.map_cons, json.itemsDepth, ih]
        rfl
    unfold fieldValue
    split
    · exact Nat.zero_le 1
    · rw [json.Value.depth, hitems]
  have hmembers : ∀ names : List GoString,
      json.membersDepth (names.map fun name => (name, fieldValue headers name)) ≤ 1 := by
    intro names
    induction names with
    | nil => exact Nat.zero_le 1
    | cons name rest ih =>
      rw [List.map_cons, json.membersDepth]
      exact Nat.max_le.mpr ⟨hfield name, ih⟩
  rw [headersValue]
  split
  · exact Nat.zero_le 2
  · exact Nat.succ_le_succ (hmembers _)

theorem intoStruct_request {p : HTTPRequestPayload} (hlength : IsInt64 p.contentLength) :
    json.intoStruct requestFields (Decoder.emptyRequest []) p.value.node = some p.received := by
  rw [HTTPRequestPayload.value]
  iterate 3 refine (json.intoStruct_cons rfl (json.Field.set_string rfl)).trans ?_
  refine (json.intoStruct_cons (a := { p.received with contentLength := 0 }) rfl ?_).trans ?_
  · exact json.Field.set_header (intoHeader_headersValue p.headers)
  refine (json.intoStruct_cons rfl (json.Field.set_int (json.intoInt_number hlength))).trans ?_
  rfl

theorem intoStruct_response {p : HTTPResponsePayload} (hstatus : IsInt64 p.statusCode)
    (hlength : IsInt64 p.contentLength) :
    json.intoStruct responseFields emptyResponse p.value.node = some p.received := by
  rw [HTTPResponsePayload.value]
  refine (json.intoStruct_cons rfl (json.Field.set_string rfl)).trans ?_
  refine (json.intoStruct_cons rfl (json.Field.set_int (json.intoInt_number hstatus))).trans ?_
  refine (json.intoStruct_cons (a := { p.received with contentLength := 0, error := [] }) rfl ?_).trans ?_
  · exact json.Field.set_header (intoHeader_headersValue p.headers)
  refine (json.intoStruct_cons rfl (json.Field.set_int (json.intoInt_number hlength))).trans ?_
  by_cases herror : p.error = []
  · rw [if_pos herror, HTTPResponsePayload.received, herror]
    rfl
  · rw [if_neg herror]
    refine (json.intoStruct_cons rfl (json.Field.set_string rfl)).trans ?_
    rfl

namespace Decoder

variable (err : Bytes → Error)

/-- What the agent makes of a request start. -/
theorem json_requestStart {p : HTTPRequestPayload} (hlength : IsInt64 p.contentLength) :
    (json err).requestMessage (httpRequestStartMessage p).data = some (httpRequestStart, p.received) := by
  have hheaders := depth_headersValue p.headers
  have hdepth : (json.Value.object [(lit "type", .string httpRequestStart), (lit "payload", p.value)]).depth ≤
      json.maxNestingDepth := by
    simp only [HTTPRequestPayload.value, json.Value.depth, json.membersDepth, json.maxNestingDepth]
    omega
  refine (json.unmarshal_encode hdepth).trans ?_
  refine (json.intoStruct_cons rfl (json.Field.set_string rfl)).trans ?_
  refine (json.intoStruct_cons (a := (httpRequestStart, p.received)) rfl ?_).trans ?_
  · exact json.Field.set_struct (intoStruct_request hlength)
  rfl

/-- What the gateway makes of a response start: the payload is decoded a second time, from the bytes that it has in the
    message. -/
theorem json_responseStart {p : HTTPResponsePayload} (hstatus : IsInt64 p.statusCode)
    (hlength : IsInt64 p.contentLength) :
    (json err).message (httpResponseStartMessage p).data = some (httpResponseStart, json.encode p.value) ∧
      (json err).httpResponse (json.encode p.value) = some p.received := by
  have hheaders := depth_headersValue p.headers
  have hpayload : p.value.depth ≤ 3 := by
    rw [HTTPResponsePayload.value]
    split
    · simp only [json.Value.depth, json.membersDepth, List.append_nil]
      omega
    · simp only [json.Value.depth, json.membersDepth, List.cons_append, List.nil_append]
      omega
  have hdepth : (json.Value.object [(lit "type", .string httpResponseStart), (lit "payload", p.value)]).depth ≤
      json.maxNestingDepth := by
    simp only [json.Value.depth, json.membersDepth, json.maxNestingDepth]
    omega
  constructor
  · refine (json.unmarshal_encode hdepth).trans ?_
    refine (json.intoStruct_cons rfl (json.Field.set_string rfl)).trans ?_
    refine (json.intoStruct_cons rfl rfl).trans ?_
    rfl
  · refine (json.unmarshal_encode (Nat.le_trans hpayload (by decide))).trans ?_
    exact intoStruct_response hstatus hlength

end Decoder

end myngrok.protocol
