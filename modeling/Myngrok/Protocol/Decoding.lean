import Myngrok.Protocol.Messages

open golang websocket

namespace myngrok.protocol

/-- The JSON messages the two programs send each other about requests. -/
def httpRequestStartMessage (payload : HTTPRequestPayload) : Message :=
  Envelope.message { type := httpRequestStart, payload := some payload.value }

def httpRequestEndMessage (id : GoString) : Message :=
  Envelope.message { type := httpRequestEnd, payload := some (requestIDValue id) }

def cancelRequestMessage (id : GoString) : Message :=
  Envelope.message { type := cancelRequest, payload := some (requestIDValue id) }

def httpResponseStartMessage (payload : HTTPResponsePayload) : Message :=
  Envelope.message { type := httpResponseStart, payload := some payload.value }

def httpResponseEndMessage (id : GoString) : Message :=
  Envelope.message { type := httpResponseEnd, payload := some (requestIDValue id) }

def tunnelOpenedMessage (payload : TunnelOpenedPayload) : Message :=
  Envelope.message { type := tunnelOpened, payload := some payload.value }

def pongMessage : Message := Envelope.message { type := pong, payload := none }
def pingMessage : Message := Envelope.message { type := ping, payload := none }

/-- What follows `start` in a text that begins with it. -/
def after (start data : Bytes) : Option Bytes := if start.isPrefixOf data then some (data.drop start.length) else none

/-- A message up to its payload. -/
def stem (type : GoString) : Bytes := lit "\x7b\"type\":" ++ json.quote type ++ lit ",\"payload\":"

/-- A payload up to the request ID, which stands first. -/
def member : Bytes := lit "\x7b\"requestId\":\""

namespace Decoder

/-- The gateway decodes the start of a response to what was encoded. -/
def ReadsResponseStart (dec : Decoder) (payload : HTTPResponsePayload) : Prop :=
  ∃ raw, dec.message (httpResponseStartMessage payload).data = some (httpResponseStart, raw) ∧
    dec.httpResponse raw = some payload

def ReadsResponseEnd (dec : Decoder) (id : GoString) : Prop :=
  (∃ raw, dec.message (httpResponseEndMessage id).data = some (httpResponseEnd, raw)) ∧
    dec.responseEnd (httpResponseEndMessage id).data = some id

def ReadsPong (dec : Decoder) : Prop := ∃ raw, dec.message pongMessage.data = some (pong, raw)

/-- The agent decodes the start of a request to what was encoded. -/
def ReadsRequestStart (dec : Decoder) (payload : HTTPRequestPayload) : Prop :=
  dec.requestMessage (httpRequestStartMessage payload).data = some (httpRequestStart, payload)

instance (dec : Decoder) (payload : HTTPRequestPayload) : Decidable (dec.ReadsRequestStart payload) :=
  inferInstanceAs (Decidable (_ = _))

def ReadsRequestEnd (dec : Decoder) (id : GoString) : Prop :=
  (∃ payload, dec.requestMessage (httpRequestEndMessage id).data = some (httpRequestEnd, payload)) ∧
    dec.requestEnd (httpRequestEndMessage id).data = some id

def ReadsCancelRequest (dec : Decoder) (id : GoString) : Prop :=
  ∃ payload, dec.requestMessage (cancelRequestMessage id).data = some (cancelRequest, payload) ∧
    payload.requestID = id

/-- The agent decodes a message of another type with that type, whatever it makes of the payload. -/
def ReadsType (dec : Decoder) (type : GoString) (message : Message) : Prop :=
  ∃ payload, dec.requestMessage message.data = some (type, payload)

/-- What a decoded request payload holds when the message has no such fields. -/
def emptyRequest (id : GoString) : HTTPRequestPayload :=
  { requestID := id, method := [], path := [], headers := ∅, contentLength := 0 }

/-- A decoder for the messages about the given requests and responses, and for no other text. -/
def knowing (requests : List HTTPRequestPayload) (responses : List HTTPResponsePayload) (ids : List GoString) :
    Decoder where
  message data :=
    if data = pongMessage.data then some (pong, [])
    else match responses.find? fun p => (httpResponseStartMessage p).data = data with
      | some p => some (httpResponseStart, json.encode p.value)
      | none => (ids.find? fun id => (httpResponseEndMessage id).data = data).map fun id =>
          (httpResponseEnd, json.encode (requestIDValue id))
  httpResponse raw := responses.find? fun p => json.encode p.value = raw
  openTunnel _ := none
  responseEnd data := ids.find? fun id => (httpResponseEndMessage id).data = data
  requestMessage data :=
    if data = pingMessage.data then some (ping, emptyRequest [])
    else if data = pongMessage.data then some (pong, emptyRequest [])
    else match requests.find? fun p => (httpRequestStartMessage p).data = data with
      | some p => some (httpRequestStart, p)
      | none => match ids.find? fun id => (httpRequestEndMessage id).data = data with
        | some id => some (httpRequestEnd, emptyRequest id)
        | none => (ids.find? fun id => (cancelRequestMessage id).data = data).map fun id =>
            (cancelRequest, emptyRequest id)
  requestEnd data := ids.find? fun id => (httpRequestEndMessage id).data = data
  err _ := lit "unexpected end of JSON input"

/-- The request ID of a message of the type. -/
def requestIDAt (width : Nat) (type : GoString) (data : Bytes) : Option GoString :=
  ((after (stem type) data).bind (after member)).map (List.take width)

/-- A decoder for the messages about requests whose IDs have `width` bytes and need no escapes, with payloads that
    depend on the ID alone: it looks where the type and the ID stand in the text. -/
def positional (width : Nat) (request : GoString → HTTPRequestPayload) (response : GoString → HTTPResponsePayload) :
    Decoder where
  message data :=
    match after (stem httpResponseStart) data, after (stem httpResponseEnd) data with
    | some raw, _ => some (httpResponseStart, raw)
    | none, some raw => some (httpResponseEnd, raw)
    | none, none => if data = pongMessage.data then some (pong, []) else none
  httpResponse raw := (after member raw).map fun rest => response (rest.take width)
  openTunnel _ := none
  responseEnd := requestIDAt width httpResponseEnd
  requestMessage data :=
    match requestIDAt width httpRequestStart data, requestIDAt width httpRequestEnd data,
      requestIDAt width cancelRequest data with
    | some id, _, _ => some (httpRequestStart, request id)
    | none, some id, _ => some (httpRequestEnd, emptyRequest id)
    | none, none, some id => some (cancelRequest, emptyRequest id)
    | none, none, none =>
      if data = pingMessage.data then some (ping, emptyRequest [])
      else if data = pongMessage.data then some (pong, emptyRequest []) else none
  requestEnd := requestIDAt width httpRequestEnd
  err _ := lit "unexpected end of JSON input"

end Decoder

theorem after_append (start rest : Bytes) : after start (start ++ rest) = some rest := by
  simp [after]

theorem after_of_unlike {start other : Bytes} (hshort : ¬start <+: other) (hlong : ¬other <+: start) (rest : Bytes) :
    after start (other ++ rest) = none := by
  have hnot : ¬start <+: other ++ rest := by
    intro hstarts
    rcases List.prefix_or_prefix_of_prefix hstarts (List.prefix_append other rest) with h | h
    · exact hshort h
    · exact hlong h
  rw [after, if_neg]
  rwa [List.isPrefixOf_iff_prefix]

theorem marshal_requestID (type : GoString) {id : GoString} (hplain : json.Plain id)
    (members : List (GoString × json.Value)) :
    ∃ rest, Envelope.marshal { type, payload := some (.object ((lit "requestId", .string id) :: members)) } =
      stem type ++ (member ++ (id ++ rest)) := by
  have hkeys : lit "\x7b\"type\":" = [0x7B] ++ json.quote (lit "type") ++ [0x3A] ∧
      lit ",\"payload\":" = [0x2C] ++ json.quote (lit "payload") ++ [0x3A] ∧
      member = [0x7B] ++ json.quote (lit "requestId") ++ [0x3A] ++ [0x22] := ⟨rfl, rfl, rfl⟩
  cases members with
  | nil =>
    refine ⟨[0x22] ++ [0x7D] ++ [0x7D], ?_⟩
    simp only [Envelope.marshal, Option.map_some, Option.toList_some, json.encode, json.encodeMembers,
      json.quote_of_plain hplain, stem, hkeys, List.append_assoc]
  | cons next members =>
    refine ⟨[0x22] ++ [0x2C] ++ json.encodeMembers (next :: members) ++ [0x7D] ++ [0x7D], ?_⟩
    simp only [Envelope.marshal, Option.map_some, Option.toList_some, json.encode, json.encodeMembers,
      json.quote_of_plain hplain, stem, hkeys, List.append_assoc]

namespace Decoder

section positional

variable {width : Nat} {request : GoString → HTTPRequestPayload} {response : GoString → HTTPResponsePayload}
  {id : GoString}

theorem requestIDAt_own (hid : id.length = width) (type : GoString) (rest : Bytes) :
    requestIDAt width type (stem type ++ (member ++ (id ++ rest))) = some id := by
  rw [requestIDAt, after_append, Option.bind_some, after_append, Option.map_some, List.take_left' hid]

theorem requestIDAt_other {type other : GoString} (hshort : ¬stem type <+: stem other)
    (hlong : ¬stem other <+: stem type) (rest : Bytes) : requestIDAt width type (stem other ++ rest) = none := by
  rw [requestIDAt, after_of_unlike hshort hlong]
  rfl

theorem positional_readsRequest (hid : id.length = width) (hplain : json.Plain id)
    (hrequest : (request id).requestID = id) :
    (positional width request response).ReadsRequestStart (request id) ∧
      (positional width request response).ReadsRequestEnd id ∧
      (positional width request response).ReadsCancelRequest id := by
  refine ⟨?_, ⟨⟨emptyRequest id, ?_⟩, ?_⟩, ⟨emptyRequest id, ?_, rfl⟩⟩
  · obtain ⟨rest, hdata⟩ := marshal_requestID httpRequestStart hplain _
    rw [ReadsRequestStart, httpRequestStartMessage, Envelope.message, HTTPRequestPayload.value, hrequest, hdata]
    dsimp only [positional]
    rw [requestIDAt_own hid]
  · obtain ⟨rest, hdata⟩ := marshal_requestID httpRequestEnd hplain []
    rw [httpRequestEndMessage, Envelope.message, requestIDValue, hdata]
    dsimp only [positional]
    rw [requestIDAt_other (by decide) (by decide), requestIDAt_own hid]
  · obtain ⟨rest, hdata⟩ := marshal_requestID httpRequestEnd hplain []
    rw [httpRequestEndMessage, Envelope.message, requestIDValue, hdata]
    exact requestIDAt_own hid httpRequestEnd rest
  · obtain ⟨rest, hdata⟩ := marshal_requestID cancelRequest hplain []
    rw [cancelRequestMessage, Envelope.message, requestIDValue, hdata]
    dsimp only [positional]
    rw [requestIDAt_other (by decide) (by decide), requestIDAt_other (by decide) (by decide), requestIDAt_own hid]

theorem positional_readsResponse (hid : id.length = width) (hplain : json.Plain id)
    (hresponse : (response id).requestID = id) :
    (positional width request response).ReadsResponseStart (response id) ∧
      (positional width request response).ReadsResponseEnd id := by
  constructor
  · obtain ⟨rest, hdata⟩ := marshal_requestID httpResponseStart hplain _
    refine ⟨member ++ (id ++ rest), ?_, ?_⟩
    · rw [httpResponseStartMessage, Envelope.message, HTTPResponsePayload.value, hresponse, List.cons_append, hdata]
      dsimp only [positional]
      rw [after_append]
    · dsimp only [positional]
      rw [after_append, Option.map_some, List.take_left' hid]
  · obtain ⟨rest, hdata⟩ := marshal_requestID httpResponseEnd hplain []
    refine ⟨⟨member ++ (id ++ rest), ?_⟩, ?_⟩
    · rw [httpResponseEndMessage, Envelope.message, requestIDValue, hdata]
      dsimp only [positional]
      rw [after_of_unlike (by decide) (by decide), after_append]
    · rw [httpResponseEndMessage, Envelope.message, requestIDValue, hdata]
      exact requestIDAt_own hid httpResponseEnd rest

end positional

end Decoder

end myngrok.protocol
