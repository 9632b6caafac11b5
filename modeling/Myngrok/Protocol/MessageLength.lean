import Myngrok.Go.JsonLength
import Myngrok.Protocol.Decoding

open golang websocket

namespace myngrok.protocol

/-- How many bytes the values of a header field take in a message. -/
def valuesLength (values : List GoString) : Nat :=
  if values = [] then 4 else 1 + (values.map fun value => json.quotedLength value + 1).sum

/-- How many bytes a header field takes, with its colon and the comma or brace after it. -/
def fieldLength (name : GoString) (values : List GoString) : Nat := json.quotedLength name + valuesLength values + 2

/-- How many bytes header fields take together. -/
def fieldsLength (fields : List (Sigma fun _ : GoString => List GoString)) : Nat :=
  (fields.map fun field => fieldLength field.1 field.2).sum

theorem length_values (values : List GoString) :
    (json.encode (match values with | [] => .null | values => .array (values.map .string))).length =
      valuesLength values := by
  cases values with
  | nil => rfl
  | cons value rest =>
    have hitems := json.length_encodeItems (List.cons_ne_nil (json.Value.string value) (rest.map .string))
    simp only [json.encode, valuesLength, List.map_cons, List.length_append, List.length_singleton, json.length_quote,
      List.map_map, Function.comp_def, if_neg (List.cons_ne_nil value rest)] at hitems ⊢
    omega

/-- The order in which the fields are written makes no difference. -/
theorem length_headersValue (headers : Headers) :
    (json.encode (headersValue headers)).length =
      if headers.entries = [] then 4 else 1 + fieldsLength headers.entries := by
  by_cases hempty : headers.entries = []
  · have hkeys : headers.keys = [] := by rw [AList.keys, List.keys, hempty]; rfl
    rw [headersValue, if_pos hkeys, if_pos hempty]
    rfl
  · have hkeys : headers.keys ≠ [] := fun hnil => hempty (List.map_eq_nil_iff.mp hnil)
    have hsorted : headers.keys.insertionSort (· ≤ ·) ≠ [] := by
      intro hnil
      rw [← List.length_eq_zero_iff, List.length_insertionSort] at hnil
      exact hkeys (List.length_eq_zero_iff.mp hnil)
    have hmembers := json.length_encodeMembers (mt List.map_eq_nil_iff.mp hsorted : (headers.keys.insertionSort
      (· ≤ ·)).map (fun name => (name, match (headers.lookup name).getD [] with
        | [] => json.Value.null
        | values => .array (values.map .string))) ≠ [])
    have hfields : fieldsLength headers.entries =
        (headers.keys.map fun name => fieldLength name ((headers.lookup name).getD [])).sum := by
      rw [fieldsLength, AList.keys, List.keys, List.map_map]
      refine congrArg List.sum (List.map_congr_left ?_)
      intro field hmem
      rw [Function.comp_apply, AList.mem_lookup_iff.mpr hmem, Option.getD_some]
    have horder := ((List.perm_insertionSort (· ≤ ·) headers.keys).map fun name =>
      fieldLength name ((headers.lookup name).getD [])).sum_eq
    rw [headersValue, if_neg hkeys, if_neg hempty, hfields, ← horder]
    simp only [json.encode, List.length_append, List.length_singleton, List.map_map, Function.comp_def, length_values]
      at hmembers ⊢
    rw [Nat.add_assoc]
    exact congrArg (1 + ·) hmembers

/-- The payload of an envelope stands in a fixed text. -/
theorem length_envelope (type : GoString) (payload : json.Value) :
    (Envelope.message { type, payload := some payload }).data.length =
      20 + json.quotedLength type + (json.encode payload).length := by
  have hkeys : (json.quote (lit "type")).length = 6 ∧ (json.quote (lit "payload")).length = 9 := ⟨rfl, rfl⟩
  simp only [Envelope.message, Envelope.marshal, Option.map_some, Option.toList_some, json.encode, json.encodeMembers,
    List.length_append, List.length_cons, List.length_nil, hkeys, json.length_quote]
  omega

theorem length_httpRequestStartMessage (payload : HTTPRequestPayload) :
    (httpRequestStartMessage payload).data.length =
      100 + json.quotedLength payload.requestID + json.quotedLength payload.method + json.quotedLength payload.path +
        (json.encode (headersValue payload.headers)).length + json.numberLength payload.contentLength := by
  have htype : json.quotedLength httpRequestStart = 20 := rfl
  have hkeys : (json.quote (lit "requestId")).length = 11 ∧ (json.quote (lit "method")).length = 8 ∧
      (json.quote (lit "path")).length = 6 ∧ (json.quote (lit "headers")).length = 9 ∧
      (json.quote (lit "contentLength")).length = 15 := ⟨rfl, rfl, rfl, rfl, rfl⟩
  rw [httpRequestStartMessage, length_envelope, htype]
  simp only [HTTPRequestPayload.value, json.encode, json.encodeMembers, List.length_append, List.length_cons,
    List.length_nil, hkeys, json.length_quote, json.length_writeInt]
  omega

/-- An error is written only if there is one. -/
theorem length_httpResponseStartMessage (payload : HTTPResponsePayload) :
    (httpResponseStartMessage payload).data.length =
      97 + json.quotedLength payload.requestID + json.numberLength payload.statusCode +
        (json.encode (headersValue payload.headers)).length + json.numberLength payload.contentLength +
        if payload.error = [] then 0 else 9 + json.quotedLength payload.error := by
  have htype : json.quotedLength httpResponseStart = 21 := rfl
  have hkeys : (json.quote (lit "requestId")).length = 11 ∧ (json.quote (lit "statusCode")).length = 12 ∧
      (json.quote (lit "headers")).length = 9 ∧ (json.quote (lit "contentLength")).length = 15 ∧
      (json.quote (lit "error")).length = 7 := ⟨rfl, rfl, rfl, rfl, rfl⟩
  rw [httpResponseStartMessage, length_envelope, htype]
  by_cases herror : payload.error = []
  · simp only [HTTPResponsePayload.value, if_pos herror, List.append_nil, json.encode, json.encodeMembers,
      List.length_append, List.length_cons, List.length_nil, hkeys, json.length_quote, json.length_writeInt]
    omega
  · simp only [HTTPResponsePayload.value, if_neg herror, List.cons_append, List.nil_append, json.encode,
      json.encodeMembers, List.length_append, List.length_cons, List.length_nil, hkeys, json.length_quote,
      json.length_writeInt]
    omega

end myngrok.protocol
