import Myngrok.Protocol.Unmarshal

open golang

namespace myngrok.protocol

/-- The same fields, each with the same values in the same order. -/
def SameHeaders (received sent : Headers) : Prop := ∀ name, received.lookup name = sent.lookup name

/-- Header fields whose names and values are UTF-8. -/
def TextHeaders (headers : Headers) : Prop :=
  ∀ name values, headers.lookup name = some values →
    utf8.validString name = true ∧ ∀ value ∈ values, utf8.validString value = true

theorem mem_sorted_keys (headers : Headers) (name : GoString) :
    name ∈ headers.keys.insertionSort (· ≤ ·) ↔ ∃ values, headers.lookup name = some values := by
  rw [List.mem_insertionSort, ← AList.mem_keys, Map.mem_iff_lookup]

theorem lookup_receivedHeaders_of_text {headers : Headers} (h : TextHeaders headers) (name : GoString) :
    (receivedHeaders headers).lookup name = headers.lookup name := by
  have hfold : receivedHeaders headers = (headers.keys.insertionSort (· ≤ ·)).foldl (fun received name =>
      received.insert name ((headers.lookup name).getD [])) ∅ := by
    rw [receivedHeaders]
    apply List.foldl_ext
    intro received name hmem
    obtain ⟨values, hvalues⟩ := (mem_sorted_keys headers name).mp hmem
    obtain ⟨hname, htexts⟩ := h name values hvalues
    have hmap : values.map utf8.toValid = values := by
      rw [List.map_congr_left fun value hvalue => utf8.toValid_of_validString (htexts value hvalue), List.map_id']
    rw [utf8.toValid_of_validString hname, hvalues, Option.getD_some, hmap]
  rw [hfold, Map.lookup_foldl_insert]
  split
  · next hmem =>
    obtain ⟨values, hvalues⟩ := (mem_sorted_keys headers name).mp hmem
    rw [hvalues, Option.getD_some]
  · next hmem =>
    rw [AList.lookup_empty, eq_comm, Option.eq_none_iff_forall_ne_some]
    intro values hvalues
    exact hmem ((mem_sorted_keys headers name).mpr ⟨values, hvalues⟩)

/-- Whatever was sent, what arrives is UTF-8. -/
theorem textHeaders_received (headers : Headers) : TextHeaders (receivedHeaders headers) := by
  intro name values hlookup
  rcases Map.mem_of_lookup_foldl_insert hlookup with ⟨sent, -, hname, hvalues⟩ | hempty
  · refine ⟨hname ▸ utf8.validString_toValid sent, fun value hvalue => ?_⟩
    rw [← hvalues] at hvalue
    obtain ⟨text, -, rfl⟩ := List.mem_map.mp hvalue
    exact utf8.validString_toValid text
  · rw [AList.lookup_empty] at hempty
    cases hempty

theorem sameHeaders_received_iff (headers : Headers) :
    SameHeaders (receivedHeaders headers) headers ↔ TextHeaders headers := by
  refine ⟨fun hsame name values hlookup => ?_, lookup_receivedHeaders_of_text⟩
  exact textHeaders_received headers name values ((hsame name).trans hlookup)

/-- Header fields and the path of a message arrive as they were sent if and only if they are UTF-8, from the gateway to
    the agent and back. -/
theorem metadata_survives_iff (err : Bytes → Error) :
    (∀ p : HTTPRequestPayload, IsInt64 p.contentLength →
      ((∃ q, (Decoder.json err).requestMessage (httpRequestStartMessage p).data = some (httpRequestStart, q) ∧
          SameHeaders q.headers p.headers ∧ q.path = p.path) ↔
        TextHeaders p.headers ∧ utf8.validString p.path = true)) ∧
    ∀ p : HTTPResponsePayload, IsInt64 p.statusCode → IsInt64 p.contentLength →
      ((∃ raw q, (Decoder.json err).message (httpResponseStartMessage p).data = some (httpResponseStart, raw) ∧
          (Decoder.json err).httpResponse raw = some q ∧ SameHeaders q.headers p.headers) ↔
        TextHeaders p.headers) := by
  constructor
  · intro p hlength
    rw [← sameHeaders_received_iff, ← utf8.toValid_eq_self_iff, Decoder.json_requestStart err hlength]
    constructor
    · rintro ⟨q, hq, hsame⟩
      rw [← (Prod.mk.inj (Option.some.inj hq)).2] at hsame
      exact hsame
    · intro hsame
      exact ⟨p.received, rfl, hsame⟩
  · intro p hstatus hlength
    obtain ⟨hmessage, hresponse⟩ := Decoder.json_responseStart err hstatus hlength
    rw [← sameHeaders_received_iff]
    constructor
    · rintro ⟨raw, q, hraw, hq, hsame⟩
      rw [hmessage] at hraw
      rw [← (Prod.mk.inj (Option.some.inj hraw)).2, hresponse] at hq
      rw [← Option.some.inj hq] at hsame
      exact hsame
    · intro hsame
      exact ⟨_, p.received, hmessage, hresponse, hsame⟩

/-- A request and its response with one header field each. -/
def namedRequest (path value : GoString) : HTTPRequestPayload :=
  { requestID := lit "req_1", method := lit "GET", path, headers := (∅ : Headers).insert (lit "X-Name") [value]
    contentLength := 0 }

def namedResponse (value : GoString) : HTTPResponsePayload :=
  { requestID := lit "req_1", statusCode := 200, headers := (∅ : Headers).insert (lit "X-Name") [value]
    contentLength := -1, error := [] }

theorem textHeaders_singleton {name value : GoString} (hname : utf8.validString name = true)
    (hvalue : utf8.validString value = true) : TextHeaders ((∅ : Headers).insert name [value]) := by
  intro query values hlookup
  rw [Map.lookup_insert_eq] at hlookup
  split at hlookup
  · next heq =>
    obtain rfl := Option.some.inj hlookup
    refine ⟨heq ▸ hname, fun text htext => ?_⟩
    rw [List.mem_singleton.mp htext]
    exact hvalue
  · cases hlookup

/-- A name that is written in UTF-8 arrives. -/
theorem metadata_survives_iff_utf8 :
    (∃ q, (Decoder.json fun _ => []).requestMessage
        (httpRequestStartMessage (namedRequest (lit "/café") (lit "café"))).data = some (httpRequestStart, q) ∧
      SameHeaders q.headers (namedRequest (lit "/café") (lit "café")).headers ∧ q.path = lit "/café") ∧
    ∃ raw q, (Decoder.json fun _ => []).message (httpResponseStartMessage (namedResponse (lit "café"))).data =
        some (httpResponseStart, raw) ∧
      (Decoder.json fun _ => []).httpResponse raw = some q ∧
      SameHeaders q.headers (namedResponse (lit "café")).headers := by
  have hheaders : TextHeaders ((∅ : Headers).insert (lit "X-Name") [lit "café"]) :=
    textHeaders_singleton (by decide) (by decide)
  exact ⟨((metadata_survives_iff fun _ => []).1 (namedRequest (lit "/café") (lit "café")) (by decide)).mpr
      ⟨hheaders, by decide⟩,
    ((metadata_survives_iff fun _ => []).2 (namedResponse (lit "café")) (by decide) (by decide)).mpr hheaders⟩

/-- In Latin-1 it is a value that net/http takes, and arrives with three other bytes in place of its last one; so does
    the query of the path. -/
theorem latin1_metadata_replaced :
    http.validHeaderFieldName (lit "X-Name") = true ∧ http.validHeaderFieldValue (lit "caf" ++ [0xE9]) = true ∧
    (∃ q, (Decoder.json fun _ => []).requestMessage
        (httpRequestStartMessage (namedRequest (lit "/?q=" ++ [0xE9]) (lit "caf" ++ [0xE9]))).data =
          some (httpRequestStart, q) ∧
      q.headers.lookup (lit "X-Name") = some [lit "caf" ++ [0xEF, 0xBF, 0xBD]] ∧
      q.path = lit "/?q=" ++ [0xEF, 0xBF, 0xBD]) ∧
    ∃ raw q, (Decoder.json fun _ => []).message (httpResponseStartMessage (namedResponse (lit "caf" ++ [0xE9]))).data =
        some (httpResponseStart, raw) ∧
      (Decoder.json fun _ => []).httpResponse raw = some q ∧
      q.headers.lookup (lit "X-Name") = some [lit "caf" ++ [0xEF, 0xBF, 0xBD]] := by
  have hresponse := Decoder.json_responseStart (fun _ => []) (p := namedResponse (lit "caf" ++ [0xE9]))
    (by decide) (by decide)
  exact ⟨by decide, by decide, ⟨_, Decoder.json_requestStart _ (by decide), by decide, by decide⟩,
    ⟨_, _, hresponse.1, hresponse.2, by decide⟩⟩

end myngrok.protocol
