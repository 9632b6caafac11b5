import Myngrok.Protocol.Decoding

open golang websocket myngrok.protocol

namespace myngrok.tunnels

/-- `publicRequestID`, with the bytes that `rand.Read` returned. -/
def publicRequestID (random : Bytes) : GoString := lit "req_" ++ hex.encodeToString random

/-- The IDs that public requests get: twelve random bytes. -/
def IsPublicRequestID (id : GoString) : Prop := ∃ random, random.length = 12 ∧ publicRequestID random = id

variable {id : GoString}

theorem IsPublicRequestID.length_eq (h : IsPublicRequestID id) : id.length = 28 := by
  obtain ⟨random, hrandom, rfl⟩ := h
  have hstem : (lit "req_").length = 4 := rfl
  rw [publicRequestID, List.length_append, hstem, hex.length_encodeToString, hrandom]

theorem IsPublicRequestID.ne_nil (h : IsPublicRequestID id) : id ≠ [] := by
  intro hnil
  have hlength := h.length_eq
  rw [hnil] at hlength
  cases hlength

/-- A request ID has no byte that JSON escapes. -/
theorem IsPublicRequestID.plain (h : IsPublicRequestID id) : json.Plain id := by
  obtain ⟨random, _, rfl⟩ := h
  have hdigit : ∀ n < 16, (hex.digit n).toNat < 0x80 ∧ json.escapeByte (hex.digit n) = [hex.digit n] := by decide
  intro b hmem
  rw [publicRequestID, List.mem_append] at hmem
  obtain hmem | hmem := hmem
  · exact json.Plain.of_all (by decide) b hmem
  · obtain ⟨x, _, hx⟩ := List.mem_flatMap.mp hmem
    have hsize : x.toNat < 256 := x.toNat_lt
    rw [List.mem_cons, List.mem_singleton] at hx
    obtain rfl | rfl := hx
    · exact hdigit _ (by omega)
    · exact hdigit _ (Nat.mod_lt _ (by decide))

/-- A message that only names a request is short. -/
theorem length_requestIDMessage_le (h : IsPublicRequestID id) {type : GoString} (htype : type.length ≤ 32) :
    (Envelope.message { type, payload := some (requestIDValue id) }).data.length ≤ 512 := by
  have hid := json.length_quote_le id
  have htext := json.length_quote_le type
  have hkeys : (json.quote (lit "type")).length = 6 ∧ (json.quote (lit "payload")).length = 9 ∧
      (json.quote (lit "requestId")).length = 11 := ⟨rfl, rfl, rfl⟩
  rw [h.length_eq] at hid
  simp only [Envelope.message, Envelope.marshal, requestIDValue, Option.map_some, Option.toList_some,
    json.encode, json.encodeMembers, List.length_append, List.length_cons, List.length_nil, hkeys]
  omega

end myngrok.tunnels
