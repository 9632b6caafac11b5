import Myngrok.Gateway.ServeSession
import Myngrok.Streams.Demux

open golang Result websocket streams myngrok.protocol

namespace myngrok.gateway

/-- A message from the agent, as far as it concerns the response streams. -/
abbrev ResponseItem := Item GoString HTTPResponsePayload BinaryFrame

def responseItem (dec : Decoder) (message : Message) : ResponseItem :=
  match message.messageType with
  | .binary =>
    match parseBinaryFrame message.data with
    | ok (.ok frame) => .chunk frame.requestID frame
    | _ => .skip
  | .text =>
    match dec.message message.data with
    | some (type, raw) =>
      if type = httpResponseStart then
        match dec.httpResponse raw with
        | some payload => .start payload.requestID payload
        | none => .skip
      else if type = httpResponseEnd then
        match dec.responseEnd message.data with
        | some id => .close id
        | none => .skip
      else .skip
    | none => .skip
  | .other _ => .skip

/-- What the session loop demands of a chunk of an open stream. -/
def ResponseAssembly.Accepts (a : ResponseAssembly) (frame : BinaryFrame) : Prop :=
  frame.type = responseBodyChunk ∧ frame.sequence = a.next ∧
    a.body.length + frame.payload.length ≤ maxTunnelResponseBodyBytes ∧
    (0 ≤ a.payload.contentLength → ((a.body.length + frame.payload.length : Nat) : Int) ≤ a.payload.contentLength)

/-- The stream may end: it has the length it announced, if it announced one. -/
def ResponseAssembly.Complete (a : ResponseAssembly) : Prop :=
  0 ≤ a.payload.contentLength → (a.body.length : Int) = a.payload.contentLength

def ResponseAssembly.append (a : ResponseAssembly) (frame : BinaryFrame) : ResponseAssembly :=
  { a with body := a.body ++ frame.payload, next := a.next + 1 }

/-- What a message that the session loop accepts does to the open streams, and what the loop has checked before. -/
inductive Serves (responses : Responses) : ResponseItem → Responses → List Effect → Prop where
  | start {id} {payload : HTTPResponsePayload} (hid : id ≠ []) (hlow : -1 ≤ payload.contentLength)
      (hhigh : payload.contentLength ≤ maxTunnelResponseBodyBytes)
      (hroom : id ∈ responses ∨ responses.len < maxPendingResponseStreams) :
    Serves responses (.start id payload) (responses.insert id { payload, next := 0, body := [] }) []
  | chunk {id frame} {a : ResponseAssembly} (hlookup : responses.lookup id = some a) (haccepts : a.Accepts frame) :
    Serves responses (.chunk id frame) (responses.insert id (a.append frame)) []
  | close {id} {a : ResponseAssembly} (hlookup : responses.lookup id = some a) (hcomplete : a.Complete) :
    Serves responses (.close id) (responses.erase id) [.deliver id a.response]
  | skip {effects} (hsilent : ∀ id response, Effect.deliver id response ∉ effects) :
    Serves responses .skip responses effects

theorem parseBinaryFrame_cases (data : Bytes) :
    (∃ frame, parseBinaryFrame data = ok (.ok frame)) ∨ ∃ e, parseBinaryFrame data = ok (.error e) := by
  obtain ⟨frame, _, _, h⟩ | ⟨_, h⟩ := parseBinaryFrame_parsesFrames.spec data
  · exact .inl ⟨frame, h⟩
  · exact .inr h

/-- The guards of a binary message, read as one condition: none of them follows a nil assembly. -/
theorem invalidChunk_eq (frame : BinaryFrame) (assembly : Option ResponseAssembly) :
    ∃ invalid, invalidChunk false frame assembly = ok invalid ∧
      (invalid = false ↔ ∃ a, assembly = some a ∧ a.Accepts frame) := by
  cases assembly with
  | none => exact ⟨true, rfl, by simp⟩
  | some a =>
    simp only [Option.some.injEq, exists_eq_left', ResponseAssembly.Accepts]
    by_cases htype : frame.type = responseBodyChunk
    · by_cases hsequence : frame.sequence = a.next
      · by_cases hlimit : a.body.length + frame.payload.length ≤ maxTunnelResponseBodyBytes
        · refine ⟨decide (a.payload.contentLength ≥ 0 ∧
            ((a.body.length + frame.payload.length : Nat) : Int) > a.payload.contentLength), ?_, ?_⟩
          · simp [invalidChunk, htype, hsequence, Nat.not_lt.mpr hlimit]
          · simp [htype, hsequence, hlimit]
        · exact ⟨true, by simp [invalidChunk, htype, hsequence, Nat.lt_of_not_ge hlimit], by simp [hlimit]⟩
      · exact ⟨true, by simp [invalidChunk, htype, hsequence], by simp [hsequence]⟩
    · exact ⟨true, by simp [invalidChunk, htype], by simp [htype]⟩

/-- A binary message that is no frame, or no acceptable chunk, closes the session; any other one is appended to its
    stream. -/
theorem serveBinary_spec (responses : Responses) (data : Bytes) :
    (∃ frame a, parseBinaryFrame data = ok (.ok frame) ∧ responses.lookup frame.requestID = some a ∧
      a.Accepts frame ∧
      serveBinary responses data = ok (.continued (responses.insert frame.requestID (a.append frame)) [])) ∨
    ((∀ frame a, parseBinaryFrame data = ok (.ok frame) → responses.lookup frame.requestID = some a →
      ¬ a.Accepts frame) ∧
      serveBinary responses data = ok (.closed statusUnsupportedData (lit "invalid response body chunk"))) := by
  obtain ⟨frame, hparse⟩ | ⟨e, hparse⟩ := parseBinaryFrame_cases data
  · obtain ⟨invalid, hinvalid, hiff⟩ := invalidChunk_eq frame (responses.lookup frame.requestID)
    cases invalid with
    | false =>
      obtain ⟨a, hlookup, haccepts⟩ := hiff.mp rfl
      left
      refine ⟨frame, a, hparse, hlookup, haccepts, ?_⟩
      rw [hlookup] at hinvalid
      simp [serveBinary, hparse, hlookup, hinvalid, ResponseAssembly.append]
    | true =>
      right
      constructor
      · intro frame' a hparse' hlookup haccepts
        rw [hparse] at hparse'
        cases hparse'
        exact absurd (hiff.mpr ⟨a, hlookup, haccepts⟩) (by simp)
      · simp [serveBinary, hparse, hinvalid]
  · right
    constructor
    · intro frame a hparse'
      rw [hparse] at hparse'
      cases hparse'
    · simp [serveBinary, hparse, invalidChunk]

theorem serveResponseEnd_spec (dec : Decoder) (responses : Responses) (data : Bytes) :
    (∃ id a, dec.responseEnd data = some id ∧ responses.lookup id = some a ∧ a.Complete ∧
      serveResponseEnd dec responses data = ok (.continued (responses.erase id) [.deliver id a.response])) ∨
    ((∀ id a, dec.responseEnd data = some id → responses.lookup id = some a → ¬ a.Complete) ∧
      serveResponseEnd dec responses data = ok (.returned false)) := by
  cases hend : dec.responseEnd data with
  | none =>
    right
    exact ⟨by simp, by simp [serveResponseEnd, hend]⟩
  | some id =>
    cases hlookup : responses.lookup id with
    | none =>
      right
      refine ⟨?_, by simp [serveResponseEnd, hend, hlookup]⟩
      rintro id' a hid hfound
      cases hid
      rw [hlookup] at hfound
      cases hfound
    | some a =>
      by_cases hcomplete : a.Complete
      · left
        refine ⟨id, a, rfl, hlookup, hcomplete, ?_⟩
        have hguard : ¬ (0 ≤ a.payload.contentLength ∧ (a.body.length : Int) ≠ a.payload.contentLength) :=
          fun h => h.2 (hcomplete h.1)
        simp [serveResponseEnd, hend, hlookup, hguard]
      · right
        have hguard : 0 ≤ a.payload.contentLength ∧ (a.body.length : Int) ≠ a.payload.contentLength := by
          rw [ResponseAssembly.Complete] at hcomplete
          push Not at hcomplete
          exact hcomplete
        refine ⟨?_, by simp [serveResponseEnd, hend, hlookup, hguard]⟩
        rintro id' b hid hfound
        cases hid
        rw [hlookup] at hfound
        cases hfound
        exact hcomplete

variable {dec : Decoder} {next responses : Responses} {effects : List Effect} {message : Message}

/-- The loop goes on with a start exactly when the announced length is in range and there is room for the stream. -/
theorem serveResponseStart_spec {raw : Bytes} {payload : HTTPResponsePayload}
    (hpayload : dec.httpResponse raw = some payload) (responses : Responses) :
    ((payload.requestID ≠ [] ∧ -1 ≤ payload.contentLength ∧
        payload.contentLength ≤ maxTunnelResponseBodyBytes ∧
        (payload.requestID ∈ responses ∨ responses.len < maxPendingResponseStreams)) ∧
      serveResponseStart dec responses raw =
        .continued (responses.insert payload.requestID { payload, next := 0, body := [] }) []) ∨
    (¬ (payload.requestID ≠ [] ∧ -1 ≤ payload.contentLength ∧
        payload.contentLength ≤ maxTunnelResponseBodyBytes ∧
        (payload.requestID ∈ responses ∨ responses.len < maxPendingResponseStreams)) ∧
      ∃ status reason, serveResponseStart dec responses raw = .closed status reason) := by
  simp only [serveResponseStart, hpayload]
  split
  · rename_i hbad
    right
    refine ⟨fun hgood => ?_, _, _, rfl⟩
    obtain ⟨hid, hlow, hhigh, _⟩ := hgood
    rcases hbad with h | h | h
    · exact hid h
    · omega
    · omega
  · rename_i hvalid
    push Not at hvalid
    split
    · rename_i hfull
      right
      refine ⟨fun hgood => ?_, _, _, rfl⟩
      rcases hgood.2.2.2 with hknown | hroom
      · exact hfull.1 hknown
      · omega
    · rename_i hroom
      left
      refine ⟨⟨hvalid.1, hvalid.2.1, hvalid.2.2, ?_⟩, rfl⟩
      by_cases hknown : payload.requestID ∈ responses
      · exact .inl hknown
      · right
        by_contra hfull
        exact hroom ⟨hknown, by omega⟩

/-- Opening a tunnel never touches the response streams. -/
theorem serveOpenTunnel_spec (dec : Decoder) (answers : Answers) (responses : Responses) (raw : Bytes) :
    (∃ data, serveOpenTunnel dec answers responses raw = .continued responses [.send data]) ∨
      serveOpenTunnel dec answers responses raw = .returned false := by
  unfold serveOpenTunnel
  split
  · split
    · exact .inr rfl
    · split
      · exact .inr rfl
      · split
        · exact .inr rfl
        · dsimp only
          split
          · exact .inl ⟨_, rfl⟩
          · exact .inr rfl
  · exact .inr rfl

/-- A message that concerns a stream and fails the checks `Serves` lists. -/
def Refused (responses : Responses) (item : ResponseItem) : Prop :=
  item ≠ .skip → ∀ next effects, ¬ Serves responses item next effects

theorem refused_skip (responses : Responses) : Refused responses .skip := fun h => absurd rfl h

/-- Every inbound message is either accepted, with the checks and the effect that `Serves` lists, or ends the loop. In
    no case does the loop panic. -/
theorem serveInbound_cases (dec : Decoder) (answers : Answers) (responses : Responses) (message : Message) :
    (∃ next effects, serveInbound dec answers responses message = ok (.continued next effects) ∧
      Serves responses (responseItem dec message) next effects) ∨
    (Refused responses (responseItem dec message) ∧
      ((∃ status reason, serveInbound dec answers responses message = ok (.closed status reason)) ∨
        serveInbound dec answers responses message = ok (.returned false))) := by
  obtain ⟨messageType, data⟩ := message
  cases messageType with
  | binary =>
    obtain ⟨frame, a, hparse, hlookup, haccepts, hserve⟩ | ⟨hreject, hserve⟩ := serveBinary_spec responses data
    · left
      refine ⟨_, _, hserve, ?_⟩
      simp only [responseItem, hparse]
      exact .chunk hlookup haccepts
    · right
      refine ⟨?_, .inl ⟨_, _, hserve⟩⟩
      simp only [responseItem]
      split
      · rename_i frame hparse
        intro _ next effects hserves
        cases hserves with
        | chunk hlookup haccepts => exact hreject frame _ hparse hlookup haccepts
      · exact refused_skip responses
  | other code => exact .inr ⟨refused_skip responses, .inl ⟨_, _, rfl⟩⟩
  | text =>
    simp only [serveInbound, responseItem]
    cases dec.message data with
    | none => exact .inr ⟨refused_skip responses, .inl ⟨_, _, rfl⟩⟩
    | some message =>
      obtain ⟨type, raw⟩ := message
      dsimp only
      by_cases hstart : type = httpResponseStart
      · simp only [if_pos hstart]
        cases hpayload : dec.httpResponse raw with
        | none => exact .inr ⟨refused_skip responses, .inl ⟨_, _, by rw [serveResponseStart, hpayload]; rfl⟩⟩
        | some payload =>
          obtain ⟨⟨hid, hlow, hhigh, hroom⟩, hserve⟩ | ⟨hreject, status, reason, hserve⟩ :=
            serveResponseStart_spec hpayload responses
          · exact .inl ⟨_, _, by rw [hserve]; rfl, .start hid hlow hhigh hroom⟩
          · refine .inr ⟨?_, .inl ⟨status, reason, by rw [hserve]; rfl⟩⟩
            intro _ next effects hserves
            cases hserves with
            | start hid hlow hhigh hroom => exact hreject ⟨hid, hlow, hhigh, hroom⟩
      · simp only [if_neg hstart]
        by_cases hopen : type = openTunnel
        · subst hopen
          rw [if_pos rfl, if_neg (by decide)]
          obtain ⟨encoded, hserve⟩ | hserve := serveOpenTunnel_spec dec answers responses raw
          · exact .inl ⟨_, _, by rw [hserve]; rfl, .skip (by simp)⟩
          · exact .inr ⟨refused_skip responses, .inr (by rw [hserve]; rfl)⟩
        · simp only [if_neg hopen]
          by_cases hend : type = httpResponseEnd
          · simp only [if_pos hend]
            obtain ⟨id, a, hid, hlookup, hcomplete, hserve⟩ | ⟨hreject, hserve⟩ :=
              serveResponseEnd_spec dec responses data
            · left
              refine ⟨_, _, hserve, ?_⟩
              rw [hid]
              exact .close hlookup hcomplete
            · right
              refine ⟨?_, .inr hserve⟩
              split
              · rename_i id hid
                intro _ next effects hserves
                cases hserves with
                | close hlookup hcomplete => exact hreject id _ hid hlookup hcomplete
              · exact refused_skip responses
          · simp only [if_neg hend]
            split
            · exact .inl ⟨_, _, rfl, .skip (by simp)⟩
            · split
              · split
                · exact .inl ⟨_, _, rfl, .skip (by simp)⟩
                · exact .inr ⟨refused_skip responses, .inr rfl⟩
              · exact .inl ⟨_, _, rfl, .skip (by simp)⟩

/-- A message about a stream leaves no choice to the loop. -/
theorem Serves.unique {next' : Responses} {item : ResponseItem} {effects' : List Effect} (hitem : item ≠ .skip)
    (h : Serves responses item next effects) (h' : Serves responses item next' effects') :
    next = next' ∧ effects = effects' := by
  cases h with
  | start =>
    cases h'
    exact ⟨rfl, rfl⟩
  | chunk hlookup =>
    cases h' with
    | chunk hlookup' =>
      rw [hlookup] at hlookup'
      cases hlookup'
      exact ⟨rfl, rfl⟩
  | close hlookup =>
    cases h' with
    | close hlookup' =>
      rw [hlookup] at hlookup'
      cases hlookup'
      exact ⟨rfl, rfl⟩
  | skip => exact absurd rfl hitem

/-- Conversely, a message about a stream that passes the checks is accepted. -/
theorem Serves.serveInbound (h : Serves responses (responseItem dec message) next effects)
    (hitem : responseItem dec message ≠ .skip) (answers : Answers) :
    serveInbound dec answers responses message = ok (.continued next effects) := by
  obtain ⟨next', effects', hserve, h'⟩ | ⟨hrefused, _⟩ := serveInbound_cases dec answers responses message
  · obtain ⟨rfl, rfl⟩ := h.unique hitem h'
    exact hserve
  · exact absurd h (hrefused hitem next effects)

theorem serveInbound_continued {answers : Answers}
    (h : serveInbound dec answers responses message = ok (.continued next effects)) :
    Serves responses (responseItem dec message) next effects := by
  obtain ⟨next', effects', hserve, hserves⟩ | ⟨_, ⟨status, reason, hserve⟩ | hserve⟩ :=
    serveInbound_cases dec answers responses message <;> rw [hserve] at h <;> cases h
  exact hserves

end myngrok.gateway
