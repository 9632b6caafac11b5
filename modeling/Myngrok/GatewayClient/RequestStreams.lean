import Myngrok.GatewayClient.ReadLoop
import Myngrok.Protocol.Decoding
import Myngrok.Protocol.WireAgreement
import Myngrok.Streams.Table
import Myngrok.Transition.Run

open golang Result websocket streams transition
open myngrok.protocol hiding requestBodyChunk responseBodyChunk binaryFrameHeader parseBinaryFrame BinaryFrame

namespace myngrok.gatewayclient

/-- A message from the gateway, as far as it concerns the request streams. -/
inductive RequestItem where
  | start (payload : HTTPRequestPayload)
  | chunk (frame : BinaryFrame)
  | finish (id : GoString)
  | cancel (id : GoString)
  | skip

/-- The end of a request and its cancellation both close the stream. -/
def RequestItem.item : RequestItem → Item GoString HTTPRequestPayload BinaryFrame
  | .start payload => .start payload.requestID payload
  | .chunk frame => .chunk frame.requestID frame
  | .finish id => .close id
  | .cancel id => .close id
  | .skip => .skip

def requestItem (dec : Decoder) (message : Message) : RequestItem :=
  match message.messageType with
  | .binary =>
    match parseBinaryFrame message.data with
    | ok (.ok frame) => .chunk frame
    | _ => .skip
  | .text =>
    match dec.requestMessage message.data with
    | some (type, payload) =>
      if type = httpRequestStart then .start payload
      else if type = httpRequestEnd then
        match dec.requestEnd message.data with
        | some id => .finish id
        | none => .skip
      else if type = cancelRequest then .cancel payload.requestID
      else .skip
    | none => .skip
  | .other _ => .skip

variable {dec : Decoder} {payload : HTTPRequestPayload} {id type : GoString} {message : Message} {frame : BinaryFrame}
  {data : Bytes} {pending next : PendingRequests} {effects : List ReadEffect} {s : Reading}

theorem requestItem_start (h : dec.ReadsRequestStart payload) :
    requestItem dec (httpRequestStartMessage payload) = .start payload := by
  have hdata : dec.requestMessage (httpRequestStartMessage payload).data = some (httpRequestStart, payload) := h
  simp only [requestItem, httpRequestStartMessage, Envelope.message] at hdata ⊢
  simp only [hdata, if_pos]

theorem requestItem_end (h : dec.ReadsRequestEnd id) : requestItem dec (httpRequestEndMessage id) = .finish id := by
  obtain ⟨⟨payload, hdata⟩, hid⟩ := h
  have hne : httpRequestEnd ≠ httpRequestStart := by decide
  simp only [requestItem, httpRequestEndMessage, Envelope.message] at hdata hid ⊢
  simp only [hdata, if_neg hne, if_pos, hid]

theorem requestItem_cancel (h : dec.ReadsCancelRequest id) :
    requestItem dec (cancelRequestMessage id) = .cancel id := by
  obtain ⟨payload, hdata, rfl⟩ := h
  have hstart : cancelRequest ≠ httpRequestStart := by decide
  have hend : cancelRequest ≠ httpRequestEnd := by decide
  simp only [requestItem, cancelRequestMessage, Envelope.message] at hdata ⊢
  simp only [hdata, if_neg hstart, if_neg hend, if_pos]

theorem requestItem_other (htext : message.messageType = .text) (h : dec.ReadsType type message)
    (hstart : type ≠ httpRequestStart) (hend : type ≠ httpRequestEnd) (hcancel : type ≠ cancelRequest) :
    requestItem dec message = .skip := by
  obtain ⟨messageType, data⟩ := message
  cases htext
  obtain ⟨payload, hdata⟩ := h
  simp only [requestItem, hdata]
  rw [if_neg hstart, if_neg hend, if_neg hcancel]

theorem requestItem_binary (dec : Decoder) (h : parseBinaryFrame data = ok (.ok frame)) :
    requestItem dec { messageType := .binary, data } = .chunk frame := by
  simp only [requestItem, h]

theorem requestItem_wire (dec : Decoder) (h : frame.WellFormed) :
    requestItem dec { messageType := .binary, data := frame.wire } = .chunk frame := by
  have hparse : parseBinaryFrame frame.wire = ok (.ok frame) :=
    parseBinaryFrame_parsesFrames.eq_ok_iff.mpr (BinaryFrame.marshalBinary_of_wellFormed h)
  exact requestItem_binary dec hparse

/-- What the assembler demands of a chunk. -/
def ChunkAssembler.Accepts (a : ChunkAssembler) (frame : BinaryFrame) : Prop :=
  frame.type = requestBodyChunk ∧ frame.sequence = a.next ∧
    (0 ≤ a.expected → ((a.body.length + frame.payload.length : Nat) : Int) ≤ a.expected)

/-- The body has the length that was announced, if one was. -/
def ChunkAssembler.Complete (a : ChunkAssembler) : Prop := 0 ≤ a.expected → (a.body.length : Int) = a.expected

/-- The entry of a stream that started with `payload` and got `frames`. -/
def pendingOf (payload : HTTPRequestPayload) (frames : List BinaryFrame) : PendingRequest :=
  { payload, assembler :=
    { expected := payload.contentLength, next := UInt32.ofNat frames.length, body := chunkBytes frames } }

def PendingRequest.append (p : PendingRequest) (frame : BinaryFrame) : PendingRequest :=
  { p with assembler := { p.assembler with
      body := p.assembler.body ++ frame.payload, next := p.assembler.next + 1 } }

theorem pendingOf_append (payload : HTTPRequestPayload) (frames : List BinaryFrame) (frame : BinaryFrame) :
    (pendingOf payload frames).append frame = pendingOf payload (frames ++ [frame]) := by
  simp only [pendingOf, PendingRequest.append, chunkBytes_concat, List.length_append, List.length_singleton,
    UInt32.ofNat_add]
  rfl

theorem ChunkAssembler.add_spec (a : ChunkAssembler) (frame : BinaryFrame) :
    (a.Accepts frame ∧ ∃ done, a.add frame = .ok (done, { a with body := a.body ++ frame.payload, next := a.next + 1 })) ∨
      (¬ a.Accepts frame ∧ ∃ err, a.add frame = .error err) := by
  unfold ChunkAssembler.add
  split
  · rename_i hunexpected
    exact .inr ⟨fun haccepts => by obtain ⟨htype, hsequence, _⟩ := haccepts; tauto, _, rfl⟩
  · rename_i hexpected
    rw [not_or, not_not, not_not] at hexpected
    split
    · rename_i hlong
      refine .inr ⟨fun haccepts => ?_, _, rfl⟩
      have hfits := haccepts.2.2 hlong.1
      omega
    · rename_i hfits
      refine .inl ⟨⟨hexpected.1, hexpected.2, fun hknown => ?_⟩, _, rfl⟩
      rw [not_and] at hfits
      exact not_lt.mp (hfits hknown)

theorem ChunkAssembler.complete_eq_none {a : ChunkAssembler} : a.complete = none ↔ a.Complete := by
  unfold ChunkAssembler.complete ChunkAssembler.Complete
  split
  · rename_i hshort
    exact ⟨fun h => (by cases h), fun h => absurd (h hshort.1) hshort.2⟩
  · rename_i hcomplete
    rw [not_and, not_not] at hcomplete
    exact ⟨fun _ => hcomplete, fun _ => rfl⟩

/-- What a message that the read loop accepts does to the open streams, and what the loop has checked before. -/
inductive Receives (pending : PendingRequests) : RequestItem → PendingRequests → List ReadEffect → Prop where
  | start {payload : HTTPRequestPayload} (hid : payload.requestID ≠ []) (hnew : payload.requestID ∉ pending)
      (hroom : pending.len < maxPendingRequestStreams) (hlength : -1 ≤ payload.contentLength) :
    Receives pending (.start payload) (pending.insert payload.requestID (pendingOf payload [])) []
  | chunk {frame : BinaryFrame} {entry : PendingRequest} (hlookup : pending.lookup frame.requestID = some entry)
      (haccepts : entry.assembler.Accepts frame) :
    Receives pending (.chunk frame) (pending.insert frame.requestID (entry.append frame)) []
  | finish {id : GoString} {entry : PendingRequest} (hlookup : pending.lookup id = some entry)
      (hcomplete : entry.assembler.Complete) :
    Receives pending (.finish id) (pending.erase id) [.dispatch entry.request]
  | cancel (id : GoString) : Receives pending (.cancel id) (pending.erase id) [.cancel id]
  | skip {effects : List ReadEffect} (hsilent : ∀ request, ReadEffect.dispatch request ∉ effects) :
    Receives pending .skip pending effects

theorem readChunk_spec (pending : PendingRequests) (data : Bytes) :
    (∃ frame entry, parseBinaryFrame data = ok (.ok frame) ∧ pending.lookup frame.requestID = some entry ∧
      entry.assembler.Accepts frame ∧
      readChunk pending data = ok (.continued (pending.insert frame.requestID (entry.append frame)) [])) ∨
    (∃ err, readChunk pending data = ok (.failed err)) := by
  obtain ⟨frame, _, _, hparse⟩ | ⟨_, err, hparse⟩ := parseBinaryFrame_parsesFrames.spec data
  · by_cases htype : frame.type = requestBodyChunk
    · cases hlookup : pending.lookup frame.requestID with
      | none => exact .inr ⟨_, by simp [readChunk, hparse, htype, hlookup]; rfl⟩
      | some entry =>
        obtain ⟨haccepts, done, hadd⟩ | ⟨_, err, hadd⟩ := entry.assembler.add_spec frame
        · refine .inl ⟨frame, entry, hparse, hlookup, haccepts, ?_⟩
          simp [readChunk, hparse, htype, hlookup, hadd, PendingRequest.append]
        · exact .inr ⟨err, by simp [readChunk, hparse, htype, hlookup, hadd]⟩
    · exact .inr ⟨_, by simp [readChunk, hparse, htype]; rfl⟩
  · exact .inr ⟨_, by simp [readChunk, hparse]; rfl⟩

theorem readStart_spec (pending : PendingRequests) (payload : HTTPRequestPayload) :
    (∃ next, readStart pending payload = ok (.continued next []) ∧ Receives pending (.start payload) next []) ∨
    (∃ err, readStart pending payload = ok (.failed err)) ∨
    (payload.contentLength > maxAlloc ∧ readStart pending payload = .panic) := by
  unfold readStart
  by_cases hid : payload.requestID = []
  · exact .inr (.inl ⟨_, by simp [hid]; rfl⟩)
  · by_cases hnew : payload.requestID ∈ pending
    · exact .inr (.inl ⟨_, by simp [hid, hnew]; rfl⟩)
    · by_cases hroom : pending.len ≥ maxPendingRequestStreams
      · exact .inr (.inl ⟨_, by simp [hid, hnew, hroom]; rfl⟩)
      · simp only [if_neg hid, if_neg hnew, if_neg hroom, newChunkAssembler]
        by_cases hlength : payload.contentLength < -1
        · rw [if_pos hlength]
          exact .inr (.inl ⟨_, rfl⟩)
        · rw [if_neg hlength]
          by_cases hlarge : (if payload.contentLength > 0 then payload.contentLength else 0) > maxAlloc
          · rw [if_pos hlarge]
            refine .inr (.inr ⟨?_, rfl⟩)
            split at hlarge
            · exact hlarge
            · cases hlarge
          · rw [if_neg hlarge]
            exact .inl ⟨_, rfl, .start hid hnew (not_le.mp hroom) (not_lt.mp hlength)⟩

theorem readEnd_spec (dec : Decoder) (pending : PendingRequests) (data : Bytes) :
    (∃ id entry, dec.requestEnd data = some id ∧ pending.lookup id = some entry ∧ entry.assembler.Complete ∧
      readEnd dec pending data = .continued (pending.erase id) [.dispatch entry.request]) ∨
    (∃ err, readEnd dec pending data = .failed err) := by
  unfold readEnd
  split
  · exact .inr ⟨_, rfl⟩
  · rename_i id hid
    split
    · exact .inr ⟨_, rfl⟩
    · rename_i entry hlookup
      split
      · exact .inr ⟨_, rfl⟩
      · rename_i hcomplete
        exact .inl ⟨id, entry, hid, hlookup, ChunkAssembler.complete_eq_none.mp hcomplete, rfl⟩

/-- Every message is accepted, with the checks and the effect that `Receives` lists, or ends the session; only the
    announcement of an absurd length makes the agent panic. -/
theorem readMessage_cases (dec : Decoder) (pending : PendingRequests) (message : Message) :
    (∃ next effects, readMessage dec pending message = ok (.continued next effects) ∧
      Receives pending (requestItem dec message) next effects) ∨
    (∃ err, readMessage dec pending message = ok (.failed err)) ∨
    ((∃ payload, requestItem dec message = .start payload ∧ payload.contentLength > maxAlloc) ∧
      readMessage dec pending message = .panic) := by
  obtain ⟨messageType, data⟩ := message
  cases messageType with
  | binary =>
    obtain ⟨frame, entry, hparse, hlookup, haccepts, hread⟩ | ⟨err, hread⟩ := readChunk_spec pending data
    · left
      refine ⟨_, _, hread, ?_⟩
      simp only [requestItem, hparse]
      exact .chunk hlookup haccepts
    · exact .inr (.inl ⟨err, hread⟩)
  | other code => exact .inr (.inl ⟨_, rfl⟩)
  | text =>
    simp only [readMessage, requestItem]
    cases dec.requestMessage data with
    | none => exact .inr (.inl ⟨_, rfl⟩)
    | some message =>
      obtain ⟨type, payload⟩ := message
      dsimp only
      by_cases hping : type = ping
      · subst hping
        rw [if_pos rfl, if_neg (by decide), if_neg (by decide), if_neg (by decide)]
        exact .inl ⟨_, _, rfl, .skip (by simp)⟩
      · rw [if_neg hping]
        by_cases hstart : type = httpRequestStart
        · rw [if_pos hstart, if_pos hstart]
          obtain ⟨next, hread, hreceives⟩ | hfailed | ⟨hlarge, hpanic⟩ := readStart_spec pending payload
          · exact .inl ⟨next, [], hread, hreceives⟩
          · exact .inr (.inl hfailed)
          · exact .inr (.inr ⟨⟨payload, rfl, hlarge⟩, hpanic⟩)
        · rw [if_neg hstart, if_neg hstart]
          by_cases hend : type = httpRequestEnd
          · rw [if_pos hend, if_pos hend]
            obtain ⟨id, entry, hid, hlookup, hcomplete, hread⟩ | ⟨err, hread⟩ := readEnd_spec dec pending data
            · rw [hread, hid]
              exact .inl ⟨_, _, rfl, .finish hlookup hcomplete⟩
            · rw [hread]
              exact .inr (.inl ⟨err, rfl⟩)
          · rw [if_neg hend, if_neg hend]
            by_cases hcancel : type = cancelRequest
            · rw [if_pos hcancel, if_pos hcancel]
              exact .inl ⟨_, _, rfl, .cancel payload.requestID⟩
            · rw [if_neg hcancel, if_neg hcancel]
              exact .inl ⟨_, _, rfl, .skip (by simp)⟩

theorem readChunk_of_accepts {entry : PendingRequest} (hparse : parseBinaryFrame data = ok (.ok frame))
    (hlookup : pending.lookup frame.requestID = some entry) (haccepts : entry.assembler.Accepts frame) :
    readChunk pending data = ok (.continued (pending.insert frame.requestID (entry.append frame)) []) := by
  obtain ⟨_, done, hadd⟩ | ⟨hrefused, _⟩ := entry.assembler.add_spec frame
  · simp [readChunk, hparse, haccepts.1, hlookup, hadd, PendingRequest.append]
  · exact absurd haccepts hrefused

theorem readStart_of_room (hid : payload.requestID ≠ []) (hnew : payload.requestID ∉ pending)
    (hroom : pending.len < maxPendingRequestStreams) (hlength : -1 ≤ payload.contentLength)
    (hsmall : payload.contentLength ≤ maxAlloc) :
    readStart pending payload = ok (.continued (pending.insert payload.requestID (pendingOf payload [])) []) := by
  have hcapacity : ¬ (if payload.contentLength > 0 then payload.contentLength else 0) > maxAlloc := by
    split
    · exact not_lt.mpr hsmall
    · decide
  simp only [readStart, if_neg hid, if_neg hnew, if_neg (not_le.mpr hroom), newChunkAssembler,
    if_neg (not_lt.mpr hlength), if_neg hcapacity]
  rfl

/-- Conversely, a message about a stream that passes the checks is accepted, unless it announces a length that no
    allocation can have. -/
theorem readMessage_of_receives (h : Receives pending (requestItem dec message) next effects)
    (hitem : requestItem dec message ≠ .skip)
    (hsmall : ∀ payload, requestItem dec message = .start payload → payload.contentLength ≤ maxAlloc) :
    readMessage dec pending message = ok (.continued next effects) := by
  obtain ⟨messageType, data⟩ := message
  cases messageType with
  | other code => exact absurd rfl hitem
  | binary =>
    simp only [requestItem] at h hitem
    simp only [readMessage]
    split at h
    · rename_i frame hparse
      cases h with
      | chunk hlookup haccepts => exact readChunk_of_accepts hparse hlookup haccepts
    · simp only at hitem
      exact absurd rfl hitem
  | text =>
    simp only [requestItem] at h hitem hsmall
    simp only [readMessage]
    cases hdata : dec.requestMessage data with
    | none =>
      rw [hdata] at hitem
      exact absurd rfl hitem
    | some content =>
      obtain ⟨type, payload⟩ := content
      simp only [hdata] at h hitem hsmall
      by_cases hstart : type = httpRequestStart
      · subst hstart
        rw [if_pos rfl] at h hsmall
        dsimp only
        rw [if_neg (by decide), if_pos rfl]
        cases h with
        | start hid hnew hroom hlength => exact readStart_of_room hid hnew hroom hlength (hsmall payload rfl)
      · rw [if_neg hstart] at h hitem
        by_cases hend : type = httpRequestEnd
        · subst hend
          rw [if_pos rfl] at h hitem
          dsimp only
          rw [if_neg (by decide), if_neg (by decide), if_pos rfl]
          cases hid : dec.requestEnd data with
          | none =>
            rw [hid] at hitem
            exact absurd rfl hitem
          | some id =>
            rw [hid] at h
            cases h with
            | finish hlookup hcomplete =>
              simp only [readEnd, hid, hlookup, ChunkAssembler.complete_eq_none.mpr hcomplete]
              rfl
        · rw [if_neg hend] at h hitem
          by_cases hcancel : type = cancelRequest
          · subst hcancel
            rw [if_pos rfl] at h
            dsimp only
            rw [if_neg (by decide), if_neg (by decide), if_neg (by decide), if_pos rfl]
            cases h
            rfl
          · rw [if_neg hcancel] at hitem
            exact absurd rfl hitem

/-- The read loop between two messages, with the requests it has dispatched so far. -/
structure Reading where
  pending : PendingRequests
  dispatched : List Request

def Reading.start : Reading := { pending := ∅, dispatched := [] }

def ReadEffect.request : ReadEffect → Option Request
  | .dispatch request => some request
  | _ => none

/-- The read loop as a transition system over the messages it reads; a message that ends the session has no successor.
    `conn.Read` fails on a message above the limit. -/
def Reading.step (dec : Decoder) (s : Reading) (message : Message) : Option Reading :=
  if message.data.length ≤ websocketReadLimit then
    match readMessage dec s.pending message with
    | ok (.continued pending effects) =>
      some { pending, dispatched := s.dispatched ++ effects.filterMap ReadEffect.request }
    | _ => none
  else none

theorem Reading.step_receives {next : Reading} (h : s.step dec message = some next) :
    ∃ effects, Receives s.pending (requestItem dec message) next.pending effects ∧
      next.dispatched = s.dispatched ++ effects.filterMap ReadEffect.request := by
  unfold Reading.step at h
  split at h
  · split at h
    · rename_i pending effects hread
      cases h
      obtain ⟨pending', effects', hread', hreceives⟩ | ⟨err, hread'⟩ | ⟨_, hread'⟩ :=
        readMessage_cases dec s.pending message <;> rw [hread] at hread' <;> cases hread'
      exact ⟨effects, hreceives, rfl⟩
    · cases h
  · cases h

theorem Reading.step_of_receives (hfits : message.data.length ≤ websocketReadLimit)
    (h : Receives s.pending (requestItem dec message) next effects) (hitem : requestItem dec message ≠ .skip)
    (hsmall : ∀ payload, requestItem dec message = .start payload → payload.contentLength ≤ maxAlloc) :
    s.step dec message =
      some { pending := next, dispatched := s.dispatched ++ effects.filterMap ReadEffect.request } := by
  rw [Reading.step, if_pos hfits, readMessage_of_receives h hitem hsmall]

/-- A message of a type that opens and ends no stream never ends the session. -/
theorem Reading.step_of_type (s : Reading) (htext : message.messageType = .text)
    (hfits : message.data.length ≤ websocketReadLimit) (h : dec.ReadsType type message)
    (hstart : type ≠ httpRequestStart) (hend : type ≠ httpRequestEnd) : (s.step dec message).isSome := by
  obtain ⟨payload, hdata⟩ := h
  rw [Reading.step, if_pos hfits]
  simp only [readMessage, htext, hdata, if_neg hstart, if_neg hend]
  by_cases hping : type = ping
  · rw [if_pos hping]
    rfl
  · rw [if_neg hping]
    by_cases hcancel : type = cancelRequest
    · rw [if_pos hcancel]
      rfl
    · rw [if_neg hcancel]
      rfl

/-- A message adds nothing to the dispatched requests, unless it is the end of a pending one. -/
theorem Reading.step_dispatched {next : Reading} (h : s.step dec message = some next) :
    next.dispatched = s.dispatched ∨
      ∃ id entry, requestItem dec message = .finish id ∧ s.pending.lookup id = some entry ∧
        entry.assembler.Complete ∧ next.dispatched = s.dispatched ++ [entry.request] := by
  obtain ⟨effects, hreceives, hdispatched⟩ := step_receives h
  obtain ⟨pending, dispatched⟩ := next
  dsimp only at hreceives hdispatched ⊢
  subst hdispatched
  generalize requestItem dec message = item at hreceives
  cases hreceives with
  | start | chunk | cancel => exact .inl (List.append_nil _)
  | finish hlookup hcomplete => exact .inr ⟨_, _, rfl, hlookup, hcomplete, rfl⟩
  | skip hsilent =>
    have hempty : effects.filterMap ReadEffect.request = [] := by
      rw [List.filterMap_eq_nil_iff]
      intro effect hmem
      cases effect with
      | dispatch request => exact absurd hmem (hsilent request)
      | pong | cancel => rfl
    rw [hempty, List.append_nil]
    exact .inl rfl

/-- The items of what the loop has read. -/
def requestItems (dec : Decoder) (messages : List Message) : List (Item GoString HTTPRequestPayload BinaryFrame) :=
  messages.map fun message => (requestItem dec message).item

/-- One accepted message keeps the map of pending requests what the messages read so far make of it. -/
theorem Receives.tracks {items : List (Item GoString HTTPRequestPayload BinaryFrame)} {item : RequestItem}
    (h : Receives pending item next effects) (htracks : Tracks pendingOf items fun id => pending.lookup id) :
    Tracks pendingOf (items ++ [item.item]) fun id => next.lookup id := by
  cases h with
  | start => exact htracks.start fun query => Map.lookup_insert_eq pending _ _ query
  | @chunk frame entry hlookup haccepts =>
    refine htracks.chunk hlookup ?_ fun query => Map.lookup_insert_eq pending _ _ query
    rintro payload parts rfl
    exact pendingOf_append payload parts frame
  | finish | cancel => exact htracks.close fun query => Map.lookup_erase_eq pending _ query
  | skip => exact htracks.skip

/-- The map of pending requests is the one that the messages read so far describe. -/
theorem Reading.tracks {messages : List Message} (h : run (Reading.step dec) Reading.start messages = some s) :
    Tracks pendingOf (requestItems dec messages) fun id => s.pending.lookup id := by
  apply run_induction (P := fun messages s => Tracks pendingOf (requestItems dec messages) fun id => s.pending.lookup id)
    tracks_nil _ h
  intro messages s message next _ htracks hstep
  obtain ⟨effects, hreceives, _⟩ := step_receives hstep
  rw [requestItems, List.map_append, List.map_singleton]
  exact hreceives.tracks htracks

end myngrok.gatewayclient
