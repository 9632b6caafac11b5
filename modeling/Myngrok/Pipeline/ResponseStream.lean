import Myngrok.Gateway.Assembly
import Myngrok.GatewayClient.Job

open golang Result websocket streams myngrok.protocol myngrok.gateway
open myngrok.gatewayclient hiding BinaryFrame responseBodyChunk requestBodyChunk parseBinaryFrame

namespace myngrok.gatewayclient

/-- All bytes that were read from the local body. -/
def LocalAnswer.bytes (answer : LocalAnswer) : Bytes := (answer.pieces ++ [answer.last]).flatten

theorem LocalAnswer.flatten_reads (answer : LocalAnswer) : answer.reads.flatten = answer.bytes := by
  rw [LocalAnswer.reads, LocalAnswer.bytes]
  induction answer.pieces ++ [answer.last] with
  | nil => rfl
  | cons piece rest ih =>
    rw [List.filter_cons]
    split
    · simp [ih]
    · rename_i hempty
      have hnil : piece = [] := by simpa using hempty
      simp [hnil, ih]

theorem LocalAnswer.reads_le (answer : LocalAnswer) : ∀ piece ∈ answer.reads, piece.length ≤ localBufferSize := by
  intro piece hmem
  apply answer.fits
  have hread : piece ∈ answer.pieces ++ [answer.last] := List.mem_of_mem_filter hmem
  simpa [or_comm] using hread

theorem responseFrames_payload (request : Request) (sequence : UInt32) (reads : List Bytes) :
    (responseFrames request sequence reads).map BinaryFrame.payload = reads := by
  induction reads generalizing sequence with
  | nil => rfl
  | cons payload rest ih => rw [responseFrames, List.map_cons, ih, responseFrame]

/-- The numbers of the frames are their positions, modulo 2^32. -/
theorem responseFrames_eq (request : Request) (first : Nat) (reads : List Bytes) :
    responseFrames request (UInt32.ofNat first) reads =
      reads.mapIdx fun i payload => responseFrame request (UInt32.ofNat (first + i)) payload := by
  induction reads generalizing first with
  | nil => rfl
  | cons payload rest ih =>
    have hnext : UInt32.ofNat first + 1 = UInt32.ofNat (first + 1) := by
      rw [UInt32.ofNat_add]
      rfl
    rw [responseFrames, hnext, ih, List.mapIdx_cons]
    simp only [Nat.add_zero, List.cons.injEq, true_and]
    congr 1
    funext i payload
    rw [Nat.add_right_comm, Nat.add_assoc]

end myngrok.gatewayclient

namespace myngrok.pipeline

/-- What the messages of a job are for the gateway. -/
def jobItems (request : Request) : Except Error LocalAnswer → List ResponseItem
  | .error err => [.start request.id (responseError request err), .close request.id]
  | .ok answer => .start request.id (responseStart request answer.response) ::
      ((responseFrames request 0 answer.reads).map (.chunk request.id) ++ [.close request.id])

/-- The response that the gateway is meant to make of them. -/
def jobResponse : Except Error LocalAnswer → Response
  | .error err => { statusCode := 502, headers := ∅, body := [], error := err }
  | .ok answer =>
    { statusCode := answer.response.statusCode, headers := answer.response.headers, body := answer.bytes, error := [] }

/-- The start message of a job. -/
def jobStart (request : Request) : Except Error LocalAnswer → HTTPResponsePayload
  | .error err => responseError request err
  | .ok answer => responseStart request answer.response

/-- The frames of a job. -/
def jobFrames (request : Request) : Except Error LocalAnswer → List BinaryFrame
  | .error _ => []
  | .ok answer => responseFrames request 0 answer.reads

theorem jobItems_eq (request : Request) (outcome : Except Error LocalAnswer) :
    jobItems request outcome = .start request.id (jobStart request outcome) ::
      ((jobFrames request outcome).map (.chunk request.id) ++ [.close request.id]) := by
  cases outcome <;> rfl

theorem jobMessages_eq (request : Request) (outcome : Except Error LocalAnswer) :
    jobMessages request outcome = httpResponseStartMessage (jobStart request outcome) ::
      ((jobFrames request outcome).map frameMessage ++ [httpResponseEndMessage request.id]) := by
  cases outcome <;> rfl

theorem jobStart_requestID (request : Request) (outcome : Except Error LocalAnswer) :
    (jobStart request outcome).requestID = request.id := by
  cases outcome <;> rfl

theorem jobFrames_payloads (request : Request) (outcome : Except Error LocalAnswer) :
    chunkBytes (jobFrames request outcome) = (jobResponse outcome).body := by
  cases outcome with
  | error err => rfl
  | ok answer =>
    rw [chunkBytes, jobFrames, responseFrames_payload, LocalAnswer.flatten_reads]
    rfl

variable {request : Request} {outcome : Except Error LocalAnswer} {frame : BinaryFrame} {dec : Decoder}
  {payload : HTTPResponsePayload} {id : GoString} {message : Message} {item : ResponseItem}
  {rest sent items : List ResponseItem} {responses : Responses}

/-- Every frame of a job has its position as its number. -/
theorem jobFrames_getElem {before after : List BinaryFrame} (h : jobFrames request outcome = before ++ frame :: after) :
    frame.type = responseBodyChunk ∧ frame.requestID = request.id ∧
      frame.sequence = UInt32.ofNat before.length ∧ frame.payload.length ≤ localBufferSize := by
  cases outcome with
  | error err => cases before <;> cases h
  | ok answer =>
    simp only [jobFrames] at h
    rw [show (0 : UInt32) = UInt32.ofNat 0 from rfl, responseFrames_eq] at h
    have hget : (answer.reads.mapIdx fun i payload => responseFrame request (UInt32.ofNat (0 + i)) payload)[before.length]? =
        some frame := by
      rw [h]
      simp
    rw [List.getElem?_mapIdx] at hget
    obtain ⟨payload, hpayload, rfl⟩ := Option.map_eq_some_iff.mp hget
    refine ⟨rfl, rfl, by simp [responseFrame], ?_⟩
    exact answer.reads_le payload (List.mem_of_getElem? hpayload)

/-- The gateway reads the messages of a job as what they are. -/
structure Reads (dec : Decoder) (request : Request) (outcome : Except Error LocalAnswer) : Prop where
  start : dec.ReadsResponseStart (jobStart request outcome)
  finish : dec.ReadsResponseEnd request.id

theorem responseItem_start (h : dec.ReadsResponseStart payload) :
    responseItem dec (httpResponseStartMessage payload) = .start payload.requestID payload := by
  obtain ⟨raw, hmessage, hpayload⟩ := h
  simp only [responseItem, httpResponseStartMessage, Envelope.message] at hmessage ⊢
  simp only [hmessage, if_pos, hpayload]

theorem responseItem_end (h : dec.ReadsResponseEnd id) : responseItem dec (httpResponseEndMessage id) = .close id := by
  obtain ⟨⟨raw, hmessage⟩, hid⟩ := h
  have hne : httpResponseEnd ≠ httpResponseStart := by decide
  simp only [responseItem, httpResponseEndMessage, Envelope.message] at hmessage hid ⊢
  simp only [hmessage, if_neg hne, if_pos, hid]

theorem responseItem_frame (dec : Decoder) (h : frame.WellFormed) :
    responseItem dec (frameMessage frame) = .chunk frame.requestID frame := by
  have hparse : parseBinaryFrame frame.wire = ok (.ok frame) :=
    parseBinaryFrame_parsesFrames.eq_ok_iff.mpr (BinaryFrame.marshalBinary_of_wellFormed h)
  simp only [responseItem, frameMessage, hparse]

theorem jobFrames_wellFormed (hid : request.Framable) (h : frame ∈ jobFrames request outcome) : frame.WellFormed := by
  obtain ⟨before, after, hsplit⟩ := List.append_of_mem h
  obtain ⟨htype, hrequest, _, hpayload⟩ := jobFrames_getElem hsplit
  refine ⟨.inr htype, ?_, ?_, hpayload⟩
  · rw [hrequest]
    exact hid.1
  · rw [hrequest]
    exact hid.2

theorem jobMessages_items (hid : request.Framable) (hreads : Reads dec request outcome) :
    (jobMessages request outcome).map (responseItem dec) = jobItems request outcome := by
  rw [jobMessages_eq, jobItems_eq, List.map_cons, List.map_append, List.map_singleton,
    responseItem_start hreads.start, jobStart_requestID, responseItem_end hreads.finish, List.map_map]
  congr 2
  apply List.map_congr_left
  intro frame hmem
  obtain ⟨before, after, hsplit⟩ := List.append_of_mem hmem
  rw [Function.comp_apply, responseItem_frame dec (jobFrames_wellFormed hid hmem), (jobFrames_getElem hsplit).2.1]

/-- Request IDs with which a frame of 32 KiB stays within the message limit. The gateway's own IDs have 28 bytes. -/
def FitsFrames (id : GoString) : Prop :=
  id ≠ [] ∧ protocol.binaryFrameHeader + id.length + localBufferSize ≤ gateway.websocketReadLimit

theorem FitsFrames.framable (h : FitsFrames request.id) : request.Framable := by
  obtain ⟨hid, hlength⟩ := h
  have hpos := List.length_pos_of_ne_nil hid
  simp only [protocol.binaryFrameHeader, localBufferSize, gateway.websocketReadLimit] at hlength
  exact ⟨hpos, by omega⟩

/-- The end of a response is shorter than its start. -/
theorem length_responseEnd_le (payload : HTTPResponsePayload) :
    (httpResponseEndMessage payload.requestID).data.length ≤ (httpResponseStartMessage payload).data.length := by
  have htypes : (json.quote httpResponseEnd).length ≤ (json.quote httpResponseStart).length := by decide
  simp only [httpResponseEndMessage, httpResponseStartMessage, Envelope.message, Envelope.marshal, requestIDValue,
    HTTPResponsePayload.value, Option.map_some, Option.toList_some, json.encode, json.encodeMembers,
    List.cons_append, List.length_append, List.length_cons, List.length_nil]
  omega

/-- Only the start of a response can be too large to be read. -/
theorem jobMessages_readable (hid : FitsFrames request.id)
    (hstart : (httpResponseStartMessage (jobStart request outcome)).data.length ≤ gateway.websocketReadLimit)
    (h : message ∈ jobMessages request outcome) : message.data.length ≤ gateway.websocketReadLimit := by
  rw [jobMessages_eq, List.mem_cons, List.mem_append, List.mem_map, List.mem_singleton] at h
  obtain rfl | ⟨frame, hmem, rfl⟩ | rfl := h
  · exact hstart
  · obtain ⟨before, after, hsplit⟩ := List.append_of_mem hmem
    obtain ⟨_, hrequest, _, hpayload⟩ := jobFrames_getElem hsplit
    have hfits := hid.2
    rw [frameMessage, BinaryFrame.length_wire, hrequest]
    omega
  · have hshort := length_responseEnd_le (jobStart request outcome)
    rw [jobStart_requestID] at hshort
    exact Nat.le_trans hshort hstart

/-- Where one can stand inside the messages of a job: before the start, before a frame, or before the end. -/
theorem jobItems_split (h : sent ++ item :: rest = jobItems request outcome) :
    (sent = [] ∧ item = .start request.id (jobStart request outcome) ∧ rest ≠ []) ∨
    (∃ before frame after, jobFrames request outcome = before ++ frame :: after ∧
      sent = .start request.id (jobStart request outcome) :: before.map (.chunk request.id) ∧
      item = .chunk request.id frame ∧ rest ≠ []) ∨
    (sent = .start request.id (jobStart request outcome) :: (jobFrames request outcome).map (.chunk request.id) ∧
      item = .close request.id ∧ rest = []) := by
  rw [jobItems_eq] at h
  cases sent with
  | nil =>
    left
    obtain ⟨rfl, rfl⟩ := List.cons.inj h
    exact ⟨rfl, rfl, by simp⟩
  | cons first sent =>
    obtain ⟨rfl, htail⟩ := List.cons.inj h
    right
    obtain ⟨middle, rfl, hclose⟩ | ⟨middle, hframes, hmiddle⟩ := List.append_eq_append_iff.mp htail.symm
    · right
      cases middle with
      | nil =>
        obtain ⟨rfl, rfl⟩ := List.cons.inj hclose.symm
        exact ⟨by simp, rfl, rfl⟩
      | cons other middle =>
        obtain ⟨_, hnil⟩ := List.cons.inj hclose
        exact absurd hnil (by simp)
    · cases middle with
      | nil =>
        right
        obtain ⟨rfl, rfl⟩ := List.cons.inj hmiddle
        exact ⟨by simp [hframes], rfl, rfl⟩
      | cons other middle =>
        left
        obtain ⟨rfl, rfl⟩ := List.cons.inj hmiddle
        obtain ⟨before, others, hsplit, rfl, hothers⟩ := List.map_eq_append_iff.mp hframes
        obtain ⟨frame, after, rfl, rfl, rfl⟩ := List.map_eq_cons_iff.mp hothers
        exact ⟨before, frame, after, hsplit, rfl, rfl, by simp⟩

theorem jobItems_about (h : item ∈ jobItems request outcome) : item.about request.id = true := by
  rw [jobItems_eq, List.mem_cons, List.mem_append, List.mem_map, List.mem_singleton] at h
  obtain rfl | ⟨frame, _, rfl⟩ | rfl := h <;> exact decide_eq_true rfl

theorem jobMessages_about (hid : request.Framable) (hreads : Reads dec request outcome)
    (h : message ∈ jobMessages request outcome) : (responseItem dec message).about request.id = true := by
  have hitem : responseItem dec message ∈ jobItems request outcome := by
    rw [← jobMessages_items hid hreads]
    exact List.mem_map_of_mem h
  exact jobItems_about hitem

theorem assemblyOf_response (request : Request) (outcome : Except Error LocalAnswer) :
    (assemblyOf (jobStart request outcome) (jobFrames request outcome)).response = jobResponse outcome := by
  rw [ResponseAssembly.response, assemblyOf, jobFrames_payloads]
  cases outcome <;> rfl

/-- The gateway holds this assembly once it has read `frames` of a stream. -/
theorem lookup_of_about (hassembled : Assembled items responses) {frames : List BinaryFrame}
    (habout : about id items = .start id payload :: frames.map (.chunk id)) :
    responses.lookup id = some (assemblyOf payload frames) :=
  (hassembled.streams id _).mpr ⟨frames, open_of_about habout, rfl, rfl⟩

/-- The gateway accepts the next message of a job, as long as there is room for a new stream and the bytes read stay
    within the limit, and its end makes it deliver the response. -/
theorem accepts_next (hassembled : Assembled items responses) (habout : about request.id items = sent)
    (hsplit : sent ++ item :: rest = jobItems request outcome) (hid : request.id ≠ [])
    (hroom : sent = [] → responses.len < maxPendingResponseStreams)
    (hlimit : (jobResponse outcome).body.length ≤ maxTunnelResponseBodyBytes) :
    ∃ next, Serves responses item next
      (if rest = [] then [.deliver request.id (jobResponse outcome)] else []) := by
  obtain ⟨rfl, rfl, hrest⟩ | ⟨before, frame, after, hframes, rfl, rfl, hrest⟩ | ⟨rfl, rfl, rfl⟩ := jobItems_split hsplit
  · rw [if_neg hrest]
    have hlength : -1 ≤ (jobStart request outcome).contentLength ∧
        (jobStart request outcome).contentLength ≤ maxTunnelResponseBodyBytes := by
      cases outcome <;> simp [jobStart, responseError, responseStart, maxTunnelResponseBodyBytes]
    exact ⟨_, .start hid hlength.1 hlength.2 (.inr (hroom rfl))⟩
  · rw [if_neg hrest]
    obtain ⟨htype, _, hsequence, _⟩ := jobFrames_getElem hframes
    have hbytes : (chunkBytes before).length + frame.payload.length ≤ (jobResponse outcome).body.length := by
      rw [← jobFrames_payloads request outcome, hframes]
      simp [chunkBytes]
    have hlength : (jobStart request outcome).contentLength = -1 := by
      cases outcome with
      | error err => cases before <;> cases hframes
      | ok answer => rfl
    refine ⟨_, .chunk (lookup_of_about hassembled habout) ⟨htype, hsequence, ?_, ?_⟩⟩
    · exact Nat.le_trans hbytes hlimit
    · intro hnonneg
      exact absurd hnonneg (by simp [assemblyOf, hlength])
  · rw [if_pos rfl]
    have hcomplete : (assemblyOf (jobStart request outcome) (jobFrames request outcome)).Complete := by
      intro hnonneg
      cases outcome with
      | error err => rfl
      | ok answer => exact absurd hnonneg (by simp [assemblyOf, jobStart, responseStart])
    have hserves := Serves.close (lookup_of_about hassembled habout) hcomplete
    rw [assemblyOf_response] at hserves
    exact ⟨_, hserves⟩

/-- Nothing but the end of a job makes the gateway deliver, and it delivers what the job read. -/
theorem serves_next_effects {next : Responses} {effects : List Effect} (hassembled : Assembled items responses)
    (habout : about request.id items = sent) (hsplit : sent ++ item :: rest = jobItems request outcome)
    (hserves : Serves responses item next effects) :
    effects = if rest = [] then [.deliver request.id (jobResponse outcome)] else [] := by
  obtain ⟨rfl, rfl, hrest⟩ | ⟨before, frame, after, _, rfl, rfl, hrest⟩ | ⟨rfl, rfl, rfl⟩ := jobItems_split hsplit
  · rw [if_neg hrest]
    cases hserves
    rfl
  · rw [if_neg hrest]
    cases hserves
    rfl
  · rw [if_pos rfl]
    cases hserves with
    | close hlookup _ =>
      rw [lookup_of_about hassembled habout] at hlookup
      cases hlookup
      rw [assemblyOf_response]

end myngrok.pipeline
