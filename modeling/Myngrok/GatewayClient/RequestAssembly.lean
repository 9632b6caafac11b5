import Mathlib.Data.List.Forall2
import Myngrok.GatewayClient.RequestStreams

open golang Result websocket streams transition
open myngrok.protocol hiding requestBodyChunk responseBodyChunk binaryFrameHeader parseBinaryFrame BinaryFrame

namespace myngrok.gatewayclient

variable {dec : Decoder} {messages : List Message} {message : Message} {reading next : Reading}
  {pending after : PendingRequests} {id : GoString} {payload : HTTPRequestPayload} {frames : List BinaryFrame}
  {position : Nat} {request : Request} {effects : List ReadEffect}

/-- Body chunks of a request that carry the numbers 0, 1, 2 and so on, modulo 2^32. -/
def Numbered (frames : List BinaryFrame) : Prop :=
  ∀ i frame, frames[i]? = some frame → frame.type = requestBodyChunk ∧ frame.sequence = UInt32.ofNat i

theorem numbered_nil : Numbered [] := by
  intro i frame hframe
  cases hframe

theorem Numbered.concat {frame : BinaryFrame} (h : Numbered frames) (htype : frame.type = requestBodyChunk)
    (hsequence : frame.sequence = UInt32.ofNat frames.length) : Numbered (frames ++ [frame]) := by
  intro i other hother
  rw [List.getElem?_append] at hother
  split at hother
  · exact h i other hother
  · rename_i hlast
    have hzero : i - frames.length = 0 := by
      by_contra hnot
      rw [List.getElem?_eq_none (by simp only [List.length_singleton]; omega)] at hother
      cases hother
    have hi : i = frames.length := by omega
    subst hi
    rw [Nat.sub_self] at hother
    cases hother
    exact ⟨htype, hsequence⟩

/-- The body chunks for `id` among the messages. -/
def chunksOf (dec : Decoder) (id : GoString) (messages : List Message) : List BinaryFrame :=
  messages.filterMap fun message => (requestItem dec message).item.part id

/-- The start at the given position yields the request: behind it come the body chunks of its ID and no other start, end
    or cancellation of that ID, and then the end. -/
def Yields (dec : Decoder) (messages : List Message) (position : Nat) (request : Request) : Prop :=
  ∃ before first between last after payload,
    messages = before ++ first :: (between ++ last :: after) ∧ before.length = position ∧
    requestItem dec first = .start payload ∧ requestItem dec last = .finish payload.requestID ∧
    (∀ message ∈ between, ¬ (requestItem dec message).item.Cuts payload.requestID) ∧
    Numbered (chunksOf dec payload.requestID between) ∧
    (0 ≤ payload.contentLength →
      ((chunkBytes (chunksOf dec payload.requestID between)).length : Int) = payload.contentLength) ∧
    request = { id := payload.requestID, method := payload.method, path := payload.path, headers := payload.headers
                body := chunkBytes (chunksOf dec payload.requestID between) }

theorem Yields.mono (h : Yields dec messages position request) (message : Message) :
    Yields dec (messages ++ [message]) position request := by
  obtain ⟨before, first, between, last, after, payload, rfl, hrest⟩ := h
  exact ⟨before, first, between, last, after ++ [message], payload, by simp, hrest⟩

/-- A stream that is open has its start at some position, and what came since. -/
theorem exists_start_of_open (h : Open (requestItems dec messages) id payload frames) :
    ∃ before first after, messages = before ++ first :: after ∧ requestItem dec first = .start payload ∧
      payload.requestID = id ∧ (∀ message ∈ after, ¬ (requestItem dec message).item.Cuts id) ∧
      frames = chunksOf dec id after := by
  obtain ⟨itemsBefore, itemsAfter, hitems, hkept, rfl⟩ := h
  obtain ⟨before, rest, rfl, rfl, hrest⟩ := List.map_eq_append_iff.mp hitems
  obtain ⟨first, after, rfl, hfirst, rfl⟩ := List.map_eq_cons_iff.mp hrest
  have hstart : requestItem dec first = .start payload ∧ payload.requestID = id := by
    cases hitem : requestItem dec first with
    | start other =>
      rw [hitem] at hfirst
      cases hfirst
      exact ⟨rfl, rfl⟩
    | chunk | finish | cancel | skip =>
      rw [hitem] at hfirst
      cases hfirst
  refine ⟨before, first, after, rfl, hstart.1, hstart.2, ?_, ?_⟩
  · intro message hmem
    exact hkept _ (List.mem_map_of_mem hmem)
  · rw [List.filterMap_map]
    rfl

/-- A start that has yielded a request is the start of no open stream. -/
theorem Yields.not_open (h : Yields dec messages position request) {before after : List Message} {first : Message}
    (hmessages : messages = before ++ first :: after) (hposition : before.length = position)
    (hfirst : requestItem dec first = .start payload)
    (hopen : ∀ message ∈ after, ¬ (requestItem dec message).item.Cuts payload.requestID) : False := by
  obtain ⟨before', first', between, last, after', payload', hmessages', rfl, hfirst', hlast, _⟩ := h
  rw [hmessages] at hmessages'
  obtain ⟨rfl, htail⟩ := List.append_inj hmessages' hposition
  cases htail
  rw [hfirst] at hfirst'
  cases hfirst'
  apply hopen last (by simp)
  rw [hlast]
  exact rfl

/-- The chunks of an open stream are numbered in order, because the read loop checks it. -/
theorem Receives.numbered (h : Receives pending (requestItem dec message) after effects)
    (htracks : Tracks pendingOf (requestItems dec messages) fun id => pending.lookup id)
    (hnumbered : ∀ id payload frames, Open (requestItems dec messages) id payload frames → Numbered frames)
    (hopen : Open (requestItems dec (messages ++ [message])) id payload frames) : Numbered frames := by
  rw [requestItems, List.map_append, List.map_singleton] at hopen
  obtain ⟨_, rfl⟩ | ⟨_, earlier, hearlier, rfl⟩ := open_concat.mp hopen
  · exact numbered_nil
  · have hbefore := hnumbered id payload earlier hearlier
    generalize requestItem dec message = item at h
    cases h with
    | @chunk frame entry hlookup haccepts =>
      by_cases hid : frame.requestID = id
      · subst hid
        obtain ⟨payload', frames', hopen', rfl⟩ := (htracks frame.requestID entry).mp hlookup
        obtain ⟨rfl, rfl⟩ := hopen'.unique hearlier
        have hpart : (RequestItem.chunk frame).item.part frame.requestID = some frame := if_pos rfl
        rw [hpart]
        exact hbefore.concat haccepts.1 haccepts.2.1
      · have hpart : (RequestItem.chunk frame).item.part id = none := if_neg hid
        rw [hpart, Option.toList_none, List.append_nil]
        exact hbefore
    | start | finish | cancel | skip =>
      simpa [RequestItem.item, Item.part] using hbefore

theorem Receives.len_le {item : RequestItem} (h : Receives pending item after effects)
    (hlen : pending.len ≤ maxPendingRequestStreams) : after.len ≤ maxPendingRequestStreams := by
  cases h with
  | start hid hnew hroom =>
    rw [Map.len_insert_of_notMem pending _ hnew]
    exact hroom
  | chunk hlookup =>
    rw [Map.len_insert_of_mem pending _ ((Map.mem_iff_lookup _ _).mpr ⟨_, hlookup⟩)]
    exact hlen
  | finish | cancel => exact Nat.le_trans (Map.len_erase_le _ _) hlen
  | skip => exact hlen

/-- What the messages read so far have made of the read loop. -/
structure Orderly (dec : Decoder) (messages : List Message) (reading : Reading) : Prop where
  count : reading.pending.len ≤ maxPendingRequestStreams
  numbered : ∀ id payload frames, Open (requestItems dec messages) id payload frames → Numbered frames
  yields : ∃ starts : List Nat, starts.Nodup ∧ List.Forall₂ (Yields dec messages) starts reading.dispatched

theorem Orderly.step (hread : run (Reading.step dec) Reading.start messages = some reading)
    (h : Orderly dec messages reading) (hstep : reading.step dec message = some next) :
    Orderly dec (messages ++ [message]) next := by
  obtain ⟨effects, hreceives, _⟩ := Reading.step_receives hstep
  have htracks := Reading.tracks hread
  obtain ⟨starts, hnodup, hyields⟩ := h.yields
  have hkept : List.Forall₂ (Yields dec (messages ++ [message])) starts reading.dispatched :=
    hyields.imp fun _ _ hyield => hyield.mono message
  refine ⟨hreceives.len_le h.count, fun _ _ _ hopen => hreceives.numbered htracks h.numbered hopen, ?_⟩
  obtain hsame | ⟨id, entry, hitem, hlookup, hcomplete, hmore⟩ := Reading.step_dispatched hstep
  · exact ⟨starts, hnodup, by rw [hsame]; exact hkept⟩
  · obtain ⟨payload, frames, hopen, rfl⟩ := (htracks id entry).mp hlookup
    have hnumbered := h.numbered id payload frames hopen
    obtain ⟨before, first, between, rfl, hfirst, rfl, hbetween, rfl⟩ := exists_start_of_open hopen
    refine ⟨starts ++ [before.length], ?_, ?_⟩
    · rw [List.nodup_append]
      refine ⟨hnodup, List.nodup_singleton _, ?_⟩
      rintro position hposition _ hlast rfl
      rw [List.mem_singleton] at hlast
      obtain ⟨i, hi, rfl⟩ := List.mem_iff_getElem.mp hposition
      exact (hyields.get hi (hyields.length_eq ▸ hi)).not_open rfl hlast.symm hfirst hbetween
    · rw [hmore]
      refine List.rel_append hkept (.cons ?_ .nil)
      exact ⟨before, first, between, message, [], payload, by simp, rfl, hfirst, hitem, hbetween, hnumbered, hcomplete,
        rfl⟩

theorem orderly_of_run (hread : run (Reading.step dec) Reading.start messages = some reading) :
    Orderly dec messages reading := by
  apply run_induction (P := fun messages reading => Orderly dec messages reading) _ _ hread
  · refine ⟨Nat.zero_le _, ?_, [], List.nodup_nil, .nil⟩
    intro id payload frames hopen
    exact absurd hopen not_open_nil
  · intro messages reading message next hbefore ih hstep
    exact ih.step hbefore hstep

/-- What the protocol forbids the gateway to send when these streams are pending. -/
def Violates (dec : Decoder) (pending : PendingRequests) (message : Message) : Prop :=
  match message.messageType with
  | .other _ => True
  | .binary => ∀ frame entry, parseBinaryFrame message.data = ok (.ok frame) →
      pending.lookup frame.requestID = some entry → ¬ entry.assembler.Accepts frame
  | .text =>
    match dec.requestMessage message.data with
    | none => True
    | some (type, payload) =>
      (type = httpRequestStart ∧ (payload.requestID = [] ∨ payload.requestID ∈ pending ∨
        maxPendingRequestStreams ≤ pending.len ∨ payload.contentLength < -1)) ∨
      (type = httpRequestEnd ∧ ∀ id entry, dec.requestEnd message.data = some id → pending.lookup id = some entry →
        ¬ entry.assembler.Complete)

theorem readStart_of_violation (h : payload.requestID = [] ∨ payload.requestID ∈ pending ∨
    maxPendingRequestStreams ≤ pending.len ∨ payload.contentLength < -1) :
    ∃ err, readStart pending payload = ok (.failed err) := by
  unfold readStart
  by_cases hid : payload.requestID = []
  · exact ⟨_, by simp [hid]; rfl⟩
  · by_cases hknown : payload.requestID ∈ pending
    · exact ⟨_, by simp [hid, hknown]; rfl⟩
    · by_cases hfull : maxPendingRequestStreams ≤ pending.len
      · exact ⟨_, by simp [hid, hknown, hfull]; rfl⟩
      · have hlength : payload.contentLength < -1 := by tauto
        exact ⟨_, by simp [hid, hknown, hfull, newChunkAssembler, hlength]; rfl⟩

/-- A message that the protocol forbids makes `Connect` return an error, and no request comes of it. -/
theorem readMessage_of_violates (h : Violates dec pending message) :
    ∃ err, readMessage dec pending message = ok (.failed err) := by
  obtain ⟨messageType, data⟩ := message
  cases messageType with
  | other code => exact ⟨_, rfl⟩
  | binary =>
    obtain ⟨frame, entry, hparse, hlookup, haccepts, _⟩ | hfailed := readChunk_spec pending data
    · exact absurd haccepts (h frame entry hparse hlookup)
    · exact hfailed
  | text =>
    simp only [Violates] at h
    simp only [readMessage]
    cases hdata : dec.requestMessage data with
    | none => exact ⟨_, rfl⟩
    | some content =>
      obtain ⟨type, payload⟩ := content
      simp only [hdata] at h
      obtain ⟨rfl, hstart⟩ | ⟨rfl, hend⟩ := h
      · dsimp only
        rw [if_neg (by decide), if_pos rfl]
        exact readStart_of_violation hstart
      · dsimp only
        rw [if_neg (by decide), if_neg (by decide), if_pos rfl]
        obtain ⟨id, entry, hid, hlookup, hcomplete, _⟩ | ⟨err, hread⟩ := readEnd_spec dec pending data
        · exact absurd hcomplete (hend id entry hid hlookup)
        · exact ⟨err, by rw [hread]; rfl⟩

/-- Whatever the gateway sends: at most 32 streams are pending; every request that was dispatched comes from a start of
    its own and exactly the chunks up to its end; and a message that the protocol forbids ends the session without a
    request. -/
theorem requests_assembled (hread : run (Reading.step dec) Reading.start messages = some reading) :
    reading.pending.len ≤ 32 ∧
    (∃ starts : List Nat, starts.Nodup ∧ List.Forall₂ (Yields dec messages) starts reading.dispatched) ∧
    ∀ message, Violates dec reading.pending message →
      reading.step dec message = none ∧ ∃ err, readMessage dec reading.pending message = ok (.failed err) := by
  have horderly := orderly_of_run hread
  refine ⟨horderly.count, horderly.yields, ?_⟩
  intro message hviolates
  obtain ⟨err, hfailed⟩ := readMessage_of_violates hviolates
  refine ⟨?_, err, hfailed⟩
  unfold Reading.step
  rw [hfailed]
  split <;> rfl

/-- A stream that is cancelled and started again: only the second start yields a request. -/
def restartedPayload : HTTPRequestPayload :=
  { requestID := lit "req_1", method := lit "POST", path := lit "/", headers := ∅, contentLength := 2 }

def restartedMessages : List Message :=
  let chunk := fun (sequence : UInt32) (payload : Bytes) =>
    Message.mk .binary
      (BinaryFrame.wire { type := requestBodyChunk, requestID := lit "req_1", sequence, payload })
  [httpRequestStartMessage restartedPayload, chunk 0 (lit "h"), cancelRequestMessage (lit "req_1"),
    httpRequestStartMessage restartedPayload, chunk 0 (lit "h"), chunk 1 (lit "i"), httpRequestEndMessage (lit "req_1")]

theorem requests_assembled_restarted :
    ∃ reading position, run (Reading.step (.knowing [restartedPayload] [] [lit "req_1"])) Reading.start
        restartedMessages = some reading ∧ reading.dispatched.map Request.body = [lit "hi"] ∧
      ∃ request ∈ reading.dispatched, Yields (.knowing [restartedPayload] [] [lit "req_1"]) restartedMessages position
        request := by
  have hfacts : (run (Reading.step (.knowing [restartedPayload] [] [lit "req_1"])) Reading.start
      restartedMessages).map (fun reading => reading.dispatched.map Request.body) = some [lit "hi"] := by decide +kernel
  obtain ⟨reading, hread, hbody⟩ := Option.map_eq_some_iff.mp hfacts
  obtain ⟨_, ⟨starts, _, hyields⟩, _⟩ := requests_assembled hread
  cases hdispatched : reading.dispatched with
  | nil =>
    rw [hdispatched] at hbody
    cases hbody
  | cons request rest =>
    rw [hdispatched, List.forall₂_cons_right_iff] at hyields
    obtain ⟨position, _, hyield, _⟩ := hyields
    exact ⟨reading, position, hread, hbody, request, by rw [hdispatched]; simp, hyield⟩

end myngrok.gatewayclient
