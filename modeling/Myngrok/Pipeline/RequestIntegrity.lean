import Myngrok.Pipeline.RequestStream

open golang Result websocket streams transition myngrok.protocol myngrok.tunnels
open myngrok.gateway (chunkMessage)
open myngrok.gatewayclient (RequestItem requestItem requestItems Reading pendingOf requestItem_start requestItem_cancel
  requestItem_other)

namespace myngrok.pipeline

variable {Thread : Type} {dec : Decoder} {request : PublicRequest} {id sessionID other : GoString} {pieces : List Bytes}
  {inputs : List Message} {events : List (PublicEvent Thread)} {s : PublicSystem Thread} {message : Message}

/-- What the agent has to execute for a public request. -/
def wholeRequest (request : PublicRequest) (id : GoString) : gatewayclient.Request :=
  { id, method := request.method, path := request.requestURI, headers := publicRequestHeaders request id
    body := request.body }

/-- The pings and pongs between the messages from the queue concern no request. -/
theorem aboutRequest_written (hping : dec.ReadsType ping pingMessage) (hpong : dec.ReadsType pong pongMessage)
    (id sessionID : GoString) (events : List (PublicEvent Thread)) :
    aboutRequest dec id (events.filterMap (PublicEvent.written sessionID)) =
      aboutRequest dec id (events.filterMap (PublicEvent.taken sessionID)) := by
  have hbeat : ∀ answer : Bool, requestItem dec (if answer then pongMessage else pingMessage) = .skip := by
    intro answer
    cases answer with
    | false => exact requestItem_other rfl hping (by decide) (by decide) (by decide)
    | true => exact requestItem_other rfl hpong (by decide) (by decide) (by decide)
  induction events using List.reverseRecOn with
  | nil => rfl
  | append_singleton events e ih =>
    rw [filterMap_concat, filterMap_concat]
    cases e with
    | beat other answer =>
      simp only [PublicEvent.written, PublicEvent.taken, Option.toList_none, List.append_nil]
      split
      · rw [Option.toList_some, aboutRequest_concat_other _ (by rw [hbeat]; exact Bool.false_ne_true), ih]
      · rw [Option.toList_none, List.append_nil, ih]
    | _ =>
      simp only [aboutRequest, List.filter_append] at ih ⊢
      rw [ih]
      rfl

/-- The agent gets the messages of a request in the order in which they were put in the queue, and none that was not. -/
theorem aboutRequest_inputs_le (hdecodes : Decodes dec events s)
    (hinputs : inputs <+: events.filterMap (PublicEvent.written sessionID)) (id : GoString) :
    aboutRequest dec id inputs <+: aboutRequest dec id (s.outgoing events sessionID) := by
  have hwritten : aboutRequest dec id inputs <+: aboutRequest dec id (events.filterMap (PublicEvent.taken sessionID)) := by
    rw [← aboutRequest_written hdecodes.ping hdecodes.pong]
    exact hinputs.filter _
  refine hwritten.trans ?_
  rw [PublicSystem.outgoing, aboutRequest, aboutRequest, List.filter_append]
  exact List.prefix_append _ _

theorem map_requestItem_opening (hreads : ReadsRequest dec request id) (hcovers : Covers request id pieces) :
    (opening request id pieces).map (requestItem dec) =
      .start (startPayload request id) :: (bodyFrames id pieces).map RequestItem.chunk := by
  have hframes : ((bodyFrames id pieces).map chunkMessage).map (requestItem dec) =
      (bodyFrames id pieces).map RequestItem.chunk := by
    rw [List.map_map, List.map_inj_left]
    intro frame hmem
    rw [Function.comp_apply, requestItem_frame dec (hcovers.formed frame hmem)]
  rw [opening, List.map_cons, requestItem_start hreads.start, hframes]

theorem not_finish_of_mem_opening (hreads : ReadsRequest dec request id) (hcovers : Covers request id pieces)
    (hmem : message ∈ opening request id pieces) : requestItem dec message ≠ .finish other := by
  intro hfinish
  have hitem := List.mem_map_of_mem (f := requestItem dec) hmem
  rw [map_requestItem_opening hreads hcovers, hfinish, List.mem_cons, List.mem_map] at hitem
  obtain hstart | ⟨frame, _, hchunk⟩ := hitem
  · cases hstart
  · cases hchunk

theorem requestID_of_mem_bodyFrames {frame : BinaryFrame} (hmem : frame ∈ bodyFrames id pieces) :
    frame.requestID = id := by
  obtain ⟨i, hi, rfl⟩ := List.mem_mapIdx.mp hmem
  rfl

theorem about_requestItems (dec : Decoder) (id : GoString) (messages : List Message) :
    about id (requestItems dec messages) = ((aboutRequest dec id messages).map (requestItem dec)).map RequestItem.item := by
  rw [about, requestItems, List.filter_map, List.map_map]
  rfl

/-- A stream of which the opening was read has the pieces of the body in its entry. -/
theorem open_of_opening (hreads : ReadsRequest dec request id) (hcovers : Covers request id pieces)
    (h : aboutRequest dec id inputs = opening request id pieces) :
    Open (requestItems dec inputs) id (startPayload request id) (bodyFrames id pieces) := by
  apply open_of_about
  rw [about_requestItems, h, map_requestItem_opening hreads hcovers, List.map_cons, List.map_map]
  congr 1
  apply List.map_congr_left
  intro frame hmem
  show Item.chunk frame.requestID frame = Item.chunk id frame
  rw [requestID_of_mem_bodyFrames hmem]

/-- The end of a request is sent after its whole body only. -/
theorem finished_of_follows {eof : Prop} {before : List Message} (hreads : ReadsRequest dec request id)
    (h : Follows request id eof before message) (hfinish : requestItem dec message = .finish other) :
    ∃ pieces, Covers request id pieces ∧ before = opening request id pieces ∧ eof ∧ pieces.flatten = request.body := by
  cases h with
  | start =>
    rw [requestItem_start hreads.start] at hfinish
    cases hfinish
  | chunk hcovers =>
    rw [requestItem_frame dec hcovers.last_formed] at hfinish
    cases hfinish
  | finish hcovers heof hwhole => exact ⟨_, hcovers, rfl, heof, hwhole⟩
  | cancel =>
    rw [requestItem_cancel hreads.cancel] at hfinish
    cases hfinish

/-- A message about a request that the agent reads comes from the handler of that request, and fits what it has read of
    it before. -/
theorem Requests.follows (hrequests : Requests dec events s) (hwaiters : s.Waiters) (hdecodes : Decodes dec events s)
    (hinputs : inputs ++ [message] <+: events.filterMap (PublicEvent.written sessionID))
    (habout : (requestItem dec message).item.about id = true) :
    ∃ h, s.handlers.lookup id = some h ∧ h.tunnel.sessionID = sessionID ∧ ReadsRequest dec h.request id ∧
      Follows h.request id (ReadToEnd events id) (aboutRequest dec id inputs) message := by
  have hread := aboutRequest_inputs_le hdecodes hinputs id
  rw [aboutRequest_concat_own _ habout] at hread
  have hhandler : ∃ h, s.handlers.lookup id = some h ∧ h.tunnel.sessionID = sessionID := by
    by_contra hnone
    have hempty : aboutRequest dec id (s.outgoing events sessionID) = [] := by
      refine hrequests.foreign ?_
      intro h hlookup hsession
      exact hnone ⟨h, hlookup, hsession⟩
    rw [hempty, List.prefix_nil] at hread
    cases (List.append_eq_nil_iff.mp hread).2
  obtain ⟨h, hlookup, rfl⟩ := hhandler
  have hreads := hdecodes.requests id h hlookup
  have hleft : Left h.request h.id (ReadToEnd events id) _ := (hrequests.own hlookup).left
  rw [hwaiters.keyed hlookup] at hreads hleft
  exact ⟨h, hlookup, rfl, hreads, hleft.follows hread⟩

/-- What holds of the requests that the agent has dispatched. -/
structure Executed (dec : Decoder) (events : List (PublicEvent Thread)) (s : PublicSystem Thread) (sessionID : GoString)
    (inputs : List Message) (reading : Reading) : Prop where
  whole : ∀ r ∈ reading.dispatched, ∃ h, s.handlers.lookup r.id = some h ∧ h.tunnel.sessionID = sessionID ∧
    r = wholeRequest h.request r.id ∧ ReadToEnd events r.id
  ended : ∀ r ∈ reading.dispatched, ∃ message ∈ inputs, requestItem dec message = .finish r.id
  once : (reading.dispatched.map (·.id)).Nodup

theorem Executed.step {reading next : Reading} (hrequests : Requests dec events s) (hwaiters : s.Waiters)
    (hdecodes : Decodes dec events s) (hread : run (Reading.step dec) Reading.start inputs = some reading)
    (hinputs : inputs ++ [message] <+: events.filterMap (PublicEvent.written sessionID))
    (h : Executed dec events s sessionID inputs reading) (hstep : reading.step dec message = some next) :
    Executed dec events s sessionID (inputs ++ [message]) next := by
  have hended : ∀ r ∈ reading.dispatched, ∃ m ∈ inputs ++ [message], requestItem dec m = .finish r.id := by
    intro r hmem
    obtain ⟨m, hm, hfinish⟩ := h.ended r hmem
    exact ⟨m, List.mem_append_left _ hm, hfinish⟩
  obtain hsame | ⟨id, entry, hitem, hlookup, _, hmore⟩ := Reading.step_dispatched hstep
  · constructor <;> rw [hsame]
    · exact h.whole
    · exact hended
    · exact h.once
  · have hown : (requestItem dec message).item.about id = true := by
      rw [hitem]
      exact decide_eq_true rfl
    obtain ⟨handler, hhandler, hsession, hreads, hfollows⟩ := hrequests.follows hwaiters hdecodes hinputs hown
    obtain ⟨pieces, hcovers, hopening, heof, hwhole⟩ := finished_of_follows hreads hfollows hitem
    obtain ⟨payload, parts, hopen, rfl⟩ := (Reading.tracks hread id entry).mp hlookup
    obtain ⟨rfl, rfl⟩ := hopen.unique (open_of_opening hreads hcovers hopening)
    have hrequest : (pendingOf (startPayload handler.request id) (bodyFrames id pieces)).request =
        wholeRequest handler.request id := by
      rw [wholeRequest, ← hwhole, ← chunkBytes_bodyFrames id]
      rfl
    rw [hrequest] at hmore
    have hfresh : ∀ r ∈ reading.dispatched, r.id ≠ id := by
      rintro r hmem rfl
      obtain ⟨m, hm, hfinish⟩ := h.ended r hmem
      have habout : m ∈ aboutRequest dec r.id inputs :=
        List.mem_filter.mpr ⟨hm, by rw [hfinish]; exact decide_eq_true rfl⟩
      rw [hopening] at habout
      exact not_finish_of_mem_opening hreads hcovers habout hfinish
    constructor <;> rw [hmore]
    · intro r hmem
      obtain hmem | hmem := List.mem_append.mp hmem
      · exact h.whole r hmem
      · cases List.mem_singleton.mp hmem
        exact ⟨handler, hhandler, hsession, rfl, heof⟩
    · intro r hmem
      obtain hmem | hmem := List.mem_append.mp hmem
      · exact hended r hmem
      · cases List.mem_singleton.mp hmem
        exact ⟨message, by simp, hitem⟩
    · rw [List.map_append, List.nodup_append]
      refine ⟨h.once, List.nodup_singleton _, ?_⟩
      intro other hother id' hid'
      obtain ⟨r, hmem, rfl⟩ := List.mem_map.mp hother
      rw [List.map_singleton, List.mem_singleton] at hid'
      rw [hid']
      exact hfresh r hmem

variable [DecidableEq Thread]

theorem executed_of_run {baseDomain sessionID : GoString} {events : List (PublicEvent Thread)} {s : PublicSystem Thread}
    (hrun : run (PublicSystem.step baseDomain) PublicSystem.start events = some s) (hdecodes : Decodes dec events s)
    {inputs : List Message} (hinputs : inputs <+: events.filterMap (PublicEvent.written sessionID)) {reading : Reading}
    (hread : run (Reading.step dec) Reading.start inputs = some reading) :
    Executed dec events s sessionID inputs reading := by
  revert hinputs
  apply run_induction (P := fun inputs reading => inputs <+: events.filterMap (PublicEvent.written sessionID) →
    Executed dec events s sessionID inputs reading) _ _ hread
  · intro _
    refine ⟨?_, ?_, List.nodup_nil⟩ <;> intro r hmem <;> cases hmem
  · intro inputs reading message next hbefore ih hstep hinputs
    have hearlier := (List.prefix_append inputs [message]).trans hinputs
    exact (ih hearlier).step (requests_of_run hrun hdecodes) (PublicSystem.waiters hrun) hdecodes hbefore hinputs hstep

/-- Request integrity: in every run of the gateway, and whatever part of what a session loop has written the agent of
    that session has read by now, every request that the agent has dispatched is a public request for a tunnel of that
    session, with its whole body, read to `io.EOF` by its handler; and none was dispatched twice. -/
theorem executed_requests_whole {baseDomain : GoString} {events : List (PublicEvent Thread)} {s : PublicSystem Thread}
    (hrun : run (PublicSystem.step baseDomain) PublicSystem.start events = some s) (hdecodes : Decodes dec events s)
    (sessionID : GoString) {inputs : List Message}
    (hinputs : inputs <+: events.filterMap (PublicEvent.written sessionID)) {reading : Reading}
    (hread : run (Reading.step dec) Reading.start inputs = some reading) :
    (∀ r ∈ reading.dispatched, ∃ h, s.handlers.lookup r.id = some h ∧ h.tunnel.sessionID = sessionID ∧
      r = wholeRequest h.request r.id ∧ ReadToEnd events r.id) ∧
    (reading.dispatched.map (·.id)).Nodup := by
  have hexecuted := executed_of_run hrun hdecodes hinputs hread
  exact ⟨hexecuted.whole, hexecuted.once⟩

/-- Two requests at once: the body of the first is read in two pieces, that of the second fails after its first byte,
    and the handler cancels it. -/
def interleavedUploads : List (PublicEvent Unit) :=
  let first := publicRequestID (List.replicate 12 0)
  let second := publicRequestID (List.replicate 12 1)
  sampleArrival (lit "hi") (List.replicate 12 0) ++
  [.route (sampleRequest (lit "no")) 2 (some (List.replicate 12 1)), .handler second (.register (lit "ses_1") 1),
    .handler first (.lookup (some 0)), .handler second (.lookup (some 0)), .handler second .enqueue,
    .handler first .enqueue, .handler first (.read 1 none), .handler second (.read 1 (some (.failed (lit "reset")))),
    .handler first (.lookup (some 0)), .handler second (.lookup (some 0)), .handler first .enqueue,
    .handler first (.read 1 (some .eof)), .handler second .enqueue, .handler second (.cancelLookup (some 0)),
    .handler first (.lookup (some 0)), .handler first .enqueue, .handler second (.offer true),
    .handler first (.lookup (some 0)), .handler first .enqueue, .beat (lit "ses_1") false] ++
  ([httpRequestStartMessage (startPayload (sampleRequest (lit "no")) second),
    httpRequestStartMessage (startPayload (sampleRequest (lit "hi")) first),
    chunkMessage (nextFrame first [] (lit "h")), chunkMessage (nextFrame second [] (lit "n")),
    chunkMessage (nextFrame first [lit "h"] (lit "i")), cancelRequestMessage second,
    httpRequestEndMessage first].map (PublicEvent.dequeue (lit "ses_1")))

def uploadsDecoder : Decoder :=
  let first := publicRequestID (List.replicate 12 0)
  let second := publicRequestID (List.replicate 12 1)
  Decoder.knowing [startPayload (sampleRequest (lit "hi")) first, startPayload (sampleRequest (lit "no")) second] []
    [first, second]

theorem uploadsDecoder_reads :
    ReadsRequest uploadsDecoder (sampleRequest (lit "hi")) (publicRequestID (List.replicate 12 0)) ∧
      ReadsRequest uploadsDecoder (sampleRequest (lit "no")) (publicRequestID (List.replicate 12 1)) := by
  refine ⟨⟨?_, ⟨⟨Decoder.emptyRequest (publicRequestID (List.replicate 12 0)), ?_⟩, ?_⟩,
    ⟨Decoder.emptyRequest (publicRequestID (List.replicate 12 0)), ?_, rfl⟩⟩,
    ⟨?_, ⟨⟨Decoder.emptyRequest (publicRequestID (List.replicate 12 1)), ?_⟩, ?_⟩,
    ⟨Decoder.emptyRequest (publicRequestID (List.replicate 12 1)), ?_, rfl⟩⟩⟩ <;> decide +kernel

theorem uploadsDecoder_decodes :
    ∃ s, run (PublicSystem.step (lit "tunnel.example")) PublicSystem.start interleavedUploads = some s ∧
      Decodes uploadsDecoder interleavedUploads s := by
  have hfacts : (run (PublicSystem.step (lit "tunnel.example")) PublicSystem.start interleavedUploads).map
      (fun s => s.handlers.entries.map fun entry => (entry.2.request, entry.2.id)) =
      some [(sampleRequest (lit "hi"), publicRequestID (List.replicate 12 0)),
        (sampleRequest (lit "no"), publicRequestID (List.replicate 12 1))] := by decide +kernel
  obtain ⟨s, hs, hhandlers⟩ := Option.map_eq_some_iff.mp hfacts
  refine ⟨s, hs, .of_entries hhandlers ?_ ?_ ⟨Decoder.emptyRequest [], by decide +kernel⟩
    ⟨Decoder.emptyRequest [], by decide +kernel⟩⟩
  · intro entry hmem
    rw [List.mem_cons, List.mem_singleton] at hmem
    obtain rfl | rfl := hmem
    · exact uploadsDecoder_reads.1
    · exact uploadsDecoder_reads.2
  · intro sessionID payload hmem
    simp [interleavedUploads, sampleArrival] at hmem

theorem executed_requests_whole_interleaved :
    ∃ s reading, run (PublicSystem.step (lit "tunnel.example")) PublicSystem.start interleavedUploads = some s ∧
      run (Reading.step uploadsDecoder) Reading.start
        (interleavedUploads.filterMap (PublicEvent.written (lit "ses_1"))) = some reading ∧
      reading.dispatched = [wholeRequest (sampleRequest (lit "hi")) (publicRequestID (List.replicate 12 0))] ∧
      ReadToEnd interleavedUploads (publicRequestID (List.replicate 12 0)) := by
  have hagent : (run (Reading.step uploadsDecoder) Reading.start
      (interleavedUploads.filterMap (PublicEvent.written (lit "ses_1")))).map Reading.dispatched =
      some [wholeRequest (sampleRequest (lit "hi")) (publicRequestID (List.replicate 12 0))] := by decide +kernel
  obtain ⟨s, hs, hdecodes⟩ := uploadsDecoder_decodes
  obtain ⟨reading, hreading, hdispatched⟩ := Option.map_eq_some_iff.mp hagent
  refine ⟨s, reading, hs, hreading, hdispatched, ?_⟩
  obtain ⟨hwhole, _⟩ := executed_requests_whole hs hdecodes (lit "ses_1") List.prefix_rfl hreading
  rw [hdispatched] at hwhole
  obtain ⟨_, _, _, _, heof⟩ := hwhole _ (List.mem_singleton_self _)
  exact heof

end myngrok.pipeline
