import Myngrok.Pipeline.RequestIntegrity
import Myngrok.Server.RateLimits

open golang Result websocket streams transition myngrok.protocol myngrok.tunnels
open ratelimit (Window tableAllow count live)
open myngrok.gateway (chunkMessage)
open myngrok.gatewayclient (RequestItem requestItem requestItems Reading Receives pendingOf PendingRequests
  PendingRequest requestItem_start requestItem_end requestItem_cancel requestItem_other)

namespace myngrok.tunnels

/-- What `net/http` makes sure of: the length of the body is unknown, or it is the announced one when `io.EOF` comes. -/
structure PublicRequest.Framed (r : PublicRequest) : Prop where
  length_ge : -1 ≤ r.contentLength
  whole : 0 ≤ r.contentLength → (r.body.length : Int) = r.contentLength

theorem length_bodyFrames (id : GoString) (pieces : List Bytes) : (bodyFrames id pieces).length = pieces.length :=
  List.length_mapIdx

end myngrok.tunnels

namespace myngrok.pipeline

variable {Thread : Type} {dec : Decoder} {request : PublicRequest} {id sessionID : GoString}
  {events : List (PublicEvent Thread)} {s next : PublicSystem Thread} {e : PublicEvent Thread} {h : Handler}
  {message : Message} {payload : HTTPRequestPayload} {inputs : List Message}

/-- The handler serves a request that came in with the given random bytes. -/
def Routed (events : List (PublicEvent Thread)) (h : Handler) : Prop :=
  h.request.contentLength ≤ maxTunnelBodyBytes ∧
    ∃ now random, .route h.request now (some random) ∈ events ∧ h.id = publicRequestID random

theorem Routed.mono (hrouted : Routed events h) (e : PublicEvent Thread) : Routed (events ++ [e]) h := by
  obtain ⟨hsmall, now, random, hmem, hid⟩ := hrouted
  exact ⟨hsmall, now, random, List.mem_append_left _ hmem, hid⟩

/-- As many streams as the receiver keeps in its table are open. -/
theorem len_le_of_tracks {n : Nat} {State : Type} {state : HTTPRequestPayload → List BinaryFrame → State}
    {items : List (Item GoString HTTPRequestPayload BinaryFrame)} {table : Map GoString State}
    (htracks : Tracks state items fun id => table.lookup id) (h : OpenAtMost n items) : table.len ≤ n := by
  refine h table.keys table.keys_nodup ?_
  intro id hmem
  obtain ⟨value, hlookup⟩ := (Map.mem_iff_lookup table id).mp (AList.mem_keys.mpr hmem)
  obtain ⟨head, parts, hopen, _⟩ := (htracks id value).mp hlookup
  exact ⟨head, parts, hopen⟩

/-- The message that opens a stream is the one that a handler sends first. -/
theorem started_of_emits {e : HandlerEvent} {eof : Prop} {out : List Message} {queue : gateway.Chan}
    (hreads : ReadsRequest dec h.request h.id) (hsent : h.HasSent eof out) (hemits : h.emits e = some (queue, message))
    (hstart : requestItem dec message = .start payload) :
    e = .enqueue ∧ h.phase = .enqueueing queue message .started := by
  obtain ⟨hfollows, hfirst⟩ := hsent.follows hemits
  cases hfollows with
  | start => exact hfirst rfl
  | chunk hcovers =>
    rw [requestItem_frame dec hcovers.last_formed] at hstart
    cases hstart
  | finish =>
    rw [requestItem_end hreads.finish] at hstart
    cases hstart
  | cancel =>
    rw [requestItem_cancel hreads.cancel] at hstart
    cases hstart

/-- Every message of a request but its start fits in a WebSocket message. -/
theorem length_of_follows {eof : Prop} {before : List Message} (hid : IsPublicRequestID id)
    (h : Follows request id eof before message) :
    message = httpRequestStartMessage (startPayload request id) ∨
      message.data.length ≤ gatewayclient.websocketReadLimit := by
  have hshort : ∀ {type : GoString}, type.length ≤ 32 →
      (Envelope.message { type, payload := some (requestIDValue id) }).data.length ≤
        gatewayclient.websocketReadLimit :=
    fun htype => Nat.le_trans (length_requestIDMessage_le hid htype) (by decide)
  cases h with
  | start => exact .inl rfl
  | @chunk pieces piece hcovers =>
    right
    have hwire := (nextFrame id pieces piece).length_wire
    have hpayload := hcovers.last_formed.payload_le
    have hname : (nextFrame id pieces piece).requestID.length = 28 := hid.length_eq
    simp only [chunkMessage, gatewayclient.websocketReadLimit, binaryFrameHeader, maxBinaryFramePayload] at *
    omega
  | finish => exact .inr (hshort (by decide))
  | cancel => exact .inr (hshort (by decide))

/-- The read loop takes the next message of a request, given room for a new stream. -/
theorem step_of_follows {eof : Prop} {reading : Reading} (hid : IsPublicRequestID id) (hframed : request.Framed)
    (hsmall : request.contentLength ≤ maxTunnelBodyBytes)
    (hfits : (httpRequestStartMessage (startPayload request id)).data.length ≤ gatewayclient.websocketReadLimit)
    (hreads : ReadsRequest dec request id)
    (htracks : Tracks pendingOf (requestItems dec inputs) fun id => reading.pending.lookup id)
    (hroom : ∀ payload, requestItem dec message = .start payload →
      reading.pending.len < gatewayclient.maxPendingRequestStreams)
    (h : Follows request id eof (aboutRequest dec id inputs) message) : (reading.step dec message).isSome := by
  generalize hbefore : aboutRequest dec id inputs = before at h
  have hlength : message.data.length ≤ gatewayclient.websocketReadLimit := by
    obtain rfl | hlength := length_of_follows hid h
    · exact hfits
    · exact hlength
  have haccepted : ∀ {pending effects}, Receives reading.pending (requestItem dec message) pending effects →
      requestItem dec message ≠ .skip →
      (∀ payload, requestItem dec message = .start payload → payload.contentLength ≤ gatewayclient.maxAlloc) →
      (reading.step dec message).isSome := by
    intro pending effects hreceives hitem hlarge
    rw [Reading.step_of_receives hlength hreceives hitem hlarge]
    rfl
  cases h with
  | start =>
    have hitem := requestItem_start hreads.start
    have hnew : id ∉ reading.pending := by
      intro hmem
      obtain ⟨entry, hlookup⟩ := (Map.mem_iff_lookup _ _).mp hmem
      obtain ⟨payload, parts, hopen, _⟩ := (htracks id entry).mp hlookup
      exact about_ne_nil_of_open hopen (by rw [about_requestItems, hbefore]; rfl)
    refine haccepted (by rw [hitem]; exact .start hid.ne_nil hnew (hroom _ hitem) hframed.length_ge)
      (by rw [hitem]; exact fun h => by cases h) ?_
    rw [hitem]
    rintro payload ⟨⟩
    exact Int.le_trans hsmall (by decide)
  | @chunk pieces piece hcovers =>
    have hitem := requestItem_frame dec hcovers.last_formed
    have hlookup := (htracks id _).mpr ⟨_, _, open_of_opening hreads hcovers.left hbefore, rfl⟩
    have haccepts : (pendingOf (startPayload request id) (bodyFrames id pieces)).assembler.Accepts
        (nextFrame id pieces piece) := by
      refine ⟨rfl, ?_, ?_⟩
      · simp only [pendingOf, nextFrame, length_bodyFrames]
      · intro hknown
        have hbody := hframed.whole hknown
        have hbytes := hcovers.bytes.length_le
        rw [List.flatten_append, List.flatten_singleton, List.length_append] at hbytes
        simp only [pendingOf, nextFrame, chunkBytes_bodyFrames, startPayload]
        omega
    refine haccepted (by rw [hitem]; exact .chunk hlookup haccepts) (by rw [hitem]; exact fun h => by cases h) ?_
    rw [hitem]
    rintro payload ⟨⟩
  | @finish pieces hcovers heof hwhole =>
    have hitem := requestItem_end hreads.finish
    have hlookup := (htracks id _).mpr ⟨_, _, open_of_opening hreads hcovers hbefore, rfl⟩
    have hcomplete : (pendingOf (startPayload request id) (bodyFrames id pieces)).assembler.Complete := by
      intro hknown
      simp only [pendingOf, chunkBytes_bodyFrames, hwhole]
      exact hframed.whole hknown
    refine haccepted (by rw [hitem]; exact .finish hlookup hcomplete) (by rw [hitem]; exact fun h => by cases h) ?_
    rw [hitem]
    rintro payload ⟨⟩
  | cancel =>
    have hitem := requestItem_cancel hreads.cancel
    refine haccepted (by rw [hitem]; exact .cancel id) (by rw [hitem]; exact fun h => by cases h) ?_
    rw [hitem]
    rintro payload ⟨⟩

/-- What the agent has read before a start is, stream by stream, what was in the queue before it. -/
theorem exists_outgoing_of_start (hdecodes : Decodes dec events s)
    (hinputs : inputs ++ [message] <+: events.filterMap (PublicEvent.written sessionID))
    (hstart : requestItem dec message = .start payload) :
    ∃ before after, s.outgoing events sessionID = before ++ message :: after ∧
      ∀ id, aboutRequest dec id inputs = aboutRequest dec id before := by
  obtain ⟨tail, htail⟩ := hinputs
  rw [List.append_assoc, List.singleton_append] at htail
  obtain ⟨first, rest, rfl, hfirst, hrest⟩ := List.filterMap_eq_append_iff.mp htail.symm
  obtain ⟨silent, e, later, rfl, hsilent, he, _⟩ := List.filterMap_eq_cons_iff.mp hrest
  have htaken : e.taken sessionID = some message := by
    cases e with
    | dequeue => exact he
    | beat other answer =>
      simp only [PublicEvent.written] at he
      split at he <;> cases he
      cases answer with
      | false =>
        have hskip := requestItem_other rfl hdecodes.ping (by decide) (by decide) (by decide)
        rw [if_neg Bool.false_ne_true, hskip] at hstart
        cases hstart
      | true =>
        have hskip := requestItem_other rfl hdecodes.pong (by decide) (by decide) (by decide)
        rw [if_pos rfl, hskip] at hstart
        cases hstart
    | _ => cases he
  refine ⟨(first ++ silent).filterMap (PublicEvent.taken sessionID),
    later.filterMap (PublicEvent.taken sessionID) ++ s.queued sessionID, ?_, ?_⟩
  · simp [PublicSystem.outgoing, htaken]
  · intro id
    rw [← aboutRequest_written hdecodes.ping hdecodes.pong, List.filterMap_append, hfirst,
      List.filterMap_eq_nil_iff.mpr hsilent, List.append_nil]

section System

variable [DecidableEq Thread]

variable {baseDomain : GoString} {message : Message}

theorem routed_of_run (hrun : run (PublicSystem.step baseDomain) PublicSystem.start events = some s) {h : Handler}
    (hlookup : s.handlers.lookup id = some h) : Routed events h := by
  refine run_induction (P := fun events s => ∀ id h, s.handlers.lookup id = some h → Routed events h) ?_ ?_ hrun id h
    hlookup
  · intro id h hlookup
    cases hlookup
  · intro events s e next _ ih hstep id h hlookup
    cases PublicSystem.step_cases hstep with
    | routed hroute hfresh =>
      rw [PublicSystem.setHandler_lookup] at hlookup
      split at hlookup
      · cases hlookup
        obtain ⟨-, rfl, hsmall, random, rfl, hid⟩ := route_ok hroute
        exact ⟨hsmall, _, random, List.mem_append_right _ (List.mem_singleton_self _), hid⟩
      · exact (ih _ _ hlookup).mono _
    | @handler own e old new s' hold hacts =>
      rw [PublicSystem.setHandler_lookup, hacts.frame.2.2.1] at hlookup
      split at hlookup
      · cases hlookup
        obtain ⟨hrequest, hid⟩ := acts_request hacts
        have hrouted := (ih _ _ hold).mono (.handler own e)
        rwa [Routed, ← hrequest, ← hid] at hrouted
      · exact (ih _ _ hlookup).mono _
    | _ => exact (ih _ _ hlookup).mono _

/-- Everything in an outbound queue is about a request, or says that a tunnel is open. -/
theorem outgoing_known (hrun : run (PublicSystem.step baseDomain) PublicSystem.start events = some s)
    (hdecodes : Decodes dec events s) (hmem : message ∈ s.outgoing events sessionID) :
    (∃ id, (requestItem dec message).item.about id = true) ∨
      ∃ opened, .post sessionID opened ∈ events ∧ message = tunnelOpenedMessage opened := by
  refine run_induction (P := fun events s => Decodes dec events s → ∀ message ∈ s.outgoing events sessionID,
    (∃ id, (requestItem dec message).item.about id = true) ∨
      ∃ opened, .post sessionID opened ∈ events ∧ message = tunnelOpenedMessage opened) ?_ ?_ hrun hdecodes message hmem
  · intro _ message hmem
    cases hmem
  · intro events s e next hbefore ih hstep hdecodes message hmem
    have hearlier := hdecodes.of_step hstep
    have hrequests := requests_of_run hbefore hearlier
    have hold : message ∈ s.outgoing events sessionID → (∃ id, (requestItem dec message).item.about id = true) ∨
        ∃ opened, .post sessionID opened ∈ events ++ [e] ∧ message = tunnelOpenedMessage opened := by
      intro hmem
      obtain habout | ⟨opened, hpost, rfl⟩ := ih hearlier message hmem
      · exact .inl habout
      · exact .inr ⟨opened, List.mem_append_left _ hpost, rfl⟩
    obtain hsame | ⟨pushed, hpushes, hmore⟩ := PublicSystem.step_outgoing_cases
      (PublicSystem.queues_of_run hbefore) hrequests.unmade hstep sessionID
    · rw [hsame] at hmem
      exact hold hmem
    · rw [hmore, List.mem_append, List.mem_singleton] at hmem
      obtain hmem | rfl := hmem
      · exact hold hmem
      · obtain ⟨id, e', h, queue, rfl, hlookup, _, hemits⟩ | ⟨opened, rfl, rfl⟩ := PublicSystem.pushes_cases hpushes
        · exact .inl ⟨h.id, emits_about (hearlier.requests _ h hlookup) (hrequests.own hlookup) hemits⟩
        · exact .inr ⟨opened, by simp, rfl⟩

/-- Whenever a handler puts the start of its request in the queue of its session, at most 31 other requests have been
    started there and neither ended nor cancelled. -/
def StartsLimited (dec : Decoder) (baseDomain : GoString) (events : List (PublicEvent Thread)) : Prop :=
  ∀ before id after s h queue message, events = before ++ .handler id .enqueue :: after →
    run (PublicSystem.step baseDomain) PublicSystem.start before = some s → s.handlers.lookup id = some h →
    h.phase = .enqueueing queue message .started →
    OpenAtMost 31 (requestItems dec (s.outgoing before h.tunnel.sessionID))

/-- Then at most 31 streams are open before any start that goes out on a session. -/
theorem openAtMost_of_startsLimited (hrun : run (PublicSystem.step baseDomain) PublicSystem.start events = some s)
    (hdecodes : Decodes dec events s) (hlimited : StartsLimited dec baseDomain events) {before after : List Message}
    {payload : HTTPRequestPayload} (hout : s.outgoing events sessionID = before ++ message :: after)
    (hstart : requestItem dec message = .start payload) : OpenAtMost 31 (requestItems dec before) := by
  refine run_induction (P := fun events s => Decodes dec events s → StartsLimited dec baseDomain events →
    ∀ before message after payload, s.outgoing events sessionID = before ++ message :: after →
      requestItem dec message = .start payload → OpenAtMost 31 (requestItems dec before))
    ?_ ?_ hrun hdecodes hlimited before message after payload hout hstart
  · intro _ _ before message after payload hout
    cases (List.append_eq_nil_iff.mp hout.symm).2
  · intro events s e next hbefore ih hstep hdecodes hlimited before message after payload hout hstart
    have hearlier := hdecodes.of_step hstep
    have hrequests := requests_of_run hbefore hearlier
    have hless : StartsLimited dec baseDomain events := by
      rintro before' id after' s' h queue message' rfl
      exact hlimited before' id (after' ++ [e]) s' h queue message' (by simp)
    obtain hsame | ⟨pushed, hpushes, hmore⟩ := PublicSystem.step_outgoing_cases
      (PublicSystem.queues_of_run hbefore) hrequests.unmade hstep sessionID
    · rw [hsame] at hout
      exact ih hearlier hless before message after payload hout hstart
    · rw [hmore] at hout
      cases after using List.reverseRecOn with
      | nil =>
        obtain ⟨rfl, hlast⟩ := List.append_inj' hout rfl
        cases hlast
        obtain ⟨id, e', h, queue, rfl, hlookup, rfl, hemits⟩ | ⟨opened, rfl, rfl⟩ := PublicSystem.pushes_cases hpushes
        · have hreads := hearlier.requests id h hlookup
          obtain ⟨rfl, hphase⟩ := started_of_emits hreads (hrequests.own hlookup) hemits hstart
          exact hlimited events id [] s h queue _ rfl hbefore hlookup hphase
        · rw [requestItem_other rfl (hdecodes.opened sessionID opened (by simp)) (by decide) (by decide) (by decide)]
            at hstart
          cases hstart
      | append_singleton after last =>
        rw [← List.cons_append, ← List.append_assoc] at hout
        exact ih hearlier hless before message after payload (List.append_inj' hout rfl).1 hstart

theorem length_outgoing_le (hrun : run (PublicSystem.step baseDomain) PublicSystem.start events = some s)
    (sessionID : GoString) : (s.outgoing events sessionID).length ≤ events.length := by
  refine run_induction (P := fun events s => (s.outgoing events sessionID).length ≤ events.length) ?_ ?_ hrun
  · exact Nat.le_refl 0
  · intro events s e next hbefore ih hstep
    rw [List.length_append, List.length_singleton]
    obtain hsame | ⟨pushed, _, hmore⟩ := PublicSystem.step_outgoing_cases
      (PublicSystem.queues_of_run hbefore) (PublicSystem.unmade_of_run hbefore) hstep sessionID
    · rw [hsame]
      omega
    · rw [hmore, List.length_append, List.length_singleton]
      omega

theorem startsLimited_of_length (hlength : events.length ≤ 32) : StartsLimited dec baseDomain events := by
  rintro before id after s h queue message rfl hrun _ _
  refine .of_length ?_
  have hout := length_outgoing_le hrun h.tunnel.sessionID
  simp only [requestItems, List.length_map, List.length_append, List.length_cons] at hlength ⊢
  omega

/-- Public traffic within the limits of the agent: in every run in which the requests are such as `net/http` hands over,
    each start message fits in a WebSocket message and finds fewer than 32 unfinished requests, the agent never returns
    an error for what it reads. -/
theorem agent_accepts_public_requests {baseDomain : GoString}
    (hrun : run (PublicSystem.step baseDomain) PublicSystem.start events = some s) (hdecodes : Decodes dec events s)
    (hadmitted : ∀ request now random, .route request now (some random) ∈ events → request.Framed ∧ random.length = 12)
    (hopened : ∀ sessionID opened, .post sessionID opened ∈ events →
      (tunnelOpenedMessage opened).data.length ≤ gatewayclient.websocketReadLimit)
    (hfits : ∀ request now random, .route request now (some random) ∈ events →
      (httpRequestStartMessage (startPayload request (publicRequestID random))).data.length ≤
        gatewayclient.websocketReadLimit) (hlimited : StartsLimited dec baseDomain events) (sessionID : GoString)
    {inputs : List Message} (hinputs : inputs <+: events.filterMap (PublicEvent.written sessionID)) :
    (run (Reading.step dec) Reading.start inputs).isSome := by
  induction inputs using List.reverseRecOn with
  | nil => rfl
  | append_singleton inputs message ih =>
    obtain ⟨reading, hread⟩ := Option.isSome_iff_exists.mp (ih ((List.prefix_append inputs [message]).trans hinputs))
    have hstep : (reading.step dec message).isSome := by
      have hlast : message ∈ events.filterMap (PublicEvent.written sessionID) :=
        hinputs.subset (List.mem_append_right _ (List.mem_singleton_self _))
      obtain ⟨e, hmem, hwritten⟩ := List.mem_filterMap.mp hlast
      cases e with
      | dequeue other taken =>
        have hout : message ∈ s.outgoing events sessionID :=
          List.mem_append_left _ (List.mem_filterMap.mpr ⟨_, hmem, hwritten⟩)
        obtain ⟨id, habout⟩ | ⟨opened, hpost, rfl⟩ := outgoing_known hrun hdecodes hout
        · obtain ⟨h, hlookup, _, hreads, hfollows⟩ := (requests_of_run hrun hdecodes).follows
            (PublicSystem.waiters hrun) hdecodes hinputs habout
          obtain ⟨hsmall, now, random, hroute, hid⟩ := routed_of_run hrun hlookup
          rw [PublicSystem.Waiters.keyed (PublicSystem.waiters hrun) hlookup] at hid
          obtain ⟨hframed, hrandom⟩ := hadmitted h.request now random hroute
          refine step_of_follows ⟨random, hrandom, hid.symm⟩ hframed hsmall
            (by rw [hid]; exact hfits h.request now random hroute) hreads (Reading.tracks hread) ?_ hfollows
          intro payload hstart
          obtain ⟨before, after, hsplit, hsame⟩ := exists_outgoing_of_start hdecodes hinputs hstart
          have hopen := openAtMost_of_startsLimited hrun hdecodes hlimited hsplit hstart
          refine Nat.lt_of_le_of_lt (len_le_of_tracks (Reading.tracks hread) (hopen.of_about ?_)) (by decide)
          intro id
          rw [about_requestItems, about_requestItems, hsame]
        · exact reading.step_of_type rfl (hopened _ _ hpost) (hdecodes.opened _ _ hpost) (by decide) (by decide)
      | beat other answer =>
        simp only [PublicEvent.written] at hwritten
        split at hwritten <;> cases hwritten
        cases answer with
        | false => exact reading.step_of_type rfl (by decide) hdecodes.ping (by decide) (by decide)
        | true => exact reading.step_of_type rfl (by decide) hdecodes.pong (by decide) (by decide)
      | _ => cases hwritten
    obtain ⟨next, hnext⟩ := Option.isSome_iff_exists.mp hstep
    rw [run_concat_eq_some.mpr ⟨reading, hread, hnext⟩]
    rfl

end System

theorem agent_accepts_public_requests_interleaved :
    (run (Reading.step uploadsDecoder) Reading.start
      (interleavedUploads.filterMap (PublicEvent.written (lit "ses_1")))).isSome := by
  obtain ⟨s, hs, hdecodes⟩ := uploadsDecoder_decodes
  have hroutes : ∀ request now random, .route request now (some random) ∈ interleavedUploads →
      (request = sampleRequest (lit "hi") ∧ now = 1 ∧ random = List.replicate 12 0) ∨
        (request = sampleRequest (lit "no") ∧ now = 2 ∧ random = List.replicate 12 1) := by
    simp [interleavedUploads, sampleArrival]
  refine agent_accepts_public_requests hs hdecodes ?_ ?_ ?_ (startsLimited_of_length (by decide)) (lit "ses_1")
    List.prefix_rfl
  · intro request now random hmem
    obtain ⟨rfl, _, rfl⟩ | ⟨rfl, _, rfl⟩ := hroutes request now random hmem
    · exact ⟨⟨by decide, fun _ => rfl⟩, rfl⟩
    · exact ⟨⟨by decide, fun _ => rfl⟩, rfl⟩
  · intro sessionID opened hmem
    simp [interleavedUploads, sampleArrival] at hmem
  · intro request now random hmem
    obtain ⟨rfl, _, rfl⟩ | ⟨rfl, _, rfl⟩ := hroutes request now random hmem <;> decide +kernel

/-- Decodes what is sent about the sample request. -/
def sampleDecoder (body : Bytes) : Decoder :=
  .positional 28 (startPayload (sampleRequest body)) fun id =>
    { requestID := id, statusCode := 200, headers := ∅, contentLength := -1, error := [] }

def slowUploadID (number : Nat) : GoString := publicRequestID (List.replicate 12 (UInt8.ofNat number))

/-- A client announces a body of one byte and does not send it. -/
def slowUpload (number : Nat) : List (PublicEvent Unit) :=
  [.route (sampleRequest (lit "a")) 1 (some (List.replicate 12 (UInt8.ofNat number))),
    .handler (slowUploadID number) (.register (lit "ses_1") number), .handler (slowUploadID number) (.lookup (some 0)),
    .handler (slowUploadID number) .enqueue, .dequeue (lit "ses_1")
      (httpRequestStartMessage (startPayload (sampleRequest (lit "a")) (slowUploadID number)))]

def slowUploads : List (PublicEvent Unit) :=
  [.connect sampleSession 1, .openTunnel sampleTunnel] ++ (List.range 33).flatMap slowUpload

theorem slowUploadID_isPublicRequestID (number : Nat) : IsPublicRequestID (slowUploadID number) :=
  ⟨_, List.length_replicate, rfl⟩

theorem sampleDecoder_reads (body : Bytes) (number : Nat) :
    ReadsRequest (sampleDecoder body) (sampleRequest body) (slowUploadID number) := by
  have hid := slowUploadID_isPublicRequestID number
  obtain ⟨hstart, hfinish, hcancel⟩ := @Decoder.positional_readsRequest 28 (startPayload (sampleRequest body)) _ _
    hid.length_eq hid.plain rfl
  exact ⟨hstart, hfinish, hcancel⟩

/-- The message that starts the stream of a slow upload. -/
def slowStart (number : Nat) : Message :=
  httpRequestStartMessage (startPayload (sampleRequest (lit "a")) (slowUploadID number))

theorem written_slowUploads :
    slowUploads.filterMap (PublicEvent.written (lit "ses_1")) = (List.range 33).map slowStart := by
  have hone : ∀ number, (slowUpload number).filterMap (PublicEvent.written (lit "ses_1")) = [slowStart number] :=
    fun _ => rfl
  have hopening : ([.connect sampleSession 1, .openTunnel sampleTunnel] : List (PublicEvent Unit)).filterMap
      (PublicEvent.written (lit "ses_1")) = [] := rfl
  rw [slowUploads, List.filterMap_append, hopening, List.nil_append, List.filterMap_flatMap, List.map_eq_flatMap]
  simp only [hone]

/-- The gateway starts a stream for each of 33 slow uploads, and the agent closes the session. -/
theorem agent_fails_on_slow_uploads :
    ∃ s reading message, run (PublicSystem.step (lit "tunnel.example")) PublicSystem.start slowUploads = some s ∧
      Decodes (sampleDecoder (lit "a")) slowUploads s ∧
      (slowUploads.filterMap (PublicEvent.written (lit "ses_1"))).getLast? = some message ∧
      run (Reading.step (sampleDecoder (lit "a"))) Reading.start
        (slowUploads.filterMap (PublicEvent.written (lit "ses_1"))).dropLast = some reading ∧
      gatewayclient.readMessage (sampleDecoder (lit "a")) reading.pending message =
        ok (.failed (lit "too many pending request streams")) := by
  have hgateway : (run (PublicSystem.step (lit "tunnel.example")) PublicSystem.start slowUploads).map
      (fun s => s.handlers.entries.map fun entry => (entry.2.request, entry.2.id)) =
      some ((List.range 33).reverse.map fun number => (sampleRequest (lit "a"), slowUploadID number)) := by
    decide +kernel
  have hagent : (run (Reading.step (sampleDecoder (lit "a"))) Reading.start ((List.range 32).map slowStart)).any
      (fun reading => gatewayclient.readMessage (sampleDecoder (lit "a")) reading.pending (slowStart 32) =
        ok (.failed (lit "too many pending request streams"))) = true := by decide +kernel
  obtain ⟨s, hs, hentries⟩ := Option.map_eq_some_iff.mp hgateway
  obtain ⟨reading, hreading, hfails⟩ := (Option.any_eq_true _ _).mp hagent
  have hwritten : slowUploads.filterMap (PublicEvent.written (lit "ses_1")) =
      (List.range 32).map slowStart ++ [slowStart 32] := by
    rw [written_slowUploads, List.range_succ, List.map_append, List.map_singleton]
  rw [hwritten, List.getLast?_concat, List.dropLast_concat]
  refine ⟨s, reading, _, hs, .of_entries hentries ?_ ?_ ⟨Decoder.emptyRequest [], by decide +kernel⟩
    ⟨Decoder.emptyRequest [], by decide +kernel⟩, rfl, hreading, of_decide_eq_true hfails⟩
  · intro entry hentry
    obtain ⟨number, _, rfl⟩ := List.mem_map.mp hentry
    exact sampleDecoder_reads (lit "a") number
  · intro sessionID payload hpost
    simp [slowUploads, slowUpload] at hpost

end myngrok.pipeline
