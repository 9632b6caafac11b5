import Myngrok.Pipeline.Cancellation
import Myngrok.Pipeline.PublicTraffic
import Myngrok.Tunnels.Respond
import Myngrok.Tunnels.Traffic

open golang Result websocket transition myngrok.protocol myngrok.tunnels
open myngrok.gateway (Response chunkMessage)

namespace myngrok.pipeline

/-- The bytes of a request body that a message carries. -/
def chunkLength (message : Message) : Nat :=
  match message.messageType, parseBinaryFrame message.data with
  | .binary, ok (.ok frame) => if frame.type = requestBodyChunk then frame.payload.length else 0
  | _, _ => 0

def bodyBytes (messages : List Message) : Nat := (messages.map chunkLength).sum

theorem bodyBytes_append (messages later : List Message) :
    bodyBytes (messages ++ later) = bodyBytes messages + bodyBytes later := by
  rw [bodyBytes, List.map_append, List.sum_append, bodyBytes, bodyBytes]

theorem chunkLength_chunkMessage {frame : BinaryFrame} (hformed : frame.WellFormed)
    (htype : frame.type = requestBodyChunk) : chunkLength (chunkMessage frame) = frame.payload.length := by
  have hparse : parseBinaryFrame frame.wire = ok (.ok frame) :=
    parseBinaryFrame_parsesFrames.eq_ok_iff.mpr (BinaryFrame.marshalBinary_of_wellFormed hformed)
  simp only [chunkLength, chunkMessage, hparse, if_pos htype]

variable {request : PublicRequest} {id : GoString}

/-- The frames of a request carry what was read of its body. -/
theorem bodyBytes_opening {pieces : List Bytes} (hcovers : Covers request id pieces) :
    bodyBytes (opening request id pieces) = pieces.flatten.length := by
  induction pieces using List.reverseRecOn with
  | nil => rfl
  | append_singleton pieces piece ih =>
    have hlast := chunkLength_chunkMessage hcovers.last_formed rfl
    rw [opening_concat, bodyBytes_append, ih hcovers.left, bodyBytes, List.map_singleton, List.sum_singleton, hlast,
      List.flatten_append, List.flatten_singleton, List.length_append]
    rfl

/-- A request that was sent to its end was sent whole. -/
theorem bodyBytes_ended {eof : Prop} {out : List Message} (hended : Ended request id eof out) :
    bodyBytes out = request.body.length := by
  obtain ⟨pieces, hcovers, rfl, -, hwhole⟩ := hended
  rw [bodyBytes_append, bodyBytes_opening hcovers, hwhole]
  rfl

/-- A response of the agent that was passed on. -/
structure Answer where
  id : GoString
  request : PublicRequest
  response : Response
  deriving DecidableEq

/-- What `RecordTraffic` is told about it. -/
def Answer.traffic (a : Answer) : TrafficMetrics := .ofRequest a.request.contentLength a.response.body.length

section System

variable {Thread : Type} [DecidableEq Thread]

/-- The messages that an event puts into an outbound queue for a request. -/
def emitted (id : GoString) (s : PublicSystem Thread) : PublicEvent Thread → List Message
  | .handler own e =>
    if own = id then ((s.handlers.lookup id).bind fun h => (h.emits e).map Prod.snd).toList else []
  | _ => []

/-- A request is answered with the response of the agent while its tunnel is open. -/
def answers (s : PublicSystem Thread) : PublicEvent Thread → List Answer
  | .handler id (.receive _ response) =>
    match s.handlers.lookup id with
    | some h =>
      if response.error = [] ∧ h.tunnel.id ∈ s.registry.byID then [{ id, request := h.request, response }] else []
    | none => []
  | _ => []

/-- All messages that went out for a request. -/
def sentFor (baseDomain : GoString) (events : List (PublicEvent Thread)) (id : GoString) : List Message :=
  outputs (PublicSystem.step baseDomain) (emitted id) PublicSystem.start events

/-- All requests that were answered so. -/
def answered (baseDomain : GoString) (events : List (PublicEvent Thread)) : List Answer :=
  outputs (PublicSystem.step baseDomain) answers PublicSystem.start events

/-- The requests that are answered announce the length of their bodies, or have none, and the bodies of the answers can
    reach the clients. -/
def countsExactly (s : PublicSystem Thread) (e : PublicEvent Thread) : Bool :=
  (answers s e).all fun a =>
    (0 ≤ a.request.contentLength || a.request.body = []) && returnsBody a.request.method a.response

variable {baseDomain : GoString} {events : List (PublicEvent Thread)} {s next s' : PublicSystem Thread} {h h' : Handler}
  {e : HandlerEvent} {own : GoString} {a : Answer}

theorem sentFor_concat (hrun : run (PublicSystem.step baseDomain) PublicSystem.start events = some s)
    (e : PublicEvent Thread) (id : GoString) :
    sentFor baseDomain (events ++ [e]) id = sentFor baseDomain events id ++ emitted id s e :=
  outputs_concat hrun e

theorem answered_concat (hrun : run (PublicSystem.step baseDomain) PublicSystem.start events = some s)
    (e : PublicEvent Thread) : answered baseDomain (events ++ [e]) = answered baseDomain events ++ answers s e :=
  outputs_concat hrun e

omit [DecidableEq Thread] in
theorem emitted_handler (hlookup : s.handlers.lookup own = some h) (id : GoString) :
    emitted id s (.handler own e) = if id = own then ((h.emits e).map Prod.snd).toList else [] := by
  rw [emitted]
  by_cases hsame : own = id
  · subst hsame
    rw [if_pos rfl, if_pos rfl, hlookup]
    rfl
  · rw [if_neg hsame, if_neg (Ne.symm hsame)]

/-- What an action of a handler adds to the traffic. -/
theorem acts_traffic (hlookup : s.handlers.lookup own = some h) (hacts : s.Acts h e s' h') :
    s'.registry.traffic = s.registry.traffic + ((answers s (.handler own e)).map Answer.traffic).sum := by
  cases hacts with
  | @receive response calls hphase hcall =>
    have hrecorded : (PublicSystem.recordResponse h response s.registry).traffic =
        s.registry.traffic + ((answers s (.handler own (.receive h.ch response))).map Answer.traffic).sum := by
      simp only [PublicSystem.recordResponse, answers, hlookup]
      by_cases herror : response.error = []
      · rw [if_neg (fun hne => hne herror), Registry.recordTraffic_traffic]
        by_cases hopen : h.tunnel.id ∈ s.registry.byID
        · rw [if_pos hopen, if_pos ⟨herror, hopen⟩, List.map_singleton, List.sum_singleton]
          rfl
        · rw [if_neg hopen, if_neg fun hboth => hopen hboth.2]
          exact (add_zero _).symm
      · rw [if_pos herror, if_neg fun hboth => herror hboth.1]
        exact (add_zero _).symm
    exact hrecorded
  | _ => exact (add_zero _).symm

/-- What was sent of a request is in step with its handler, and the traffic is that of the requests that were answered,
    all of which were sent whole. -/
structure Counts (baseDomain : GoString) (events : List (PublicEvent Thread)) (s : PublicSystem Thread) : Prop where
  sent : ∀ id h, s.handlers.lookup id = some h → h.HasSent True (sentFor baseDomain events id)
  unsent : ∀ id, s.handlers.lookup id = none → sentFor baseDomain events id = []
  whole : ∀ a ∈ answered baseDomain events, ∃ h, s.handlers.lookup a.id = some h ∧ h.request = a.request ∧
    h.phase.left = true ∧ bodyBytes (sentFor baseDomain events a.id) = a.request.body.length
  traffic : s.registry.traffic = ((answered baseDomain events).map Answer.traffic).sum

/-- Other events than the actions of handlers send nothing, and answer nothing. -/
theorem Counts.quiet {e : PublicEvent Thread} (hcounts : Counts baseDomain events s)
    (hrun : run (PublicSystem.step baseDomain) PublicSystem.start events = some s)
    (hstep : s.step baseDomain e = some next) (hother : ∀ own action, e ≠ .handler own action)
    (hkept : ∀ id h, s.handlers.lookup id = some h → next.handlers.lookup id = some h)
    (htraffic : next.registry.traffic = s.registry.traffic) : Counts baseDomain (events ++ [e]) next := by
  have hsent : ∀ id, sentFor baseDomain (events ++ [e]) id = sentFor baseDomain events id := by
    intro id
    rw [sentFor_concat hrun]
    cases e with
    | handler own action => exact absurd rfl (hother own action)
    | _ => exact List.append_nil _
  have hanswered : answered baseDomain (events ++ [e]) = answered baseDomain events := by
    rw [answered_concat hrun]
    cases e with
    | handler own action => exact absurd rfl (hother own action)
    | _ => exact List.append_nil _
  refine ⟨?_, ?_, ?_, ?_⟩
  · intro id h hlookup
    rw [hsent]
    obtain hold | ⟨hnone, hphase⟩ := lookup_of_step hstep (hother id) hlookup
    · exact hcounts.sent id h hold
    · rw [hcounts.unsent id hnone, Handler.HasSent, hphase]
      rfl
  · intro id hnone
    rw [hsent]
    refine hcounts.unsent id ?_
    cases hold : s.handlers.lookup id with
    | none => rfl
    | some h =>
      rw [hkept id h hold] at hnone
      cases hnone
  · intro a hmem
    rw [hanswered] at hmem
    rw [hsent]
    obtain ⟨h, hlookup, hwhole⟩ := hcounts.whole a hmem
    exact ⟨h, hkept a.id h hlookup, hwhole⟩
  · rw [htraffic, hanswered]
    exact hcounts.traffic

/-- A call that has answered its client sends nothing more of its request. -/
theorem left_of_acts (hacts : s.Acts h e s' h') (hleft : h.phase.left = true) :
    h'.phase.left = true ∧ h.emits e = none := by
  cases hacts with
  | cancelRequest hphase hcall =>
    exact ⟨rfl, by simp only [Handler.emits, hphase]⟩
  | register hphase | lookupFound hphase | lookupMissing hphase | enqueue hphase | sendDone hphase | read hphase
  | receive hphase | waitDone hphase | timeout hphase | cancelFound hphase | cancelMissing hphase | offered hphase
  | refused hphase =>
    rw [hphase] at hleft
    cases hleft

theorem ended_of_waiting {eof : Prop} {out : List Message} (hsent : h.HasSent eof out) (hphase : h.phase = .waiting) :
    Ended h.request h.id eof out := by
  have hended : Sent h.request h.id eof out h.phase := hsent
  rw [hphase] at hended
  exact hended

/-- An answer is given by a handler that waits. -/
theorem answers_of_acts (hlookup : s.handlers.lookup own = some h) (hacts : s.Acts h e s' h')
    (hmem : a ∈ answers s (.handler own e)) :
    a.id = own ∧ a.request = h.request ∧ h.phase = .waiting ∧ h'.phase.left = true ∧ h.emits e = none := by
  cases hacts with
  | receive hphase hcall =>
    simp only [answers, hlookup] at hmem
    split at hmem
    · rw [List.mem_singleton] at hmem
      subst hmem
      exact ⟨rfl, rfl, hphase, rfl, by simp only [Handler.emits, hphase]⟩
    · cases hmem
  | _ => cases hmem

theorem Counts.handler (hcounts : Counts baseDomain events s)
    (hrun : run (PublicSystem.step baseDomain) PublicSystem.start events = some s)
    (hlookup : s.handlers.lookup own = some h) (hacts : s.Acts h e s' h') :
    Counts baseDomain (events ++ [.handler own e]) (s'.setHandler own h') := by
  have hsent : ∀ id, sentFor baseDomain (events ++ [.handler own e]) id = sentFor baseDomain events id ++
      if id = own then ((h.emits e).map Prod.snd).toList else [] := by
    intro id
    rw [sentFor_concat hrun, emitted_handler hlookup]
  have hsilent : h.emits e = none → ∀ id, sentFor baseDomain (events ++ [.handler own e]) id =
      sentFor baseDomain events id := by
    intro hnone id
    rw [hsent, hnone]
    split
    · exact List.append_nil _
    · exact List.append_nil _
  have hother : ∀ id, id ≠ own → sentFor baseDomain (events ++ [.handler own e]) id = sentFor baseDomain events id := by
    intro id hne
    rw [hsent, if_neg hne, List.append_nil]
  have hhandlers : s'.handlers = s.handlers := hacts.frame.2.2.1
  refine ⟨?_, ?_, ?_, ?_⟩
  · intro id found hfound
    rw [PublicSystem.setHandler_lookup, hhandlers] at hfound
    split at hfound
    · next hsame =>
      cases hfound
      rw [hsent, if_pos hsame, hsame]
      exact (hcounts.sent own h hlookup).acts hacts (fun htrue => htrue) fun _ _ => trivial
    · next hne =>
      rw [hother id hne]
      exact hcounts.sent id found hfound
  · intro id hnone
    rw [PublicSystem.setHandler_lookup, hhandlers] at hnone
    split at hnone
    · cases hnone
    · next hne =>
      rw [hother id hne]
      exact hcounts.unsent id hnone
  · intro a hmem
    rw [answered_concat hrun, List.mem_append] at hmem
    simp only [PublicSystem.setHandler_lookup, hhandlers]
    obtain hmem | hmem := hmem
    · obtain ⟨found, hfound, hrequest, hleft, hwhole⟩ := hcounts.whole a hmem
      by_cases hsame : a.id = own
      · rw [hsame, hlookup] at hfound
        cases hfound
        obtain ⟨hleft', hnone⟩ := left_of_acts hacts hleft
        rw [if_pos hsame, hsilent hnone]
        exact ⟨h', rfl, (acts_request hacts).1.trans hrequest, hleft', hwhole⟩
      · rw [if_neg hsame, hother a.id hsame]
        exact ⟨found, hfound, hrequest, hleft, hwhole⟩
    · obtain ⟨hid, hrequest, hphase, hleft, hnone⟩ := answers_of_acts hlookup hacts hmem
      rw [if_pos hid, hsilent hnone, hid, hrequest]
      exact ⟨h', rfl, (acts_request hacts).1, hleft,
        bodyBytes_ended (ended_of_waiting (hcounts.sent own h hlookup) hphase)⟩
  · have htraffic := acts_traffic hlookup hacts
    rw [answered_concat hrun, List.map_append, List.sum_append, ← hcounts.traffic]
    exact htraffic

theorem counts_of_run (hrun : run (PublicSystem.step baseDomain) PublicSystem.start events = some s) :
    Counts baseDomain events s := by
  apply run_induction (P := fun events s => Counts baseDomain events s) _ _ hrun
  · exact ⟨nofun, fun _ _ => rfl, nofun, rfl⟩
  · intro events s e next hrun ih hstep
    cases PublicSystem.step_cases hstep with
    | routed hroute hfresh =>
      refine ih.quiet hrun hstep nofun ?_ rfl
      intro id h hlookup
      rw [PublicSystem.setHandler_lookup, if_neg]
      · exact hlookup
      · rintro rfl
        exact hfresh ((Map.mem_iff_lookup _ _).mpr ⟨h, hlookup⟩)
    | handler hlookup hacts => exact ih.handler hrun hlookup hacts
    | closeTunnel id => exact ih.quiet hrun hstep nofun (fun _ _ h => h) (Registry.close_traffic s.registry id).1
    | closeSession sessionID horder =>
      exact ih.quiet hrun hstep nofun (fun _ _ h => h) (Registry.closeSession_traffic s.registry sessionID _).1
    | _ => exact ih.quiet hrun hstep nofun (fun _ _ h => h) rfl

theorem traffic_sum (answers : List Answer) :
    (answers.map Answer.traffic).sum.requestBytes =
        UInt64.ofNat (answers.map fun a => (max 0 a.request.contentLength).toNat).sum ∧
      (answers.map Answer.traffic).sum.responseBytes = UInt64.ofNat (answers.map fun a => a.response.body.length).sum := by
  induction answers with
  | nil => exact ⟨rfl, rfl⟩
  | cons a answers ih =>
    simp only [List.map_cons, List.sum_cons, UInt64.ofNat_add, ← ih.1, ← ih.2]
    exact ⟨rfl, rfl⟩

/-- A request that was answered came in with this body. -/
theorem route_of_answered (hrun : run (PublicSystem.step baseDomain) PublicSystem.start events = some s)
    (hmem : a ∈ answered baseDomain events) : ∃ now random, .route a.request now (some random) ∈ events := by
  obtain ⟨h, hlookup, hrequest, -⟩ := (counts_of_run hrun).whole a hmem
  obtain ⟨-, now, random, hroute, -⟩ := routed_of_run hrun hlookup
  rw [hrequest] at hroute
  exact ⟨now, random, hroute⟩

omit [DecidableEq Thread] in
/-- Only responses without an error are answers. -/
theorem answers_error {e : PublicEvent Thread} (hmem : a ∈ answers s e) : a.response.error = [] := by
  unfold answers at hmem
  repeat' split at hmem
  · next hboth =>
    rw [List.mem_singleton] at hmem
    subst hmem
    exact hboth.1
  all_goals cases hmem

theorem exact_of_run (hrun : run (PublicSystem.step baseDomain) PublicSystem.start events = some s)
    (hexact : AllSteps (PublicSystem.step baseDomain) (fun s e => countsExactly s e = true) PublicSystem.start
      events) :
    ∀ a ∈ answered baseDomain events, a.response.error = [] ∧
      (0 ≤ a.request.contentLength ∨ a.request.body = []) ∧ returnsBody a.request.method a.response = true := by
  apply run_induction_of_steps (P := fun events _ => ∀ a ∈ answered baseDomain events, a.response.error = [] ∧
    (0 ≤ a.request.contentLength ∨ a.request.body = []) ∧ returnsBody a.request.method a.response = true) _ _ hrun hexact
  · nofun
  · intro events s e next hrun ih hallowed _ a hmem
    rw [answered_concat hrun, List.mem_append] at hmem
    obtain hmem | hmem := hmem
    · exact ih a hmem
    · have hcounted := List.all_eq_true.mp hallowed a hmem
      rw [Bool.and_eq_true] at hcounted
      exact ⟨answers_error hmem, by simpa using hcounted.1, hcounted.2⟩

/-- The counters count bytes: in every run in which the requests that are answered announce the length of their bodies
    and the answers have bodies that net/http sends, `RequestBytes` is the number of body bytes that went out for them
    in frames, and `ResponseBytes` the number of body bytes that the clients got. -/
theorem bytes_counted (hrun : run (PublicSystem.step baseDomain) PublicSystem.start events = some s)
    (hframed : ∀ request now random, .route request now random ∈ events → request.Framed)
    (hexact : AllSteps (PublicSystem.step baseDomain) (fun s e => countsExactly s e = true) PublicSystem.start
      events) (order : Answer → List (Sigma fun _ : GoString => List GoString))
    (horder : ∀ a, (order a).Perm (tunnels.withoutHopByHopHeaders a.response.headers).entries) :
    s.registry.trafficMetrics.requestBytes =
        UInt64.ofNat (((answered baseDomain events).map fun a => bodyBytes (sentFor baseDomain events a.id)).sum) ∧
      s.registry.trafficMetrics.responseBytes =
        UInt64.ofNat (((answered baseDomain events).map fun a =>
          (returned (order a) a.request.method a.response).length).sum) := by
  have hcounts := counts_of_run hrun
  rw [Registry.trafficMetrics, hcounts.traffic, (traffic_sum _).1, (traffic_sum _).2]
  refine ⟨congrArg (fun lengths => UInt64.ofNat (List.sum lengths)) (List.map_congr_left ?_),
    congrArg (fun lengths => UInt64.ofNat (List.sum lengths)) (List.map_congr_left ?_)⟩
  · intro a hmem
    obtain ⟨h, -, -, -, hwhole⟩ := hcounts.whole a hmem
    obtain ⟨now, random, hroute⟩ := route_of_answered hrun hmem
    have hframe := hframed _ _ _ hroute
    obtain ⟨-, hannounces, -⟩ := exact_of_run hrun hexact a hmem
    rw [hwhole]
    obtain hknown | hunknown := lt_or_ge (-1 : Int) a.request.contentLength
    · have hbody := hframe.whole (by omega)
      omega
    · have hempty := hannounces.resolve_left (by omega)
      rw [hempty, List.length_nil]
      omega
  · intro a hmem
    obtain ⟨herror, -, hreturns⟩ := exact_of_run hrun hexact a hmem
    rw [returned_of_returnsBody (horder a) herror hreturns]

end System

def helloResponse : Response := { statusCode := 200, headers := ∅, body := lit "hello", error := [] }

/-- One request with a body of three bytes, sent in one frame, and its answer. -/
def uploadAnswered (request : PublicRequest) : List (PublicEvent Unit) :=
  let id := publicRequestID (List.replicate 12 0)
  [.connect sampleSession 1, .openTunnel sampleTunnel, .route request 1 (some (List.replicate 12 0)),
    .handler id (.register (lit "ses_1") 0), .handler id (.lookup (some 0)), .handler id .enqueue,
    .handler id (.read 3 (some .eof)), .handler id (.lookup (some 0)), .handler id .enqueue,
    .handler id (.lookup (some 0)), .handler id .enqueue, .call (.deliverLocked () id helloResponse),
    .call (.deliverSend () 0 helloResponse), .call (.deliverReturn () true), .handler id (.receive 0 helloResponse)]

theorem bytes_counted_upload :
    ∃ s, run (PublicSystem.step (lit "tunnel.example")) PublicSystem.start
        (uploadAnswered (sampleRequest (lit "abc"))) = some s ∧
      s.registry.trafficMetrics.requestBytes = 3 ∧ s.registry.trafficMetrics.responseBytes = 5 ∧
      s.registry.trafficMetrics.requestBytes = UInt64.ofNat
        (((answered (lit "tunnel.example") (uploadAnswered (sampleRequest (lit "abc")))).map fun a =>
          bodyBytes (sentFor (lit "tunnel.example") (uploadAnswered (sampleRequest (lit "abc"))) a.id)).sum) ∧
      s.registry.trafficMetrics.responseBytes = UInt64.ofNat
        (((answered (lit "tunnel.example") (uploadAnswered (sampleRequest (lit "abc")))).map fun a =>
          (returned (tunnels.withoutHopByHopHeaders a.response.headers).entries a.request.method a.response).length).sum) := by
  have hfacts : (run (PublicSystem.step (lit "tunnel.example")) PublicSystem.start
      (uploadAnswered (sampleRequest (lit "abc")))).any
        (fun s => s.registry.trafficMetrics.requestBytes = 3 ∧ s.registry.trafficMetrics.responseBytes = 5) = true := by
    decide +kernel
  obtain ⟨s, hrun, hbytes⟩ := (Option.any_eq_true _ _).mp hfacts
  have hframed : ∀ request now random, .route request now random ∈ uploadAnswered (sampleRequest (lit "abc")) →
      request.Framed := by
    intro request now random hmem
    obtain ⟨rfl, -⟩ : request = sampleRequest (lit "abc") ∧ now = 1 ∧ random = some (List.replicate 12 0) := by
      simpa [uploadAnswered] using hmem
    exact ⟨by decide, fun _ => rfl⟩
  obtain ⟨hrequests, hresponses⟩ := of_decide_eq_true hbytes
  exact ⟨s, hrun, hrequests, hresponses,
    bytes_counted hrun hframed (by decide +kernel) _ fun a => List.Perm.refl _⟩

/-- The same body in chunked encoding goes out in the same frame, and is not counted. -/
theorem chunked_bytes_lost : ({ sampleRequest (lit "abc") with contentLength := -1 } : PublicRequest).Framed ∧
    ∃ s, run (PublicSystem.step (lit "tunnel.example")) PublicSystem.start
        (uploadAnswered { sampleRequest (lit "abc") with contentLength := -1 }) = some s ∧
      s.registry.trafficMetrics.requestBytes = 0 ∧
      ((answered (lit "tunnel.example") (uploadAnswered { sampleRequest (lit "abc") with contentLength := -1 })).map
        fun a => bodyBytes (sentFor (lit "tunnel.example")
          (uploadAnswered { sampleRequest (lit "abc") with contentLength := -1 }) a.id)).sum = 3 := by
  have hfacts : (run (PublicSystem.step (lit "tunnel.example")) PublicSystem.start
      (uploadAnswered { sampleRequest (lit "abc") with contentLength := -1 })).any
        (fun s => s.registry.trafficMetrics.requestBytes = 0) = true := by decide +kernel
  obtain ⟨s, hrun, hbytes⟩ := (Option.any_eq_true _ _).mp hfacts
  exact ⟨⟨by decide, by decide⟩, s, hrun, of_decide_eq_true hbytes, by decide +kernel⟩

end myngrok.pipeline
