import Myngrok.Pipeline.ExactlyOnce
import Myngrok.Pipeline.Tunnelling
import Myngrok.Tunnels.Replies

open golang Result websocket transition myngrok.protocol myngrok.tunnels
open myngrok.gateway (Response)
open myngrok.gatewayclient (Job Reading Request LocalAnswer)

namespace myngrok.pipeline

variable {n : Nat} {dec : Decoder} {capacity : Nat} {localAddress : GoString}

/-- Nothing is delivered but the responses of jobs, as their workers read them. -/
theorem delivered_answers (haddress : localAddress ≠ []) (hpong : dec.ReadsPong) {events : List (RespondingEvent n)}
    {s : Responding n} (hrun : run (Responding.step dec localAddress capacity) Responding.start events = some s)
    (hattributed : Attributed dec localAddress (jobs events)) :
    ∀ d ∈ s.delivered, ∃ job ∈ jobs events, d = (job.request.id, jobResponse (job.outcome localAddress)) := by
  revert hattributed
  apply run_induction (P := fun events s => Attributed dec localAddress (jobs events) →
    ∀ d ∈ s.delivered, ∃ job ∈ jobs events, d = (job.request.id, jobResponse (job.outcome localAddress))) _ _ hrun
  · intro _ d hmem
    cases hmem
  · intro events s e next hbefore ih hstep hattributed
    have hreception := reception_of_run haddress hpong (run_concat_eq_some.mpr ⟨s, hbefore, hstep⟩) hattributed
    -- While the session loop goes on, each response is the one its job was heard to give.
    have hopen : ∀ responses, next.responses = some responses → ∀ d ∈ next.delivered,
        ∃ job ∈ jobs (events ++ [e]), d = (job.request.id, jobResponse (job.outcome localAddress)) := by
      intro responses hresponses d hmem
      have hreceipt := hreception.receipt responses hresponses
      obtain ⟨job, hjob, hid⟩ := hreceipt.own d hmem
      have hown : d ∈ deliveries job.request.id next.delivered :=
        List.mem_filter.mpr ⟨hmem, decide_eq_true hid.symm⟩
      rw [hreceipt.whole job hjob] at hown
      split at hown
      · exact ⟨job, hjob, List.mem_singleton.mp hown⟩
      · cases hown
    have hsame : next.delivered = s.delivered → ∀ d ∈ next.delivered, ∃ job ∈ jobs (events ++ [e]),
        d = (job.request.id, jobResponse (job.outcome localAddress)) := by
      intro heq d hmem
      rw [jobs, filterMap_concat, ← jobs] at hattributed ⊢
      obtain ⟨job, hjob, hd⟩ := ih hattributed.left d (heq ▸ hmem)
      exact ⟨job, List.mem_append_left _ hjob, hd⟩
    cases Responding.step_cases hstep with
    | inbound => exact hopen _ rfl
    | _ => exact hsame rfl

/-- The job that a worker of the session takes. -/
def TunnelEvent.takenBy (sessionID : GoString) : TunnelEvent n → Option Job
  | .take other _ job => if other = sessionID then some job else none
  | _ => none

theorem Responding.delivered_subset {s next : Responding n} {e : RespondingEvent n}
    (h : s.step dec localAddress capacity e = some next) : s.delivered ⊆ next.delivered := by
  cases step_cases h with
  | inbound => exact List.subset_append_left _ _
  | _ => exact List.Subset.refl _

theorem Endpoint.pong_delivered {endpoint : Endpoint n} {message : Message} {responding : Responding n}
    (h : endpoint.pong dec localAddress capacity message = some responding) :
    endpoint.responding.delivered ⊆ responding.delivered := by
  unfold Endpoint.pong at h
  split at h
  · exact Responding.delivered_subset h
  · cases h
    exact List.Subset.refl _

namespace Tunnelling

variable {baseDomain sessionID : GoString} {localAddress : GoString → GoString} {events : List (TunnelEvent n)}
  {s next : Tunnelling n} {e : TunnelEvent n}

/-- How the parts of a run fit together, for one session. -/
structure Joined (dec : Decoder) (sessionID : GoString) (events : List (TunnelEvent n)) (endpoint : Endpoint n) :
    Prop where
  read : events.filterMap (TunnelEvent.readBy sessionID) ++ endpoint.unread =
    (events.filterMap TunnelEvent.gatewayEvent).filterMap (PublicEvent.written sessionID)
  jobs : jobs (events.filterMap (TunnelEvent.respondingEvent dec sessionID)) =
    events.filterMap (TunnelEvent.takenBy sessionID)
  taken : (events.filterMap (TunnelEvent.takenBy sessionID)).map (·.request) =
    endpoint.reading.dispatched.take endpoint.taken
  bound : endpoint.taken ≤ endpoint.reading.dispatched.length
  passed : ∀ id response, .call (.deliverLocked sessionID id response) ∈ events.filterMap TunnelEvent.gatewayEvent →
    (id, response) ∈ endpoint.responding.delivered

/-- What one more event has to fit. -/
theorem Joined.concat {endpoint endpoint' : Endpoint n} (h : Joined dec sessionID events endpoint)
    (hread : endpoint.unread ++ e.gatewayEvent.toList.filterMap (PublicEvent.written sessionID) =
      (e.readBy sessionID).toList ++ endpoint'.unread)
    (hjobs : pipeline.jobs (e.respondingEvent dec sessionID).toList = (e.takenBy sessionID).toList)
    (htaken : endpoint.reading.dispatched.take endpoint.taken ++ (e.takenBy sessionID).toList.map (·.request) =
      endpoint'.reading.dispatched.take endpoint'.taken)
    (hbound : endpoint'.taken ≤ endpoint'.reading.dispatched.length)
    (hkept : endpoint.responding.delivered ⊆ endpoint'.responding.delivered)
    (hpassed : ∀ id response, e.gatewayEvent = some (.call (.deliverLocked sessionID id response)) →
      (id, response) ∈ endpoint'.responding.delivered) : Joined dec sessionID (events ++ [e]) endpoint' := by
  refine ⟨?_, ?_, ?_, hbound, ?_⟩
  · rw [filterMap_concat, filterMap_concat, List.filterMap_append, List.append_assoc, ← hread, ← List.append_assoc,
      h.read]
  · rw [filterMap_concat, filterMap_concat, pipeline.jobs, List.filterMap_append, ← pipeline.jobs, h.jobs,
      ← pipeline.jobs, hjobs]
  · rw [filterMap_concat, List.map_append, h.taken, htaken]
  · intro id response hmem
    rw [filterMap_concat, List.mem_append, Option.mem_toList] at hmem
    obtain hmem | hmem := hmem
    · exact hkept (h.passed id response hmem)
    · exact hpassed id response hmem

theorem Joined.step (h : Joined dec sessionID events (s.endpoints sessionID))
    (hstep : s.step dec baseDomain localAddress capacity e = some next) :
    Joined dec sessionID (events ++ [e]) (next.endpoints sessionID) := by
  cases step_cases hstep with
  | @gateway e gateway hallows hgateway =>
    refine h.concat ?_ rfl (List.append_nil _) h.bound (List.Subset.refl _) ?_
    · cases hwritten : e.written sessionID <;> simp [TunnelEvent.gatewayEvent, TunnelEvent.readBy, Endpoint.written, hwritten]
    · rintro id response ⟨⟩
      cases hallows
  | @read other message rest reading responding hunread hreading hpong hroom =>
    rw [setEndpoint_endpoints]
    split
    · rename_i hother
      subst hother
      obtain ⟨effects, _, hdispatched⟩ := Reading.step_receives hreading
      refine h.concat ?_ ?_ ?_ ?_ (Endpoint.pong_delivered hpong) (fun _ _ hnone => by cases hnone)
      · simp [TunnelEvent.gatewayEvent, TunnelEvent.readBy, hunread]
      · simp only [TunnelEvent.respondingEvent, if_pos]
        split <;> rfl
      · show _ = reading.dispatched.take _
        rw [hdispatched, List.take_append_of_le_length h.bound]
        exact List.append_nil _
      · show _ ≤ reading.dispatched.length
        rw [hdispatched, List.length_append]
        exact Nat.le_add_right_of_le h.bound
    · rename_i hother
      have hne : ¬ other = sessionID := fun heq => hother heq.symm
      refine h.concat ?_ ?_ (List.append_nil _) h.bound (List.Subset.refl _) (fun _ _ hnone => by cases hnone)
      · simp [TunnelEvent.gatewayEvent, TunnelEvent.readBy, hne]
      · simp only [TunnelEvent.respondingEvent, if_neg hne]
        rfl
  | @take other w job responding hnext hresponding =>
    rw [setEndpoint_endpoints]
    split
    · rename_i hother
      subst hother
      obtain ⟨hlt, hget⟩ := List.getElem?_eq_some_iff.mp hnext
      refine h.concat ?_ ?_ ?_ hlt (Responding.delivered_subset hresponding) (fun _ _ hnone => by cases hnone)
      · simp [TunnelEvent.gatewayEvent, TunnelEvent.readBy]
      · simp only [TunnelEvent.respondingEvent, TunnelEvent.takenBy, if_pos]
        rfl
      · simp [TunnelEvent.takenBy, List.take_add_one, hnext]
    · rename_i hother
      have hne : ¬ other = sessionID := fun heq => hother heq.symm
      refine h.concat ?_ ?_ ?_ h.bound (List.Subset.refl _) (fun _ _ hnone => by cases hnone)
      · simp [TunnelEvent.gatewayEvent, TunnelEvent.readBy]
      · simp only [TunnelEvent.respondingEvent, TunnelEvent.takenBy, if_neg hne]
        rfl
      · simp [TunnelEvent.takenBy, hne]
  | @respond other e responding hallows hresponding =>
    rw [setEndpoint_endpoints]
    have hjob : e.job = none := by
      cases e with
      | take => cases hallows
      | _ => rfl
    have hjobs : pipeline.jobs (TunnelEvent.respondingEvent dec sessionID (.respond other e)).toList = [] := by
      simp only [TunnelEvent.respondingEvent]
      split
      · rw [pipeline.jobs, Option.toList_some, List.filterMap_cons, hjob]
        rfl
      · rfl
    split
    · rename_i hother
      subst hother
      exact h.concat (by simp [TunnelEvent.gatewayEvent, TunnelEvent.readBy]) hjobs (List.append_nil _) h.bound
        (Responding.delivered_subset hresponding) (fun _ _ hnone => by cases hnone)
    · exact h.concat (by simp [TunnelEvent.gatewayEvent, TunnelEvent.readBy]) hjobs (List.append_nil _) h.bound
        (List.Subset.refl _) (fun _ _ hnone => by cases hnone)
  | @deliver other id response gateway hdue hgateway =>
    rw [setEndpoint_endpoints]
    split
    · rename_i hother
      subst hother
      refine h.concat (by simp [TunnelEvent.gatewayEvent, TunnelEvent.readBy, PublicEvent.written]) rfl
        (List.append_nil _) h.bound (List.Subset.refl _) ?_
      rintro _ _ ⟨⟩
      exact List.mem_of_getElem? hdue
    · rename_i hother
      refine h.concat (by simp [TunnelEvent.gatewayEvent, TunnelEvent.readBy, PublicEvent.written]) rfl
        (List.append_nil _) h.bound (List.Subset.refl _) ?_
      rintro _ _ ⟨⟩
      exact absurd rfl hother

theorem joined_of_run (h : run (step dec baseDomain localAddress capacity) start events = some s)
    (sessionID : GoString) : Joined dec sessionID events (s.endpoints sessionID) := by
  apply run_induction (P := fun events s => Joined dec sessionID events (s.endpoints sessionID)) _ _ h
  · exact ⟨rfl, rfl, rfl, Nat.zero_le _, fun _ _ hmem => by cases hmem⟩
  · intro events s e next _ ih hstep
    exact ih.step hstep

/-- What the workers of a session have taken: whole requests for its own tunnels, each once. -/
theorem taken_whole (hrun : run (step dec baseDomain localAddress capacity) start events = some s)
    (hdecodes : Decodes dec (events.filterMap TunnelEvent.gatewayEvent) s.gateway) (sessionID : GoString) :
    (∀ job ∈ events.filterMap (TunnelEvent.takenBy sessionID), ∃ h,
      s.gateway.handlers.lookup job.request.id = some h ∧ h.tunnel.sessionID = sessionID ∧
        job.request = wholeRequest h.request job.request.id) ∧
    ((events.filterMap (TunnelEvent.takenBy sessionID)).map (·.request.id)).Nodup := by
  have hjoined := joined_of_run hrun sessionID
  have hexecuted := executed_of_run (run_gateway hrun) hdecodes ⟨_, hjoined.read⟩ (run_reading hrun sessionID)
  have hrequests : (events.filterMap (TunnelEvent.takenBy sessionID)).map (·.request) <+:
      (s.endpoints sessionID).reading.dispatched := by
    rw [hjoined.taken]
    exact List.take_prefix _ _
  refine ⟨fun job hjob => ?_, ?_⟩
  · obtain ⟨h, hlookup, hsession, hwhole, _⟩ :=
      hexecuted.whole job.request (hrequests.subset (List.mem_map_of_mem hjob))
    exact ⟨h, hlookup, hsession, hwhole⟩
  · have honce := hexecuted.once.sublist (hrequests.sublist.map _)
    rwa [List.map_map] at honce

/-- The jobs of one session among all that were taken. -/
theorem takenBy_eq (events : List (TunnelEvent n)) (sessionID : GoString) :
    events.filterMap (TunnelEvent.takenBy sessionID) =
      ((events.filterMap TunnelEvent.executed).filter fun taken => taken.1 = sessionID).map (·.2) := by
  induction events with
  | nil => rfl
  | cons e events ih =>
    cases e with
    | take other w job =>
      by_cases hother : other = sessionID <;> simp [TunnelEvent.takenBy, TunnelEvent.executed, hother, ih]
    | _ => exact ih

theorem mem_takenBy {job : Job} :
    job ∈ events.filterMap (TunnelEvent.takenBy sessionID) ↔
      (sessionID, job) ∈ events.filterMap TunnelEvent.executed := by
  rw [takenBy_eq, List.mem_map]
  constructor
  · rintro ⟨⟨other, _⟩, hmem, rfl⟩
    obtain ⟨hin, hother⟩ := List.mem_filter.mp hmem
    cases of_decide_eq_true hother
    exact hin
  · intro hmem
    exact ⟨_, List.mem_filter.mpr ⟨hmem, decide_eq_true rfl⟩, rfl⟩

end Tunnelling

/-- What is without duplicates on each session, and never the same on two of them, is without duplicates. -/
theorem nodup_map_of_parts {A B C : Type} [DecidableEq C] (f : A → B) (part : A → C) {as : List A}
    (hwithin : ∀ c, ((as.filter fun a => part a = c).map f).Nodup)
    (hacross : ∀ a ∈ as, ∀ a' ∈ as, f a = f a' → part a = part a') : (as.map f).Nodup := by
  induction as with
  | nil => exact List.nodup_nil
  | cons a as ih =>
    have hrest : (as.map f).Nodup := by
      refine ih (fun c => ?_) fun b hb b' hb' => hacross b (by simp [hb]) b' (by simp [hb'])
      exact (hwithin c).sublist (((List.sublist_cons_self a as).filter _).map f)
    refine List.nodup_cons.mpr ⟨fun hmem => ?_, hrest⟩
    obtain ⟨b, hb, heq⟩ := List.mem_map.mp hmem
    have hpart := hacross b (by simp [hb]) a (by simp) heq
    have hown := hwithin (part a)
    rw [List.filter_cons, if_pos (decide_eq_true rfl), List.map_cons, List.nodup_cons] at hown
    exact hown.1 (List.mem_map.mpr ⟨b, List.mem_filter.mpr ⟨hb, decide_eq_true hpart⟩, heq⟩)

namespace Tunnelling

variable {baseDomain : GoString} {localAddress : GoString → GoString} {events : List (TunnelEvent n)}
  {s : Tunnelling n}

/-- The tunnel from end to end, in every interleaving of the gateway and the agents of all its sessions. Whatever a
    local service is asked is a whole public request, asked by the agent of the session that the request was routed to,
    and no public request is asked twice. And whenever a public client gets a response, it is what the local service
    answered to this client's own request, up to the hop-by-hop fields. -/
theorem replies_are_answers (hrun : run (step dec baseDomain localAddress capacity) start events = some s)
    (hdecodes : Decodes dec (events.filterMap TunnelEvent.gatewayEvent) s.gateway) (hpong : dec.ReadsPong)
    (haddress : ∀ sessionID, localAddress sessionID ≠ [])
    (hheard : ∀ sessionID job, (sessionID, job) ∈ events.filterMap TunnelEvent.executed →
      job.Heard dec (localAddress sessionID)) :
    (∀ sessionID job, (sessionID, job) ∈ events.filterMap TunnelEvent.executed → ∃ h,
      s.gateway.handlers.lookup job.request.id = some h ∧ h.tunnel.sessionID = sessionID ∧
        job.request = wholeRequest h.request job.request.id) ∧
    ((events.filterMap TunnelEvent.executed).map (·.2.request.id)).Nodup ∧
    ∀ id h status headers body, s.gateway.handlers.lookup id = some h →
      h.phase = .returned (.response status headers body) → ∃ job answer,
        (h.tunnel.sessionID, job) ∈ events.filterMap TunnelEvent.executed ∧ job.request = wholeRequest h.request id ∧
        job.outcome (localAddress h.tunnel.sessionID) = .ok answer ∧ status = answer.statusCode ∧
        headers = tunnels.withoutHopByHopHeaders (gatewayclient.withoutHopByHopHeaders answer.header) ∧
        body = answer.bytes := by
  have hwhole : ∀ sessionID job, (sessionID, job) ∈ events.filterMap TunnelEvent.executed → ∃ h,
      s.gateway.handlers.lookup job.request.id = some h ∧ h.tunnel.sessionID = sessionID ∧
        job.request = wholeRequest h.request job.request.id :=
    fun sessionID job hmem => (taken_whole hrun hdecodes sessionID).1 job (mem_takenBy.mpr hmem)
  refine ⟨hwhole, ?_, ?_⟩
  · refine nodup_map_of_parts (fun taken : GoString × Job => taken.2.request.id) Prod.fst ?_ ?_
    · intro sessionID
      have honce := (taken_whole hrun hdecodes sessionID).2
      rwa [takenBy_eq, List.map_map] at honce
    · rintro ⟨sessionID, job⟩ hmem ⟨sessionID', job'⟩ hmem' hid
      obtain ⟨h, hlookup, hsession, _⟩ := hwhole sessionID job hmem
      obtain ⟨h', hlookup', hsession', _⟩ := hwhole sessionID' job' hmem'
      have hsame : job.request.id = job'.request.id := hid
      rw [hsame, hlookup'] at hlookup
      cases hlookup
      exact hsession.symm.trans hsession'
  · intro id h status headers body hlookup hphase
    have hreply : Reply.response status headers body ∈ h.phase.reply := by
      rw [hphase]
      rfl
    obtain ⟨sessionID, response, hdelivered, hresponse⟩ :=
      PublicSystem.response_delivered (run_gateway hrun) hlookup hreply rfl
    have hjoined := joined_of_run hrun sessionID
    have hattributed : Attributed dec (localAddress sessionID)
        (jobs (events.filterMap (TunnelEvent.respondingEvent dec sessionID))) := by
      rw [hjoined.jobs]
      exact ⟨(taken_whole hrun hdecodes sessionID).2, fun job hmem => hheard sessionID job (mem_takenBy.mp hmem)⟩
    obtain ⟨job, hjob, hd⟩ := delivered_answers (haddress sessionID) hpong (run_responding hrun sessionID) hattributed
      (id, response) (hjoined.passed id response hdelivered)
    rw [hjoined.jobs] at hjob
    obtain ⟨rfl, rfl⟩ := Prod.mk.inj hd
    obtain ⟨h', hlookup', rfl, hrequest⟩ := (taken_whole hrun hdecodes sessionID).1 job hjob
    rw [hlookup] at hlookup'
    cases hlookup'
    cases houtcome : job.outcome (localAddress h.tunnel.sessionID) with
    | error err =>
      rw [houtcome, jobResponse, responseReply, if_pos (localExchange_error_ne_nil houtcome)] at hresponse
      cases hresponse
    | ok answer =>
      rw [houtcome] at hresponse
      obtain ⟨rfl, rfl, rfl⟩ := Reply.response.inj hresponse
      exact ⟨job, answer, mem_takenBy.mp hjob, hrequest, houtcome, rfl, rfl, rfl⟩

end Tunnelling

/-- One request, from its arrival to the answer "hello" of the local service. -/
def helloTunnel : List (TunnelEvent 1) :=
  let id := publicRequestID (List.replicate 12 0)
  let opening := [httpRequestStartMessage (startPayload (sampleRequest []) id), httpRequestEndMessage id]
  let arrival : List (PublicEvent GoString) := sampleArrival [] (List.replicate 12 0) ++
    [.handler id (.lookup (some 0)), .handler id .enqueue, .handler id (.read 0 (some .eof)),
      .handler id (.lookup (some 0)), .handler id .enqueue] ++ opening.map (PublicEvent.dequeue (lit "ses_1"))
  let job : Job := { request := wholeRequest (sampleRequest []) id, service := helloJob.service }
  let response := jobResponse (job.outcome (lit "8080"))
  arrival.map .gateway ++ opening.map (.read (lit "ses_1")) ++ [.take (lit "ses_1") 0 job] ++
  ((job.messages (lit "8080")).flatMap passAlong).map (.respond (lit "ses_1")) ++
  [.deliver (lit "ses_1") id response, .gateway (.call (.deliverSend (lit "ses_1") 0 response)),
    .gateway (.call (.deliverReturn (lit "ses_1") true)), .gateway (.handler id (.receive 0 response)),
    .gateway (.handler id .cancelRequest)]

def helloTunnelDecoder : Decoder :=
  let id := publicRequestID (List.replicate 12 0)
  .knowing [startPayload (sampleRequest []) id] [helloStart] [id]

theorem helloTunnelDecoder_decodes {events : List (PublicEvent GoString)} {s : PublicSystem GoString}
    (hserved : s.handlers.entries.map (fun entry => (entry.2.request, entry.2.id)) =
      [(sampleRequest [], publicRequestID (List.replicate 12 0))])
    (hopened : ∀ sessionID payload, .post sessionID payload ∉ events) : Decodes helloTunnelDecoder events s := by
  refine .of_entries hserved ?_ hopened ⟨Decoder.emptyRequest [], by decide +kernel⟩
    ⟨Decoder.emptyRequest [], by decide +kernel⟩
  intro entry hmem
  rw [List.mem_singleton.mp hmem]
  exact ⟨by decide +kernel,
    ⟨⟨Decoder.emptyRequest (publicRequestID (List.replicate 12 0)), by decide +kernel⟩, by decide +kernel⟩,
    ⟨Decoder.emptyRequest (publicRequestID (List.replicate 12 0)), by decide +kernel, rfl⟩⟩

theorem executed_helloTunnel : helloTunnel.filterMap TunnelEvent.executed =
    [(lit "ses_1", { request := wholeRequest (sampleRequest []) (publicRequestID (List.replicate 12 0)),
                     service := helloJob.service })] := rfl

theorem Tunnelling.replies_are_answers_hello :
    ∃ s h, run (Tunnelling.step helloTunnelDecoder (lit "tunnel.example") (fun _ => lit "8080") 1) Tunnelling.start
        helloTunnel = some s ∧
      s.gateway.handlers.lookup (publicRequestID (List.replicate 12 0)) = some h ∧
      h.phase = .returned (.response 200 ∅ (lit "hello")) ∧ ∃ job answer,
        (h.tunnel.sessionID, job) ∈ helloTunnel.filterMap TunnelEvent.executed ∧
        job.request = wholeRequest h.request (publicRequestID (List.replicate 12 0)) ∧
        job.outcome (lit "8080") = .ok answer ∧ answer.bytes = lit "hello" := by
  have hfacts : (run (Tunnelling.step helloTunnelDecoder (lit "tunnel.example") (fun _ => lit "8080") 1)
      Tunnelling.start helloTunnel).map (fun s =>
        (s.gateway.handlers.entries.map (fun entry => (entry.2.request, entry.2.id)),
          (s.gateway.handlers.lookup (publicRequestID (List.replicate 12 0))).map (·.phase))) =
      some ([(sampleRequest [], publicRequestID (List.replicate 12 0))],
        some (.returned (.response 200 ∅ (lit "hello")))) := by decide +kernel
  obtain ⟨s, hs, hstate⟩ := Option.map_eq_some_iff.mp hfacts
  obtain ⟨hserved, hphase⟩ := Prod.mk.inj hstate
  obtain ⟨h, hlookup, hphase⟩ := Option.map_eq_some_iff.mp hphase
  have hopened : (helloTunnel.filterMap TunnelEvent.gatewayEvent).all (fun | .post .. => false | _ => true) = true := by
    decide +kernel
  have hdecodes := helloTunnelDecoder_decodes hserved fun sessionID payload hmem => by
    cases List.all_eq_true.mp hopened _ hmem
  have hheard : ∀ sessionID job, (sessionID, job) ∈ helloTunnel.filterMap TunnelEvent.executed →
      job.Heard helloTunnelDecoder (lit "8080") := by
    intro sessionID job hmem
    rw [executed_helloTunnel, List.mem_singleton] at hmem
    cases hmem
    exact ⟨fitsFrames_of_public helloRequest_public,
      ⟨json.encode helloStart.value, by decide +kernel, by decide +kernel⟩,
      ⟨json.encode (requestIDValue helloRequest.id), by decide +kernel⟩, by decide +kernel⟩
  obtain ⟨_, _, hresponses⟩ := Tunnelling.replies_are_answers hs hdecodes ⟨[], by decide +kernel⟩ (by simp [lit])
    hheard
  obtain ⟨job, answer, hjob, hrequest, houtcome, _, _, hbody⟩ := hresponses _ h _ _ _ hlookup hphase
  exact ⟨s, h, hs, hlookup, hphase, job, answer, hjob, hrequest, houtcome, hbody.symm⟩

end myngrok.pipeline
