import Myngrok.Pipeline.RequestIntegrity

open golang Result websocket streams transition myngrok.protocol myngrok.tunnels
open myngrok.gatewayclient (Reading readMessage requestItem_start)

namespace myngrok.tunnels

/-- The condition on a run: when `sendCancel` offers its message, there is room in the queue. -/
def PublicSystem.offersRoom {Thread : Type} (s : PublicSystem Thread) : PublicEvent Thread → Bool
  | .handler id (.offer _) =>
    match (s.handlers.lookup id).map Handler.phase with
    | some (.offering queue _) => s.hasRoom queue
    | _ => true
  | _ => true

/-- The handler has answered its client. -/
def Phase.left : Phase → Bool
  | .leaving _ => true
  | .returned _ => true
  | _ => false

theorem Handler.afterRead_left {h h' : Handler} {sequence : UInt32} {offset count : Nat} {err : Option ReadError}
    (hread : h.afterRead sequence offset count err = some h') : h'.phase.left = false := by
  simp only [Handler.afterRead] at hread
  split at hread <;> split at hread <;> cases hread <;> rfl

theorem Handler.queue_of_emits {h : Handler} {e : HandlerEvent} {queue : gateway.Chan} {message : Message}
    (hemits : h.emits e = some (queue, message)) : h.phase.queue = some queue := by
  unfold Handler.emits at hemits
  split at hemits
  · rename_i hphase
    cases hemits
    rw [hphase]
    rfl
  · rename_i hphase
    cases hemits
    rw [hphase]
    rfl
  · cases hemits

end myngrok.tunnels

namespace myngrok.pipeline

variable {Thread : Type} {dec : Decoder} {id sessionID : GoString} {events : List (PublicEvent Thread)}
  {s next : PublicSystem Thread} {e : PublicEvent Thread} {h : Handler} {baseDomain : GoString}

/-- Why nothing is left to be done at the agent for a request that was answered: it was never sent there, the response
    came, the session is gone, or the agent was told to cancel. -/
inductive Settled (dec : Decoder) (events : List (PublicEvent Thread)) (s : PublicSystem Thread) (id : GoString)
    (sessionID : GoString) : Prop where
  | unsent (hnone : aboutRequest dec id (s.outgoing events sessionID) = [])
  | answered {ch : gateway.Chan} {response : gateway.Response} (hmem : .handler id (.receive ch response) ∈ events)
  | gone (hgone : s.Gone sessionID)
  | cancelled (hmem : cancelRequestMessage id ∈ s.outgoing events sessionID)

variable [DecidableEq Thread]

theorem outgoing_step (hbefore : run (PublicSystem.step baseDomain) PublicSystem.start events = some s)
    (hstep : s.step baseDomain e = some next) {message : Message} (hmem : message ∈ s.outgoing events sessionID) :
    message ∈ next.outgoing (events ++ [e]) sessionID := by
  rw [PublicSystem.step_outgoing (PublicSystem.queues_of_run hbefore) (PublicSystem.unmade_of_run hbefore) hstep]
  exact List.mem_append_left _ hmem

/-- Something was put in the queue of a session only if the session connected. -/
theorem mem_loops_of_outgoing (hrun : run (PublicSystem.step baseDomain) PublicSystem.start events = some s)
    (hout : s.outgoing events sessionID ≠ []) : sessionID ∈ s.loops := by
  refine run_induction (P := fun events s => s.outgoing events sessionID ≠ [] → sessionID ∈ s.loops) ?_ ?_ hrun hout
  · exact fun hout => absurd rfl hout
  · intro events s e next hbefore ih hstep hout
    have hqueues := PublicSystem.queues_of_run hbefore
    refine PublicSystem.step_loops hstep ?_
    obtain hsame | ⟨message, hpushes, _⟩ := PublicSystem.step_outgoing_cases hqueues
      (PublicSystem.unmade_of_run hbefore) hstep sessionID
    · rw [hsame] at hout
      exact ih hout
    · obtain ⟨id, e', h, queue, rfl, hlookup, rfl, hemits⟩ | ⟨opened, rfl, _⟩ := PublicSystem.pushes_cases hpushes
      · obtain ⟨loop, hloop, _⟩ := hqueues.held hlookup (Handler.queue_of_emits hemits)
        exact (Map.mem_iff_lookup _ _).mpr ⟨loop, hloop⟩
      · cases PublicSystem.step_cases hstep with
        | post opened hloop houtbound hroom => exact (Map.mem_iff_lookup _ _).mpr ⟨_, hloop⟩

/-- A step that sends nothing about the request leaves it settled. -/
theorem Settled.step (hbefore : run (PublicSystem.step baseDomain) PublicSystem.start events = some s)
    (hstep : s.step baseDomain e = some next) (habout : aboutRequest dec id (next.outgoing (events ++ [e]) sessionID) =
      aboutRequest dec id (s.outgoing events sessionID)) (h : Settled dec events s id sessionID) :
    Settled dec (events ++ [e]) next id sessionID := by
  cases h with
  | unsent hnone => exact .unsent (habout.trans hnone)
  | answered hmem => exact .answered (List.mem_append_left _ hmem)
  | gone hgone => exact .gone (hgone.step hstep)
  | cancelled hmem => exact .cancelled (outgoing_step hbefore hstep hmem)

/-- The handler's own actions: one that leaves without being answered finds its session gone, or there is room for its
    message. -/
theorem settled_of_acts {s' : PublicSystem Thread} {e : HandlerEvent} {h' : Handler}
    (hbefore : run (PublicSystem.step baseDomain) PublicSystem.start events = some s)
    (hsent : h.HasSent (ReadToEnd events id) (aboutRequest dec id (s.outgoing events h.tunnel.sessionID)))
    (hlookup : s.handlers.lookup id = some h) (hacts : s.Acts h e s' h')
    (hstep : s.step baseDomain (.handler id e) = some next) (hroom : s.offersRoom (.handler id e))
    (hold : h.phase.left → Settled dec events s id h.tunnel.sessionID) (hleft : h'.phase.left) :
    Settled dec (events ++ [.handler id e]) next id h.tunnel.sessionID := by
  have hqueues := PublicSystem.queues_of_run hbefore
  have hgrows : next.outgoing (events ++ [.handler id e]) h.tunnel.sessionID = s.outgoing events h.tunnel.sessionID ++
      PublicSystem.pushedTo h.tunnel.sessionID (s.pushes (.handler id e)) :=
    PublicSystem.step_outgoing hqueues (PublicSystem.unmade_of_run hbefore) hstep _
  simp only [PublicSystem.pushes, hlookup, Option.bind_some] at hgrows
  have hsilent : h.emits e = none → next.outgoing (events ++ [.handler id e]) h.tunnel.sessionID =
      s.outgoing events h.tunnel.sessionID := by
    intro hnone
    rw [hgrows, hnone]
    exact List.append_nil _
  have hphases : Sent h.request h.id (ReadToEnd events id)
      (aboutRequest dec id (s.outgoing events h.tunnel.sessionID)) h.phase := hsent
  have hunsent : ∀ {message after}, Sending h.request h.id (ReadToEnd events id)
      (aboutRequest dec id (s.outgoing events h.tunnel.sessionID)) message after → (h.unsent after).phase.left →
      h.emits e = none → Settled dec (events ++ [.handler id e]) next id h.tunnel.sessionID := by
    intro message after hsending hleft hnone
    cases after with
    | started => exact .unsent (by rw [hsilent hnone, hsending.1])
    | _ => cases hleft
  cases hacts with
  | lookupMissing hphase hmissing =>
    rw [hphase] at hphases
    exact hunsent hphases hleft (by simp [Handler.emits, hphase])
  | sendDone hphase =>
    rw [hphase] at hphases
    exact hunsent hphases hleft (by simp [Handler.emits, hphase])
  | receive hphase hcall => exact .answered (List.mem_append_right _ (List.mem_singleton_self _))
  | cancelMissing hphase hmissing =>
    rw [hphase] at hphases
    refine .gone (PublicSystem.Gone.step ⟨mem_loops_of_outgoing hbefore ?_, ?_⟩ hstep)
    · intro hempty
      refine Begun.ne_nil hphases ?_
      rw [hempty]
      rfl
    · intro hmem
      obtain ⟨session, hsession⟩ := (Map.mem_iff_lookup _ _).mp hmem
      obtain ⟨loop, _, houtbound⟩ := hqueues.session hsession
      rw [gateway.SessionManager.outbound, hsession, Option.bind_some, houtbound] at hmissing
      cases hmissing
  | @offered queue reply hphase hspace =>
    refine .cancelled ?_
    have hemits : h.emits (.offer true) = some (queue, cancelRequestMessage h.id) := by simp [Handler.emits, hphase]
    rw [hgrows, hemits, ← PublicSystem.Waiters.keyed (PublicSystem.waiters hbefore) hlookup]
    simp [PublicSystem.pushedTo]
  | refused hphase hfull =>
    simp only [PublicSystem.offersRoom, hlookup, Option.map_some, hphase] at hroom
    exact absurd hroom hfull
  | cancelRequest hphase hcall =>
    refine (hold (by rw [hphase]; rfl)).step hbefore hstep ?_
    rw [hsilent (by simp [Handler.emits, hphase])]
  | @enqueue queue message after hphase hspace => cases after <;> cases hleft
  | read hphase hallowed hread =>
    rw [Handler.afterRead_left hread] at hleft
    cases hleft
  | register | lookupFound | waitDone | timeout | cancelFound => cases hleft

/-- A handler that has answered its client has settled its request. -/
theorem settled_of_run (hrun : run (PublicSystem.step baseDomain) PublicSystem.start events = some s)
    (hroom : AllSteps (PublicSystem.step baseDomain) (fun s e => s.offersRoom e) PublicSystem.start events)
    (hdecodes : Decodes dec events s) (hlookup : s.handlers.lookup id = some h) (hleft : h.phase.left) :
    Settled dec events s id h.tunnel.sessionID := by
  refine run_induction_of_steps (P := fun events s => Decodes dec events s → ∀ id h, s.handlers.lookup id = some h →
    h.phase.left → Settled dec events s id h.tunnel.sessionID) ?_ ?_ hrun hroom hdecodes id h hlookup hleft
  · intro _ id h hlookup
    cases hlookup
  · intro events s e next hbefore ih hallowed hstep hdecodes id h hlookup hleft
    have hearlier := hdecodes.of_step hstep
    have hrequests := requests_of_run hbefore hearlier
    by_cases hown : ∃ e', e = .handler id e'
    · obtain ⟨e', rfl⟩ := hown
      cases PublicSystem.step_cases hstep with
      | @handler _ _ old handler' s' hold hacts =>
        rw [PublicSystem.setHandler_lookup, if_pos rfl] at hlookup
        cases hlookup
        rw [hacts.frame.2.2.2.2]
        exact settled_of_acts hbefore (hrequests.own hold) hold hacts hstep hallowed (ih hearlier id old hold) hleft
    · rw [not_exists] at hown
      obtain hold | ⟨_, hphase⟩ := lookup_of_step hstep hown hlookup
      · refine (ih hearlier id h hold hleft).step hbefore hstep ?_
        exact hrequests.aboutRequest_step (PublicSystem.waiters hbefore) (PublicSystem.queues_of_run hbefore) hdecodes
          hstep hown _
      · rw [hphase] at hleft
        cases hleft

/-- Giving up tells the agent, as long as `sendCancel` finds room in the queue: a request that was started and whose
    handler returned without a response, with its session still registered, has its `cancel_request` in the queue, and
    on reading it the agent drops the stream and cancels the job. -/
theorem giving_up_cancels (hrun : run (PublicSystem.step baseDomain) PublicSystem.start events = some s)
    (hdecodes : Decodes dec events s)
    (hroom : AllSteps (PublicSystem.step baseDomain) (fun s e => s.offersRoom e) PublicSystem.start events)
    (hlookup : s.handlers.lookup id = some h) {reply : Reply} (hreturned : h.phase = .returned reply)
    (hstarted : httpRequestStartMessage (startPayload h.request id) ∈ s.outgoing events h.tunnel.sessionID)
    (hunanswered : ∀ ch response, .handler id (.receive ch response) ∉ events)
    (hregistered : h.tunnel.sessionID ∈ s.calls.manager.sessions) :
    cancelRequestMessage id ∈ s.outgoing events h.tunnel.sessionID ∧
      ∀ pending, readMessage dec pending (cancelRequestMessage id) = ok (.continued (pending.erase id) [.cancel id]) := by
  have hkeyed := PublicSystem.Waiters.keyed (PublicSystem.waiters hrun) hlookup
  have hreads := hdecodes.requests id h hlookup
  rw [hkeyed] at hreads
  constructor
  · cases settled_of_run hrun hroom hdecodes hlookup (by rw [hreturned]; rfl) with
    | unsent hnone =>
      have habout : httpRequestStartMessage (startPayload h.request id) ∈
          aboutRequest dec id (s.outgoing events h.tunnel.sessionID) := by
        refine List.mem_filter.mpr ⟨hstarted, ?_⟩
        rw [requestItem_start hreads.start]
        exact decide_eq_true rfl
      rw [hnone] at habout
      cases habout
    | answered hmem => exact absurd hmem (hunanswered _ _)
    | gone hgone => exact absurd hregistered hgone.2
    | cancelled hmem => exact hmem
  · intro pending
    obtain ⟨payload, hdecoded, hid⟩ := hreads.cancel
    have htext : (cancelRequestMessage id).messageType = .text := rfl
    simp only [readMessage, htext, hdecoded, hid]
    rfl

/-- A client goes away while its body is being sent, and the queue is nearly empty. -/
def abandonedUpload : List (PublicEvent Unit) :=
  let id := publicRequestID (List.replicate 12 0)
  sampleArrival (lit "hi") (List.replicate 12 0) ++
  [.handler id (.lookup (some 0)), .handler id .enqueue, .handler id (.read 1 none), .handler id (.lookup (some 0)),
    .handler id .ctxDone, .handler id (.cancelLookup (some 0)), .handler id (.offer true), .handler id .cancelRequest]

theorem giving_up_cancels_upload :
    ∃ s h, run (PublicSystem.step (lit "tunnel.example")) PublicSystem.start abandonedUpload = some s ∧
      s.handlers.lookup (publicRequestID (List.replicate 12 0)) = some h ∧ h.phase = .returned unavailable ∧
      cancelRequestMessage (publicRequestID (List.replicate 12 0)) ∈
        s.outgoing abandonedUpload h.tunnel.sessionID := by
  have hfacts : (run (PublicSystem.step (lit "tunnel.example")) PublicSystem.start abandonedUpload).map
      (fun s => (s.handlers.entries.map fun entry => (entry.2.request, entry.2.id),
        (s.handlers.lookup (publicRequestID (List.replicate 12 0))).map fun h => (h.phase, h.request),
        (s.handlers.lookup (publicRequestID (List.replicate 12 0))).all fun h =>
          decide (httpRequestStartMessage (startPayload h.request (publicRequestID (List.replicate 12 0))) ∈
              s.outgoing abandonedUpload h.tunnel.sessionID ∧ h.tunnel.sessionID ∈ s.calls.manager.sessions))) =
      some ([(sampleRequest (lit "hi"), publicRequestID (List.replicate 12 0))],
        some (.returned unavailable, sampleRequest (lit "hi")), true) := by decide +kernel
  have hroom : AllSteps (PublicSystem.step (lit "tunnel.example")) (fun s e => s.offersRoom e) PublicSystem.start
      abandonedUpload := by decide +kernel
  obtain ⟨s, hs, hstate⟩ := Option.map_eq_some_iff.mp hfacts
  obtain ⟨hentries, hrest⟩ := Prod.mk.inj hstate
  obtain ⟨hhandler, hothers⟩ := Prod.mk.inj hrest
  obtain ⟨h, hlookup, hparts⟩ := Option.map_eq_some_iff.mp hhandler
  obtain ⟨hphase, hrequest⟩ := Prod.mk.inj hparts
  rw [hlookup] at hothers
  obtain ⟨hstarted, hregistered⟩ := of_decide_eq_true hothers
  have hdecodes : Decodes uploadsDecoder abandonedUpload s := by
    refine .of_entries hentries ?_ ?_ ⟨Decoder.emptyRequest [], by decide +kernel⟩
      ⟨Decoder.emptyRequest [], by decide +kernel⟩
    · intro entry hmem
      cases List.mem_singleton.mp hmem
      exact uploadsDecoder_reads.1
    · intro sessionID payload hmem
      simp [abandonedUpload, sampleArrival] at hmem
  have hunanswered : ∀ ch response, .handler (publicRequestID (List.replicate 12 0)) (.receive ch response) ∉
      abandonedUpload := by
    simp [abandonedUpload, sampleArrival]
  exact ⟨s, h, hs, hlookup, hphase,
    (giving_up_cancels hs hdecodes hroom hlookup hphase hstarted hunanswered hregistered).1⟩

/-- A client sends its body a byte at a time until the queue of the session is full, and goes away. -/
def abandonedFull : List (PublicEvent Unit) :=
  let id := publicRequestID (List.replicate 12 0)
  sampleArrival (List.replicate 40 0x61) (List.replicate 12 0) ++
  [.handler id (.lookup (some 0)), .handler id .enqueue] ++
  (List.replicate 31
    [.handler id (.read 1 none), .handler id (.lookup (some 0)), .handler id .enqueue]).flatten ++
  [.handler id (.read 1 none), .handler id (.lookup (some 0)), .handler id .ctxDone,
    .handler id (.cancelLookup (some 0)), .handler id (.offer false), .handler id .cancelRequest]

/-- Then the agent is not told. -/
theorem cancel_lost_on_full_queue :
    ∃ s h, run (PublicSystem.step (lit "tunnel.example")) PublicSystem.start abandonedFull = some s ∧
      s.handlers.lookup (publicRequestID (List.replicate 12 0)) = some h ∧ h.phase = .returned unavailable ∧
      httpRequestStartMessage (startPayload h.request (publicRequestID (List.replicate 12 0))) ∈
        s.outgoing abandonedFull h.tunnel.sessionID ∧
      (∀ ch response, .handler (publicRequestID (List.replicate 12 0)) (.receive ch response) ∉ abandonedFull) ∧
      h.tunnel.sessionID ∈ s.calls.manager.sessions ∧
      cancelRequestMessage (publicRequestID (List.replicate 12 0)) ∉ s.outgoing abandonedFull h.tunnel.sessionID := by
  have hfacts : (run (PublicSystem.step (lit "tunnel.example")) PublicSystem.start abandonedFull).map
      (fun s => (s.handlers.lookup (publicRequestID (List.replicate 12 0))).map fun h =>
        decide (h.phase = .returned unavailable ∧
          httpRequestStartMessage (startPayload h.request (publicRequestID (List.replicate 12 0))) ∈
            s.outgoing abandonedFull h.tunnel.sessionID ∧
          h.tunnel.sessionID ∈ s.calls.manager.sessions ∧
          cancelRequestMessage (publicRequestID (List.replicate 12 0)) ∉
            s.outgoing abandonedFull h.tunnel.sessionID)) = some (some true) := by decide +kernel
  obtain ⟨s, hs, hstate⟩ := Option.map_eq_some_iff.mp hfacts
  obtain ⟨h, hlookup, htrue⟩ := Option.map_eq_some_iff.mp hstate
  obtain ⟨hphase, hstarted, hregistered, hlost⟩ := of_decide_eq_true htrue
  refine ⟨s, h, hs, hlookup, hphase, hstarted, ?_, hregistered, hlost⟩
  simp [abandonedFull, sampleArrival]

end myngrok.pipeline
