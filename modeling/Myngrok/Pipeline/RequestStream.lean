import Myngrok.GatewayClient.RequestStreams
import Myngrok.Tunnels.Outgoing

open golang Result websocket streams transition myngrok.protocol myngrok.tunnels
open myngrok.gateway (chunkMessage)
open myngrok.gatewayclient (RequestItem requestItem requestItem_start requestItem_end requestItem_cancel
  requestItem_other requestItem_wire)

namespace myngrok.pipeline

variable {Thread : Type} {dec : Decoder} {s next : PublicSystem Thread} {events : List (PublicEvent Thread)}
  {id baseDomain : GoString} {message : Message} {h : Handler} {e : PublicEvent Thread}

/-- The messages that belong to the stream of one request. -/
def aboutRequest (dec : Decoder) (id : GoString) (messages : List Message) : List Message :=
  messages.filter fun message => (requestItem dec message).item.about id

/-- The agent reads the messages about a request as what they are. -/
structure ReadsRequest (dec : Decoder) (request : PublicRequest) (id : GoString) : Prop where
  start : dec.ReadsRequestStart (startPayload request id)
  finish : dec.ReadsRequestEnd id
  cancel : dec.ReadsCancelRequest id

/-- JSON messages are decoded to what was encoded, for all that was sent in a run. -/
structure Decodes (dec : Decoder) (events : List (PublicEvent Thread)) (s : PublicSystem Thread) : Prop where
  requests : ∀ id h, s.handlers.lookup id = some h → ReadsRequest dec h.request h.id
  opened : ∀ sessionID payload, .post sessionID payload ∈ events →
    dec.ReadsType tunnelOpened (tunnelOpenedMessage payload)
  ping : dec.ReadsType ping pingMessage
  pong : dec.ReadsType pong pongMessage

/-- It is enough to look at the requests that are served. -/
theorem Decodes.of_entries {served : List (PublicRequest × GoString)}
    (hserved : s.handlers.entries.map (fun entry => (entry.2.request, entry.2.id)) = served)
    (hreads : ∀ entry ∈ served, ReadsRequest dec entry.1 entry.2)
    (hopened : ∀ sessionID payload, .post sessionID payload ∉ events) (hping : dec.ReadsType protocol.ping pingMessage)
    (hpong : dec.ReadsType protocol.pong pongMessage) : Decodes dec events s := by
  refine ⟨?_, fun sessionID payload hmem => absurd hmem (hopened sessionID payload), hping, hpong⟩
  intro id h hlookup
  exact hreads (h.request, h.id) (hserved ▸ List.mem_map_of_mem (AList.mem_lookup_iff.mp hlookup))

theorem requestItem_frame (dec : Decoder) {frame : BinaryFrame} (h : frame.WellFormed) :
    requestItem dec (chunkMessage frame) = .chunk frame := requestItem_wire dec h

theorem aboutRequest_concat_own (messages : List Message) (h : (requestItem dec message).item.about id = true) :
    aboutRequest dec id (messages ++ [message]) = aboutRequest dec id messages ++ [message] := by
  simp [aboutRequest, h]

theorem aboutRequest_concat_other (messages : List Message) (h : ¬ (requestItem dec message).item.about id = true) :
    aboutRequest dec id (messages ++ [message]) = aboutRequest dec id messages := by
  simp [aboutRequest, h]

/-- The body of a request was read to `io.EOF`. -/
def ReadToEnd (events : List (PublicEvent Thread)) (id : GoString) : Prop :=
  ∃ count, .handler id (.read count (some .eof)) ∈ events

theorem ReadToEnd.mono (h : ReadToEnd events id) (e : PublicEvent Thread) : ReadToEnd (events ++ [e]) id := by
  obtain ⟨count, hmem⟩ := h
  exact ⟨count, List.mem_append_left _ hmem⟩

/-- What a handler sends belongs to the stream of its request. -/
theorem emits_about {e : HandlerEvent} {eof : Prop} {out : List Message} {queue : gateway.Chan}
    (hreads : ReadsRequest dec h.request h.id) (hsent : h.HasSent eof out)
    (hemits : h.emits e = some (queue, message)) : (requestItem dec message).item.about h.id = true := by
  cases (hsent.follows hemits).1 with
  | start =>
    rw [requestItem_start hreads.start]
    exact decide_eq_true rfl
  | chunk hcovers =>
    rw [requestItem_frame dec hcovers.last_formed]
    exact decide_eq_true rfl
  | finish =>
    rw [requestItem_end hreads.finish]
    exact decide_eq_true rfl
  | cancel =>
    rw [requestItem_cancel hreads.cancel]
    exact decide_eq_true rfl

/-- How what goes out on the sessions and the handlers fit together: the messages of a request are those of its handler,
    on the session of its tunnel only. -/
structure Requests (dec : Decoder) (events : List (PublicEvent Thread)) (s : PublicSystem Thread) : Prop where
  unmade : s.Unmade
  own : ∀ {id h}, s.handlers.lookup id = some h →
    h.HasSent (ReadToEnd events id) (aboutRequest dec id (s.outgoing events h.tunnel.sessionID))
  foreign : ∀ {id sessionID}, (∀ h, s.handlers.lookup id = some h → h.tunnel.sessionID ≠ sessionID) →
    aboutRequest dec id (s.outgoing events sessionID) = []

variable [DecidableEq Thread]

/-- A handler keeps its request, its ID and its tunnel. -/
theorem acts_request {s' : PublicSystem Thread} {h' : Handler} {e : HandlerEvent} (hacts : s.Acts h e s' h') :
    h'.request = h.request ∧ h'.id = h.id := by
  cases hacts with
  | @lookupMissing message after | @sendDone queue message after | @enqueue queue message after =>
    cases after <;> exact ⟨rfl, rfl⟩
  | read hphase hallowed hread =>
    obtain ⟨phase, rfl, _⟩ := Handler.afterRead_eq hread
    exact ⟨rfl, rfl⟩
  | _ => exact ⟨rfl, rfl⟩

theorem step_handlers (h : s.step baseDomain e = some next) {handler : Handler}
    (hlookup : s.handlers.lookup id = some handler) :
    ∃ handler', next.handlers.lookup id = some handler' ∧ handler'.request = handler.request ∧
      handler'.id = handler.id ∧ handler'.tunnel = handler.tunnel := by
  cases PublicSystem.step_cases h with
  | routed hroute hfresh =>
    refine ⟨handler, ?_, rfl, rfl, rfl⟩
    rw [PublicSystem.setHandler_lookup, if_neg]
    · exact hlookup
    · rintro rfl
      exact hfresh ((Map.mem_iff_lookup _ _).mpr ⟨handler, hlookup⟩)
  | @handler id' e other other' s' hother hacts =>
    obtain ⟨_, _, hhandlers, _, htunnel⟩ := hacts.frame
    rw [PublicSystem.setHandler_lookup, hhandlers]
    by_cases hid : id = id'
    · subst hid
      rw [hlookup] at hother
      cases hother
      obtain ⟨hrequest, hsame⟩ := acts_request hacts
      exact ⟨other', if_pos rfl, hrequest, hsame, htunnel⟩
    · exact ⟨handler, by rw [if_neg hid]; exact hlookup, rfl, rfl, rfl⟩
  | _ => exact ⟨handler, hlookup, rfl, rfl, rfl⟩

theorem Decodes.of_step (hdecodes : Decodes dec (events ++ [e]) next) (h : s.step baseDomain e = some next) :
    Decodes dec events s := by
  refine ⟨?_, fun sessionID payload hmem => hdecodes.opened sessionID payload (List.mem_append_left _ hmem),
    hdecodes.ping, hdecodes.pong⟩
  intro id handler hlookup
  obtain ⟨handler', hlookup', hrequest, hid, _⟩ := step_handlers h hlookup
  have hreads := hdecodes.requests id handler' hlookup'
  rwa [hrequest, hid] at hreads

/-- Only a handler's own actions change it. -/
theorem lookup_of_step (hstep : s.step baseDomain e = some next) (hother : ∀ e', e ≠ .handler id e')
    (hlookup : next.handlers.lookup id = some h) :
    s.handlers.lookup id = some h ∨ (s.handlers.lookup id = none ∧ h.phase = .routed) := by
  cases PublicSystem.step_cases hstep with
  | routed hroute hfresh =>
    rw [PublicSystem.setHandler_lookup] at hlookup
    split at hlookup
    · rename_i hid
      cases hlookup
      exact .inr ⟨by rw [hid]; exact AList.lookup_eq_none.mpr hfresh, (route_ok hroute).1⟩
    · exact .inl hlookup
  | @handler id' e other other' s' hacting hacts =>
    have hne : id ≠ id' := by
      rintro rfl
      exact hother e rfl
    rw [PublicSystem.setHandler_lookup, if_neg hne, hacts.frame.2.2.1] at hlookup
    exact .inl hlookup
  | _ => exact .inl hlookup

namespace Requests

variable {baseDomain : GoString} {events : List (PublicEvent Thread)} {s next : PublicSystem Thread}
  {e : PublicEvent Thread}

/-- Nobody but the handler of a request sends anything about it. -/
theorem aboutRequest_step (h : Requests dec events s) (hwaiters : s.Waiters) (hqueues : s.Queues)
    (hdecodes : Decodes dec (events ++ [e]) next) (hstep : s.step baseDomain e = some next) {id : GoString}
    (hother : ∀ e', e ≠ .handler id e') (sessionID : GoString) :
    aboutRequest dec id (next.outgoing (events ++ [e]) sessionID) =
      aboutRequest dec id (s.outgoing events sessionID) := by
  obtain hsame | ⟨message, hpushes, hmore⟩ := PublicSystem.step_outgoing_cases hqueues h.unmade hstep sessionID
  · rw [hsame]
  · rw [hmore, aboutRequest_concat_other]
    obtain ⟨id', e', handler, queue, rfl, hlookup, _, hemits⟩ | ⟨opened, rfl, rfl⟩ := PublicSystem.pushes_cases hpushes
    · have hreads := (hdecodes.of_step hstep).requests id' handler hlookup
      have hown := emits_about hreads (h.own hlookup) hemits
      rw [hwaiters.keyed hlookup] at hown
      intro habout
      exact hother e' (by rw [Item.about_inj habout hown])
    · rw [requestItem_other rfl (hdecodes.opened sessionID opened (by simp)) (by decide) (by decide) (by decide)]
      exact Bool.false_ne_true

omit [DecidableEq Thread] in
theorem start : Requests dec [] (PublicSystem.start : PublicSystem Thread) := by
  refine ⟨fun _ _ => rfl, ?_, fun _ => rfl⟩
  intro id h hlookup
  cases hlookup

theorem step (h : Requests dec events s) (hwaiters : s.Waiters) (hqueues : s.Queues)
    (hdecodes : Decodes dec (events ++ [e]) next) (hstep : s.step baseDomain e = some next) :
    Requests dec (events ++ [e]) next := by
  refine ⟨h.unmade.step hqueues hstep, ?_, ?_⟩
  · intro id handler hlookup
    by_cases hown : ∃ e', e = .handler id e'
    · obtain ⟨e', rfl⟩ := hown
      cases PublicSystem.step_cases hstep with
      | @handler _ _ old handler' s' hold hacts =>
        have hnext : (s'.setHandler id handler').handlers.lookup id = some handler' := by
          rw [PublicSystem.setHandler_lookup, if_pos rfl]
        rw [hnext] at hlookup
        cases hlookup
        have htunnel := hacts.frame.2.2.2.2
        have hsent := (h.own hold).acts hacts (fun hread => hread.mono (.handler id e')) (by
          rintro count rfl
          exact ⟨count, by simp⟩)
        rw [htunnel, PublicSystem.step_outgoing hqueues h.unmade hstep]
        simp only [PublicSystem.pushes, hold, Option.bind_some]
        cases hemits : old.emits e' with
        | none => simpa [hemits, PublicSystem.pushedTo] using hsent
        | some push =>
          have hreads := (hdecodes.of_step hstep).requests id old hold
          have habout := emits_about hreads (h.own hold) hemits
          rw [hwaiters.keyed hold] at habout
          rw [hemits] at hsent
          simp only [Option.map_some, PublicSystem.pushedTo, if_true]
          rw [aboutRequest_concat_own _ habout]
          exact hsent
    · rw [not_exists] at hown
      rw [h.aboutRequest_step hwaiters hqueues hdecodes hstep hown]
      obtain hold | ⟨hnone, hphase⟩ := lookup_of_step hstep hown hlookup
      · exact Sent.mono (h.own hold) fun hread => hread.mono e
      · have hempty : aboutRequest dec id (s.outgoing events handler.tunnel.sessionID) = [] := by
          refine h.foreign ?_
          intro old hold
          rw [hnone] at hold
          cases hold
        rw [Handler.HasSent, hphase]
        exact hempty
  · intro id sessionID hforeign
    have hbefore : ∀ old, s.handlers.lookup id = some old → old.tunnel.sessionID ≠ sessionID := by
      intro old hold
      obtain ⟨handler, hlookup, _, _, htunnel⟩ := step_handlers hstep hold
      rw [← htunnel]
      exact hforeign handler hlookup
    by_cases hown : ∃ e', e = .handler id e'
    · obtain ⟨e', rfl⟩ := hown
      rw [PublicSystem.step_outgoing hqueues h.unmade hstep]
      cases PublicSystem.step_cases hstep with
      | @handler _ _ old handler' s' hold hacts =>
        have hsilent : PublicSystem.pushedTo sessionID (s.pushes (.handler id e')) = [] := by
          simp only [PublicSystem.pushes, hold, Option.bind_some]
          cases old.emits e' with
          | none => rfl
          | some push => exact if_neg (hbefore old hold)
        rw [hsilent, List.append_nil]
        exact h.foreign hbefore
    · rw [not_exists] at hown
      rw [h.aboutRequest_step hwaiters hqueues hdecodes hstep hown]
      exact h.foreign hbefore

end Requests

theorem requests_of_run (hrun : run (PublicSystem.step baseDomain) PublicSystem.start events = some s)
    (hdecodes : Decodes dec events s) : Requests dec events s := by
  revert hdecodes
  apply run_induction (P := fun events s => Decodes dec events s → Requests dec events s) (fun _ => .start) _ hrun
  intro events s e next hbefore ih hstep hdecodes
  exact (ih (hdecodes.of_step hstep)).step (PublicSystem.waiters hbefore) (PublicSystem.queues_of_run hbefore)
    hdecodes hstep

end myngrok.pipeline
