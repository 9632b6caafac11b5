import Myngrok.Gateway.SessionBinding
import Myngrok.Tunnels.Queues
import Myngrok.Tunnels.Stranded

open golang websocket transition myngrok.protocol
open myngrok.gateway (Calls Chan Response disconnected sends sends_concat)

namespace myngrok.tunnels

variable {Thread : Type}

/-- The answer that a handler has decided on. -/
def Phase.reply : Phase → Option Reply
  | .cancelling reply => some reply
  | .offering _ reply => some reply
  | .leaving reply => some reply
  | .returned reply => some reply
  | _ => none

def Reply.isError : Reply → Bool
  | .error .. => true
  | .limited .. => true
  | .response .. => false

theorem readErrorReply_isError (err : ReadError) : (readErrorReply err).isError = true := by
  cases err <;> rfl

namespace Handler

/-- What a handler makes up itself is an error. -/
theorem unsent_reply (h : Handler) (after : After) : ∀ reply ∈ (h.unsent after).phase.reply, reply.isError = true := by
  cases after <;> rintro _ ⟨⟩ <;> rfl

theorem sent_reply (h : Handler) (after : After) : ∀ reply ∈ (h.sent after).phase.reply, reply.isError = true := by
  cases after with
  | readFailed err =>
    rintro _ ⟨⟩
    exact readErrorReply_isError err
  | _ => rintro _ ⟨⟩

theorem afterRead_reply {h h' : Handler} {sequence : UInt32} {offset count : Nat} {err : Option ReadError}
    (hread : h.afterRead sequence offset count err = some h') : ∀ reply ∈ h'.phase.reply, reply.isError = true := by
  simp only [afterRead] at hread
  split at hread <;> split at hread <;> cases hread
  · rintro _ ⟨⟩
  · rintro _ ⟨⟩
    rfl
  · rintro _ ⟨⟩
  · rintro _ ⟨⟩
  · rintro _ ⟨⟩
    exact readErrorReply_isError _

end Handler

namespace PublicSystem

/-- What a run says about the handlers that are past `RegisterRequest` and about their answers. -/
structure Answered (events : List (PublicEvent Thread)) (s : PublicSystem Thread) : Prop where
  registered : ∀ {id h}, s.handlers.lookup id = some h → h.phase ≠ .routed →
    .handler id (.register h.tunnel.sessionID h.ch) ∈ events
  received : ∀ {id h reply}, s.handlers.lookup id = some h → reply ∈ h.phase.reply → reply.isError = false →
    ∃ response ∈ sends h.ch (events.filterMap PublicEvent.callEvent), reply = responseReply response

variable {s s' : PublicSystem Thread} {events : List (PublicEvent Thread)} {h h' : Handler} {id baseDomain : GoString}
  {e : HandlerEvent}

theorem Answered.mono (hanswered : Answered events s) (hlookup : s.handlers.lookup id = some h)
    (e : PublicEvent Thread) :
    (h.phase ≠ .routed → .handler id (.register h.tunnel.sessionID h.ch) ∈ events ++ [e]) ∧
      ∀ reply ∈ h.phase.reply, reply.isError = false →
        ∃ response ∈ sends h.ch ((events ++ [e]).filterMap PublicEvent.callEvent), reply = responseReply response := by
  refine ⟨fun hphase => List.mem_append_left _ (hanswered.registered hlookup hphase), ?_⟩
  intro reply hreply hresponse
  obtain ⟨response, hsent, heq⟩ := hanswered.received hlookup hreply hresponse
  refine ⟨response, ?_, heq⟩
  rw [List.filterMap_append, sends, List.filterMap_append]
  exact List.mem_append_left _ hsent

variable [DecidableEq Thread]

/-- An answer that is no error comes from the response channel of the handler. -/
theorem Acts.reply (hacts : s.Acts h e s' h') {reply : Reply} (hreply : reply ∈ h'.phase.reply)
    (hresponse : reply.isError = false) :
    reply ∈ h.phase.reply ∨ ∃ response ∈ s.calls.buffers h.ch, reply = responseReply response := by
  -- A handler that has just decided on an error is no case here.
  have herror : (∀ reply ∈ h'.phase.reply, reply.isError = true) → False := by
    intro hall
    rw [hall reply hreply] at hresponse
    cases hresponse
  cases hacts with
  | register | lookupFound => cases hreply
  | @lookupMissing message after => exact (herror (h.unsent_reply after)).elim
  | @sendDone queue message after => exact (herror (h.unsent_reply after)).elim
  | @enqueue queue message after => exact (herror (h.sent_reply after)).elim
  | read _ _ hread => exact (herror (Handler.afterRead_reply hread)).elim
  | receive hphase hcall =>
    cases hreply
    cases Calls.step_cases hcall with
    | receive hbuffer => exact .inr ⟨_, by rw [hbuffer]; exact List.mem_cons_self, rfl⟩
  | waitDone | timeout =>
    cases hreply
    cases hresponse
  | cancelFound hphase | cancelMissing hphase | offered hphase | refused hphase | cancelRequest hphase =>
    cases hreply
    exact .inl (by rw [hphase]; rfl)

/-- Once registered, a handler keeps its channel. -/
theorem Acts.channel (hacts : s.Acts h e s' h') :
    (e = .register h'.tunnel.sessionID h'.ch ∧ h'.phase.reply = none) ∨ (h.phase ≠ .routed ∧ h'.ch = h.ch) := by
  cases hacts with
  | register => exact .inl ⟨rfl, rfl⟩
  | @lookupMissing message after hphase | @sendDone queue message after hphase | @enqueue queue message after hphase =>
    refine .inr ⟨by rw [hphase]; nofun, ?_⟩
    cases after <;> rfl
  | read hphase _ hread =>
    obtain ⟨phase, rfl, _⟩ := Handler.afterRead_eq hread
    exact .inr ⟨by rw [hphase]; nofun, rfl⟩
  | lookupFound hphase | receive hphase | waitDone hphase | timeout hphase | cancelFound hphase
  | cancelMissing hphase | offered hphase | refused hphase | cancelRequest hphase =>
    exact .inr ⟨by rw [hphase]; nofun, rfl⟩

theorem Answered.step {next : PublicSystem Thread} {e : PublicEvent Thread} (hanswered : Answered events s)
    (hrun : run (PublicSystem.step baseDomain) start events = some s) (hstep : s.step baseDomain e = some next) :
    Answered (events ++ [e]) next := by
  suffices hboth : ∀ {id h}, next.handlers.lookup id = some h →
      (h.phase ≠ .routed → .handler id (.register h.tunnel.sessionID h.ch) ∈ events ++ [e]) ∧
      ∀ reply ∈ h.phase.reply, reply.isError = false →
        ∃ response ∈ sends h.ch ((events ++ [e]).filterMap PublicEvent.callEvent), reply = responseReply response from
    ⟨fun hlookup => (hboth hlookup).1, fun hlookup => (hboth hlookup).2 _⟩
  intro id h hlookup
  cases step_cases hstep with
  | routed hroute hfresh =>
    rw [setHandler_lookup] at hlookup
    split at hlookup
    · cases hlookup
      rw [(route_ok hroute).1]
      exact ⟨fun hphase => absurd rfl hphase, fun reply hreply => by cases hreply⟩
    · exact hanswered.mono hlookup _
  | @handler other e old new s' hold hacts =>
    obtain ⟨_, _, hhandlers, _, htunnel⟩ := hacts.frame
    rw [setHandler_lookup, hhandlers] at hlookup
    split at hlookup
    · rename_i hid
      subst hid
      cases hlookup
      obtain ⟨hregistered, hreceived⟩ := hanswered.mono hold (.handler id e)
      refine ⟨fun hphase => ?_, fun reply hreply hresponse => ?_⟩
      · obtain ⟨rfl, _⟩ | ⟨hpast, hch⟩ := hacts.channel
        · simp
        · rw [hch, htunnel]
          exact hregistered hpast
      · obtain ⟨_, hnone⟩ | ⟨hpast, hch⟩ := hacts.channel
        · rw [hnone] at hreply
          cases hreply
        · rw [hch]
          obtain hbefore | ⟨response, hbuffer, heq⟩ := hacts.reply hreply hresponse
          · exact hreceived reply hbefore hresponse
          · refine ⟨response, ?_, heq⟩
            rw [List.filterMap_append, sends, List.filterMap_append]
            refine List.mem_append_left _ ?_
            show response ∈ sends old.ch (events.filterMap PublicEvent.callEvent)
            rw [(Calls.tokens (run_calls hrun)).buffer]
            exact List.mem_append_right _ hbuffer
    · exact hanswered.mono hlookup _
  | _ => exact hanswered.mono hlookup _

theorem answered_of_run (h : run (step baseDomain) start events = some s) : Answered events s := by
  apply run_induction (P := fun events s => Answered events s) _ _ h
  · constructor
    · intro id h hlookup
      cases hlookup
    · intro id h reply hlookup
      cases hlookup
  · intro events s e next hrun ih hstep
    exact ih.step hrun hstep

/-- A response that a public client gets is one that a session loop has delivered for the ID of its request. -/
theorem response_delivered (hrun : run (step baseDomain) start events = some s)
    (hlookup : s.handlers.lookup id = some h) {reply : Reply} (hreply : reply ∈ h.phase.reply)
    (hresponse : reply.isError = false) :
    ∃ t response, .call (.deliverLocked t id response) ∈ events ∧ reply = responseReply response := by
  have hanswered := answered_of_run hrun
  obtain ⟨response, hsent, rfl⟩ := hanswered.received hlookup hreply hresponse
  have hphase : h.phase ≠ .routed := by
    intro hphase
    rw [hphase] at hreply
    cases hreply
  have hown : .registerRequest h.tunnel.sessionID id h.ch ∈ events.filterMap PublicEvent.callEvent :=
    List.mem_filterMap.mpr ⟨_, hanswered.registered hlookup hphase, rfl⟩
  obtain ⟨before, t, id', sessionID, after, hevents, hlive⟩ | ⟨rfl, _⟩ := (Calls.origins (run_calls hrun)).sent hsent
  · have hlived : .registerRequest sessionID id' h.ch ∈ events.filterMap PublicEvent.callEvent := by
      rw [hevents]
      exact List.mem_append_left _ hlive.registered
    obtain ⟨_, rfl⟩ := (Calls.registered_once (run_calls hrun)).2 _ _ _ _ _ hown hlived
    have hmem : .deliverLocked t id response ∈ events.filterMap PublicEvent.callEvent := by
      rw [hevents]
      simp
    obtain ⟨e, he, hcall⟩ := List.mem_filterMap.mp hmem
    refine ⟨t, response, ?_, rfl⟩
    cases e with
    | call e =>
      cases hcall
      exact he
    | handler other action => cases action <;> cases hcall
    | _ => cases hcall
  · cases hresponse

end PublicSystem

end myngrok.tunnels
