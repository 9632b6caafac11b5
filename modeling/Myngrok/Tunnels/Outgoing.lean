import Myngrok.Tunnels.RequestBody

open golang Result websocket transition myngrok.protocol
open myngrok.gateway (Calls CallEvent Chan Response Session)

namespace myngrok.tunnels

variable {Thread : Type}

/-- The message that the loop of a session takes from its queue. -/
def PublicEvent.taken (sessionID : GoString) : PublicEvent Thread → Option Message
  | .dequeue other message => if other = sessionID then some message else none
  | _ => none

/-- The message that the loop of a session writes to its WebSocket. -/
def PublicEvent.written (sessionID : GoString) : PublicEvent Thread → Option Message
  | .dequeue other message => if other = sessionID then some message else none
  | .beat other answer => if other = sessionID then some (if answer then pongMessage else pingMessage) else none
  | _ => none

namespace PublicSystem

/-- The messages in the outbound queue of a session. -/
def queued (s : PublicSystem Thread) (sessionID : GoString) : List Message :=
  match s.loops.lookup sessionID with
  | some loop => s.queues loop.queue
  | none => []

/-- All that was ever put there, in order. -/
def outgoing (s : PublicSystem Thread) (events : List (PublicEvent Thread)) (sessionID : GoString) : List Message :=
  events.filterMap (PublicEvent.taken sessionID) ++ s.queued sessionID

variable {s next : PublicSystem Thread} {sessionID owner baseDomain : GoString} {loop : Loop} {e : PublicEvent Thread}
  {events : List (PublicEvent Thread)} {message : Message}

theorem queued_of_some (h : s.loops.lookup sessionID = some loop) : s.queued sessionID = s.queues loop.queue := by
  rw [queued, h]

theorem queued_of_none (h : s.loops.lookup sessionID = none) : s.queued sessionID = [] := by
  rw [queued, h]

/-- The message that an action puts in an outbound queue, and the session of that queue. -/
def pushes (s : PublicSystem Thread) : PublicEvent Thread → Option (GoString × Message)
  | .handler id e => (s.handlers.lookup id).bind fun h => (h.emits e).map fun push => (h.tunnel.sessionID, push.2)
  | .post sessionID opened => some (sessionID, tunnelOpenedMessage opened)
  | _ => none

/-- What of it goes to the given session. -/
def pushedTo (sessionID : GoString) : Option (GoString × Message) → List Message
  | some (other, message) => if other = sessionID then [message] else []
  | none => []

/-- The queues of sessions yet to come are empty. -/
def Unmade (s : PublicSystem Thread) : Prop := ∀ queue, s.madeQueues ≤ queue → s.queues queue = []

theorem outgoing_congr (htaken : e.taken sessionID = none) (hqueued : next.queued sessionID = s.queued sessionID) :
    next.outgoing (events ++ [e]) sessionID = s.outgoing events sessionID := by
  rw [outgoing, outgoing, filterMap_concat, htaken, hqueued, Option.toList_none, List.append_nil]

theorem queued_congr (hloops : next.loops = s.loops) (hqueues : next.queues = s.queues) (sessionID : GoString) :
    next.queued sessionID = s.queued sessionID := by
  rw [queued, queued, hloops, hqueues]

/-- A message put in the queue of one session is put in no other. -/
theorem queued_push (hqueues : s.Queues) (hloop : s.loops.lookup owner = some loop) (hloops : next.loops = s.loops)
    (hpush : next.queues = (s.push loop.queue message).queues) (sessionID : GoString) :
    next.queued sessionID = s.queued sessionID ++ if owner = sessionID then [message] else [] := by
  by_cases howner : owner = sessionID
  · subst howner
    have hnext : next.loops.lookup owner = some loop := by rw [hloops, hloop]
    rw [queued_of_some hnext, queued_of_some hloop, hpush, push, setQueue_queues, if_pos rfl, if_pos rfl]
  · rw [if_neg howner, List.append_nil]
    cases hother : s.loops.lookup sessionID with
    | none =>
      have hnext : next.loops.lookup sessionID = none := by rw [hloops, hother]
      rw [queued_of_none hother, queued_of_none hnext]
    | some other =>
      have hne : other.queue ≠ loop.queue := fun heq => howner (hqueues.own hloop hother heq.symm)
      have hnext : next.loops.lookup sessionID = some other := by rw [hloops, hother]
      rw [queued_of_some hnext, queued_of_some hother, hpush, push, setQueue_queues, if_neg hne]

theorem outgoing_push (hqueues : s.Queues) (hloop : s.loops.lookup owner = some loop)
    (htaken : e.taken sessionID = none) (hloops : next.loops = s.loops)
    (hpush : next.queues = (s.push loop.queue message).queues) :
    next.outgoing (events ++ [e]) sessionID =
      s.outgoing events sessionID ++ if owner = sessionID then [message] else [] := by
  rw [outgoing, outgoing, filterMap_concat, htaken, queued_push hqueues hloop hloops hpush, Option.toList_none,
    List.append_nil, List.append_assoc]

/-- Changing a loop without its channel, or adding one with an empty queue, adds nothing. -/
theorem queued_setLoop (loop : Loop) (hloops : next.loops = s.loops.insert sessionID loop)
    (hqueues : next.queues = s.queues) (hsame : s.queues loop.queue = s.queued sessionID) (query : GoString) :
    next.queued query = s.queued query := by
  have hlookup : next.loops.lookup query = if query = sessionID then some loop else s.loops.lookup query := by
    rw [hloops, Map.lookup_insert_eq]
  by_cases hquery : query = sessionID
  · subst hquery
    rw [if_pos rfl] at hlookup
    rw [queued_of_some hlookup, hqueues, hsame]
  · rw [if_neg hquery] at hlookup
    rw [queued, queued, hlookup, hqueues]

/-- A message comes from a handler, or from the loop of the session itself. -/
theorem pushes_cases (h : s.pushes e = some (sessionID, message)) :
    (∃ id e' handler queue, e = .handler id e' ∧ s.handlers.lookup id = some handler ∧
      handler.tunnel.sessionID = sessionID ∧ handler.emits e' = some (queue, message)) ∨
    ∃ opened, e = .post sessionID opened ∧ message = tunnelOpenedMessage opened := by
  unfold pushes at h
  split at h
  · rename_i id e'
    obtain ⟨handler, hlookup, hmapped⟩ := Option.bind_eq_some_iff.mp h
    obtain ⟨⟨queue, pushed⟩, hemits, hpair⟩ := Option.map_eq_some_iff.mp hmapped
    cases hpair
    exact .inl ⟨id, e', handler, queue, rfl, hlookup, rfl, hemits⟩
  · cases h
    exact .inr ⟨_, rfl, rfl⟩
  · cases h

variable [DecidableEq Thread]

/-- An action of a handler changes no queue, unless it puts a message in the one that the handler has in hand. -/
theorem Acts.queues {s' : PublicSystem Thread} {h h' : Handler} {e : HandlerEvent} (hacts : s.Acts h e s' h') :
    (h.emits e = none ∧ s'.queues = s.queues) ∨
      ∃ queue message, h.emits e = some (queue, message) ∧ h.phase.queue = some queue ∧
        s'.queues = (s.push queue message).queues := by
  cases hacts with
  | enqueue hphase => exact .inr ⟨_, _, by simp only [Handler.emits, hphase], by rw [hphase]; rfl, rfl⟩
  | offered hphase => exact .inr ⟨_, _, by simp only [Handler.emits, hphase], by rw [hphase]; rfl, rfl⟩
  | register hphase | lookupFound hphase | lookupMissing hphase | sendDone hphase | read hphase | receive hphase
  | waitDone hphase | timeout hphase | cancelFound hphase | cancelMissing hphase | refused hphase
  | cancelRequest hphase => exact .inl ⟨by simp only [Handler.emits, hphase], rfl⟩

section

variable (hqueues : s.Queues) (hunmade : s.Unmade) (h : s.step baseDomain e = some next)

include hqueues hunmade h

/-- What goes out on a session grows by what is put in its queue, and by nothing else. -/
theorem step_outgoing (sessionID : GoString) :
    next.outgoing (events ++ [e]) sessionID = s.outgoing events sessionID ++ pushedTo sessionID (s.pushes e) := by
  cases step_cases h with
  | connect habsent hqueue hcall =>
    simp only [pushes, pushedTo, List.append_nil]
    have hempty : s.queues s.madeQueues = s.queued _ :=
      (hunmade _ (Nat.le_refl _)).trans (queued_of_none (AList.lookup_eq_none.mpr habsent)).symm
    refine outgoing_congr rfl ?_
    refine queued_setLoop { running := true, queue := s.madeQueues } ?_ ?_ hempty sessionID <;> rfl
  | @finish owner queue hloop =>
    simp only [pushes, pushedTo, List.append_nil]
    refine outgoing_congr rfl ?_
    refine queued_setLoop { running := false, queue } ?_ ?_ (queued_of_some hloop).symm sessionID <;> rfl
  | @handler id e handler handler' s' hlookup hacts =>
    obtain ⟨hloops, _⟩ := hacts.frame
    simp only [pushes, hlookup, Option.bind_some]
    obtain ⟨hnone, hsame⟩ | ⟨queue, message, hemits, hheld, hpush⟩ := hacts.queues
    · rw [hnone, Option.map_none, pushedTo, List.append_nil]
      exact outgoing_congr rfl (queued_congr hloops hsame sessionID)
    · obtain ⟨loop, hloop, rfl⟩ := hqueues.held hlookup hheld
      rw [hemits, Option.map_some, pushedTo]
      exact outgoing_push hqueues hloop rfl hloops hpush
  | post opened hloop houtbound hroom =>
    obtain ⟨_, loop, hown, rfl⟩ := hqueues.outbound houtbound
    exact outgoing_push hqueues hown rfl rfl rfl
  | @dequeue owner own queue message rest hrunning houtbound hqueue =>
    obtain ⟨_, loop, hown, rfl⟩ := hqueues.outbound houtbound
    simp only [pushes, pushedTo, List.append_nil]
    rw [outgoing, outgoing, filterMap_concat, List.append_assoc]
    congr 1
    have hlookup : (s.setQueue loop.queue rest).loops.lookup sessionID = s.loops.lookup sessionID := rfl
    by_cases howner : owner = sessionID
    · subst howner
      rw [queued_of_some (hlookup.trans hown), queued_of_some hown, hqueue, setQueue_queues, if_pos rfl,
        PublicEvent.taken, if_pos rfl]
      rfl
    · rw [PublicEvent.taken, if_neg howner, Option.toList_none, List.nil_append]
      cases hother : s.loops.lookup sessionID with
      | none => rw [queued_of_none (hlookup.trans hother), queued_of_none hother]
      | some other =>
        have hne : other.queue ≠ loop.queue := fun heq => howner (hqueues.own hown hother heq.symm)
        rw [queued_of_some (hlookup.trans hother), queued_of_some hother, setQueue_queues, if_neg hne]
  | openTunnel | closeTunnel | closeSession | rejected | routed | beat | call =>
    simp only [pushes, pushedTo, List.append_nil]
    exact outgoing_congr rfl (queued_congr rfl rfl sessionID)

/-- At most one message is added, and it is one that was meant for the session. -/
theorem step_outgoing_cases (sessionID : GoString) :
    next.outgoing (events ++ [e]) sessionID = s.outgoing events sessionID ∨
      ∃ message, s.pushes e = some (sessionID, message) ∧
        next.outgoing (events ++ [e]) sessionID = s.outgoing events sessionID ++ [message] := by
  rw [step_outgoing hqueues hunmade h]
  cases s.pushes e with
  | none => exact .inl (List.append_nil _)
  | some push =>
    obtain ⟨owner, message⟩ := push
    rw [pushedTo]
    split
    · rename_i howner
      subst howner
      exact .inr ⟨message, rfl, rfl⟩
    · exact .inl (List.append_nil _)

theorem Unmade.step : next.Unmade := by
  -- A queue that is written to belongs to a session that has connected.
  have hset : ∀ {sessionID loop} messages, s.loops.lookup sessionID = some loop → ∀ query, s.madeQueues ≤ query →
      (s.setQueue loop.queue messages).queues query = [] := by
    intro sessionID loop messages hloop query hquery
    have hne : query ≠ loop.queue := Nat.ne_of_gt (Nat.lt_of_lt_of_le (hqueues.made hloop) hquery)
    rw [setQueue_queues, if_neg hne]
    exact hunmade query hquery
  cases step_cases h with
  | connect habsent hqueue hcall => exact fun query hquery => hunmade query (Nat.le_of_succ_le hquery)
  | handler hlookup hacts =>
    obtain ⟨_, hmade, _⟩ := hacts.frame
    intro query hquery
    have hold : s.madeQueues ≤ query := hmade ▸ hquery
    obtain ⟨_, hsame⟩ | ⟨queue, message, _, hheld, hpush⟩ := hacts.queues
    · exact (congrFun hsame query).trans (hunmade query hold)
    · obtain ⟨loop, hloop, rfl⟩ := hqueues.held hlookup hheld
      exact (congrFun hpush query).trans (hset _ hloop query hold)
  | post opened hloop houtbound =>
    obtain ⟨_, loop, hown, rfl⟩ := hqueues.outbound houtbound
    exact hset _ hown
  | dequeue hloop houtbound =>
    obtain ⟨_, loop, hown, rfl⟩ := hqueues.outbound houtbound
    exact hset _ hown
  | openTunnel | closeTunnel | closeSession | rejected | routed | beat | finish | call => exact hunmade

end

theorem unmade_of_run (h : run (PublicSystem.step baseDomain) PublicSystem.start events = some s) : s.Unmade := by
  refine run_induction (P := fun _ s => s.Unmade) ?_ ?_ h
  · exact fun _ _ => rfl
  · intro events s e next hbefore ih hstep
    exact Unmade.step (queues_of_run hbefore) ih hstep

end PublicSystem

end myngrok.tunnels
