import Myngrok.Tunnels.Waiters

open golang websocket transition myngrok.protocol
open myngrok.gateway (Calls CallEvent Chan Response Session)

namespace myngrok.tunnels

namespace Phase

/-- The outbound channel that the handler has in hand. -/
def queue : Phase → Option Chan
  | .enqueueing queue _ _ => some queue
  | .offering queue _ => some queue
  | _ => none

/-- The outbound channel that the handler waits for in `sendContext`. -/
def blocked : Phase → Option Chan
  | .enqueueing queue _ _ => some queue
  | _ => none

variable {phase : Phase} {queue : Chan}

theorem queue_of_blocked (h : phase.blocked = some queue) : phase.queue = some queue := by
  cases phase <;> first | exact h | cases h

theorem eq_enqueueing (h : phase.blocked = some queue) : ∃ message after, phase = .enqueueing queue message after := by
  cases phase with
  | enqueueing own message after =>
    cases h
    exact ⟨message, after, rfl⟩
  | _ => cases h

end Phase

theorem Handler.afterRead_queue {h h' : Handler} {sequence : UInt32} {offset count : Nat} {err : Option ReadError}
    (hread : h.afterRead sequence offset count err = some h') : h'.phase.queue = none := by
  simp only [Handler.afterRead] at hread
  split at hread <;> split at hread <;> cases hread <;> rfl

namespace PublicSystem

variable {Thread : Type} {s next s' : PublicSystem Thread} {sessionID baseDomain : GoString} {queue : Chan}
  {h h' : Handler} {e : PublicEvent Thread}

theorem setQueue_queues (s : PublicSystem Thread) (queue : Chan) (messages : List Message) (query : Chan) :
    (s.setQueue queue messages).queues query = if query = queue then messages else s.queues query := by
  simp [setQueue, Function.update_apply]

theorem length_push (s : PublicSystem Thread) (queue : Chan) (message : Message) (query : Chan) :
    ((s.push queue message).queues query).length = (s.queues query).length + if query = queue then 1 else 0 := by
  rw [push, setQueue_queues]
  split
  · rename_i heq
    rw [heq, List.length_append]
    rfl
  · rfl

/-- How sessions, their channels and the handlers that have one in hand fit together. -/
structure Queues (s : PublicSystem Thread) : Prop where
  made : ∀ {sessionID loop}, s.loops.lookup sessionID = some loop → loop.queue < s.madeQueues
  own : ∀ {sessionID sessionID' loop loop'}, s.loops.lookup sessionID = some loop →
    s.loops.lookup sessionID' = some loop' → loop.queue = loop'.queue → sessionID = sessionID'
  session : ∀ {sessionID session}, s.calls.manager.sessions.lookup sessionID = some session →
    ∃ loop, s.loops.lookup sessionID = some loop ∧ session.outbound = some loop.queue
  held : ∀ {id h queue}, s.handlers.lookup id = some h → h.phase.queue = some queue →
    ∃ loop, s.loops.lookup h.tunnel.sessionID = some loop ∧ loop.queue = queue

theorem Queues.outbound (hqueues : s.Queues) (h : s.calls.manager.outbound sessionID = some queue) :
    sessionID ∈ s.calls.manager.sessions ∧ ∃ loop, s.loops.lookup sessionID = some loop ∧ loop.queue = queue := by
  obtain ⟨session, hsession, houtbound⟩ := Option.bind_eq_some_iff.mp h
  obtain ⟨loop, hloop, hqueue⟩ := hqueues.session hsession
  rw [houtbound] at hqueue
  cases hqueue
  exact ⟨(Map.mem_iff_lookup _ _).mpr ⟨session, hsession⟩, loop, hloop, rfl⟩

/-- Loops, session map and handlers change together or not at all. -/
theorem Queues.congr (hqueues : s.Queues) (hloops : next.loops = s.loops) (hmade : next.madeQueues = s.madeQueues)
    (hsessions : ∀ {sessionID session}, next.calls.manager.sessions.lookup sessionID = some session →
      s.calls.manager.sessions.lookup sessionID = some session)
    (hheld : ∀ {id h queue}, next.handlers.lookup id = some h → h.phase.queue = some queue →
      s.handlers.lookup id = some h ∨ ∃ loop, s.loops.lookup h.tunnel.sessionID = some loop ∧ loop.queue = queue) :
    next.Queues := by
  constructor
  · rw [hloops, hmade]
    exact hqueues.made
  · rw [hloops]
    exact hqueues.own
  · intro sessionID session hsession
    rw [hloops]
    exact hqueues.session (hsessions hsession)
  · intro id h queue hlookup hqueue
    rw [hloops]
    obtain hold | hloop := hheld hlookup hqueue
    · exact hqueues.held hold hqueue
    · exact hloop

/-- The channel of a session that is gone is no longer named by the map. -/
theorem Queues.ne_of_gone (hqueues : s.Queues) {other : GoString} {loop : Loop}
    (hloop : s.loops.lookup sessionID = some loop) (hgone : sessionID ∉ s.calls.manager.sessions)
    (houtbound : s.calls.manager.outbound other = some queue) : loop.queue ≠ queue := by
  rintro rfl
  obtain ⟨hmem, loop', hloop', hsame⟩ := hqueues.outbound houtbound
  exact hgone (hqueues.own hloop hloop' hsame.symm ▸ hmem)

theorem Queues.finish (hqueues : s.Queues) (hloop : s.loops.lookup sessionID = some { running := true, queue }) :
    (s.setLoop sessionID { running := false, queue }).Queues := by
  -- The channels of the loops are the same before and after.
  have hback : ∀ {other loop}, (s.setLoop sessionID { running := false, queue }).loops.lookup other = some loop →
      ∃ old, s.loops.lookup other = some old ∧ loop.queue = old.queue := by
    intro other loop hlookup
    rw [setLoop, Map.lookup_insert_eq] at hlookup
    split at hlookup
    · rename_i heq
      cases hlookup
      subst heq
      exact ⟨_, hloop, rfl⟩
    · exact ⟨loop, hlookup, rfl⟩
  have hforth : ∀ {other old}, s.loops.lookup other = some old →
      ∃ loop, (s.setLoop sessionID { running := false, queue }).loops.lookup other = some loop ∧
        loop.queue = old.queue := by
    intro other old hlookup
    rw [setLoop, Map.lookup_insert_eq]
    split
    · rename_i heq
      subst heq
      rw [hloop] at hlookup
      cases hlookup
      exact ⟨_, rfl, rfl⟩
    · exact ⟨old, hlookup, rfl⟩
  constructor
  · intro other loop hlookup
    obtain ⟨old, hold, hsame⟩ := hback hlookup
    rw [hsame]
    exact hqueues.made hold
  · intro other other' loop loop' hlookup hlookup' heq
    obtain ⟨old, hold, hsame⟩ := hback hlookup
    obtain ⟨old', hold', hsame'⟩ := hback hlookup'
    exact hqueues.own hold hold' (by rw [← hsame, ← hsame', heq])
  · intro other session hsession
    obtain ⟨old, hold, houtbound⟩ := hqueues.session hsession
    obtain ⟨loop, hlookup, hsame⟩ := hforth hold
    exact ⟨loop, hlookup, by rw [hsame, houtbound]⟩
  · intro id h held hlookup hheld
    obtain ⟨old, hold, hqueue⟩ := hqueues.held hlookup hheld
    obtain ⟨loop, hnew, hsame⟩ := hforth hold
    exact ⟨loop, hnew, hsame.trans hqueue⟩

variable [DecidableEq Thread]

/-- What no action of a handler changes. -/
theorem Acts.frame {e : HandlerEvent} (hacts : s.Acts h e s' h') :
    s'.loops = s.loops ∧ s'.madeQueues = s.madeQueues ∧ s'.handlers = s.handlers ∧
      s'.calls.manager.sessions = s.calls.manager.sessions ∧ h'.tunnel = h.tunnel := by
  cases hacts with
  | register hphase hcall | receive hphase hcall | cancelRequest hphase hcall =>
    cases Calls.step_cases hcall
    exact ⟨rfl, rfl, rfl, rfl, rfl⟩
  | @lookupMissing message after | @sendDone queue message after | @enqueue queue message after =>
    cases after <;> exact ⟨rfl, rfl, rfl, rfl, rfl⟩
  | read hphase hallowed hread =>
    obtain ⟨phase, rfl, _⟩ := Handler.afterRead_eq hread
    exact ⟨rfl, rfl, rfl, rfl, rfl⟩
  | _ => exact ⟨rfl, rfl, rfl, rfl, rfl⟩

/-- An action of a handler either takes a channel in hand that the session map names, and no queue changes; or the
    handler then has none, and it has put at most one message in the queue that it had. -/
theorem Acts.holding {e : HandlerEvent} (hacts : s.Acts h e s' h') :
    (∃ queue, h'.phase.queue = some queue ∧ h.phase.queue = none ∧
      s.calls.manager.outbound h.tunnel.sessionID = some queue ∧ s'.queues = s.queues) ∨
    (h'.phase.queue = none ∧ ∀ queue, (s.queues queue).length ≤ (s'.queues queue).length ∧
      (s'.queues queue).length ≤ (s.queues queue).length + if h.phase.queue = some queue then 1 else 0) := by
  have hquiet : ∀ queue, (s.queues queue).length ≤ (s.queues queue).length ∧
      (s.queues queue).length ≤ (s.queues queue).length + if h.phase.queue = some queue then 1 else 0 :=
    fun queue => ⟨Nat.le_refl _, Nat.le_add_right _ _⟩
  have hpush : ∀ own message, h.phase.queue = some own → ∀ queue,
      (s.queues queue).length ≤ ((s.push own message).queues queue).length ∧
      ((s.push own message).queues queue).length ≤
        (s.queues queue).length + if h.phase.queue = some queue then 1 else 0 := by
    intro own message hown queue
    rw [length_push, hown]
    simp only [Option.some.injEq, eq_comm]
    exact ⟨Nat.le_add_right _ _, Nat.le_refl _⟩
  cases hacts with
  | lookupFound hphase hlookup | cancelFound hphase hlookup =>
    exact .inl ⟨_, rfl, by rw [hphase]; rfl, hlookup, rfl⟩
  | @enqueue queue message after hphase hroom =>
    have hown : h.phase.queue = some queue := by rw [hphase]; rfl
    cases after <;> exact .inr ⟨rfl, hpush queue message hown⟩
  | @offered queue reply hphase hroom =>
    exact .inr ⟨rfl, hpush queue (cancelRequestMessage h.id) (by rw [hphase]; rfl)⟩
  | @lookupMissing message after | @sendDone queue message after => cases after <;> exact .inr ⟨rfl, hquiet⟩
  | read hphase hallowed hread => exact .inr ⟨Handler.afterRead_queue hread, hquiet⟩
  | _ => exact .inr ⟨rfl, hquiet⟩

theorem Queues.connect {session : Session} {now : Nat} {calls : Calls Thread} (hqueues : s.Queues)
    (habsent : session.id ∉ s.loops) (houtbound : session.outbound = some s.madeQueues)
    (hcall : s.calls.step (.register session now) = some calls) :
    Queues { (s.setCalls calls).setLoop session.id { running := true, queue := s.madeQueues } with
      madeQueues := s.madeQueues + 1 } := by
  have hother : ∀ {sessionID loop}, s.loops.lookup sessionID = some loop → sessionID ≠ session.id := by
    rintro sessionID loop hlookup rfl
    exact habsent ((Map.mem_iff_lookup _ _).mpr ⟨loop, hlookup⟩)
  have hloops : ∀ {sessionID loop}, ((s.setCalls calls).setLoop session.id
      { running := true, queue := s.madeQueues }).loops.lookup sessionID = some loop →
      (sessionID = session.id ∧ loop = { running := true, queue := s.madeQueues }) ∨
        s.loops.lookup sessionID = some loop := by
    intro sessionID loop hlookup
    rw [setLoop, Map.lookup_insert_eq] at hlookup
    split at hlookup
    · rename_i heq
      cases hlookup
      exact .inl ⟨heq, rfl⟩
    · exact .inr hlookup
  have hkept : ∀ {sessionID loop}, s.loops.lookup sessionID = some loop →
      ((s.setCalls calls).setLoop session.id { running := true, queue := s.madeQueues }).loops.lookup sessionID =
        some loop := by
    intro sessionID loop hlookup
    rw [setLoop, Map.lookup_insert_eq, if_neg (hother hlookup)]
    exact hlookup
  constructor
  · intro sessionID loop hlookup
    obtain ⟨_, rfl⟩ | hold := hloops hlookup
    · exact Nat.lt_succ_self _
    · exact Nat.lt_succ_of_lt (hqueues.made hold)
  · intro sessionID sessionID' loop loop' hlookup hlookup' heq
    obtain ⟨rfl, rfl⟩ | hold := hloops hlookup <;> obtain ⟨rfl, rfl⟩ | hold' := hloops hlookup'
    · rfl
    · exact absurd heq.symm (Nat.ne_of_lt (hqueues.made hold'))
    · exact absurd heq (Nat.ne_of_lt (hqueues.made hold))
    · exact hqueues.own hold hold' heq
  · intro sessionID found hfound
    obtain hold | ⟨given, _, he, rfl, hgiven⟩ := Calls.step_sessions_lookup hcall hfound
    · obtain ⟨loop, hloop, hqueue⟩ := hqueues.session hold
      exact ⟨loop, hkept hloop, hqueue⟩
    · cases he
      exact ⟨_, (Map.lookup_insert_eq _ _ _ _).trans (if_pos rfl), hgiven.trans houtbound⟩
  · intro id h queue hlookup hqueue
    obtain ⟨loop, hloop, hsame⟩ := hqueues.held hlookup hqueue
    exact ⟨loop, hkept hloop, hsame⟩

theorem Queues.step (hqueues : s.Queues) (h : s.step baseDomain e = some next) : next.Queues := by
  cases step_cases h with
  | connect habsent houtbound hcall => exact hqueues.connect habsent houtbound hcall
  | finish hloop => exact hqueues.finish hloop
  | @routed request now random handler limiter hroute hfresh =>
    refine hqueues.congr rfl rfl (fun hsession => hsession) ?_
    intro id h queue hlookup hqueue
    rw [setHandler_lookup] at hlookup
    split at hlookup
    · cases hlookup
      rw [(route_ok hroute).1] at hqueue
      cases hqueue
    · exact .inl hlookup
  | @handler id e handler handler' s' hlookup hacts =>
    obtain ⟨hloops, hmade, hhandlers, hsessions, htunnel⟩ := hacts.frame
    refine hqueues.congr hloops hmade ?_ ?_
    · intro sessionID session hsession
      rwa [← hsessions]
    · intro query h queue hquery hqueue
      rw [setHandler_lookup, hhandlers] at hquery
      split at hquery
      · cases hquery
        obtain ⟨own, hown, _, houtbound, _⟩ | ⟨hnone, _⟩ := hacts.holding
        · rw [hown] at hqueue
          cases hqueue
          rw [htunnel]
          exact .inr (hqueues.outbound houtbound).2
        · rw [hnone] at hqueue
          cases hqueue
      · exact .inl hquery
  | call hcalled hcall =>
    refine hqueues.congr rfl rfl ?_ (fun hlookup _ => .inl hlookup)
    intro sessionID session hsession
    obtain hold | ⟨_, _, rfl, _⟩ := Calls.step_sessions_lookup hcall hsession
    · exact hold
    · cases hcalled
  | openTunnel | closeTunnel | closeSession | rejected | dequeue | beat | post =>
    exact hqueues.congr rfl rfl (fun hsession => hsession) (fun hlookup _ => .inl hlookup)

theorem queues_of_run {events : List (PublicEvent Thread)} (h : run (step baseDomain) start events = some s) :
    s.Queues := by
  apply run_induction (P := fun _ s => s.Queues) _ _ h
  · constructor
    · intro sessionID loop hlookup
      cases hlookup
    · intro sessionID sessionID' loop loop' hlookup
      cases hlookup
    · intro sessionID session hlookup
      cases hlookup
    · intro id h queue hlookup
      cases hlookup
  · intro events state e next _ hqueues hstep
    exact hqueues.step hstep

/-- The session connected once and has been removed from the map. -/
def Gone (s : PublicSystem Thread) (sessionID : GoString) : Prop :=
  sessionID ∈ s.loops ∧ sessionID ∉ s.calls.manager.sessions

theorem step_loops (h : s.step baseDomain e = some next) (hmem : sessionID ∈ s.loops) : sessionID ∈ next.loops := by
  cases step_cases h with
  | connect | finish => exact (AList.mem_insert _).mpr (.inr hmem)
  | handler hlookup hacts =>
    rw [← hacts.frame.1] at hmem
    exact hmem
  | _ => exact hmem

/-- Session IDs are not used again, so a session that is gone stays gone. -/
theorem Gone.step (hgone : s.Gone sessionID) (h : s.step baseDomain e = some next) : next.Gone sessionID := by
  obtain ⟨hknown, hnot⟩ := hgone
  refine ⟨step_loops h hknown, ?_⟩
  have hcalled : ∀ {e calls}, s.calls.step e = some calls →
      (∀ given now, e = .register given now → given.id ∉ s.loops) → sessionID ∉ calls.manager.sessions := by
    intro e calls hcall hfresh hmem
    obtain ⟨found, hfound⟩ := (Map.mem_iff_lookup _ _).mp hmem
    obtain hold | ⟨given, now, hgiven, hid, _⟩ := Calls.step_sessions_lookup hcall hfound
    · exact hnot ((Map.mem_iff_lookup _ _).mpr ⟨found, hold⟩)
    · exact hfresh given now hgiven (hid ▸ hknown)
  cases step_cases h with
  | connect habsent houtbound hcall =>
    refine hcalled hcall ?_
    rintro given now ⟨⟩
    exact habsent
  | handler hlookup hacts =>
    rw [← hacts.frame.2.2.2.1] at hnot
    exact hnot
  | call hin hcall =>
    refine hcalled hcall ?_
    rintro given now rfl
    cases hin
  | _ => exact hnot

end PublicSystem

end myngrok.tunnels
