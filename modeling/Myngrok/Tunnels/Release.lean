import Myngrok.Tunnels.Queues

open golang websocket transition myngrok.protocol
open myngrok.gateway (Calls CallEvent Chan SessionManager sessionOutboundQueueCapacity)

namespace myngrok.tunnels

namespace PublicSystem

variable {Thread : Type} {next s s' : PublicSystem Thread} {queue : Chan} {id : GoString} {h : Handler}

/-- How many handlers have the channel in hand, and how many of them wait for room in it. -/
def holders (s : PublicSystem Thread) (queue : Chan) : Nat :=
  s.handlers.count fun h => h.phase.queue = some queue

def senders (s : PublicSystem Thread) (queue : Chan) : Nat :=
  s.handlers.count fun h => h.phase.blocked = some queue

/-- Nobody waits for room in the queue, or there is room for everybody who may still put a message in it. -/
def roomForAll (s : PublicSystem Thread) (queue : Chan) : Bool :=
  s.senders queue = 0 || (s.queues queue).length + s.holders queue ≤ sessionOutboundQueueCapacity

/-- The condition on a run: when a session is removed, its queue has room for all. -/
def leavesRoom (s : PublicSystem Thread) : PublicEvent Thread → Bool
  | .call (.removeLocked _ sessionID _) =>
    match s.calls.manager.outbound sessionID with
    | some queue => s.roomForAll queue
    | none => true
  | _ => true

/-- The queues of the sessions that were removed have room for all. -/
def Released (s : PublicSystem Thread) : Prop :=
  ∀ sessionID loop, s.loops.lookup sessionID = some loop → sessionID ∉ s.calls.manager.sessions →
    s.roomForAll loop.queue

theorem roomForAll_of_le (hroom : s.roomForAll queue) (hsenders : next.senders queue ≤ s.senders queue)
    (htotal : (next.queues queue).length + next.holders queue ≤ (s.queues queue).length + s.holders queue) :
    next.roomForAll queue := by
  simp only [roomForAll, Bool.or_eq_true, decide_eq_true_eq] at hroom ⊢
  omega

theorem senders_pos (hlookup : s.handlers.lookup id = some h) (hblocked : h.phase.blocked = some queue) :
    0 < s.senders queue := by
  rw [senders, Map.count, List.countP_pos_iff]
  exact ⟨⟨id, h⟩, AList.mem_lookup_iff.mp hlookup, decide_eq_true hblocked⟩

theorem senders_le_holders (s : PublicSystem Thread) (queue : Chan) : s.senders queue ≤ s.holders queue := by
  apply List.countP_mono_left
  intro entry _ hblocked
  exact decide_eq_true (Phase.queue_of_blocked (of_decide_eq_true hblocked))

/-- Taking the place of a handler moves the counts by what the two handlers hold. -/
theorem count_setHandler (h' : Handler) (hlookup : s.handlers.lookup id = some h) (hhandlers : s'.handlers = s.handlers)
    (queue : Chan) :
    (s'.setHandler id h').holders queue + (if h.phase.queue = some queue then 1 else 0) =
      s.holders queue + (if h'.phase.queue = some queue then 1 else 0) ∧
    (s'.setHandler id h').senders queue + (if h.phase.blocked = some queue then 1 else 0) =
      s.senders queue + (if h'.phase.blocked = some queue then 1 else 0) := by
  simp only [holders, senders, setHandler, hhandlers]
  constructor
  · simpa using Map.count_insert_of_lookup (fun h => decide (h.phase.queue = some queue)) s.handlers h' hlookup
  · simpa using Map.count_insert_of_lookup (fun h => decide (h.phase.blocked = some queue)) s.handlers h' hlookup

variable [DecidableEq Thread]

theorem Released.acts {h' : Handler} {e : HandlerEvent} (hqueues : s.Queues) (hreleased : s.Released)
    (hlookup : s.handlers.lookup id = some h) (hacts : s.Acts h e s' h') : (s'.setHandler id h').Released := by
  intro sessionID loop hloop hgone
  obtain ⟨hloops, _, hhandlers, hsessions, _⟩ := hacts.frame
  have hold : s.loops.lookup sessionID = some loop := hloops ▸ hloop
  have hnot : sessionID ∉ s.calls.manager.sessions := hsessions ▸ hgone
  obtain ⟨hholders, hsenders⟩ := count_setHandler h' hlookup hhandlers loop.queue
  have hfree : h'.phase.queue ≠ some loop.queue := by
    intro hqueue
    obtain ⟨own, hown, _, houtbound, _⟩ | ⟨hnone, _⟩ := hacts.holding
    · rw [hown] at hqueue
      cases hqueue
      exact hqueues.ne_of_gone hold hnot houtbound rfl
    · rw [hnone] at hqueue
      cases hqueue
  have hlength : (s'.queues loop.queue).length ≤
      (s.queues loop.queue).length + if h.phase.queue = some loop.queue then 1 else 0 := by
    obtain ⟨_, _, _, _, hsame⟩ | ⟨_, hbound⟩ := hacts.holding
    · rw [hsame]
      exact Nat.le_add_right _ _
    · exact (hbound loop.queue).2
  rw [if_neg hfree] at hholders
  rw [if_neg fun hblocked => hfree (Phase.queue_of_blocked hblocked)] at hsenders
  refine roomForAll_of_le (hreleased sessionID loop hold hnot) (by omega) ?_
  have hsame : ((s'.setHandler id h').queues loop.queue).length = (s'.queues loop.queue).length := rfl
  omega

/-- The run lemma's step: the condition is used where a session leaves the map. -/
theorem Released.step {baseDomain : GoString} {e : PublicEvent Thread} (hqueues : s.Queues) (hreleased : s.Released)
    (hroom : s.leavesRoom e) (h : s.step baseDomain e = some next) : next.Released := by
  cases step_cases h with
  | @connect session now calls habsent houtbound hcall =>
    intro sessionID loop hloop hgone
    have hnot : sessionID ∉ s.calls.manager.sessions := fun hmem =>
      hgone (Calls.step_sessions hcall hmem fun _ _ he => by cases he)
    have hne : sessionID ≠ session.id := by
      rintro rfl
      cases Calls.step_cases hcall
      obtain ⟨stored, hsessions, _⟩ := s.calls.manager.register_sessions session now
      apply hgone
      show session.id ∈ (s.calls.manager.register session now).sessions
      rw [hsessions]
      exact (AList.mem_insert _).mpr (.inl rfl)
    have hold : s.loops.lookup sessionID = some loop := by
      rw [← hloop]
      exact ((Map.lookup_insert_eq _ _ _ _).trans (if_neg hne)).symm
    exact hreleased sessionID loop hold hnot
  | @routed request now random handler limiter hroute hfresh =>
    intro sessionID loop hloop hgone
    have hphase := (route_ok hroute).1
    refine roomForAll_of_le (hreleased sessionID loop hloop hgone) (Nat.le_of_eq ?_) (Nat.le_of_eq ?_)
    · exact (Map.count_insert_of_notMem _ _ _ hfresh).trans (by rw [hphase]; rfl)
    · exact congrArg _ ((Map.count_insert_of_notMem _ _ _ hfresh).trans (by rw [hphase]; rfl))
  | handler hlookup hacts => exact hreleased.acts hqueues hlookup hacts
  | @dequeue sessionID own queue message rest hloop houtbound hqueue =>
    intro other loop hother hgone
    refine roomForAll_of_le (hreleased other loop hother hgone) (Nat.le_refl _) (Nat.le_of_eq ?_)
    rw [setQueue_queues, if_neg (hqueues.ne_of_gone hother hgone houtbound)]
    rfl
  | @post sessionID own queue opened hloop houtbound hspace =>
    intro other loop hother hgone
    refine roomForAll_of_le (hreleased other loop hother hgone) (Nat.le_refl _) (Nat.le_of_eq ?_)
    rw [length_push, if_neg (hqueues.ne_of_gone hother hgone houtbound)]
    rfl
  | @finish sessionID queue hloop =>
    intro other loop hother hgone
    rw [setLoop, Map.lookup_insert_eq] at hother
    split at hother
    · rename_i heq
      subst heq
      cases hother
      have hroomy := hreleased other _ hloop hgone
      exact hroomy
    · exact hreleased other loop hother hgone
  | @call e calls hcalled hcall =>
    intro sessionID loop hloop hgone
    by_cases hmem : sessionID ∈ s.calls.manager.sessions
    · by_cases hremove : ∃ t order, e = .removeLocked t sessionID order
      · obtain ⟨t, order, rfl⟩ := hremove
        obtain ⟨session, hsession⟩ := (Map.mem_iff_lookup _ _).mp hmem
        obtain ⟨loop', hloop', houtbound⟩ := hqueues.session hsession
        have hnamed : s.calls.manager.outbound sessionID = some loop.queue := by
          have hloops := hloop.symm.trans hloop'
          cases hloops
          rw [SessionManager.outbound, hsession]
          exact houtbound
        simp only [leavesRoom, hnamed] at hroom
        exact hroom
      · exact absurd (Calls.step_sessions hcall hmem fun t order he => hremove ⟨t, order, he⟩) hgone
    · exact hreleased sessionID loop hloop hmem
  | openTunnel | closeTunnel | closeSession | rejected | beat => exact hreleased

/-- When every session that is removed leaves room in its queue for all handlers that may still put a message there, a
    handler that waits for room in the queue of a removed session can go on without its client. -/
theorem send_released_of_room {baseDomain : GoString} {events : List (PublicEvent Thread)} {s : PublicSystem Thread}
    (h : run (step baseDomain) start events = some s)
    (hroom : AllSteps (step baseDomain) (fun s e => s.leavesRoom e) start events) :
    ∀ id handler queue message after, s.handlers.lookup id = some handler →
      handler.phase = .enqueueing queue message after → handler.tunnel.sessionID ∉ s.calls.manager.sessions →
      ∃ e, e ≠ .ctxDone ∧ (s.step baseDomain (.handler id e)).isSome := by
  have hreleased : s.Released := by
    apply run_induction_of_steps (P := fun _ s => s.Released) _ _ h hroom
    · intro sessionID loop hloop
      cases hloop
    · intro events state e next hrun hreleased hallowed hstep
      exact hreleased.step (queues_of_run hrun) hallowed hstep
  intro id handler queue message after hlookup hphase hgone
  have hblocked : handler.phase.blocked = some queue := by rw [hphase]; rfl
  obtain ⟨loop, hloop, rfl⟩ := (queues_of_run h).held hlookup (Phase.queue_of_blocked hblocked)
  have hsenders := senders_pos hlookup hblocked
  have hholders := s.senders_le_holders loop.queue
  have hall := hreleased _ loop hloop hgone
  have hspace : s.hasRoom loop.queue := by
    simp only [roomForAll, Bool.or_eq_true, decide_eq_true_eq] at hall
    simp only [hasRoom, decide_eq_true_eq]
    omega
  refine ⟨.enqueue, by simp, ?_⟩
  simp [step, hlookup, Handler.step, shared, hphase, hspace]

end PublicSystem

/-- A session ends while a handler is about to put its first message in the empty queue. -/
def endedBeforeStart : List (PublicEvent Unit) :=
  let id := publicRequestID (List.replicate 12 0)
  sampleArrival [] (List.replicate 12 0) ++
  [.handler id (.lookup (some 0)), .finish (lit "ses_1"), .call (.removeLocked () (lit "ses_1") [id]),
    .call (.removeSend () 0), .call (.removeReturn ())]

theorem PublicSystem.send_released_of_room_start :
    ∃ s, run (PublicSystem.step (lit "tunnel.example")) PublicSystem.start endedBeforeStart = some s ∧
      ∃ e, e ≠ .ctxDone ∧ (s.step (lit "tunnel.example")
        (.handler (publicRequestID (List.replicate 12 0)) e)).isSome := by
  have hfacts : (run (PublicSystem.step (lit "tunnel.example")) PublicSystem.start endedBeforeStart).map
      (fun s => ((s.handlers.lookup (publicRequestID (List.replicate 12 0))).map
        fun h => (h.phase.blocked, h.tunnel.sessionID), decide (lit "ses_1" ∈ s.calls.manager.sessions))) =
      some (some (some 0, lit "ses_1"), false) := by decide +kernel
  have hroom : AllSteps (PublicSystem.step (lit "tunnel.example")) (fun s e => s.leavesRoom e)
      PublicSystem.start endedBeforeStart := by decide +kernel
  obtain ⟨s, hs, hstate⟩ := Option.map_eq_some_iff.mp hfacts
  obtain ⟨hhandler, hsession⟩ := Prod.mk.inj hstate
  obtain ⟨handler, hlookup, hparts⟩ := Option.map_eq_some_iff.mp hhandler
  obtain ⟨hblocked, htunnel⟩ := Prod.mk.inj hparts
  obtain ⟨message, after, hphase⟩ := Phase.eq_enqueueing hblocked
  have hgone : handler.tunnel.sessionID ∉ s.calls.manager.sessions := by
    rw [htunnel]
    exact of_decide_eq_false hsession
  exact ⟨s, hs, PublicSystem.send_released_of_room hs hroom _ handler 0 message after hlookup hphase hgone⟩

namespace PublicSystem

variable {Thread : Type} [DecidableEq Thread] {s next : PublicSystem Thread} {id baseDomain : GoString}
  {handler : Handler} {queue : Chan}

/-- The handler waits for room in the full queue of a session that is gone. -/
structure Blocked (s : PublicSystem Thread) (id : GoString) (handler : Handler) (queue : Chan) : Prop where
  lookup : s.handlers.lookup id = some handler
  phase : handler.phase.blocked = some queue
  gone : handler.tunnel.sessionID ∉ s.calls.manager.sessions
  full : sessionOutboundQueueCapacity ≤ (s.queues queue).length

theorem Blocked.acts {s' : PublicSystem Thread} {h' : Handler} {e : HandlerEvent}
    (hblocked : s.Blocked id handler queue) (hacts : s.Acts handler e s' h') : e = .ctxDone := by
  have hphase := hblocked.phase
  cases hacts with
  | @enqueue own message after hown hroom =>
    rw [hown] at hphase
    cases hphase
    have hspace : (s.queues queue).length < sessionOutboundQueueCapacity := of_decide_eq_true hroom
    exact absurd hblocked.full (Nat.not_le.mpr hspace)
  | sendDone | waitDone => rfl
  | register hother | lookupFound hother | lookupMissing hother | read hother | receive hother
  | timeout hother | cancelFound hother | cancelMissing hother | offered hother | refused hother
  | cancelRequest hother =>
    rw [hother] at hphase
    cases hphase

/-- Nobody takes a message from the queue of a removed session, so only the client's context gets the handler out. -/
theorem Blocked.step {e : PublicEvent Thread} (hqueues : s.Queues) (hblocked : s.Blocked id handler queue)
    (h : s.step baseDomain e = some next) (he : e ≠ .handler id .ctxDone) : next.Blocked id handler queue := by
  obtain ⟨hlookup, hphase, hgone, hfull⟩ := hblocked
  obtain ⟨loop, hloop, rfl⟩ := hqueues.held hlookup (Phase.queue_of_blocked hphase)
  have hstays : next.Gone handler.tunnel.sessionID :=
    Gone.step ⟨(Map.mem_iff_lookup _ _).mpr ⟨loop, hloop⟩, hgone⟩ h
  cases step_cases h with
  | connect | call => exact ⟨hlookup, hphase, hstays.2, hfull⟩
  | @routed request now random other limiter hroute hfresh =>
    refine ⟨?_, hphase, hgone, hfull⟩
    rw [setHandler_lookup, if_neg]
    · exact hlookup
    · rintro rfl
      exact hfresh ((Map.mem_iff_lookup _ _).mpr ⟨handler, hlookup⟩)
  | @handler id' e other other' s' hother hacts =>
    have hne : id ≠ id' := by
      rintro rfl
      rw [hlookup] at hother
      cases hother
      exact he (congrArg _ (Blocked.acts ⟨hlookup, hphase, hgone, hfull⟩ hacts))
    refine ⟨?_, hphase, hstays.2, ?_⟩
    · rw [setHandler_lookup, if_neg hne, hacts.frame.2.2.1]
      exact hlookup
    · obtain ⟨_, _, _, _, hsame⟩ | ⟨_, hbound⟩ := hacts.holding
      · show sessionOutboundQueueCapacity ≤ (s'.queues loop.queue).length
        rw [hsame]
        exact hfull
      · exact Nat.le_trans hfull (hbound loop.queue).1
  | dequeue hrunning houtbound hqueue =>
    refine ⟨hlookup, hphase, hgone, ?_⟩
    rw [setQueue_queues, if_neg (hqueues.ne_of_gone hloop hgone houtbound)]
    exact hfull
  | post opened hrunning houtbound hspace =>
    refine ⟨hlookup, hphase, hgone, ?_⟩
    rw [length_push]
    exact Nat.le_add_right_of_le hfull
  | openTunnel | closeTunnel | closeSession | rejected | beat | finish => exact ⟨hlookup, hphase, hgone, hfull⟩

theorem Blocked.run {events : List (PublicEvent Thread)} (hqueues : s.Queues) (hblocked : s.Blocked id handler queue)
    (h : transition.run (PublicSystem.step baseDomain) s events = some next) (hevents : .handler id .ctxDone ∉ events) :
    next.Blocked id handler queue := by
  induction events generalizing s with
  | nil =>
    cases h
    exact hblocked
  | cons e events ih =>
    rw [run_cons] at h
    obtain ⟨state, hstep, hrest⟩ := Option.bind_eq_some_iff.mp h
    have hne : e ≠ .handler id .ctxDone := fun heq => hevents (heq ▸ List.mem_cons_self)
    have hmore : .handler id .ctxDone ∉ events := fun hmem => hevents (List.mem_cons_of_mem _ hmem)
    exact ih (hqueues.step hstep) (hblocked.step hqueues hstep hne) hrest hmore

end PublicSystem

/-- A request is read a byte at a time until its session's queue is full and one more piece waits for room. Then the
    session ends: its loop returns and `Remove` runs to its end. -/
def endedWhileSending : List (PublicEvent Unit) :=
  let id := publicRequestID (List.replicate 12 0)
  sampleArrival (List.replicate 40 0x61) (List.replicate 12 0) ++
  [.handler id (.lookup (some 0)), .handler id .enqueue] ++
  (List.replicate 31
    [.handler id (.read 1 none), .handler id (.lookup (some 0)), .handler id .enqueue]).flatten ++
  [.handler id (.read 1 none), .handler id (.lookup (some 0)), .finish (lit "ses_1"),
    .call (.removeLocked () (lit "ses_1") [id]), .call (.removeSend () 0), .call (.removeReturn ())]

/-- The handler is left with its client's context as the only way on, now and for good: the response that `Remove` sent
    it stays unread. -/
theorem PublicSystem.sender_of_removed_session_stuck :
    ∃ s handler message after,
      run (PublicSystem.step (lit "tunnel.example")) PublicSystem.start endedWhileSending = some s ∧
      s.handlers.lookup (publicRequestID (List.replicate 12 0)) = some handler ∧
      handler.phase = .enqueueing 0 message after ∧ handler.tunnel.sessionID ∉ s.calls.manager.sessions ∧
      s.calls.threads () = .idle ∧
      (∀ e, (s.step (lit "tunnel.example") (.handler (publicRequestID (List.replicate 12 0)) e)).isSome →
        e = .ctxDone) ∧
      ∀ more next, run (PublicSystem.step (lit "tunnel.example")) s more = some next →
        .handler (publicRequestID (List.replicate 12 0)) .ctxDone ∉ more →
        next.handlers.lookup (publicRequestID (List.replicate 12 0)) = some handler := by
  have hfacts : (run (PublicSystem.step (lit "tunnel.example")) PublicSystem.start endedWhileSending).map
      (fun s => ((s.handlers.lookup (publicRequestID (List.replicate 12 0))).map
        fun h => (h.phase.blocked, h.tunnel.sessionID),
        decide (lit "ses_1" ∈ s.calls.manager.sessions), (s.queues 0).length, s.calls.threads ())) =
      some (some (some 0, lit "ses_1"), false, 32, .idle) := by decide +kernel
  obtain ⟨s, hs, hstate⟩ := Option.map_eq_some_iff.mp hfacts
  obtain ⟨hhandler, hstate⟩ := Prod.mk.inj hstate
  obtain ⟨hsession, hstate⟩ := Prod.mk.inj hstate
  obtain ⟨hlength, hidle⟩ := Prod.mk.inj hstate
  obtain ⟨handler, hlookup, hparts⟩ := Option.map_eq_some_iff.mp hhandler
  obtain ⟨hphase, htunnel⟩ := Prod.mk.inj hparts
  obtain ⟨message, after, henqueueing⟩ := Phase.eq_enqueueing hphase
  have hgone : handler.tunnel.sessionID ∉ s.calls.manager.sessions := by
    rw [htunnel]
    exact of_decide_eq_false hsession
  have hblocked : s.Blocked (publicRequestID (List.replicate 12 0)) handler 0 :=
    ⟨hlookup, hphase, hgone, Nat.le_of_eq hlength.symm⟩
  refine ⟨s, handler, message, after, hs, hlookup, henqueueing, hgone, hidle, ?_, ?_⟩
  · intro e hsome
    obtain ⟨next, hstep⟩ := Option.isSome_iff_exists.mp hsome
    cases PublicSystem.step_cases hstep with
    | handler hother hacts =>
      rw [hlookup] at hother
      cases hother
      exact hblocked.acts hacts
  · intro more next hrun hmore
    exact (hblocked.run (PublicSystem.queues_of_run hs) hrun hmore).lookup

end myngrok.tunnels
