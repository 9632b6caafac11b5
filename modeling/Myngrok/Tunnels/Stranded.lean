import Myngrok.Gateway.Taking
import Myngrok.Tunnels.Waiters

open golang websocket transition myngrok.protocol
open myngrok.gateway (Calls CallEvent Chan Response Session TookEntry sends)

namespace myngrok.tunnels

variable {Thread : Type}

/-- The call of the session manager that an action makes. -/
def PublicEvent.callEvent : PublicEvent Thread → Option (CallEvent Thread)
  | .connect session now => some (.register session now)
  | .handler id (.register sessionID ch) => some (.registerRequest sessionID id ch)
  | .handler _ (.receive ch response) => some (.receive ch response)
  | .handler id .cancelRequest => some (.cancelRequest id)
  | .call e => some e
  | _ => none

namespace PublicSystem

variable [DecidableEq Thread]

variable {baseDomain : GoString}

theorem step_calls {s next : PublicSystem Thread} {e : PublicEvent Thread} (hwaiters : s.Waiters)
    (h : s.step baseDomain e = some next) :
    (∀ e', e.callEvent = some e' → s.calls.step e' = some next.calls) ∧
      (e.callEvent = none → next.calls = s.calls) := by
  cases step_cases h with
  | connect habsent hqueue hcall | call hcalled hcall =>
    refine ⟨fun e' he' => ?_, fun hx => by cases hx⟩
    cases he'
    exact hcall
  | handler hlookup hacts =>
    have hid := hwaiters.keyed hlookup
    cases hacts with
    | register hphase hcall | cancelRequest hphase hcall =>
      refine ⟨fun e' he' => ?_, fun hx => by cases hx⟩
      cases he'
      rwa [hid] at hcall
    | receive hphase hcall =>
      refine ⟨fun e' he' => ?_, fun hx => by cases hx⟩
      cases he'
      exact hcall
    | _ => exact ⟨fun e' he' => (by cases he'), fun _ => rfl⟩
  | _ => exact ⟨fun e' he' => (by cases he'), fun _ => rfl⟩

/-- Seen from the session manager, a run of the public side is a run of its calls. -/
theorem run_calls {events : List (PublicEvent Thread)} {s : PublicSystem Thread}
    (h : run (step baseDomain) start events = some s) :
    run Calls.step Calls.start (events.filterMap PublicEvent.callEvent) = some s.calls :=
  run_project PublicSystem.calls PublicEvent.callEvent
    (fun _ _ _ _ hrun hstep => step_calls (waiters hrun) hstep) h

/-- A handler in its final wait whose session is gone from the map is not forgotten: a `DeliverResponse` or `Remove`
    call took its entry, and when that call has returned, the response channel holds a response. When all handlers have
    returned, the pending table is empty. -/
theorem no_stranded_waiter {baseDomain : GoString} {events : List (PublicEvent Thread)} {s : PublicSystem Thread}
    (h : run (step baseDomain) start events = some s) :
    (∀ id handler, s.handlers.lookup id = some handler → handler.phase = .waiting →
      handler.tunnel.sessionID ∉ s.calls.manager.sessions →
      (∃ t after, TookEntry (events.filterMap PublicEvent.callEvent) t handler.ch after) ∧
      ∀ t after, TookEntry (events.filterMap PublicEvent.callEvent) t handler.ch after →
        (∃ e ∈ after, e.Delimits t) → s.calls.buffers handler.ch ≠ []) ∧
    ((∀ id handler, s.handlers.lookup id = some handler → ∃ reply, handler.phase = .returned reply) →
      s.calls.manager.pending = ∅) := by
  have hwaiters := waiters h
  have hcalls := run_calls h
  refine ⟨fun id handler hlookup hphase hgone => ?_, fun hreturned => ?_⟩
  · have hexpecting : handler.phase.expecting := by rw [hphase]; rfl
    have hattached : handler.phase.attached := by rw [hphase]; rfl
    have howed : (∃ t, s.calls.Holds handler.ch (.call t)) ∨ s.calls.buffers handler.ch ≠ [] := by
      obtain hpending | htaken := hwaiters.owed hlookup hexpecting
      · exact absurd (hwaiters.attached hlookup hattached hpending) hgone
      · exact htaken
    refine ⟨Calls.tookEntry hcalls howed, fun t after htook hreturned => ?_⟩
    obtain hsent | ⟨_, hopen⟩ := Calls.sent_or_holds hcalls htook
    · obtain ⟨u, hholds⟩ | hbuffer := howed
      · exact absurd ((Calls.tokens hcalls).unsent hholds) hsent
      · exact hbuffer
    · obtain ⟨e, he, hdelimits⟩ := hreturned
      exact absurd hdelimits (hopen e he)
  · apply Map.eq_empty_of_lookup
    intro id
    cases hentry : s.calls.manager.pending.lookup id with
    | none => rfl
    | some entry =>
      obtain ⟨handler, hlookup, hregistered, _⟩ := hwaiters.entry hentry
      obtain ⟨reply, hphase⟩ := hreturned id handler hlookup
      rw [hphase] at hregistered
      cases hregistered

end PublicSystem

/-- A request without a body is sent whole, and then its session is removed. -/
def removedWhileWaiting : List (PublicEvent Unit) :=
  let id := publicRequestID (List.replicate 12 0)
  sampleArrival [] (List.replicate 12 0) ++
  [.handler id (.lookup (some 0)), .handler id .enqueue, .handler id (.read 0 (some .eof)),
    .handler id (.lookup (some 0)), .handler id .enqueue, .finish (lit "ses_1"),
    .call (.removeLocked () (lit "ses_1") [id]), .call (.removeSend () 0), .call (.removeReturn ())]

theorem PublicSystem.no_stranded_waiter_removed :
    ∃ s handler, run (PublicSystem.step (lit "tunnel.example")) PublicSystem.start removedWhileWaiting = some s ∧
      s.handlers.lookup (publicRequestID (List.replicate 12 0)) = some handler ∧ handler.phase = .waiting ∧
      handler.tunnel.sessionID ∉ s.calls.manager.sessions ∧ s.calls.buffers handler.ch ≠ [] := by
  have hfacts : (run (PublicSystem.step (lit "tunnel.example")) PublicSystem.start removedWhileWaiting).map
      (fun s => ((s.handlers.lookup (publicRequestID (List.replicate 12 0))).map
        fun h => (h.phase, h.tunnel.sessionID, h.ch), decide (lit "ses_1" ∈ s.calls.manager.sessions))) =
      some (some (.waiting, lit "ses_1", 0), false) := by decide +kernel
  obtain ⟨s, hs, hstate⟩ := Option.map_eq_some_iff.mp hfacts
  obtain ⟨hhandler, hsession⟩ := Prod.mk.inj hstate
  obtain ⟨handler, hlookup, hparts⟩ := Option.map_eq_some_iff.mp hhandler
  obtain ⟨hphase, hparts⟩ := Prod.mk.inj hparts
  obtain ⟨htunnel, hch⟩ := Prod.mk.inj hparts
  have hgone : handler.tunnel.sessionID ∉ s.calls.manager.sessions := by
    rw [htunnel]
    exact of_decide_eq_false hsession
  have htook : TookEntry (removedWhileWaiting.filterMap PublicEvent.callEvent) () handler.ch
      [.removeSend () 0, .removeReturn ()] := by
    rw [hch]
    exact ⟨[.register sampleSession 1, .registerRequest (lit "ses_1") (publicRequestID (List.replicate 12 0)) 0],
      .removeLocked () (lit "ses_1") [publicRequestID (List.replicate 12 0)], lit "ses_1",
      publicRequestID (List.replicate 12 0), rfl, ⟨[.register sampleSession 1], [], rfl, by simp⟩, rfl, rfl⟩
  obtain ⟨_, hreturned⟩ := (PublicSystem.no_stranded_waiter hs).1 _ handler hlookup hphase hgone
  exact ⟨s, handler, hs, hlookup, hphase, hgone, hreturned () _ htook ⟨.removeReturn (), by simp, rfl⟩⟩

end myngrok.tunnels
