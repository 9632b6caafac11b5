import Myngrok.Tunnels.PublicSystem

open golang websocket transition myngrok.protocol
open myngrok.gateway (Calls CallEvent Chan Response Session)

namespace myngrok.tunnels

namespace Phase

/-- Between `RegisterRequest` and the deferred `CancelRequest`. -/
def registered : Phase → Bool
  | .routed => false
  | .returned _ => false
  | _ => true

/-- The handler may still come to read its response channel. -/
def expecting : Phase → Bool
  | .sending .. => true
  | .enqueueing .. => true
  | .reading .. => true
  | .waiting => true
  | _ => false

/-- Since it registered, the handler has found its session in the map at least once. -/
def attached : Phase → Bool
  | .sending _ after => after ≠ .started
  | .enqueueing .. => true
  | .reading .. => true
  | .waiting => true
  | _ => false

theorem registered_of_expecting {phase : Phase} (h : phase.expecting) : phase.registered := by
  cases phase <;> first | rfl | cases h

end Phase

/-- A round of the read loop stays before the deferred call. -/
theorem Handler.afterRead_eq {h h' : Handler} {sequence : UInt32} {offset count : Nat} {err : Option ReadError}
    (hread : h.afterRead sequence offset count err = some h') : ∃ phase, h' = h.goTo phase ∧ phase.registered := by
  simp only [Handler.afterRead] at hread
  split at hread <;> split at hread <;> cases hread <;> exact ⟨_, rfl, rfl⟩

/-- An admitted call starts with nothing registered, for a request that is not too long. -/
theorem route_ok {baseDomain : GoString} {registry : Registry} {limiter limiter' : PublicRateLimiter}
    {request : PublicRequest} {now : Time} {random : Option Bytes} {h : Handler}
    (hroute : route baseDomain registry limiter request now random = (.ok h, limiter')) :
    h.phase = .routed ∧ h.request = request ∧ request.contentLength ≤ maxTunnelBodyBytes ∧
      ∃ bytes, random = some bytes ∧ h.id = publicRequestID bytes := by
  simp only [route] at hroute
  split at hroute
  · cases hroute
  · split at hroute
    · cases hroute
    · split at hroute
      · cases hroute
      · rename_i hsmall
        split at hroute <;> cases hroute
        exact ⟨rfl, rfl, not_lt.mp hsmall, _, rfl, rfl⟩

namespace PublicSystem

variable {Thread : Type} {next s : PublicSystem Thread} {h : Handler} {id baseDomain : GoString} {calls : Calls Thread}

theorem setHandler_lookup (s : PublicSystem Thread) (id : GoString) (h : Handler) (query : GoString) :
    (s.setHandler id h).handlers.lookup query = if query = id then some h else s.handlers.lookup query :=
  Map.lookup_insert_eq _ _ _ _

/-- How the handlers and the pending table fit together. -/
structure Waiters (s : PublicSystem Thread) : Prop where
  keyed : ∀ {id h}, s.handlers.lookup id = some h → h.id = id
  entry : ∀ {id entry}, s.calls.manager.pending.lookup id = some entry → ∃ h, s.handlers.lookup id = some h ∧
    h.phase.registered ∧ entry = { sessionID := h.tunnel.sessionID, response := h.ch }
  made : ∀ {id h}, s.handlers.lookup id = some h → h.phase.registered → h.ch < s.calls.made
  distinct : ∀ {id id' h h'}, s.handlers.lookup id = some h → s.handlers.lookup id' = some h' →
    h.phase.registered → h'.phase.registered → h.ch = h'.ch → id = id'
  owed : ∀ {id h}, s.handlers.lookup id = some h → h.phase.expecting →
    s.calls.Owed h.tunnel.sessionID id h.ch
  attached : ∀ {id h entry}, s.handlers.lookup id = some h → h.phase.attached →
    s.calls.manager.pending.lookup id = some entry → h.tunnel.sessionID ∈ s.calls.manager.sessions

/-- Only the session calls and the handlers matter. -/
theorem Waiters.congr (hwaiters : s.Waiters) (hcalls : next.calls = s.calls) (hhandlers : next.handlers = s.handlers) :
    next.Waiters := by
  obtain ⟨hkeyed, hentry, hmade, hdistinct, howed, hattached⟩ := hwaiters
  constructor <;> simp only [hcalls, hhandlers]
  · exact hkeyed
  · exact hentry
  · exact hmade
  · exact hdistinct
  · exact howed
  · exact hattached

/-- A handler moves on without touching the session manager. -/
theorem Waiters.goTo {phase : Phase} (hwaiters : s.Waiters) (hlookup : s.handlers.lookup id = some h)
    (hcalls : next.calls = s.calls) (hhandlers : next.handlers = s.handlers) (hregistered : h.phase.registered)
    (hnext : phase.registered ∨ s.calls.manager.pending.lookup id = none)
    (hexpecting : phase.expecting → h.phase.expecting)
    (hattached : phase.attached → h.phase.attached ∨ h.tunnel.sessionID ∈ s.calls.manager.sessions) :
    (next.setHandler id (h.goTo phase)).Waiters := by
  have hother : ∀ {query h'}, (next.setHandler id (h.goTo phase)).handlers.lookup query = some h' →
      ∃ old, s.handlers.lookup query = some old ∧ h'.id = old.id ∧ h'.ch = old.ch ∧ h'.tunnel = old.tunnel ∧
        (h'.phase.registered → old.phase.registered) ∧ (h'.phase.expecting → old.phase.expecting) ∧
        (h'.phase.attached → old.phase.attached ∨ old.tunnel.sessionID ∈ s.calls.manager.sessions) := by
    intro query h' hquery
    rw [setHandler_lookup, hhandlers] at hquery
    split at hquery
    · rename_i heq
      cases hquery
      exact ⟨h, heq ▸ hlookup, rfl, rfl, rfl, fun _ => hregistered, hexpecting, hattached⟩
    · exact ⟨h', hquery, rfl, rfl, rfl, fun h => h, fun h => h, .inl⟩
  have hsame : (next.setHandler id (h.goTo phase)).calls = s.calls := hcalls
  constructor
  · intro query h' hquery
    obtain ⟨old, hold, hid, _⟩ := hother hquery
    rw [hid, hwaiters.keyed hold]
  · intro query entry hentry
    rw [hsame] at hentry
    obtain ⟨old, hold, holdregistered, heq⟩ := hwaiters.entry hentry
    rw [setHandler_lookup, hhandlers]
    split
    · rename_i hquery
      subst hquery
      rw [hlookup] at hold
      cases hold
      obtain hnext | hnone := hnext
      · exact ⟨_, rfl, hnext, heq⟩
      · rw [hnone] at hentry
        cases hentry
    · exact ⟨old, hold, holdregistered, heq⟩
  · intro query h' hquery hregistered'
    obtain ⟨old, hold, _, hch, _, hkept, _⟩ := hother hquery
    rw [hsame, hch]
    exact hwaiters.made hold (hkept hregistered')
  · intro query query' h' h'' hquery hquery' hregistered' hregistered'' heq
    obtain ⟨old, hold, _, hch, _, hkept, _⟩ := hother hquery
    obtain ⟨old', hold', _, hch', _, hkept', _⟩ := hother hquery'
    exact hwaiters.distinct hold hold' (hkept hregistered') (hkept' hregistered'') (by rw [← hch, ← hch', heq])
  · intro query h' hquery hexpecting'
    obtain ⟨old, hold, _, hch, htunnel, _, hkept, _⟩ := hother hquery
    rw [hsame, hch, htunnel]
    exact hwaiters.owed hold (hkept hexpecting')
  · intro query h' entry hquery hattached' hentry
    obtain ⟨old, hold, _, _, htunnel, _, _, hkept⟩ := hother hquery
    rw [hsame] at hentry ⊢
    rw [htunnel]
    obtain holdattached | hmem := hkept hattached'
    · exact hwaiters.attached hold holdattached hentry
    · exact hmem

theorem Waiters.routed (hwaiters : s.Waiters) (hfresh : h.id ∉ s.handlers) (hphase : h.phase = .routed) :
    (s.setHandler h.id h).Waiters := by
  have hold : ∀ {query h'}, (s.setHandler h.id h).handlers.lookup query = some h' →
      (h' = h ∧ query = h.id) ∨ s.handlers.lookup query = some h' := by
    intro query h' hquery
    rw [setHandler_lookup] at hquery
    split at hquery
    · rename_i heq
      cases hquery
      exact .inl ⟨rfl, heq⟩
    · exact .inr hquery
  constructor
  · intro query h' hquery
    obtain ⟨rfl, rfl⟩ | hquery := hold hquery
    · rfl
    · exact hwaiters.keyed hquery
  · intro query entry hentry
    obtain ⟨h', hquery, hrest⟩ := hwaiters.entry hentry
    refine ⟨h', ?_, hrest⟩
    rw [setHandler_lookup, if_neg]
    · exact hquery
    · rintro rfl
      exact hfresh ((Map.mem_iff_lookup _ _).mpr ⟨h', hquery⟩)
  · intro query h' hquery hregistered
    obtain ⟨rfl, _⟩ | hquery := hold hquery
    · rw [hphase] at hregistered
      cases hregistered
    · exact hwaiters.made hquery hregistered
  · intro query query' h' h'' hquery hquery' hregistered hregistered' hch
    obtain ⟨rfl, _⟩ | hquery := hold hquery
    · rw [hphase] at hregistered
      cases hregistered
    · obtain ⟨rfl, _⟩ | hquery' := hold hquery'
      · rw [hphase] at hregistered'
        cases hregistered'
      · exact hwaiters.distinct hquery hquery' hregistered hregistered' hch
  · intro query h' hquery hexpecting
    obtain ⟨rfl, _⟩ | hquery := hold hquery
    · rw [hphase] at hexpecting
      cases hexpecting
    · exact hwaiters.owed hquery hexpecting
  · intro query h' entry hquery hattached hentry
    obtain ⟨rfl, _⟩ | hquery := hold hquery
    · rw [hphase] at hattached
      cases hattached
    · exact hwaiters.attached hquery hattached hentry

variable [DecidableEq Thread]

/-- A step of the session manager that takes nothing a handler still counts on. -/
theorem Waiters.call {e : CallEvent Thread} (hwaiters : s.Waiters) (hcall : s.calls.step e = some calls)
    (hregister : ∀ sessionID id ch, e ≠ .registerRequest sessionID id ch)
    (hcancel : ∀ id h, s.handlers.lookup id = some h → h.phase.expecting → e ≠ .cancelRequest id)
    (hreceive : ∀ id h response, s.handlers.lookup id = some h → h.phase.expecting → e ≠ .receive h.ch response) :
    (s.setCalls calls).Waiters := by
  have hpending : ∀ {id entry}, calls.manager.pending.lookup id = some entry →
      s.calls.manager.pending.lookup id = some entry ∧ ¬ e.Takes entry.sessionID id := by
    intro id entry hentry
    obtain he | hkept := (Calls.step_pending hcall entry.sessionID id entry.response).mp hentry
    · exact absurd he (hregister _ _ _)
    · exact hkept
  constructor
  · exact hwaiters.keyed
  · intro id entry hentry
    exact hwaiters.entry (hpending hentry).1
  · intro id h hlookup hregistered
    exact Nat.lt_of_lt_of_le (hwaiters.made hlookup hregistered) (Calls.step_made hcall)
  · exact hwaiters.distinct
  · intro id h hlookup hexpecting
    exact (hwaiters.owed hlookup hexpecting).step hcall (fun _ _ => hregister _ _ _)
      (hcancel id h hlookup hexpecting) (fun response => hreceive id h response hlookup hexpecting)
  · intro id h entry hlookup hattached hentry
    obtain ⟨hold, hkept⟩ := hpending hentry
    refine Calls.step_sessions hcall (hwaiters.attached hlookup hattached hold) ?_
    rintro t order rfl
    obtain ⟨h', hlookup', _, rfl⟩ := hwaiters.entry hold
    have hlookups := hlookup.symm.trans hlookup'
    cases hlookups
    exact hkept rfl

/-- `RegisterRequest` adds the entry of the handler that calls it. -/
theorem Waiters.register {ch : Chan} (hwaiters : s.Waiters) (hlookup : s.handlers.lookup id = some h)
    (message : Message) (hcall : s.calls.step (.registerRequest h.tunnel.sessionID h.id ch) = some calls) :
    ((s.setCalls calls).setHandler id { h with ch, phase := .sending message .started }).Waiters := by
  have hid : h.id = id := hwaiters.keyed hlookup
  rw [hid] at hcall
  have hpending := Calls.step_pending hcall
  have hmade : ch = s.calls.made ∧ calls.made = s.calls.made + 1 := by
    cases Calls.step_cases hcall
    exact ⟨rfl, rfl⟩
  have hold : ∀ {query h'}, query ≠ id →
      ((s.setCalls calls).setHandler id { h with ch, phase := .sending message .started }).handlers.lookup query =
        some h' → s.handlers.lookup query = some h' := by
    intro query h' hne hquery
    rwa [setHandler_lookup, if_neg hne] at hquery
  have hnew : ∀ {h'},
      ((s.setCalls calls).setHandler id { h with ch, phase := .sending message .started }).handlers.lookup id =
        some h' → h' = { h with ch, phase := .sending message .started } := by
    intro h' hquery
    rw [setHandler_lookup, if_pos rfl] at hquery
    cases hquery
    rfl
  constructor
  · intro query h' hquery
    by_cases heq : query = id
    · subst heq
      rw [hnew hquery]
      exact hid
    · exact hwaiters.keyed (hold heq hquery)
  · rintro query ⟨sessionID, response⟩ hentry
    rw [setHandler_lookup]
    obtain he | ⟨hkept, hnot⟩ := (hpending sessionID query response).mp hentry
    · cases he
      exact ⟨_, if_pos rfl, rfl, rfl⟩
    · have hne : query ≠ id := fun heq => hnot heq.symm
      rw [if_neg hne]
      exact hwaiters.entry hkept
  · intro query h' hquery hregistered
    show h'.ch < calls.made
    by_cases heq : query = id
    · subst heq
      rw [hnew hquery, hmade.2, hmade.1]
      exact Nat.lt_succ_self _
    · rw [hmade.2]
      exact Nat.lt_succ_of_lt (hwaiters.made (hold heq hquery) hregistered)
  · intro query query' h' h'' hquery hquery' hregistered hregistered' hch
    by_cases heq : query = id
    · by_cases heq' : query' = id
      · rw [heq, heq']
      · subst heq
        rw [hnew hquery] at hch
        have hlt := hwaiters.made (hold heq' hquery') hregistered'
        rw [← hch, hmade.1] at hlt
        exact absurd hlt (Nat.lt_irrefl _)
    · by_cases heq' : query' = id
      · subst heq'
        rw [hnew hquery'] at hch
        have hlt := hwaiters.made (hold heq hquery) hregistered
        rw [hch, hmade.1] at hlt
        exact absurd hlt (Nat.lt_irrefl _)
      · exact hwaiters.distinct (hold heq hquery) (hold heq' hquery') hregistered hregistered' hch
  · intro query h' hquery hexpecting
    by_cases heq : query = id
    · subst heq
      rw [hnew hquery]
      exact .inl ((hpending _ _ _).mpr (.inl rfl))
    · refine (hwaiters.owed (hold heq hquery) hexpecting).step hcall ?_ (fun he => by cases he)
        (fun _ he => by cases he)
      intro other ch' he
      cases he
      exact heq rfl
  · rintro query h' ⟨sessionID, response⟩ hquery hattached hentry
    by_cases heq : query = id
    · subst heq
      rw [hnew hquery] at hattached
      cases hattached
    · obtain he | ⟨hkept, _⟩ := (hpending sessionID query response).mp hentry
      · cases he
        exact absurd rfl heq
      · exact Calls.step_sessions hcall (hwaiters.attached (hold heq hquery) hattached hkept)
          (fun _ _ he => by cases he)

/-- The actions of handlers keep the handlers and the pending table together. -/
theorem Waiters.acts {s' : PublicSystem Thread} {h' : Handler} {e : HandlerEvent} (hwaiters : s.Waiters)
    (hlookup : s.handlers.lookup id = some h) (hacts : s.Acts h e s' h') : (s'.setHandler id h').Waiters := by
  -- A lookup that succeeds shows the session in the map.
  have hfound : ∀ {queue}, s.calls.manager.outbound h.tunnel.sessionID = some queue →
      h.tunnel.sessionID ∈ s.calls.manager.sessions := by
    intro queue houtbound
    obtain ⟨session, hsession, _⟩ := Option.bind_eq_some_iff.mp houtbound
    exact (Map.mem_iff_lookup _ _).mpr ⟨session, hsession⟩
  have hunsent : ∀ after, h.phase.registered → (s.setHandler id (h.unsent after)).Waiters := by
    intro after hregistered
    cases after <;> exact hwaiters.goTo hlookup rfl rfl hregistered (.inl rfl) (fun hx => by cases hx)
      (fun hx => by cases hx)
  cases hacts with
  | register hphase hcall => exact hwaiters.register hlookup _ hcall
  | lookupFound hphase houtbound =>
    exact hwaiters.goTo hlookup rfl rfl (by rw [hphase]; rfl) (.inl rfl) (fun _ => by rw [hphase]; rfl)
      (fun _ => .inr (hfound houtbound))
  | lookupMissing hphase => exact hunsent _ (by rw [hphase]; rfl)
  | @enqueue queue message after hphase hroom =>
    cases after <;> exact hwaiters.goTo hlookup rfl rfl (by rw [hphase]; rfl) (.inl rfl)
      (fun _ => by rw [hphase]; rfl) (fun _ => .inl (by rw [hphase]; rfl))
  | sendDone hphase => exact hunsent _ (by rw [hphase]; rfl)
  | read hphase hallowed hread =>
    obtain ⟨phase, rfl, hregistered⟩ := Handler.afterRead_eq hread
    exact hwaiters.goTo hlookup rfl rfl (by rw [hphase]; rfl) (.inl hregistered) (fun _ => by rw [hphase]; rfl)
      (fun _ => .inl (by rw [hphase]; rfl))
  | @receive response calls hphase hcall =>
    have hregistered : h.phase.registered := by rw [hphase]; rfl
    have hleft : (s.setHandler id (h.goTo (.leaving (responseReply response)))).Waiters :=
      hwaiters.goTo hlookup rfl rfl hregistered (.inl rfl) (fun hx => by cases hx) (fun hx => by cases hx)
    refine (hleft.call hcall ?_ ?_ ?_).congr rfl rfl
    · intro _ _ _ he
      cases he
    · intro _ _ _ _ he
      cases he
    · intro query h' response' hquery hexpecting he
      rw [setHandler_lookup] at hquery
      split at hquery
      · cases hquery
        cases hexpecting
      · rename_i hne
        have hch : h.ch = h'.ch := by injection he
        exact hne (hwaiters.distinct hquery hlookup (Phase.registered_of_expecting hexpecting) hregistered hch.symm)
  | waitDone hphase | timeout hphase | cancelFound hphase | cancelMissing hphase | offered hphase
  | refused hphase =>
    exact hwaiters.goTo hlookup rfl rfl (by rw [hphase]; rfl) (.inl rfl) (fun hx => by cases hx)
      (fun hx => by cases hx)
  | @cancelRequest reply calls hphase hcall =>
    rw [hwaiters.keyed hlookup] at hcall
    have hcalls : (s.setCalls calls).Waiters := by
      refine hwaiters.call hcall (fun _ _ _ he => by cases he) ?_ (fun _ _ _ _ _ he => by cases he)
      intro query h' hquery hexpecting he
      cases he
      rw [hlookup] at hquery
      cases hquery
      rw [hphase] at hexpecting
      cases hexpecting
    have hgone : calls.manager.pending.lookup id = none := by
      cases Calls.step_cases hcall
      exact (Map.lookup_erase_eq _ _ _).trans (if_pos rfl)
    exact hcalls.goTo hlookup rfl rfl (by rw [hphase]; rfl) (.inr hgone) (fun hx => by cases hx)
      (fun hx => by cases hx)

theorem Waiters.step {e : PublicEvent Thread} (hwaiters : s.Waiters) (h : s.step baseDomain e = some next) :
    next.Waiters := by
  cases step_cases h with
  | connect habsent hqueue hcall =>
    exact (hwaiters.call hcall (fun _ _ _ he => by cases he) (fun _ _ _ _ he => by cases he)
      (fun _ _ _ _ _ he => by cases he)).congr rfl rfl
  | routed hroute hfresh =>
    have hlimited := hwaiters.routed hfresh (route_ok hroute).1
    exact hlimited.congr rfl rfl
  | handler hlookup hacts => exact hwaiters.acts hlookup hacts
  | call hcalled hcall =>
    refine hwaiters.call hcall ?_ ?_ ?_
    · rintro sessionID id ch rfl
      cases hcalled
    · rintro id h hlookup hexpecting rfl
      cases hcalled
    · rintro id h response hlookup hexpecting rfl
      cases hcalled
  | openTunnel | closeTunnel | closeSession | rejected | dequeue | beat | post | finish => exact hwaiters.congr rfl rfl

theorem waiters {events : List (PublicEvent Thread)} (h : run (step baseDomain) start events = some s) : s.Waiters := by
  apply run_induction (P := fun _ s => s.Waiters) _ _ h
  · have hempty : ∀ {id h}, (start : PublicSystem Thread).handlers.lookup id ≠ some h := by
      intro id h hlookup
      cases hlookup
    refine ⟨fun hx => absurd hx hempty, ?_, fun hx => absurd hx hempty, fun hx => absurd hx hempty,
      fun hx => absurd hx hempty, fun hx => absurd hx hempty⟩
    intro id entry hentry
    cases hentry
  · intro events state e next _ hwaiters hstep
    exact hwaiters.step hstep

end PublicSystem

end myngrok.tunnels
