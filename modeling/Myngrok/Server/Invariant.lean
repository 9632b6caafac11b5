import Myngrok.Server.Tables
import Myngrok.Tunnels.Routes

open golang transition myngrok.protocol myngrok.gateway myngrok.agents myngrok.tunnels

namespace myngrok.server

variable {baseDomain subdomain : GoString} {s next : Server} {e : ServerEvent} {events : List ServerEvent}
  {sessionID agentID : GoString} {phase phase' : Phase} {t : ActiveTunnel} {c : Connection}

/-- The session has routes in the registry, or may have some. -/
def Phase.routed (phase : Phase) : Bool := phase.registered || phase = .removed

theorem Phase.registered_of_mayLeave (h : phase.mayLeave = true) : phase.registered = true := by
  cases phase <;> first | rfl | cases h

/-- The tunnel is one of the database. -/
def Backed (tunnels : Tunnels) (t : ActiveTunnel) : Prop :=
  identity tunnels t.id = some (t.agentID, t.subdomain, t.localAddress)

/-- The session manager knows the connections that have registered and have not been removed. -/
def Enrolled (sessions : SessionManager) (connections : Map GoString Connection) : Prop :=
  ∀ sessionID agentID, sessions.agentID sessionID = some agentID ↔
    ∃ phase, connections.lookup sessionID = some { agentID, phase } ∧ phase.registered = true

/-- What a connection is opening is its own, and one of the database. -/
structure Opens (tunnels : Tunnels) (sessionID : GoString) (connection : Connection) : Prop where
  creating : ∀ agentID payload subdomain, connection.phase = .creating agentID payload subdomain →
    agentID = connection.agentID
  tunnel : ∀ t, connection.phase.tunnel = some t →
    t.sessionID = sessionID ∧ t.agentID = connection.agentID ∧ Backed tunnels t

/-- What holds in every state: the tables keep their unique keys, and what is in memory is backed by them and belongs to
    connections that are still there. -/
structure Sound (s : Server) : Prop where
  agents : OneRowEach s.agents
  subdomains : OneSubdomainEach s.tunnels
  known : ∀ sessionID c, s.connections.lookup sessionID = some c → c.agentID ∈ s.agents
  named : ∀ id ∈ s.agents, id ≠ []
  owners : ∀ id key, identity s.tunnels id = some key → key.1 ∈ s.agents
  enrolled : Enrolled s.sessions s.connections
  opens : ∀ sessionID c, s.connections.lookup sessionID = some c → Opens s.tunnels sessionID c
  consistent : s.registry.Consistent
  routes : ∀ subdomain t, s.registry.bySubdomain.lookup subdomain = some t → Backed s.tunnels t ∧
    ∃ phase, s.connections.lookup t.sessionID = some { agentID := t.agentID, phase } ∧ phase.routed = true
  answers : ∀ a ∈ s.answers, a.opened.subdomain = a.tunnel.subdomain ∧ Backed s.tunnels a.tunnel

theorem Backed.step (h : Backed s.tunnels t) (hstep : s.step baseDomain e = some next) : Backed next.tunnels t :=
  identity_step hstep h

/-- A connection that stays registered, or stays out of the session manager. -/
theorem Enrolled.move (h : Enrolled s.sessions s.connections)
    (hphase : s.connections.lookup sessionID = some { agentID, phase }) (hsame : phase'.registered = phase.registered) :
    Enrolled s.sessions (s.setPhase sessionID agentID phase').connections := by
  intro query other
  rw [h query other, Server.setPhase_lookup]
  split
  · rename_i hquery
    subst hquery
    rw [hphase]
    constructor
    · rintro ⟨_, heq, hregistered⟩
      cases heq
      exact ⟨phase', rfl, hsame.trans hregistered⟩
    · rintro ⟨_, heq, hregistered⟩
      cases heq
      exact ⟨phase, rfl, hsame.symm.trans hregistered⟩
  · rfl

theorem enrolled_step (h : Enrolled s.sessions s.connections) (hstep : s.step baseDomain e = some next) :
    Enrolled next.sessions next.connections := by
  cases Server.step_cases hstep with
  | rejected => exact h
  | @connect sessionID _ _ _ agentID _ hnew _ _ _ =>
    intro query other
    have hnone := AList.lookup_eq_none.mpr hnew
    refine (h query other).trans ?_
    rw [Server.setPhase_lookup]
    split
    · rename_i hquery
      rw [hquery, hnone]
      constructor
      · rintro ⟨_, heq, _⟩
        cases heq
      · rintro ⟨_, heq, hregistered⟩
        cases heq
        cases hregistered
    · rfl
  | @register sessionID agentID tokenHash outbound now hphase =>
    intro query other
    rw [Server.setPhase_lookup]
    show (SessionManager.agentID _ query = _) ↔ _
    rw [Server.setPhase, SessionManager.agentID_register]
    show (if query = sessionID then some agentID else _) = _ ↔ _
    split
    · constructor
      · rintro ⟨⟩
        exact ⟨.serving, rfl, rfl⟩
      · rintro ⟨_, heq, _⟩
        cases heq
        rfl
    · exact h query other
  | missing hphase | reopen hphase | create hphase | route hphase | answer hphase => exact h.move hphase rfl
  | closeRoutes hphase | closeTunnels hphase | disconnect hphase => exact h.move hphase rfl
  | leave hphase hleave => exact h.move hphase (Phase.registered_of_mayLeave hleave).symm
  | @remove sessionID agentID hphase =>
    intro query other
    rw [Server.setPhase_lookup, Server.setPhase]
    show (SessionManager.agentID _ query = _) ↔ _
    rw [SessionManager.agentID_removeLocked]
    split
    · constructor
      · rintro ⟨⟩
      · rintro ⟨_, heq, hregistered⟩
        cases heq
        cases hregistered
    · exact h query other
  | restart =>
    intro query other
    constructor
    · rintro ⟨⟩
    · rintro ⟨_, heq, hregistered⟩
      rw [sql.lookup_update, Option.map_eq_some_iff] at heq
      obtain ⟨c, _, hc⟩ := heq
      cases hc
      cases hregistered

theorem Opens.of_idle {tunnels : Tunnels} (hcreating : ∀ agentID payload subdomain,
    phase ≠ .creating agentID payload subdomain) (htunnel : phase.tunnel = none) :
    Opens tunnels sessionID { agentID, phase } := by
  refine ⟨?_, ?_⟩
  · intro agentID payload subdomain hphase
    exact absurd hphase (hcreating agentID payload subdomain)
  · intro t ht
    rw [htunnel] at ht
    cases ht

/-- One connection goes on, while no row gets another meaning. -/
theorem opens_move {tunnels tunnels' : Tunnels} {connections : Map GoString Connection}
    (h : ∀ sessionID c, connections.lookup sessionID = some c → Opens tunnels sessionID c)
    (hbacked : ∀ t, Backed tunnels t → Backed tunnels' t) (hown : Opens tunnels' sessionID { agentID, phase }) :
    ∀ query c, (connections.insert sessionID { agentID, phase }).lookup query = some c → Opens tunnels' query c := by
  intro query c hlookup
  rw [Map.lookup_insert_eq] at hlookup
  split at hlookup
  · rename_i hquery
    cases hlookup
    rw [hquery]
    exact hown
  · obtain ⟨hcreating, htunnel⟩ := h query c hlookup
    refine ⟨hcreating, fun t ht => ?_⟩
    obtain ⟨hsession, hagent, hback⟩ := htunnel t ht
    exact ⟨hsession, hagent, hbacked t hback⟩

theorem opens_step (hsound : Sound s) (hstep : s.step baseDomain e = some next) :
    ∀ sessionID c, next.connections.lookup sessionID = some c → Opens next.tunnels sessionID c := by
  have hbacked : ∀ t, Backed s.tunnels t → Backed next.tunnels t := fun t h => h.step hstep
  cases Server.step_cases hstep with
  | rejected => exact hsound.opens
  | connect | register | answer | leave | remove | closeRoutes | closeTunnels | disconnect =>
    exact opens_move hsound.opens hbacked (.of_idle (by rintro _ _ _ ⟨⟩) rfl)
  | @missing sessionID own agentID subdomain payload _ hphase hagent _ =>
    refine opens_move hsound.opens hbacked ⟨?_, by rintro _ ⟨⟩⟩
    rintro _ _ _ ⟨⟩
    obtain ⟨_, hlookup, _⟩ := (hsound.enrolled _ _).mp hagent
    rw [hphase] at hlookup
    cases hlookup
    rfl
  | @reopen sessionID own agentID id _ payload row now hphase hagent hselect hrow =>
    refine opens_move hsound.opens hbacked ⟨by rintro _ _ _ ⟨⟩, ?_⟩
    rintro _ ⟨⟩
    obtain ⟨_, hlookup, _⟩ := (hsound.enrolled _ _).mp hagent
    rw [hphase] at hlookup
    cases hlookup
    obtain ⟨selected, hselected, hrowAgent, hrowAddress, _⟩ := selectsClosed_some hselect
    rw [hrow] at hselected
    cases hselected
    refine ⟨rfl, rfl, identity_reopen.trans ?_⟩
    rw [Server.activeTunnel, identity, hrow, Option.map_some, TunnelRow.identity, hrowAgent, hrowAddress]
  | @create sessionID own agentID subdomain id payload tunnels row now hphase hcreate hrow =>
    refine opens_move hsound.opens hbacked ⟨by rintro _ _ _ ⟨⟩, ?_⟩
    rintro _ ⟨⟩
    have hagent := (hsound.opens _ _ hphase).creating _ _ _ rfl
    have hidentity : identity tunnels id = some (agentID, subdomain, payload.localAddress) :=
      (identity_create hcreate).trans (if_pos rfl)
    refine ⟨rfl, hagent, ?_⟩
    rw [identity, hrow, Option.map_some] at hidentity
    have hsubdomain : row.subdomain = subdomain := congrArg (·.2.1) (Option.some.inj hidentity)
    show identity tunnels id = some (agentID, row.subdomain, payload.localAddress)
    rw [identity, hrow, Option.map_some, hidentity, hsubdomain]
  | @route sessionID agentID payload tunnel hphase =>
    refine opens_move hsound.opens hbacked ⟨by rintro _ _ _ ⟨⟩, ?_⟩
    rintro _ ⟨⟩
    exact (hsound.opens _ _ hphase).tunnel _ rfl
  | restart =>
    intro sessionID c hlookup
    rw [sql.lookup_update, Option.map_eq_some_iff] at hlookup
    obtain ⟨_, _, rfl⟩ := hlookup
    exact .of_idle (by rintro _ _ _ ⟨⟩) rfl

/-- Rows with the same subdomain are the same row. -/
theorem Sound.id_eq_iff (h : Sound s) {t t' : ActiveTunnel} (hback : Backed s.tunnels t)
    (hback' : Backed s.tunnels t') : t'.id = t.id ↔ t'.subdomain = t.subdomain := by
  constructor
  · intro hid
    rw [Backed, hid, hback] at hback'
    exact (congrArg (·.2.1) (Option.some.inj hback')).symm
  · exact h.subdomains _ _ _ _ hback' hback

theorem consistent_step (hsound : Sound s) (hstep : s.step baseDomain e = some next) : next.registry.Consistent := by
  cases Server.step_cases hstep with
  | route hphase =>
    refine hsound.consistent.open fun subdomain other hrouted => ?_
    obtain ⟨_, _, hback⟩ := (hsound.opens _ _ hphase).tunnel _ rfl
    rw [hsound.id_eq_iff hback (hsound.routes _ _ hrouted).1, (hsound.consistent.indexed _ _ hrouted).1]
  | closeRoutes _ horder => exact (hsound.consistent.closeSession horder _).1
  | restart => exact Registry.consistent_new
  | _ => exact hsound.consistent

/-- A tunnel of the registry belongs to a connection whose routes have not been closed. -/
def Owned (connections : Map GoString Connection) (t : ActiveTunnel) : Prop :=
  ∃ phase, connections.lookup t.sessionID = some { agentID := t.agentID, phase } ∧ phase.routed = true

theorem Owned.move (h : Owned s.connections t) (hphase : s.connections.lookup sessionID = some { agentID, phase })
    (hrouted : t.sessionID = sessionID → phase.routed = true → phase'.routed = true) :
    Owned (s.setPhase sessionID agentID phase').connections t := by
  obtain ⟨old, hlookup, hold⟩ := h
  rw [Owned, Server.setPhase_lookup]
  split
  · rename_i hsession
    rw [hsession, hphase] at hlookup
    cases hlookup
    exact ⟨phase', rfl, hrouted hsession hold⟩
  · exact ⟨old, hlookup, hold⟩

theorem owned_step (hsound : Sound s) (hstep : s.step baseDomain e = some next)
    (hlookup : next.registry.bySubdomain.lookup subdomain = some t) : Owned next.connections t := by
  have hroutes : ∀ {subdomain t}, s.registry.bySubdomain.lookup subdomain = some t → Owned s.connections t :=
    fun hlookup => (hsound.routes _ _ hlookup).2
  cases Server.step_cases hstep with
  | rejected => exact hroutes hlookup
  | connect hnew _ _ _ =>
    obtain ⟨phase, hphase, hrouted⟩ := hroutes hlookup
    refine ⟨phase, ?_, hrouted⟩
    rw [Server.setPhase_lookup, if_neg]
    · exact hphase
    · rintro rfl
      rw [AList.lookup_eq_none.mpr hnew] at hphase
      cases hphase
  | register hphase | closeTunnels hphase | disconnect hphase =>
    exact (hroutes hlookup).move hphase fun _ hrouted => by cases hrouted
  | missing hphase | reopen hphase | create hphase | answer hphase | leave hphase | remove hphase =>
    exact (hroutes hlookup).move hphase fun _ _ => rfl
  | @route sessionID agentID payload tunnel hphase =>
    rw [Server.setPhase, Registry.lookup_open] at hlookup
    split at hlookup
    · cases hlookup
      obtain ⟨hsession, hagent, _⟩ := (hsound.opens _ _ hphase).tunnel t rfl
      refine ⟨.opened payload t, ?_, rfl⟩
      rw [Server.setPhase_lookup, if_pos hsession, hagent]
    · exact (hroutes hlookup).move hphase fun _ _ => rfl
  | closeRoutes hphase horder =>
    obtain ⟨hrouted, hother⟩ := ((hsound.consistent.closeSession horder _).2 _ _).mp hlookup
    exact (hroutes hrouted).move hphase fun hsession => absurd hsession hother
  | restart => cases hlookup

theorem backed_step (hsound : Sound s) (hstep : s.step baseDomain e = some next)
    (hlookup : next.registry.bySubdomain.lookup subdomain = some t) : Backed next.tunnels t := by
  have hroutes : ∀ {t}, s.registry.bySubdomain.lookup subdomain = some t → Backed next.tunnels t :=
    fun hlookup => (hsound.routes _ _ hlookup).1.step hstep
  cases Server.step_cases hstep with
  | route hphase =>
    rw [Server.setPhase, Registry.lookup_open] at hlookup
    split at hlookup
    · cases hlookup
      exact ((hsound.opens _ _ hphase).tunnel t rfl).2.2
    · exact hroutes hlookup
  | closeRoutes _ horder => exact hroutes (((hsound.consistent.closeSession horder _).2 _ _).mp hlookup).1
  | restart => cases hlookup
  | _ => exact hroutes hlookup

theorem sound_start : Sound Server.start where
  agents := by
    rintro _ _ _ ⟨⟩
  subdomains := by
    rintro _ _ _ _ ⟨⟩
  known := by
    rintro _ _ ⟨⟩
  named := by
    intro id hmem
    exact absurd hmem (AList.notMem_empty id)
  owners := by
    rintro _ _ ⟨⟩
  enrolled := by
    intro sessionID agentID
    constructor
    · rintro ⟨⟩
    · rintro ⟨_, ⟨⟩, _⟩
  opens := by
    rintro _ _ ⟨⟩
  consistent := Registry.consistent_new
  routes := by
    rintro _ _ ⟨⟩
  answers := by
    rintro _ ⟨⟩

/-- Rows of `agents` are only added, under IDs that are not empty. -/
theorem agents_step (hsound : Sound s) (hstep : s.step baseDomain e = some next) :
    (∀ id ∈ s.agents, id ∈ next.agents) ∧ ∀ id ∈ next.agents, id ≠ [] := by
  cases Server.step_cases hstep with
  | connect _ _ hnonempty hconnect =>
    obtain ⟨row, _, rfl, hrow⟩ := connect_eq_ok hconnect
    refine ⟨fun id hmem => AList.mem_insert _ |>.mpr (.inr hmem), ?_⟩
    intro id hmem
    obtain rfl | hmem := (AList.mem_insert _).mp hmem
    · obtain hold | ⟨rfl, _⟩ := hrow
      · obtain ⟨row', hlookup, _⟩ := Option.map_eq_some_iff.mp hold
        exact hsound.named _ ((Map.mem_iff_lookup _ _).mpr ⟨row', hlookup⟩)
      · exact hnonempty
    · exact hsound.named id hmem
  | @disconnect _ agentID succeeds _ =>
    have hsame : ∀ id, id ∈ (if succeeds = true ∧ agentID ≠ [] then agents.disconnect s.agents agentID
        else s.agents) ↔ id ∈ s.agents := by
      intro id
      split
      · rw [Map.mem_iff_lookup, Map.mem_iff_lookup, lookup_disconnect]
        simp
      · rfl
    exact ⟨fun id hmem => (hsame id).mpr hmem, fun id hmem => hsound.named id ((hsame id).mp hmem)⟩
  | _ => exact ⟨fun _ hmem => hmem, hsound.named⟩

/-- A connection was there before, with the agent it has, or is made by `connect`. -/
theorem connection_of_step (hstep : s.step baseDomain e = some next)
    (hlookup : next.connections.lookup sessionID = some c) :
    (∃ old, s.connections.lookup sessionID = some old ∧ old.agentID = c.agentID ∧ (c.phase = .connected → old = c)) ∨
      ∃ token hello fresh, e = .connect sessionID token hello fresh ∧
        myngrok.agents.connect s.agents token hello fresh = .ok (c.agentID, next.agents) := by
  cases Server.step_cases hstep with
  | rejected => exact .inl ⟨c, hlookup, rfl, fun _ => rfl⟩
  | connect _ _ _ hconnect =>
    rw [Server.setPhase_lookup] at hlookup
    split at hlookup
    · rename_i hsame
      cases hlookup
      exact .inr ⟨_, _, _, by rw [hsame], hconnect⟩
    · exact .inl ⟨c, hlookup, rfl, fun _ => rfl⟩
  | register hphase | missing hphase | reopen hphase | create hphase | route hphase | answer hphase | leave hphase
  | remove hphase | closeRoutes hphase | closeTunnels hphase | disconnect hphase =>
    rw [Server.setPhase_lookup] at hlookup
    split at hlookup
    · rename_i hsame
      cases hlookup
      rw [← hsame] at hphase
      exact .inl ⟨_, hphase, rfl, nofun⟩
    · exact .inl ⟨c, hlookup, rfl, fun _ => rfl⟩
  | restart =>
    rw [sql.lookup_update, Option.map_eq_some_iff] at hlookup
    obtain ⟨old, hold, rfl⟩ := hlookup
    exact .inl ⟨old, hold, rfl, nofun⟩

section

variable (hsound : Sound s) (hstep : s.step baseDomain e = some next)

include hsound hstep

theorem known_step (hlookup : next.connections.lookup sessionID = some c) : c.agentID ∈ next.agents := by
  obtain ⟨old, hold, hagent, _⟩ | ⟨_, _, _, _, hconnect⟩ := connection_of_step hstep hlookup
  · rw [← hagent]
    exact (agents_step hsound hstep).1 _ (hsound.known _ _ hold)
  · obtain ⟨row, _, hagents, _⟩ := connect_eq_ok hconnect
    rw [hagents]
    exact AList.mem_insert _ |>.mpr (.inl rfl)

theorem owners_step {id : GoString} {key : GoString × GoString × GoString} (h : identity next.tunnels id = some key) :
    key.1 ∈ next.agents := by
  obtain ⟨hkept, _⟩ := agents_step hsound hstep
  cases Server.step_cases hstep with
  | reopen => exact hkept _ (hsound.owners id key (identity_reopen.symm.trans h))
  | create hphase hcreate _ =>
    rw [Server.setPhase, identity_create hcreate] at h
    split at h
    · cases h
      have hagent := hsound.known _ _ hphase
      rw [← (hsound.opens _ _ hphase).creating _ _ _ rfl] at hagent
      exact hagent
    · exact hsound.owners id key h
  | @closeTunnels _ _ _ succeeds =>
    cases succeeds with
    | false => exact hkept _ (hsound.owners id key h)
    | true => exact hkept _ (hsound.owners id key (identity_closeAgentTunnels.symm.trans h))
  | _ => exact hkept _ (hsound.owners id key h)

theorem answers_step : ∀ a ∈ next.answers, a.opened.subdomain = a.tunnel.subdomain ∧ Backed next.tunnels a.tunnel := by
  have hold : ∀ a ∈ s.answers, a.opened.subdomain = a.tunnel.subdomain ∧ Backed next.tunnels a.tunnel := by
    intro a hmem
    obtain ⟨hsubdomain, hback⟩ := hsound.answers a hmem
    exact ⟨hsubdomain, hback.step hstep⟩
  cases Server.step_cases hstep with
  | answer hphase =>
    intro a hmem
    rw [Server.setPhase, List.mem_append, List.mem_singleton] at hmem
    obtain hmem | rfl := hmem
    · exact hold a hmem
    · exact ⟨rfl, ((hsound.opens _ _ hphase).tunnel _ rfl).2.2⟩
  | _ => exact hold

end

theorem Sound.step (h : Sound s) (hstep : s.step baseDomain e = some next) : Sound next where
  agents := oneRowEach_step h.agents hstep
  subdomains := oneSubdomainEach_step h.subdomains hstep
  known := fun _ _ hlookup => known_step h hstep hlookup
  named := (agents_step h hstep).2
  owners := fun _ _ hidentity => owners_step h hstep hidentity
  enrolled := enrolled_step h.enrolled hstep
  opens := opens_step h hstep
  consistent := consistent_step h hstep
  routes := by
    intro subdomain t hlookup
    exact ⟨backed_step h hstep hlookup, owned_step h hstep hlookup⟩
  answers := answers_step h hstep

theorem sound_of_run (hrun : run (Server.step baseDomain) Server.start events = some s) : Sound s :=
  run_induction (P := fun _ s => Sound s) sound_start (fun _ _ _ _ _ h hstep => h.step hstep) hrun

end myngrok.server
