import Myngrok.Server.Invariant

open golang transition myngrok.protocol myngrok.gateway myngrok.agents myngrok.tunnels

namespace myngrok.server

variable {baseDomain id subdomain : GoString} {s next : Server} {e : ServerEvent} {events : List ServerEvent}
  {sessionID agentID user : GoString} {phase : Phase} {t : ActiveTunnel}

/-- The user that an agent belongs to. -/
def userOf (agents : Agents) (agentID : GoString) : Option GoString := (installation agents agentID).map Prod.fst

/-- Tunnels belong to the users that their agents belong to: in the table, while they are being opened, and in the
    registry. -/
structure Owners (s : Server) : Prop where
  rows : ∀ id row, s.tunnels.lookup id = some row → userOf s.agents row.agentID = some row.userID
  opening : ∀ sessionID c t, s.connections.lookup sessionID = some c → c.phase.tunnel = some t →
    userOf s.agents t.agentID = some t.userID
  routes : ∀ subdomain t, s.registry.bySubdomain.lookup subdomain = some t → userOf s.agents t.agentID = some t.userID

theorem userOf_step (hstep : s.step baseDomain e = some next) (h : userOf s.agents agentID = some user) :
    userOf next.agents agentID = some user := by
  obtain ⟨key, hkey, rfl⟩ := Option.map_eq_some_iff.mp h
  rw [userOf, installation_step hstep hkey, Option.map_some]

/-- A row has the agent and the user that it had, or is new and has its agent's user. -/
theorem owner_of_step (hstep : s.step baseDomain e = some next) {row : TunnelRow}
    (hrow : next.tunnels.lookup id = some row) :
    (∃ old, s.tunnels.lookup id = some old ∧ old.agentID = row.agentID ∧ old.userID = row.userID) ∨
      userOf s.agents row.agentID = some row.userID := by
  have hsame : ∀ {set : TunnelRow → TunnelRow},
      (∀ old, (set old).agentID = old.agentID ∧ (set old).userID = old.userID) →
      (s.tunnels.lookup id).map set = some row →
      ∃ old, s.tunnels.lookup id = some old ∧ old.agentID = row.agentID ∧ old.userID = row.userID := by
    intro set hset hmap
    obtain ⟨old, hold, rfl⟩ := Option.map_eq_some_iff.mp hmap
    exact ⟨old, hold, (hset old).1.symm, (hset old).2.symm⟩
  cases Server.step_cases hstep with
  | reopen =>
    refine .inl (hsame ?_ (lookup_reopen.symm.trans hrow))
    intro old
    split <;> exact ⟨rfl, rfl⟩
  | create _ hcreate _ =>
    obtain ⟨agent, new, hagent, huser, hown, hlookup⟩ := lookup_create hcreate
    rw [Server.setPhase, hlookup] at hrow
    split at hrow
    · cases hrow
      refine .inr ?_
      rw [hown, userOf, installation, hagent, huser]
      rfl
    · exact .inl ⟨row, hrow, rfl, rfl⟩
  | @closeTunnels _ agentID _ succeeds =>
    by_cases hcloses : succeeds = true ∧ agentID ≠ []
    · obtain ⟨rfl, hagent⟩ := hcloses
      refine .inl (hsame ?_ ((lookup_closeAgentTunnels hagent).symm.trans hrow))
      intro old
      split <;> exact ⟨rfl, rfl⟩
    · refine .inl ⟨row, ?_, rfl, rfl⟩
      cases succeeds with
      | false => exact hrow
      | true =>
        have hnone : agentID = [] := by simpa using hcloses
        rw [Server.setPhase, if_pos rfl, closeAgentTunnels, if_pos hnone] at hrow
        exact hrow
  | _ => exact .inl ⟨row, hrow, rfl, rfl⟩

theorem Backed.row (h : Backed s.tunnels t) : ∃ row, s.tunnels.lookup t.id = some row ∧ row.agentID = t.agentID ∧
    row.subdomain = t.subdomain := by
  obtain ⟨row, hrow, hidentity⟩ := Option.map_eq_some_iff.mp h
  obtain ⟨hagent, hrest⟩ := Prod.mk.inj hidentity
  exact ⟨row, hrow, hagent, (Prod.mk.inj hrest).1⟩

theorem Owners.rows_step (h : Owners s) (hstep : s.step baseDomain e = some next) {row : TunnelRow}
    (hrow : next.tunnels.lookup id = some row) : userOf next.agents row.agentID = some row.userID := by
  obtain ⟨old, hold, hagent, huser⟩ | hnew := owner_of_step hstep hrow
  · rw [← hagent, ← huser]
    exact userOf_step hstep (h.rows id old hold)
  · exact userOf_step hstep hnew

theorem Owners.opening_step (h : Owners s) (hstep : s.step baseDomain e = some next) {c : Connection}
    (hlookup : next.connections.lookup sessionID = some c) (htunnel : c.phase.tunnel = some t) :
    userOf next.agents t.agentID = some t.userID := by
  have hold : ∀ {c : Connection}, s.connections.lookup sessionID = some c → c.phase.tunnel = some t →
      userOf next.agents t.agentID = some t.userID :=
    fun hlookup htunnel => userOf_step hstep (h.opening _ _ _ hlookup htunnel)
  -- One connection goes on, with or without a tunnel.
  have hmove : ∀ {acting agentID : GoString} {phase : Phase},
      next.connections = s.connections.insert acting { agentID, phase } →
      (phase.tunnel = some t → userOf next.agents t.agentID = some t.userID) →
      userOf next.agents t.agentID = some t.userID := by
    intro acting agentID phase hnext hown
    rw [hnext, Map.lookup_insert_eq] at hlookup
    split at hlookup
    · cases hlookup
      exact hown htunnel
    · exact hold hlookup htunnel
  cases Server.step_cases hstep with
  | rejected => exact hold hlookup htunnel
  | connect | register | missing | answer | leave | remove | closeRoutes | closeTunnels | disconnect =>
    exact hmove rfl nofun
  | reopen _ _ hselect hrow =>
    refine hmove rfl ?_
    rintro ⟨⟩
    obtain ⟨selected, hselected, hagent, _⟩ := selectsClosed_some hselect
    rw [hrow] at hselected
    cases hselected
    rw [Server.activeTunnel, ← hagent]
    exact h.rows _ _ hrow
  | create _ hcreate hrow =>
    refine hmove rfl ?_
    rintro ⟨⟩
    obtain ⟨_, _, _, _, hagent, hnext⟩ := lookup_create hcreate
    have howner := h.rows_step hstep hrow
    rw [hnext, if_pos rfl] at hrow
    cases hrow
    rw [hagent] at howner
    exact howner
  | route hphase => exact hmove rfl fun hopened => h.opening _ _ _ hphase hopened
  | restart =>
    rw [sql.lookup_update, Option.map_eq_some_iff] at hlookup
    obtain ⟨_, _, rfl⟩ := hlookup
    cases htunnel

theorem Owners.routes_step (h : Owners s) (hsound : Sound s) (hstep : s.step baseDomain e = some next)
    (hlookup : next.registry.bySubdomain.lookup subdomain = some t) : userOf next.agents t.agentID = some t.userID := by
  have hold : ∀ {subdomain t}, s.registry.bySubdomain.lookup subdomain = some t →
      userOf next.agents t.agentID = some t.userID := fun hlookup => userOf_step hstep (h.routes _ _ hlookup)
  cases Server.step_cases hstep with
  | route hphase =>
    rw [Server.setPhase, Registry.lookup_open] at hlookup
    split at hlookup
    · cases hlookup
      exact h.opening _ _ _ hphase rfl
    · exact hold hlookup
  | closeRoutes _ horder => exact hold (((hsound.consistent.closeSession horder _).2 _ _).mp hlookup).1
  | restart => cases hlookup
  | _ => exact hold hlookup

theorem owners_of_run (hrun : run (Server.step baseDomain) Server.start events = some s) : Owners s := by
  apply run_induction (P := fun _ s => Owners s) _ _ hrun
  · exact ⟨nofun, nofun, nofun⟩
  · intro events s e next hrun h hstep
    exact ⟨fun _ _ => h.rows_step hstep, fun _ _ _ => h.opening_step hstep,
      fun _ _ => h.routes_step (sound_of_run hrun) hstep⟩

/-- The owner of a route is the owner of its row. -/
theorem Owners.route_row (h : Owners s) (hsound : Sound s) (hrouted : s.registry.get subdomain = some t) :
    ∃ row, s.tunnels.lookup t.id = some row ∧ row.userID = t.userID := by
  obtain ⟨row, hrow, hagent, _⟩ := (hsound.routes _ _ hrouted).1.row
  have huser := h.routes _ _ hrouted
  rw [← hagent, h.rows _ _ hrow] at huser
  exact ⟨row, hrow, Option.some.inj huser⟩

/-- The session that takes the step; a restart is none's. -/
def ServerEvent.session : ServerEvent → Option GoString
  | .connect sessionID .. => some sessionID
  | .register sessionID .. => some sessionID
  | .reopen sessionID .. => some sessionID
  | .create sessionID .. => some sessionID
  | .route sessionID => some sessionID
  | .answer sessionID => some sessionID
  | .leave sessionID => some sessionID
  | .remove sessionID => some sessionID
  | .closeRoutes sessionID _ => some sessionID
  | .closeTunnels sessionID .. => some sessionID
  | .disconnect sessionID _ => some sessionID
  | .restart => none

/-- A row with the subdomain of a tunnel of the database is the tunnel's. -/
theorem Sound.agent_of_subdomain (h : Sound s) (hback : Backed s.tunnels t) {row : TunnelRow}
    (hrow : s.tunnels.lookup id = some row) (hsubdomain : row.subdomain = t.subdomain) : row.agentID = t.agentID := by
  have hidentity : identity s.tunnels id = some row.identity := by rw [identity, hrow, Option.map_some]
  obtain rfl := h.subdomains _ _ _ _ hidentity hback hsubdomain
  obtain ⟨own, hown, hagent, _⟩ := hback.row
  rw [hrow] at hown
  cases hown
  exact hagent

/-- What a session does concerns the rows of its own agent only: no other row changes, and what is routed at their
    subdomains stays. -/
theorem others_untouched (hsound : Sound s) (hstep : s.step baseDomain e = some next)
    (hacts : e.session = some sessionID) {row : TunnelRow} (hrow : s.tunnels.lookup id = some row)
    (hother : ∀ c, s.connections.lookup sessionID = some c → row.agentID ≠ c.agentID) :
    next.tunnels.lookup id = some row ∧ next.registry.get row.subdomain = s.registry.get row.subdomain := by
  cases Server.step_cases hstep with
  | reopen hphase hsession hselect hselected =>
    cases hacts
    refine ⟨?_, rfl⟩
    rw [Server.setPhase, lookup_reopen, hrow, Option.map_some, if_neg]
    rintro rfl
    obtain ⟨_, hlookup, _⟩ := (hsound.enrolled _ _).mp hsession
    obtain ⟨selected, hsame, hown, _⟩ := selectsClosed_some hselect
    rw [hrow] at hsame
    cases hsame
    exact hother _ hlookup hown
  | create _ hcreate _ =>
    obtain ⟨_, _, _, hnew, _⟩ := create_eq_some hcreate
    obtain ⟨_, _, _, _, _, hlookup⟩ := lookup_create hcreate
    refine ⟨?_, rfl⟩
    rw [Server.setPhase, hlookup, if_neg, hrow]
    rintro rfl
    exact hnew ((Map.mem_iff_lookup _ _).mpr ⟨row, hrow⟩)
  | route hphase =>
    cases hacts
    refine ⟨hrow, ?_⟩
    rw [Registry.get, Server.setPhase, Registry.lookup_open, if_neg, Registry.get]
    intro hsubdomain
    obtain ⟨_, hown, hback⟩ := (hsound.opens _ _ hphase).tunnel _ rfl
    exact hother _ hphase ((hsound.agent_of_subdomain hback hrow hsubdomain).trans hown)
  | closeRoutes hphase horder =>
    cases hacts
    refine ⟨hrow, ?_⟩
    have hlookups := (hsound.consistent.closeSession horder sessionID).2 row.subdomain
    have hkept : ∀ t, s.registry.bySubdomain.lookup row.subdomain = some t → t.sessionID ≠ sessionID := by
      rintro t hrouted rfl
      obtain ⟨hback, _, hlookup, _⟩ := hsound.routes _ _ hrouted
      have hsubdomain := (hsound.consistent.indexed _ _ hrouted).1.symm
      exact hother _ hlookup (hsound.agent_of_subdomain hback hrow hsubdomain)
    refine Option.ext fun t => (hlookups t).trans ⟨And.left, fun hrouted => ⟨hrouted, hkept t hrouted⟩⟩
  | @closeTunnels _ own now succeeds hphase =>
    cases hacts
    refine ⟨?_, rfl⟩
    rw [Server.setPhase]
    split
    · by_cases hnone : own = []
      · rw [closeAgentTunnels, if_pos hnone, hrow]
      · rw [lookup_closeAgentTunnels hnone, hrow, Option.map_some, if_neg]
        rintro ⟨hsame, _⟩
        exact hother _ hphase hsame
    · exact hrow
  | restart => cases hacts
  | _ => exact ⟨hrow, rfl⟩

end myngrok.server
