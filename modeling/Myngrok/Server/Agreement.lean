import Myngrok.Server.LiveRoutes

open golang transition myngrok.protocol myngrok.gateway myngrok.agents myngrok.tunnels

namespace myngrok.server

variable {baseDomain id : GoString} {s next : Server} {e : ServerEvent} {events : List ServerEvent}
  {sessionID agentID query : GoString} {phase phase' : Phase} {t : ActiveTunnel} {c : Connection}

/-- A connection, an `open_tunnel` message or a disconnection whose statements all succeed. -/
def ServerEvent.regular : ServerEvent → Bool
  | .closeTunnels _ _ succeeds => succeeds
  | .disconnect _ succeeds => succeeds
  | .restart => false
  | _ => true

/-- No connection is in the middle of its handshake, of an open or of its cleanup. -/
def Server.quiet (s : Server) : Bool :=
  s.connections.entries.all fun entry => entry.2.phase = .serving ∨ entry.2.phase = .gone

/-- The session is registered, or will be next. -/
def Phase.online (phase : Phase) : Bool := phase.registered || phase = .connected

/-- A connection of the agent other than the given one is online. -/
def Server.othersOnline (s : Server) (agentID sessionID : GoString) : Bool :=
  s.connections.entries.any fun entry =>
    entry.1 ≠ sessionID ∧ entry.2.agentID = agentID ∧ entry.2.phase.online = true

/-- A cleanup marks the tunnels and the row of its agent only when no other session of the agent is affected. -/
def cleansUpAlone (s : Server) : ServerEvent → Bool
  | .disconnect sessionID _ =>
    match s.connections.lookup sessionID with
    | none => true
    | some connection => !s.othersOnline connection.agentID sessionID
  | e => closesUnused s e

/-- The row is in use, or its agent is about to have its tunnels closed. -/
def Covered (s : Server) (id : GoString) : Prop :=
  id ∈ s.registry.byID ∨ (∃ sessionID t, Opening s sessionID t ∧ t.id = id) ∨
    ∃ sessionID agentID, s.connections.lookup sessionID = some { agentID, phase := .unrouted } ∧
      (identity s.tunnels id).map Prod.fst = some agentID

/-- A row that is open is covered, and an agent is connected while it has connections, as long as one of them is
    online. -/
structure Agrees (s : Server) : Prop where
  rows : ∀ id, isOpen s.tunnels id → Covered s id
  used : ∀ agentID agent, s.agents.lookup agentID = some agent → agent.connected = true →
    ∃ sessionID phase, s.connections.lookup sessionID = some { agentID, phase } ∧ phase ≠ .gone
  connected : ∀ sessionID agentID phase, s.connections.lookup sessionID = some { agentID, phase } →
    phase.online = true → ∃ agent, s.agents.lookup agentID = some agent ∧ agent.connected = true

/-- The phases in which a connection covers a row. -/
def Phase.covers : Phase → Bool
  | .opening .. => true
  | .unrouted => true
  | _ => false

theorem Covered.mono (h : Covered s id) (hstep : s.step baseDomain e = some next)
    (hids : id ∈ s.registry.byID → Covered next id)
    (hkeep : ∀ query c, s.connections.lookup query = some c → c.phase.covers = true →
      next.connections.lookup query = some c) : Covered next id := by
  obtain hrouted | ⟨query, t, ⟨own, payload, hlookup⟩, hid⟩ | ⟨query, own, hlookup, hagent⟩ := h
  · exact hids hrouted
  · exact .inr (.inl ⟨query, t, ⟨own, payload, hkeep _ _ hlookup rfl⟩, hid⟩)
  · obtain ⟨key, hidentity, hkey⟩ := Option.map_eq_some_iff.mp hagent
    refine .inr (.inr ⟨query, own, hkeep _ _ hlookup rfl, ?_⟩)
    rw [identity_step hstep hidentity]
    exact congrArg some hkey

/-- Another connection than the one that goes on stays as it is. -/
theorem lookup_move {c' : Connection} (hlookup : s.connections.lookup query = some c)
    (hphase : s.connections.lookup sessionID = some c') (hne : c ≠ c') :
    (s.connections.insert sessionID { agentID, phase }).lookup query = some c := by
  rw [Map.lookup_insert_eq, if_neg, hlookup]
  intro hsame
  rw [← hsame, hlookup] at hphase
  exact hne (Option.some.inj hphase)

theorem covering_move (hphase : s.connections.lookup sessionID = some c) (hidle : c.phase.covers = false)
    (query : GoString) (other : Connection) (hlookup : s.connections.lookup query = some other)
    (hcovers : other.phase.covers = true) :
    (s.connections.insert sessionID { agentID, phase }).lookup query = some other := by
  refine lookup_move hlookup hphase ?_
  intro hsame
  rw [hsame, hidle] at hcovers
  cases hcovers

theorem Phase.covers_of_mayLeave (h : phase.mayLeave = true) : phase.covers = false := by
  cases phase <;> first | rfl | cases h

theorem rows_step (h : Agrees s) (hsound : Sound s) (hregular : e.regular = true)
    (hstep : s.step baseDomain e = some next) (hopen : isOpen next.tunnels id) : Covered next id := by
  cases Server.step_cases hstep with
  | rejected => exact h.rows id hopen
  | connect hnew =>
    refine (h.rows id hopen).mono hstep .inl ?_
    intro query c hlookup _
    refine (Server.setPhase_lookup _ _ _ _ _).trans ?_
    rw [if_neg, hlookup]
    intro hsame
    exact hnew (hsame ▸ (Map.mem_iff_lookup _ _).mpr ⟨c, hlookup⟩)
  | register hphase | missing hphase | answer hphase | remove hphase | disconnect hphase =>
    exact (h.rows id hopen).mono hstep .inl (covering_move hphase rfl)
  | leave hphase hleave =>
    exact (h.rows id hopen).mono hstep .inl (covering_move hphase (Phase.covers_of_mayLeave hleave))
  | @reopen sessionID own agentID opened _ payload row now hphase _ _ hrow =>
    obtain hid | hbefore := (isOpen_reopen ((Map.mem_iff_lookup _ _).mpr ⟨row, hrow⟩)).mp hopen
    · refine .inr (.inl ⟨sessionID, _, ⟨own, payload, (Server.setPhase_lookup _ _ _ _ _).trans (if_pos rfl)⟩, ?_⟩)
      exact hid.symm
    · exact (h.rows id hbefore).mono hstep .inl (covering_move hphase rfl)
  | @create sessionID own agentID subdomain opened payload tunnels row now hphase hcreate _ =>
    obtain hid | hbefore := (isOpen_create hcreate).mp hopen
    · refine .inr (.inl ⟨sessionID, _, ⟨own, payload, (Server.setPhase_lookup _ _ _ _ _).trans (if_pos rfl)⟩, ?_⟩)
      exact hid.symm
    · exact (h.rows id hbefore).mono hstep .inl (covering_move hphase rfl)
  | @route sessionID agentID payload tunnel hphase =>
    obtain hrouted | ⟨query, t, ⟨own, payload', hlookup⟩, hid⟩ | ⟨query, own, hlookup, hagent⟩ := h.rows id hopen
    · exact .inl ((AList.mem_insert _).mpr (.inr hrouted))
    · by_cases hquery : query = sessionID
      · rw [hquery, hphase] at hlookup
        cases hlookup
        exact .inl ((AList.mem_insert _).mpr (.inl hid.symm))
      · refine .inr (.inl ⟨query, t, ⟨own, payload', (Server.setPhase_lookup _ _ _ _ _).trans ?_⟩, hid⟩)
        rw [if_neg hquery]
        exact hlookup
    · refine .inr (.inr ⟨query, own, lookup_move hlookup hphase ?_, hagent⟩)
      intro hsame
      cases hsame
  | @closeRoutes sessionID agentID order hphase horder =>
    obtain ⟨hconsistent, hlookups⟩ := hsound.consistent.closeSession horder sessionID
    refine (h.rows id hopen).mono hstep ?_ (covering_move hphase rfl)
    intro hrouted
    obtain ⟨subdomain, t, ht, rfl⟩ := hsound.consistent.mem_byID.mp hrouted
    by_cases hown : t.sessionID = sessionID
    · -- Its route is gone, and its session is the one that closes the rows of the agent.
      obtain ⟨hback, _, hlookup, _⟩ := hsound.routes _ _ ht
      rw [hown, hphase] at hlookup
      cases hlookup
      refine .inr (.inr ⟨sessionID, t.agentID, (Server.setPhase_lookup _ _ _ _ _).trans (if_pos rfl), ?_⟩)
      exact congrArg (Option.map Prod.fst) hback
    · exact .inl (hconsistent.mem_byID.mpr ⟨subdomain, t, (hlookups _ _).mpr ⟨ht, hown⟩, rfl⟩)
  | @closeTunnels sessionID agentID now succeeds hphase =>
    cases hregular
    obtain ⟨row, hrow, hstatus, hother⟩ :=
      (isOpen_closeAgentTunnels (hsound.named _ (hsound.known _ _ hphase))).mp hopen
    obtain hrouted | ⟨query, t, ⟨own, payload, hlookup⟩, hid⟩ | ⟨query, own, hlookup, hagent⟩ :=
      h.rows id ⟨row, hrow, hstatus⟩
    · exact .inl hrouted
    · refine .inr (.inl ⟨query, t, ⟨own, payload, lookup_move hlookup hphase ?_⟩, hid⟩)
      intro hsame
      cases hsame
    · rw [identity, hrow] at hagent
      have hrowAgent : row.agentID = own := Option.some.inj hagent
      refine .inr (.inr ⟨query, own, lookup_move hlookup hphase ?_, ?_⟩)
      · intro hsame
        cases hsame
        exact hother hrowAgent
      · refine (congrArg (Option.map Prod.fst) identity_closeAgentTunnels).trans ?_
        rw [identity, hrow]
        exact hagent
  | restart => cases hregular

/-- The part about connected agents, for a step of one connection that leaves the table as it is. -/
theorem used_move (h : Agrees s) {agents : Agents} (hphase : s.connections.lookup sessionID = some c)
    (hagent : c.agentID = agentID)
    (hagents : ∀ agentID' agent, agents.lookup agentID' = some agent → agent.connected = true →
      s.agents.lookup agentID' = some agent ∧ (agentID' = agentID → phase ≠ .gone)) :
    ∀ agentID' agent, agents.lookup agentID' = some agent → agent.connected = true → ∃ query phase',
      (s.connections.insert sessionID { agentID, phase }).lookup query =
        some { agentID := agentID', phase := phase' } ∧ phase' ≠ .gone := by
  intro agentID' agent hlookup hconnected
  obtain ⟨hbefore, hother⟩ := hagents agentID' agent hlookup hconnected
  obtain ⟨query, phase', hquery, hused⟩ := h.used agentID' agent hbefore hconnected
  by_cases hsame : query = sessionID
  · rw [hsame, hphase] at hquery
    cases hquery
    refine ⟨sessionID, phase, ?_, hother hagent⟩
    rw [Map.lookup_insert_eq, if_pos rfl, ← hagent]
  · refine ⟨query, phase', ?_, hused⟩
    rw [Map.lookup_insert_eq, if_neg hsame, hquery]

theorem used_step (h : Agrees s) (hsound : Sound s) (hregular : e.regular = true)
    (hstep : s.step baseDomain e = some next) : ∀ agentID agent, next.agents.lookup agentID = some agent →
      agent.connected = true → ∃ sessionID phase,
        next.connections.lookup sessionID = some { agentID, phase } ∧ phase ≠ .gone := by
  cases Server.step_cases hstep with
  | rejected => exact h.used
  | @connect sessionID _ _ _ agentID _ hnew _ _ hconnect =>
    obtain ⟨row, _, rfl, _⟩ := connect_eq_ok hconnect
    intro agentID' agent hlookup hconnected
    by_cases hsame : agentID' = agentID
    · rw [hsame]
      exact ⟨sessionID, .connected, (Server.setPhase_lookup _ _ _ _ _).trans (if_pos rfl), by decide⟩
    · have hbefore : s.agents.lookup agentID' = some agent := (AList.lookup_insert_ne hsame).symm.trans hlookup
      obtain ⟨query, phase, hquery, hused⟩ := h.used agentID' agent hbefore hconnected
      refine ⟨query, phase, (Server.setPhase_lookup _ _ _ _ _).trans ?_, hused⟩
      rw [if_neg]
      · exact hquery
      · intro hsession
        exact hnew (hsession ▸ (Map.mem_iff_lookup _ _).mpr ⟨_, hquery⟩)
  | register hphase | missing hphase | reopen hphase | create hphase | route hphase | answer hphase | leave hphase
  | remove hphase | closeRoutes hphase | closeTunnels hphase =>
    exact used_move h hphase rfl fun _ _ hlookup _ => ⟨hlookup, fun _ => by simp⟩
  | @disconnect sessionID agentID succeeds hphase =>
    cases hregular
    refine used_move h hphase rfl ?_
    intro agentID' agent hlookup hconnected
    rw [Server.setPhase, if_pos ⟨rfl, hsound.named _ (hsound.known _ _ hphase)⟩, lookup_disconnect,
      Option.map_eq_some_iff] at hlookup
    obtain ⟨old, hold, heq⟩ := hlookup
    split at heq
    · rw [← heq] at hconnected
      cases hconnected
    · rename_i hother
      exact ⟨heq ▸ hold, fun hsame => absurd hsame hother⟩
  | restart => cases hregular

theorem connected_step (h : Agrees s) (hregular : e.regular = true) (halone : cleansUpAlone s e = true)
    (hstep : s.step baseDomain e = some next) {sessionID agentID : GoString} {phase : Phase}
    (hlookup : next.connections.lookup sessionID = some { agentID, phase }) (honline : phase.online = true) :
    ∃ agent, next.agents.lookup agentID = some agent ∧ agent.connected = true := by
  cases Server.step_cases hstep with
  | rejected => exact h.connected _ _ _ hlookup honline
  | @connect query _ _ _ own _ hnew _ _ hconnect =>
    obtain ⟨row, hconnected, rfl, _⟩ := connect_eq_ok hconnect
    show ∃ agent, (s.agents.insert own row).lookup agentID = some agent ∧ _
    rw [Map.lookup_insert_eq]
    split
    · exact ⟨row, rfl, hconnected⟩
    · rename_i hother
      rw [Server.setPhase_lookup] at hlookup
      split at hlookup
      · cases hlookup
        exact absurd rfl hother
      · exact h.connected _ _ _ hlookup honline
  | register hphase | missing hphase | reopen hphase | create hphase | route hphase | answer hphase =>
    rw [Server.setPhase_lookup] at hlookup
    split at hlookup
    · cases hlookup
      exact h.connected _ _ _ hphase rfl
    · exact h.connected _ _ _ hlookup honline
  | leave hphase hleave =>
    rw [Server.setPhase_lookup] at hlookup
    split at hlookup
    · cases hlookup
      refine h.connected _ _ _ hphase ?_
      rw [Phase.online, Phase.registered_of_mayLeave hleave, Bool.true_or]
    · exact h.connected _ _ _ hlookup honline
  | remove | closeRoutes | closeTunnels =>
    rw [Server.setPhase_lookup] at hlookup
    split at hlookup
    · cases hlookup
      cases honline
    · exact h.connected _ _ _ hlookup honline
  | @disconnect query own succeeds hphase =>
    rw [Server.setPhase_lookup] at hlookup
    split at hlookup
    · cases hlookup
      cases honline
    · rename_i hquery
      -- It is a connection of another agent, whose row stays as it is.
      have hother : agentID ≠ own := by
        intro hsame
        simp only [cleansUpAlone, hphase, Bool.not_eq_true', Server.othersOnline, List.any_eq_false] at halone
        exact halone ⟨sessionID, _⟩ (AList.mem_lookup_iff.mp hlookup) (decide_eq_true ⟨hquery, hsame, honline⟩)
      obtain ⟨agent, hagent, hconnected⟩ := h.connected _ _ _ hlookup honline
      refine ⟨agent, ?_, hconnected⟩
      show AList.lookup agentID (if _ then _ else _ : Agents) = some agent
      split
      · rw [lookup_disconnect, hagent, Option.map_some, if_neg hother]
      · exact hagent
  | restart => cases hregular

theorem Agrees.step (h : Agrees s) (hsound : Sound s) (hregular : e.regular = true)
    (halone : cleansUpAlone s e = true) (hstep : s.step baseDomain e = some next) : Agrees next where
  rows := fun _ hopen => rows_step h hsound hregular hstep hopen
  used := used_step h hsound hregular hstep
  connected := fun _ _ _ hlookup honline => connected_step h hregular halone hstep hlookup honline

theorem agrees_start : Agrees Server.start where
  rows := by
    rintro _ ⟨_, ⟨⟩, _⟩
  used := by
    rintro _ _ ⟨⟩
  connected := by
    rintro _ _ _ ⟨⟩

theorem agrees_of_run (hrun : run (Server.step baseDomain) Server.start events = some s)
    (hregular : ∀ e ∈ events, e.regular = true)
    (halone : AllSteps (Server.step baseDomain) (fun s e => cleansUpAlone s e = true) Server.start events) :
    Agrees s := by
  refine run_induction_of_steps (P := fun events s => (∀ e ∈ events, e.regular = true) → Agrees s) ?_ ?_ hrun halone
    hregular
  · exact fun _ => agrees_start
  · intro events s e next hbefore ih hallowed hstep hregular
    have hearlier := ih fun e' hmem => hregular e' (List.mem_append_left _ hmem)
    exact hearlier.step (sound_of_run hbefore) (hregular e (by simp)) hallowed hstep

theorem closesUnused_of_cleansUpAlone (s : Server) (e : ServerEvent) (h : cleansUpAlone s e = true) :
    closesUnused s e = true := by
  cases e with
  | disconnect => rfl
  | _ => exact h

theorem quiet_phase (h : s.quiet = true) (hlookup : s.connections.lookup sessionID = some c) :
    c.phase = .serving ∨ c.phase = .gone :=
  of_decide_eq_true (List.all_eq_true.mp h ⟨sessionID, c⟩ (AList.mem_lookup_iff.mp hlookup))

/-- As long as no cleanup touches the tunnels and the row of an agent that another session uses, tables and memory agree
    whenever no connection is in the middle of something. -/
theorem tables_agree_of_alone (hrun : run (Server.step baseDomain) Server.start events = some s)
    (hregular : ∀ e ∈ events, e.regular = true)
    (halone : AllSteps (Server.step baseDomain) (fun s e => cleansUpAlone s e = true) Server.start events)
    (hquiet : s.quiet = true) :
    (∀ id, isOpen s.tunnels id ↔ id ∈ s.registry.byID) ∧
    ∀ agentID agent, s.agents.lookup agentID = some agent →
      (agent.connected = true ↔ ∃ sessionID, s.sessions.agentID sessionID = some agentID) := by
  have hsound := sound_of_run hrun
  have hagrees := agrees_of_run hrun hregular halone
  obtain ⟨_, hexclusive⟩ := kept_of_run hrun (halone.mono closesUnused_of_cleansUpAlone)
  refine ⟨?_, ?_⟩
  · intro id
    constructor
    · intro hopen
      obtain hrouted | ⟨query, t, ⟨own, payload, hlookup⟩, _⟩ | ⟨query, own, hlookup, _⟩ := hagrees.rows id hopen
      · exact hrouted
      · obtain hserving | hgone := quiet_phase hquiet hlookup
        · cases hserving
        · cases hgone
      · obtain hserving | hgone := quiet_phase hquiet hlookup
        · cases hserving
        · cases hgone
    · intro hrouted
      obtain ⟨subdomain, t, ht, rfl⟩ := hsound.consistent.mem_byID.mp hrouted
      exact hexclusive.routed subdomain t ht
  · intro agentID agent hagent
    constructor
    · intro hconnected
      obtain ⟨sessionID, phase, hlookup, hused⟩ := hagrees.used agentID agent hagent hconnected
      obtain rfl := (quiet_phase hquiet hlookup).resolve_right hused
      exact ⟨sessionID, (hsound.enrolled _ _).mpr ⟨.serving, hlookup, rfl⟩⟩
    · intro hregistered
      obtain ⟨sessionID, hregistered⟩ := hregistered
      obtain ⟨phase, hlookup, hphase⟩ := (hsound.enrolled _ _).mp hregistered
      obtain ⟨agent', hagent', hconnected⟩ := hagrees.connected _ _ _ hlookup (by rw [Phase.online, hphase]; rfl)
      rw [hagent] at hagent'
      cases hagent'
      exact hconnected

theorem tables_agree_of_alone_reconnect :
    ∃ s, run (Server.step (lit "tunnel.example")) Server.start laptopReconnects = some s ∧ s.quiet = true ∧
      (∀ id, isOpen s.tunnels id ↔ id ∈ s.registry.byID) ∧ lit "tun_ses_1" ∈ s.registry.byID ∧
      ∃ agent, s.agents.lookup (lit "agt_ses_1") = some agent ∧ agent.connected = true := by
  have hfacts : (run (Server.step (lit "tunnel.example")) Server.start laptopReconnects).map (fun s =>
      decide (s.quiet = true ∧ lit "tun_ses_1" ∈ s.registry.byID ∧ lit "agt_ses_1" ∈ s.agents ∧
        s.sessions.agentID (lit "ses_2") = some (lit "agt_ses_1"))) = some true := by decide +kernel
  obtain ⟨s, hrun, hstate⟩ := Option.map_eq_some_iff.mp hfacts
  obtain ⟨hquiet, hrouted, hagent, hregistered⟩ := of_decide_eq_true hstate
  have halone : AllSteps (Server.step (lit "tunnel.example")) (fun s e => cleansUpAlone s e = true) Server.start
      laptopReconnects := by decide +kernel
  obtain ⟨hrows, hagents⟩ := tables_agree_of_alone hrun (by decide) halone hquiet
  obtain ⟨agent, hlookup⟩ := (Map.mem_iff_lookup _ _).mp hagent
  exact ⟨s, hrun, hquiet, hrows, hrouted, agent, hlookup, (hagents _ agent hlookup).mpr ⟨_, hregistered⟩⟩

/-- One of two sessions of an installation has been cleaned up. -/
def laptopLeavesOne : List ServerEvent :=
  laptopConnects (lit "ses_1") ++ laptopOpens (lit "ses_1") none 1 ++ laptopConnects (lit "ses_2") ++
    laptopLeaves (lit "ses_2") [lit "tun_ses_1"] 2

/-- The other session is registered and has its route, but its tunnel is marked as closed and its agent as
    disconnected. -/
theorem tables_disagree_after_cleanup :
    (∀ e ∈ laptopLeavesOne, e.regular = true) ∧
    ∃ s agent, run (Server.step (lit "tunnel.example")) Server.start laptopLeavesOne = some s ∧ s.quiet = true ∧
      lit "tun_ses_1" ∈ s.registry.byID ∧ ¬ isOpen s.tunnels (lit "tun_ses_1") ∧
      s.sessions.agentID (lit "ses_1") = some (lit "agt_ses_1") ∧
      s.agents.lookup (lit "agt_ses_1") = some agent ∧ agent.connected = false := by
  have hfacts : (run (Server.step (lit "tunnel.example")) Server.start laptopLeavesOne).map (fun s =>
      (decide (s.quiet = true ∧ lit "tun_ses_1" ∈ s.registry.byID ∧
        s.sessions.agentID (lit "ses_1") = some (lit "agt_ses_1")),
        (s.tunnels.lookup (lit "tun_ses_1")).map TunnelRow.status,
        (s.agents.lookup (lit "agt_ses_1")).map AgentRow.connected)) = some (true, some .closed, some false) := by
    decide +kernel
  obtain ⟨s, hrun, hstate⟩ := Option.map_eq_some_iff.mp hfacts
  obtain ⟨hholds, hstate⟩ := Prod.mk.inj hstate
  obtain ⟨hstatus, hconnected⟩ := Prod.mk.inj hstate
  obtain ⟨hquiet, hrouted, hregistered⟩ := of_decide_eq_true hholds
  obtain ⟨agent, hagent, hdisconnected⟩ := Option.map_eq_some_iff.mp hconnected
  refine ⟨by decide, s, agent, hrun, hquiet, hrouted, ?_, hregistered, hagent, hdisconnected⟩
  intro hopen
  obtain ⟨row, hlookup, hrow⟩ := hopen
  rw [hlookup, Option.map_some, hrow] at hstatus
  cases hstatus

end myngrok.server
