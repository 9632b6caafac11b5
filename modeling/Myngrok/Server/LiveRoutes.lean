import Myngrok.Server.StableAddress

open golang transition myngrok.protocol myngrok.gateway myngrok.agents myngrok.tunnels

namespace myngrok.server

variable {baseDomain : GoString} {s next : Server} {e : ServerEvent} {events : List ServerEvent}
  {sessionID agentID query : GoString} {phase : Phase} {t new : ActiveTunnel} {payload : OpenTunnelPayload}

/-- The loop of `serveSession` has not returned. -/
def Phase.live : Phase → Bool
  | .connected => true
  | .serving => true
  | .creating .. => true
  | .opening .. => true
  | .opened .. => true
  | _ => false

/-- The session has not begun to disconnect. -/
def Server.live (s : Server) (sessionID : GoString) : Bool :=
  (s.connections.lookup sessionID).any fun connection => connection.phase.live

/-- A tunnel of the agent is in the registry, or has been opened in the database and is about to be. -/
def Server.usesTunnels (s : Server) (agentID : GoString) : Bool :=
  (s.registry.bySubdomain.entries.any fun entry => entry.2.agentID = agentID) ||
    s.connections.entries.any fun entry =>
      match entry.2.phase with
      | .opening _ tunnel => tunnel.agentID = agentID
      | _ => false

/-- `CloseAgentTunnels` runs only when the agent has no tunnels in use: those of the session itself are no longer in the
    registry. -/
def closesUnused (s : Server) : ServerEvent → Bool
  | .closeTunnels sessionID _ succeeds =>
    match s.connections.lookup sessionID with
    | none => true
    | some connection => !(succeeds && s.usesTunnels connection.agentID)
  | _ => true

/-- The connection has opened the row of the tunnel, and puts it in the registry next. -/
def Opening (s : Server) (sessionID : GoString) (t : ActiveTunnel) : Prop :=
  ∃ agentID payload, s.connections.lookup sessionID = some { agentID, phase := .opening payload t }

/-- Every row that is in use is open, and is used once. -/
structure Exclusive (s : Server) : Prop where
  routed : ∀ subdomain t, s.registry.bySubdomain.lookup subdomain = some t → isOpen s.tunnels t.id
  opening : ∀ sessionID t, Opening s sessionID t → isOpen s.tunnels t.id ∧ t.id ∉ s.registry.byID
  apart : ∀ sessionID sessionID' t t', Opening s sessionID t → Opening s sessionID' t' → t.id = t'.id →
    sessionID = sessionID'

theorem Opening.of_move (h : Opening (s.setPhase sessionID agentID phase) query t)
    (hphase : ∀ payload t, phase ≠ .opening payload t) : query ≠ sessionID ∧ Opening s query t := by
  obtain ⟨_, _, hlookup⟩ := h
  rw [Server.setPhase_lookup] at hlookup
  split at hlookup
  · cases hlookup
    exact absurd rfl (hphase _ _)
  · rename_i hother
    exact ⟨hother, _, _, hlookup⟩

theorem Opening.of_open (h : Opening (s.setPhase sessionID agentID (.opening payload new)) query t) :
    query = sessionID ∧ t = new ∨ query ≠ sessionID ∧ Opening s query t := by
  obtain ⟨_, _, hlookup⟩ := h
  rw [Server.setPhase_lookup] at hlookup
  split at hlookup
  · rename_i hquery
    cases hlookup
    exact .inl ⟨hquery, rfl⟩
  · rename_i hother
    exact .inr ⟨hother, _, _, hlookup⟩

/-- What is in use stays in use at most, and the rows stay open. -/
theorem Exclusive.mono (h : Exclusive s) (hroutes : ∀ subdomain t, next.registry.bySubdomain.lookup subdomain = some t →
      s.registry.bySubdomain.lookup subdomain = some t ∧ isOpen next.tunnels t.id)
    (hids : ∀ id ∈ next.registry.byID, id ∈ s.registry.byID)
    (hopening : ∀ sessionID t, Opening next sessionID t → Opening s sessionID t ∧ isOpen next.tunnels t.id) :
    Exclusive next where
  routed := fun subdomain t hlookup => (hroutes subdomain t hlookup).2
  opening := by
    intro sessionID t hopen
    obtain ⟨hbefore, hrow⟩ := hopening sessionID t hopen
    exact ⟨hrow, fun hmem => (h.opening sessionID t hbefore).2 (hids _ hmem)⟩
  apart := fun _ _ _ _ hfirst hsecond => h.apart _ _ _ _ (hopening _ _ hfirst).1 (hopening _ _ hsecond).1

theorem Exclusive.move (h : Exclusive s) (hregistry : next.registry = s.registry) (htunnels : next.tunnels = s.tunnels)
    (hopening : ∀ sessionID t, Opening next sessionID t → Opening s sessionID t) : Exclusive next := by
  refine h.mono ?_ ?_ ?_
  · intro subdomain t hlookup
    rw [hregistry] at hlookup
    rw [htunnels]
    exact ⟨hlookup, h.routed _ _ hlookup⟩
  · rw [hregistry]
    exact fun _ hmem => hmem
  · intro sessionID t hnext
    have hbefore := hopening sessionID t hnext
    rw [htunnels]
    exact ⟨hbefore, (h.opening _ _ hbefore).1⟩

/-- A connection opens a row that nobody used. -/
theorem Exclusive.open (h : Exclusive s) (hconsistent : s.registry.Consistent) {tunnels : Tunnels}
    (hunused : ¬ isOpen s.tunnels new.id) (hopen : ∀ id, isOpen tunnels id ↔ id = new.id ∨ isOpen s.tunnels id) :
    Exclusive ({ s with tunnels }.setPhase sessionID agentID (.opening payload new)) where
  routed := fun subdomain t hlookup => (hopen t.id).mpr (.inr (h.routed subdomain t hlookup))
  opening := by
    intro query t hopening
    obtain ⟨_, rfl⟩ | ⟨_, hbefore⟩ := Opening.of_open hopening
    · refine ⟨(hopen t.id).mpr (.inl rfl), fun hmem => ?_⟩
      obtain ⟨subdomain, other, hrouted, hid⟩ := hconsistent.mem_byID.mp hmem
      exact hunused (hid ▸ h.routed subdomain other hrouted)
    · obtain ⟨hrow, hnot⟩ := h.opening query t hbefore
      exact ⟨(hopen t.id).mpr (.inr hrow), hnot⟩
  apart := by
    intro query query' t t' hfirst hsecond hid
    obtain ⟨hquery, rfl⟩ | ⟨_, hbefore⟩ := Opening.of_open hfirst <;>
      obtain ⟨hquery', rfl⟩ | ⟨_, hbefore'⟩ := Opening.of_open hsecond
    · rw [hquery, hquery']
    · exact absurd (hid ▸ (h.opening _ _ hbefore').1) hunused
    · exact absurd (hid ▸ (h.opening _ _ hbefore).1) hunused
    · exact h.apart _ _ _ _ hbefore hbefore' hid

/-- The tunnel that a connection was opening is in the registry. -/
theorem Exclusive.route (h : Exclusive s)
    (hphase : s.connections.lookup sessionID = some { agentID, phase := .opening payload t }) :
    Exclusive ({ s with registry := s.registry.open t }.setPhase sessionID agentID (.opened payload t)) := by
  have hown : Opening s sessionID t := ⟨agentID, payload, hphase⟩
  have hbefore : ∀ {query t'}, Opening ({ s with registry := s.registry.open t }.setPhase sessionID agentID
      (.opened payload t)) query t' → query ≠ sessionID ∧ Opening s query t' :=
    fun hopening => hopening.of_move (by rintro _ _ ⟨⟩)
  refine ⟨?_, ?_, fun _ _ _ _ hfirst hsecond => h.apart _ _ _ _ (hbefore hfirst).2 (hbefore hsecond).2⟩
  · intro subdomain t' hlookup
    rw [Server.setPhase, Registry.lookup_open] at hlookup
    split at hlookup
    · cases hlookup
      exact (h.opening _ _ hown).1
    · exact h.routed subdomain t' hlookup
  · intro query t' hopening
    obtain ⟨hother, hearlier⟩ := hbefore hopening
    obtain ⟨hrow, hnot⟩ := h.opening query t' hearlier
    refine ⟨hrow, fun hmem => ?_⟩
    obtain hid | hmem := (AList.mem_insert _).mp hmem
    · exact hother (h.apart _ _ _ _ hearlier hown hid)
    · exact hnot hmem

/-- The rows of an agent are closed while none of them is in use. -/
theorem Exclusive.closeTunnels (h : Exclusive s) (hsound : Sound s) (hagent : agentID ≠ []) {now : Time}
    (hunused : s.usesTunnels agentID = false) (hphase : ∀ payload t, phase ≠ .opening payload t) :
    Exclusive ({ s with tunnels := closeAgentTunnels s.tunnels agentID now }.setPhase sessionID agentID phase) := by
  rw [Server.usesTunnels, Bool.or_eq_false_iff, List.any_eq_false, List.any_eq_false] at hunused
  obtain ⟨hroutes, hconnections⟩ := hunused
  -- A row of another agent stays open.
  have hkept : ∀ {t : ActiveTunnel}, Backed s.tunnels t → t.agentID ≠ agentID → isOpen s.tunnels t.id →
      isOpen (closeAgentTunnels s.tunnels agentID now) t.id := by
    rintro t hback hother ⟨row, hlookup, hopen⟩
    refine (isOpen_closeAgentTunnels hagent).mpr ⟨row, hlookup, hopen, ?_⟩
    rw [Backed, identity, hlookup] at hback
    have hrow : row.agentID = t.agentID := congrArg (·.1) (Option.some.inj hback)
    rw [hrow]
    exact hother
  refine h.mono ?_ (fun _ hmem => hmem) ?_
  · intro subdomain t hlookup
    refine ⟨hlookup, hkept (hsound.routes _ _ hlookup).1 ?_ (h.routed _ _ hlookup)⟩
    intro hsame
    exact hroutes ⟨subdomain, t⟩ (AList.mem_lookup_iff.mp hlookup) (decide_eq_true hsame)
  · intro query t hopening
    obtain ⟨_, own, payload, hlookup⟩ := hopening.of_move hphase
    have hrow := (h.opening query t ⟨own, payload, hlookup⟩).1
    refine ⟨⟨own, payload, hlookup⟩, hkept ((hsound.opens _ _ hlookup).tunnel t rfl).2.2 ?_ hrow⟩
    intro hsame
    exact hconnections ⟨query, _⟩ (AList.mem_lookup_iff.mp hlookup) (decide_eq_true hsame)

theorem Exclusive.step (h : Exclusive s) (hsound : Sound s) (hunused : closesUnused s e = true)
    (hstep : s.step baseDomain e = some next) : Exclusive next := by
  cases Server.step_cases hstep with
  | rejected => exact h
  | connect | register | missing | answer | leave | remove | disconnect =>
    exact h.move rfl rfl fun _ _ hopening => (hopening.of_move (by rintro _ _ ⟨⟩)).2
  | reopen _ _ hselect hrow =>
    obtain ⟨row, hlookup, _, _, hclosed⟩ := selectsClosed_some hselect
    refine h.open hsound.consistent ?_ fun id => isOpen_reopen ((Map.mem_iff_lookup _ _).mpr ⟨row, hlookup⟩)
    rintro ⟨_, hlookup', hopen⟩
    rw [Server.activeTunnel, hlookup] at hlookup'
    cases hlookup'
    rw [hclosed] at hopen
    cases hopen
  | create _ hcreate _ =>
    obtain ⟨_, _, _, hnew, _⟩ := create_eq_some hcreate
    refine h.open hsound.consistent ?_ fun id => isOpen_create hcreate
    rintro ⟨row, hlookup, _⟩
    exact hnew ((Map.mem_iff_lookup _ _).mpr ⟨row, hlookup⟩)
  | route hphase => exact h.route hphase
  | closeRoutes hphase horder =>
    obtain ⟨hconsistent, hlookups⟩ := hsound.consistent.closeSession horder _
    refine h.mono ?_ ?_ ?_
    · intro subdomain t hlookup
      obtain ⟨hbefore, _⟩ := (hlookups _ _).mp hlookup
      exact ⟨hbefore, h.routed _ _ hbefore⟩
    · intro id hmem
      obtain ⟨subdomain, t, hlookup, hid⟩ := hconsistent.mem_byID.mp hmem
      exact hsound.consistent.mem_byID.mpr ⟨subdomain, t, ((hlookups _ _).mp hlookup).1, hid⟩
    · intro query t hopening
      obtain ⟨_, hbefore⟩ := hopening.of_move (by rintro _ _ ⟨⟩)
      exact ⟨hbefore, (h.opening _ _ hbefore).1⟩
  | @closeTunnels sessionID agentID now succeeds hphase =>
    cases succeeds with
    | false => exact h.move rfl rfl fun _ _ hopening => (hopening.of_move (by rintro _ _ ⟨⟩)).2
    | true =>
      simp only [closesUnused, hphase, Bool.true_and, Bool.not_eq_true'] at hunused
      exact h.closeTunnels hsound (hsound.named _ (hsound.known _ _ hphase)) hunused (by rintro _ _ ⟨⟩)
  | restart =>
    refine h.mono (by rintro _ _ ⟨⟩) (fun id hmem => absurd hmem (AList.notMem_empty id)) ?_
    rintro query t ⟨_, _, hlookup⟩
    rw [sql.lookup_update, Option.map_eq_some_iff] at hlookup
    obtain ⟨_, _, hgone⟩ := hlookup
    cases hgone

theorem exclusive_start : Exclusive Server.start :=
  ⟨by rintro _ _ ⟨⟩, by rintro _ _ ⟨_, _, ⟨⟩⟩, by rintro _ _ _ _ ⟨_, _, ⟨⟩⟩⟩

/-- A session that goes on was there before. -/
theorem live_of_step (hstep : s.step baseDomain e = some next) (hknown : sessionID ∈ s.connections)
    (hlive : next.live sessionID = true) : s.live sessionID = true := by
  obtain ⟨c, hlookup⟩ := (Map.mem_iff_lookup _ _).mp hknown
  have hmove : ∀ {other agentID phase phase'}, s.connections.lookup other = some { agentID, phase } →
      (next.connections.lookup sessionID = if sessionID = other then some { agentID, phase := phase' }
        else s.connections.lookup sessionID) → (phase'.live = true → phase.live = true) → s.live sessionID = true := by
    intro other agentID phase phase' hphase hnext hbefore
    rw [Server.live, hnext] at hlive
    split at hlive
    · rename_i hsame
      rw [Server.live, hsame, hphase]
      exact hbefore hlive
    · exact hlive
  cases Server.step_cases hstep with
  | rejected => exact hlive
  | connect hnew =>
    rw [Server.live, Server.setPhase_lookup, if_neg] at hlive
    · exact hlive
    · rintro rfl
      exact hnew hknown
  | register hphase | missing hphase | reopen hphase | create hphase | route hphase | answer hphase =>
    exact hmove hphase (Server.setPhase_lookup _ _ _ _ _) fun _ => rfl
  | leave hphase | remove hphase | closeRoutes hphase | closeTunnels hphase | disconnect hphase =>
    refine hmove hphase (Server.setPhase_lookup _ _ _ _ _) ?_
    rintro ⟨⟩
  | restart =>
    rw [Server.live, sql.lookup_update, hlookup] at hlive
    cases hlive

/-- As long as its session goes on, a route stays what it is. -/
theorem route_kept (hexclusive : Exclusive s) (hsound : Sound s) (hstep : s.step baseDomain e = some next)
    {subdomain : GoString} (hrouted : s.registry.bySubdomain.lookup subdomain = some t)
    (hlive : next.live t.sessionID = true) : next.registry.bySubdomain.lookup subdomain = some t := by
  cases Server.step_cases hstep with
  | @route sessionID agentID payload tunnel hphase =>
    refine (Registry.lookup_open _ _ _).trans ?_
    rw [if_neg, hrouted]
    -- Otherwise the row would be in use twice.
    intro hsame
    obtain ⟨hback, _⟩ := hsound.routes _ _ hrouted
    obtain ⟨_, _, hback'⟩ := (hsound.opens _ _ hphase).tunnel tunnel rfl
    rw [← (hsound.consistent.indexed _ _ hrouted).1] at hsame
    have hid := (hsound.id_eq_iff hback' hback).mpr hsame
    refine (hexclusive.opening sessionID tunnel ⟨agentID, payload, hphase⟩).2 ?_
    exact hsound.consistent.mem_byID.mpr ⟨subdomain, t, hrouted, hid⟩
  | closeRoutes hphase horder =>
    refine ((hsound.consistent.closeSession horder _).2 _ _).mpr ⟨hrouted, ?_⟩
    rintro rfl
    rw [Server.live, Server.setPhase_lookup, if_pos rfl] at hlive
    cases hlive
  | restart =>
    obtain ⟨_, phase, hlookup, _⟩ := hsound.routes _ _ hrouted
    rw [Server.live, sql.lookup_update, hlookup] at hlive
    cases hlive
  | _ => exact hrouted

/-- What has been answered to sessions that are still there is in the registry, as is what is about to be answered. -/
structure Kept (s : Server) : Prop where
  known : ∀ a ∈ s.answers, a.tunnel.sessionID ∈ s.connections
  opened : ∀ sessionID agentID payload t, s.connections.lookup sessionID =
    some { agentID, phase := .opened payload t } → s.registry.bySubdomain.lookup t.subdomain = some t
  answered : ∀ a ∈ s.answers, s.live a.tunnel.sessionID = true →
    ∃ t, s.registry.bySubdomain.lookup a.opened.subdomain = some t ∧ t.sessionID = a.tunnel.sessionID

theorem mem_connections_step (hstep : s.step baseDomain e = some next) (hmem : sessionID ∈ s.connections) :
    sessionID ∈ next.connections := by
  cases Server.step_cases hstep with
  | rejected => exact hmem
  | restart =>
    obtain ⟨c, hlookup⟩ := (Map.mem_iff_lookup _ _).mp hmem
    exact (Map.mem_iff_lookup _ _).mpr ⟨_, (sql.lookup_update _ _ _ _).trans (congrArg _ hlookup)⟩
  | _ => exact (AList.mem_insert _).mpr (.inr hmem)

/-- What a connection has put in the registry was there before, or has just been put there. -/
theorem opened_of_step (hstep : s.step baseDomain e = some next)
    (h : next.connections.lookup sessionID = some { agentID, phase := .opened payload t }) :
    s.connections.lookup sessionID = some { agentID, phase := .opened payload t } ∨
      next.registry.bySubdomain.lookup t.subdomain = some t := by
  cases Server.step_cases hstep with
  | rejected => exact .inl h
  | restart =>
    rw [sql.lookup_update, Option.map_eq_some_iff] at h
    obtain ⟨_, _, hgone⟩ := h
    cases hgone
  | route hphase =>
    rw [Server.setPhase_lookup] at h
    split at h
    · cases h
      exact .inr ((Registry.lookup_open _ _ _).trans (if_pos rfl))
    · exact .inl h
  | _ =>
    rw [Server.setPhase_lookup] at h
    split at h
    · cases h
    · exact .inl h

theorem Kept.step (h : Kept s) (hexclusive : Exclusive s) (hsound : Sound s)
    (hstep : s.step baseDomain e = some next) : Kept next := by
  -- An answer is an old one, or one about a tunnel that its session has just put in the registry.
  have hanswers : ∀ a ∈ next.answers, a ∈ s.answers ∨ ∃ agentID payload,
      s.connections.lookup a.tunnel.sessionID = some { agentID, phase := .opened payload a.tunnel } ∧
      a.opened.subdomain = a.tunnel.subdomain ∧ next.registry = s.registry := by
    cases Server.step_cases hstep with
    | @answer sessionID agentID payload tunnel hphase =>
      intro a hmem
      rw [Server.setPhase, List.mem_append, List.mem_singleton] at hmem
      obtain hmem | rfl := hmem
      · exact .inl hmem
      · obtain ⟨hsession, _⟩ := (hsound.opens _ _ hphase).tunnel tunnel rfl
        refine .inr ⟨agentID, payload, ?_, rfl, rfl⟩
        rw [answerTo, hsession]
        exact hphase
    | _ => exact fun a hmem => .inl hmem
  refine ⟨?_, ?_, ?_⟩
  · intro a hmem
    obtain hold | ⟨_, _, hlookup, _⟩ := hanswers a hmem
    · exact mem_connections_step hstep (h.known a hold)
    · exact mem_connections_step hstep ((Map.mem_iff_lookup _ _).mpr ⟨_, hlookup⟩)
  · intro sessionID agentID payload t hlookup
    obtain hbefore | hrouted := opened_of_step hstep hlookup
    · refine route_kept hexclusive hsound hstep (h.opened _ _ _ _ hbefore) ?_
      rw [((hsound.opens _ _ hbefore).tunnel t rfl).1, Server.live, hlookup]
      rfl
    · exact hrouted
  · intro a hmem hlive
    obtain hold | ⟨_, _, hlookup, hsubdomain, hregistry⟩ := hanswers a hmem
    · obtain ⟨t, hrouted, hsession⟩ := h.answered a hold (live_of_step hstep (h.known a hold) hlive)
      exact ⟨t, route_kept hexclusive hsound hstep hrouted (hsession ▸ hlive), hsession⟩
    · rw [hregistry, hsubdomain]
      exact ⟨a.tunnel, h.opened _ _ _ _ hlookup, rfl⟩

theorem kept_of_run (hrun : run (Server.step baseDomain) Server.start events = some s)
    (hunused : AllSteps (Server.step baseDomain) (fun s e => closesUnused s e = true) Server.start events) :
    Kept s ∧ Exclusive s := by
  refine run_induction_of_steps (P := fun _ s => Kept s ∧ Exclusive s) ?_ ?_ hrun hunused
  · exact ⟨⟨by rintro _ ⟨⟩, by rintro _ _ _ _ ⟨⟩, by rintro _ ⟨⟩⟩, exclusive_start⟩
  · rintro events s e next hbefore ⟨hkept, hexclusive⟩ hallowed hstep
    have hsound := sound_of_run hbefore
    exact ⟨hkept.step hexclusive hsound hstep, hexclusive.step hsound hallowed hstep⟩

/-- Once a session has been answered, the route is its own until it disconnects, as long as no other session closes the
    tunnels of an agent that uses them. -/
theorem routes_kept_of_unused (hrun : run (Server.step baseDomain) Server.start events = some s)
    (hunused : AllSteps (Server.step baseDomain) (fun s e => closesUnused s e = true) Server.start events)
    {a : Answer} (ha : a ∈ s.answers) (hlive : s.live a.tunnel.sessionID = true) :
    ∃ t, s.registry.get a.opened.subdomain = some t ∧ t.sessionID = a.tunnel.sessionID := by
  exact (kept_of_run hrun hunused).1.answered a ha hlive

/-- Two sessions of one installation, one after the other. -/
theorem routes_kept_of_unused_reconnect :
    ∃ s a, run (Server.step (lit "tunnel.example")) Server.start laptopReconnects = some s ∧ a ∈ s.answers ∧
      a.tunnel.sessionID = lit "ses_2" ∧
      ∃ t, s.registry.get a.opened.subdomain = some t ∧ t.sessionID = lit "ses_2" := by
  have hfacts : (run (Server.step (lit "tunnel.example")) Server.start laptopReconnects).map (fun s =>
      (s.answers.getLast?.map fun a => a.tunnel.sessionID, s.live (lit "ses_2"))) =
      some (some (lit "ses_2"), true) := by decide +kernel
  obtain ⟨s, hrun, hstate⟩ := Option.map_eq_some_iff.mp hfacts
  obtain ⟨hlast, hlive⟩ := Prod.mk.inj hstate
  obtain ⟨a, ha, hsession⟩ := Option.map_eq_some_iff.mp hlast
  have hmem := List.mem_of_getLast? ha
  have hunused : AllSteps (Server.step (lit "tunnel.example")) (fun s e => closesUnused s e = true) Server.start
      laptopReconnects := by decide +kernel
  have hkept := routes_kept_of_unused hrun hunused hmem (by rw [hsession]; exact hlive)
  rw [hsession] at hkept
  exact ⟨s, a, hrun, hmem, hsession, hkept⟩

/-- Three sessions of one installation: the first one opens a tunnel, the cleanup of the second one marks it closed, and
    the third one reopens it. -/
def laptopOverlaps : List ServerEvent :=
  laptopConnects (lit "ses_1") ++ laptopOpens (lit "ses_1") none 1 ++ laptopConnects (lit "ses_2") ++
    laptopLeaves (lit "ses_2") [lit "tun_ses_1"] 2 ++ laptopConnects (lit "ses_3") ++
    laptopOpens (lit "ses_3") (some (lit "tun_ses_1")) 3

/-- The first session is still connected, and its route leads to the third one. -/
theorem live_session_loses_route :
    ∃ s a t, run (Server.step (lit "tunnel.example")) Server.start laptopOverlaps = some s ∧ a ∈ s.answers ∧
      a.tunnel.sessionID = lit "ses_1" ∧ s.live (lit "ses_1") = true ∧
      s.registry.get a.opened.subdomain = some t ∧ t.sessionID = lit "ses_3" := by
  have hfacts : (run (Server.step (lit "tunnel.example")) Server.start laptopOverlaps).map (fun s =>
      (s.live (lit "ses_1"), s.answers.head?.map fun a =>
        (a.tunnel.sessionID, (s.registry.get a.opened.subdomain).map ActiveTunnel.sessionID))) =
      some (true, some (lit "ses_1", some (lit "ses_3"))) := by decide +kernel
  obtain ⟨s, hrun, hstate⟩ := Option.map_eq_some_iff.mp hfacts
  obtain ⟨hlive, hanswer⟩ := Prod.mk.inj hstate
  obtain ⟨a, ha, hroute⟩ := Option.map_eq_some_iff.mp hanswer
  obtain ⟨hsession, hget⟩ := Prod.mk.inj hroute
  obtain ⟨t, ht, hother⟩ := Option.map_eq_some_iff.mp hget
  exact ⟨s, a, t, hrun, List.mem_of_head? ha, hsession, hlive, ht, hother⟩

end myngrok.server
