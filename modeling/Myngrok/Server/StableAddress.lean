import Myngrok.Server.Invariant

open golang transition myngrok.protocol myngrok.gateway myngrok.agents myngrok.tunnels

namespace myngrok.server

variable {baseDomain id own agentID' subdomain : GoString} {s next : Server} {e : ServerEvent}
  {events : List ServerEvent} {sessionID agentID localAddress : GoString} {key : GoString × GoString} {phase : Phase}
  {payload : OpenTunnelPayload}

/-- The `tunnel_opened` answers to an installation of the agent about one local address. -/
def Server.answersTo (s : Server) (key : GoString × GoString) (localAddress : GoString) : List TunnelOpenedPayload :=
  (s.answers.filter fun a =>
    installation s.agents a.tunnel.agentID = some key ∧ a.tunnel.localAddress = localAddress).map Answer.opened

/-- A row of the agent for the address has status 'open'. -/
def Server.openFor (s : Server) (agentID localAddress : GoString) : Bool :=
  s.tunnels.entries.any fun entry =>
    entry.2.agentID = agentID ∧ entry.2.localAddress = localAddress ∧ entry.2.status = .open

/-- A connection of the agent is between the `UPDATE` and the `INSERT` for the address. -/
def Server.creatingFor (s : Server) (agentID localAddress : GoString) : Bool :=
  s.connections.entries.any fun entry =>
    match entry.2.phase with
    | .creating agentID' payload _ => agentID' = agentID ∧ payload.localAddress = localAddress
    | _ => false

/-- When a session of the installation has its tunnel reopened, the row that it had before is closed. -/
def closedBefore (key : GoString × GoString) (localAddress : GoString) (s : Server) : ServerEvent → Bool
  | .reopen sessionID payload _ _ _ =>
    match s.sessions.agentID sessionID with
    | none => true
    | some agentID =>
      if installation s.agents agentID = some key ∧ payload.localAddress = localAddress then
        !s.openFor agentID localAddress && !s.creatingFor agentID localAddress
      else true
  | _ => true

/-- The row is one of the agent for the address. -/
def RowFor (s : Server) (agentID localAddress id : GoString) : Prop :=
  ∃ subdomain, identity s.tunnels id = some (agentID, subdomain, localAddress)

/-- The connection is about to insert a row of the agent for the address. -/
def CreatingFor (s : Server) (agentID localAddress sessionID : GoString) : Prop :=
  ∃ own payload subdomain, s.connections.lookup sessionID =
    some { agentID := own, phase := .creating agentID payload subdomain } ∧ payload.localAddress = localAddress

/-- There is one row of the agent for the address, or one is about to be inserted, or neither. -/
structure Single (agentID localAddress : GoString) (s : Server) : Prop where
  row : ∀ id id', RowFor s agentID localAddress id → RowFor s agentID localAddress id' → id = id'
  creating : ∀ sessionID sessionID', CreatingFor s agentID localAddress sessionID →
    CreatingFor s agentID localAddress sessionID' → sessionID = sessionID'
  apart : ∀ id sessionID, RowFor s agentID localAddress id → ¬ CreatingFor s agentID localAddress sessionID

theorem Single.mono (h : Single agentID localAddress s)
    (hrows : ∀ id, RowFor next agentID localAddress id → RowFor s agentID localAddress id)
    (hcreating : ∀ sessionID, CreatingFor next agentID localAddress sessionID →
      CreatingFor s agentID localAddress sessionID) : Single agentID localAddress next where
  row := fun id id' hid hid' => h.row id id' (hrows id hid) (hrows id' hid')
  creating := fun _ _ hfirst hsecond => h.creating _ _ (hcreating _ hfirst) (hcreating _ hsecond)
  apart := fun id _ hid hsession => h.apart id _ (hrows id hid) (hcreating _ hsession)

theorem not_openFor {row : TunnelRow} (h : s.openFor agentID localAddress = false)
    (hlookup : s.tunnels.lookup id = some row) (hagent : row.agentID = agentID)
    (haddress : row.localAddress = localAddress) : row.status ≠ .open := by
  intro hopen
  rw [Server.openFor, List.any_eq_false] at h
  exact h ⟨id, row⟩ (AList.mem_lookup_iff.mp hlookup) (decide_eq_true ⟨hagent, haddress, hopen⟩)

theorem not_creatingFor (h : s.creatingFor agentID localAddress = false) :
    ¬ CreatingFor s agentID localAddress sessionID := by
  rintro ⟨own, payload, subdomain, hlookup, haddress⟩
  rw [Server.creatingFor, List.any_eq_false] at h
  exact h ⟨sessionID, _⟩ (AList.mem_lookup_iff.mp hlookup) (decide_eq_true ⟨rfl, haddress⟩)

/-- A connection that goes on to a phase other than `creating`. -/
theorem CreatingFor.of_move {query : GoString}
    (h : CreatingFor (s.setPhase sessionID own phase) agentID localAddress query)
    (hphase : ∀ agentID payload subdomain, phase ≠ .creating agentID payload subdomain) :
    query ≠ sessionID ∧ CreatingFor s agentID localAddress query := by
  obtain ⟨own, payload, subdomain, hlookup, haddress⟩ := h
  rw [Server.setPhase_lookup] at hlookup
  split at hlookup
  · cases hlookup
    exact absurd rfl (hphase _ _ _)
  · rename_i hother
    exact ⟨hother, own, payload, subdomain, hlookup, haddress⟩

/-- The `UPDATE` finds nothing, and the rows are all closed: then there is none. -/
theorem Single.missing (h : Single agentID localAddress s)
    (hselect : selectsClosed s.tunnels agentID' payload.localAddress none = true)
    (hclosed : agentID' = agentID → payload.localAddress = localAddress →
      s.openFor agentID localAddress = false ∧ s.creatingFor agentID localAddress = false) :
    Single agentID localAddress (s.setPhase sessionID own (.creating agentID' payload subdomain)) := by
  by_cases hsame : agentID' = agentID ∧ payload.localAddress = localAddress
  · obtain ⟨rfl, rfl⟩ := hsame
    obtain ⟨hopen, hcreating⟩ := hclosed rfl rfl
    have hnone : ∀ id, ¬ RowFor s agentID' payload.localAddress id := by
      rintro id ⟨_, hidentity⟩
      obtain ⟨row, hlookup, hrow⟩ := Option.map_eq_some_iff.mp hidentity
      have hrowAgent : row.agentID = agentID' := congrArg (·.1) hrow
      have hrowAddress : row.localAddress = payload.localAddress := congrArg (·.2.2) hrow
      exact not_openFor hopen hlookup hrowAgent hrowAddress (selectsClosed_none hselect hlookup hrowAgent hrowAddress)
    have hown : ∀ query, CreatingFor (s.setPhase sessionID own (.creating agentID' payload subdomain)) agentID'
        payload.localAddress query → query = sessionID := by
      rintro query ⟨_, _, _, hlookup, haddress⟩
      rw [Server.setPhase_lookup] at hlookup
      split at hlookup
      · assumption
      · exact absurd ⟨_, _, _, hlookup, haddress⟩ (not_creatingFor hcreating)
    refine ⟨fun id _ hid => absurd hid (hnone id), ?_, fun id _ hid => absurd hid (hnone id)⟩
    intro query query' hquery hquery'
    rw [hown query hquery, hown query' hquery']
  · refine h.mono (fun _ hid => hid) ?_
    rintro query ⟨_, _, _, hlookup, haddress⟩
    rw [Server.setPhase_lookup] at hlookup
    split at hlookup
    · cases hlookup
      exact absurd ⟨rfl, haddress⟩ hsame
    · exact ⟨_, _, _, hlookup, haddress⟩

/-- The one connection that was about to insert a row has done so. -/
theorem Single.create {tunnels : Tunnels} {now : Time} (h : Single agentID localAddress s)
    (hphase : s.connections.lookup sessionID =
      some { agentID := own, phase := .creating agentID' payload subdomain })
    (hcreate : myngrok.tunnels.create s.tunnels s.agents agentID' subdomain payload.localAddress id now = some tunnels)
    (hmoved : ∀ agentID payload subdomain, phase ≠ .creating agentID payload subdomain) :
    Single agentID localAddress ({ s with tunnels }.setPhase sessionID own phase) := by
  have hcreating : ∀ {query}, CreatingFor ({ s with tunnels }.setPhase sessionID own phase) agentID localAddress query →
      query ≠ sessionID ∧ CreatingFor s agentID localAddress query := fun hquery => hquery.of_move hmoved
  have hrows : ∀ other, RowFor ({ s with tunnels }.setPhase sessionID own phase) agentID localAddress other →
      other = id ∧ agentID' = agentID ∧ payload.localAddress = localAddress ∨ RowFor s agentID localAddress other := by
    rintro other ⟨_, hidentity⟩
    rw [Server.setPhase, identity_create hcreate] at hidentity
    split at hidentity
    · rename_i hother
      cases hidentity
      exact .inl ⟨hother, rfl, rfl⟩
    · exact .inr ⟨_, hidentity⟩
  by_cases hsame : agentID' = agentID ∧ payload.localAddress = localAddress
  · obtain ⟨rfl, rfl⟩ := hsame
    have hown : CreatingFor s agentID' payload.localAddress sessionID := ⟨own, payload, subdomain, hphase, rfl⟩
    have honly : ∀ query, ¬ CreatingFor ({ s with tunnels }.setPhase sessionID own phase) agentID'
        payload.localAddress query := by
      intro query hquery
      obtain ⟨hother, hbefore⟩ := hcreating hquery
      exact hother (h.creating _ _ hbefore hown)
    refine ⟨?_, fun query _ hquery => absurd hquery (honly query), fun _ query _ => honly query⟩
    intro other other' hother hother'
    obtain ⟨rfl, _⟩ := (hrows other hother).resolve_right fun hbefore => h.apart other sessionID hbefore hown
    obtain ⟨rfl, _⟩ := (hrows other' hother').resolve_right fun hbefore => h.apart other' sessionID hbefore hown
    rfl
  · refine h.mono ?_ fun _ hquery => (hcreating hquery).2
    intro other hother
    exact (hrows other hother).resolve_left fun hnew => hsame hnew.2

theorem Single.step (h : Single agentID localAddress s) (hclosed : ∀ sessionID payload selected subdomain now,
      e = .reopen sessionID payload selected subdomain now → s.sessions.agentID sessionID = some agentID →
      payload.localAddress = localAddress →
      s.openFor agentID localAddress = false ∧ s.creatingFor agentID localAddress = false)
    (hstep : s.step baseDomain e = some next) : Single agentID localAddress next := by
  cases Server.step_cases hstep with
  | rejected => exact h
  | connect | register | route | answer | leave | remove | closeRoutes | disconnect =>
    exact h.mono (fun _ hid => hid) fun _ hcreating => (CreatingFor.of_move hcreating (by rintro _ _ _ ⟨⟩)).2
  | missing _ hagent hselect =>
    refine h.missing hselect ?_
    rintro rfl haddress
    exact hclosed _ _ _ _ _ rfl hagent haddress
  | reopen =>
    refine h.mono ?_ fun _ hcreating => (CreatingFor.of_move hcreating (by rintro _ _ _ ⟨⟩)).2
    rintro id ⟨subdomain, hidentity⟩
    exact ⟨subdomain, identity_reopen.symm.trans hidentity⟩
  | create hphase hcreate _ => exact h.create hphase hcreate (by rintro _ _ _ ⟨⟩)
  | @closeTunnels _ _ _ succeeds =>
    refine h.mono ?_ fun _ hcreating => (CreatingFor.of_move hcreating (by rintro _ _ _ ⟨⟩)).2
    rintro id ⟨subdomain, hidentity⟩
    cases succeeds with
    | false => exact ⟨subdomain, hidentity⟩
    | true => exact ⟨subdomain, identity_closeAgentTunnels.symm.trans hidentity⟩
  | restart =>
    refine h.mono (fun _ hid => hid) ?_
    rintro query ⟨_, _, _, hlookup, _⟩
    rw [sql.lookup_update, Option.map_eq_some_iff] at hlookup
    obtain ⟨_, _, hgone⟩ := hlookup
    cases hgone

/-- An agent that has no row yet has no tunnels either. -/
theorem Sound.single_of_unknown (h : Sound s) (hunknown : agentID ∉ s.agents) : Single agentID localAddress s := by
  have hrow : ∀ id, ¬ RowFor s agentID localAddress id :=
    fun id ⟨_, hidentity⟩ => hunknown (h.owners id _ hidentity)
  have hcreating : ∀ sessionID, ¬ CreatingFor s agentID localAddress sessionID := by
    rintro sessionID ⟨own, payload, subdomain, hlookup, _⟩
    have hown := (h.opens _ _ hlookup).creating _ _ _ rfl
    exact hunknown (hown ▸ h.known _ _ hlookup)
  exact ⟨fun id _ hid => absurd hid (hrow id), fun query _ hquery => absurd hquery (hcreating query),
    fun id _ hid => absurd hid (hrow id)⟩

theorem single_of_run (hrun : run (Server.step baseDomain) Server.start events = some s)
    (hclosed : AllSteps (Server.step baseDomain) (fun s e => closedBefore key localAddress s e = true) Server.start
      events) (hkey : installation s.agents agentID = some key) : Single agentID localAddress s := by
  refine run_induction_of_steps (P := fun _ s => installation s.agents agentID = some key →
    Single agentID localAddress s) ?_ ?_ hrun hclosed hkey
  · rintro ⟨⟩
  · intro events s e next hbefore ih hallowed hstep hkey
    have hsound := sound_of_run hbefore
    cases hrow : s.agents.lookup agentID with
    | none =>
      have hunknown := AList.lookup_eq_none.mp hrow
      refine (hsound.single_of_unknown hunknown).step ?_ hstep
      intro sessionID _ _ _ _ _ hagent
      obtain ⟨_, hlookup, _⟩ := (hsound.enrolled _ _).mp hagent
      exact absurd (hsound.known _ _ hlookup) hunknown
    | some row =>
      have hearlier : installation s.agents agentID = some row.installation := by rw [installation, hrow]; rfl
      rw [installation_step hstep hearlier] at hkey
      rw [hkey] at hearlier
      refine (ih hearlier).step ?_ hstep
      rintro sessionID payload _ _ _ rfl hagent haddress
      simpa only [closedBefore, hagent, hearlier, haddress, and_self, if_true, Bool.and_eq_true, Bool.not_eq_true']
        using hallowed

/-- As long as the row of the earlier sessions is closed by the time a new session opens the address, every answer
    carries the subdomain of the first one. -/
theorem address_stable_of_closed (hrun : run (Server.step baseDomain) Server.start events = some s)
    (hclosed : AllSteps (Server.step baseDomain) (fun s e => closedBefore key localAddress s e = true) Server.start
      events) :
    ∀ first later, (s.answersTo key localAddress).head? = some first → later ∈ s.answersTo key localAddress →
      later.subdomain = first.subdomain := by
  have hsound := sound_of_run hrun
  have hrow : ∀ opened ∈ s.answersTo key localAddress, ∃ agentID id, installation s.agents agentID = some key ∧
      identity s.tunnels id = some (agentID, opened.subdomain, localAddress) := by
    intro opened hmem
    obtain ⟨a, hfiltered, rfl⟩ := List.mem_map.mp hmem
    obtain ⟨hanswer, hfor⟩ := List.mem_filter.mp hfiltered
    obtain ⟨hkey, rfl⟩ := of_decide_eq_true hfor
    obtain ⟨hsubdomain, hback⟩ := hsound.answers a hanswer
    rw [hsubdomain]
    exact ⟨_, _, hkey, hback⟩
  intro first later hfirst hlater
  obtain ⟨agentID, id, hkey, hidentity⟩ := hrow first (List.mem_of_head? hfirst)
  obtain ⟨agentID', id', hkey', hidentity'⟩ := hrow later hlater
  obtain rfl := hsound.agents _ _ _ hkey' hkey
  obtain rfl := (single_of_run hrun hclosed hkey).row _ _ ⟨_, hidentity'⟩ ⟨_, hidentity⟩
  rw [hidentity] at hidentity'
  exact congrArg (·.2.1) (Option.some.inj hidentity').symm

/-- One installation of the agent. -/
def laptopHello : ClientHelloPayload :=
  { protocolVersion := 1, agentVersion := lit "0.1.0", instanceID := lit "laptop", hostname := lit "laptop"
    os := lit "linux", arch := lit "amd64" }

/-- A session of it comes up. -/
def laptopConnects (sessionID : GoString) : List ServerEvent :=
  [.connect sessionID (.ok (lit "tok_1", lit "usr_1")) laptopHello (lit "agt_" ++ sessionID),
    .register sessionID (lit "5e88") 0 1]

/-- It opens its address, and gets the row `selected` or else a new one. -/
def laptopOpens (sessionID : GoString) (selected : Option GoString) (now : Time) : List ServerEvent :=
  .reopen sessionID { requestID := lit "open-1", localAddress := lit "127.0.0.1:3000" } selected
      (lit "sub-" ++ sessionID) now ::
    (if selected.isNone then [.create sessionID (lit "tun_" ++ sessionID) now] else []) ++
    [.route sessionID, .answer sessionID]

/-- Its connection is lost and cleaned up. -/
def laptopLeaves (sessionID : GoString) (routes : List GoString) (now : Time) : List ServerEvent :=
  [.leave sessionID, .remove sessionID, .closeRoutes sessionID routes, .closeTunnels sessionID now true,
    .disconnect sessionID true]

/-- The subdomains that it is given in a run. -/
def laptopSubdomains (events : List ServerEvent) : Option (List GoString) :=
  (run (Server.step (lit "tunnel.example")) Server.start events).map fun s =>
    (s.answersTo (lit "usr_1", lit "laptop") (lit "127.0.0.1:3000")).map (·.subdomain)

/-- The second session comes after the first one has been cleaned up. -/
def laptopReconnects : List ServerEvent :=
  laptopConnects (lit "ses_1") ++ laptopOpens (lit "ses_1") none 1 ++ laptopLeaves (lit "ses_1") [lit "tun_ses_1"] 2 ++
    laptopConnects (lit "ses_2") ++ laptopOpens (lit "ses_2") (some (lit "tun_ses_1")) 3

theorem address_stable_of_closed_reconnect :
    ∃ s first second, run (Server.step (lit "tunnel.example")) Server.start laptopReconnects = some s ∧
      s.answersTo (lit "usr_1", lit "laptop") (lit "127.0.0.1:3000") = [first, second] ∧
      second.subdomain = first.subdomain := by
  have hfacts : (run (Server.step (lit "tunnel.example")) Server.start laptopReconnects).map (fun s =>
      (s.answersTo (lit "usr_1", lit "laptop") (lit "127.0.0.1:3000")).length) = some 2 := by decide +kernel
  obtain ⟨s, hrun, hlength⟩ := Option.map_eq_some_iff.mp hfacts
  obtain ⟨first, second, hanswers⟩ := List.length_eq_two.mp hlength
  have hclosed : AllSteps (Server.step (lit "tunnel.example"))
      (fun s e => closedBefore (lit "usr_1", lit "laptop") (lit "127.0.0.1:3000") s e = true) Server.start
      laptopReconnects := by decide +kernel
  refine ⟨s, first, second, hrun, hanswers, address_stable_of_closed hrun hclosed first second ?_ ?_⟩
  · rw [hanswers]
    rfl
  · rw [hanswers]
    exact List.mem_cons_of_mem _ List.mem_cons_self

/-- After a restart of the gateway, or when the new session is faster than the cleanup of the old one, the row is still
    open and the agent gets another subdomain. -/
theorem reconnect_changes_address :
    laptopSubdomains (laptopConnects (lit "ses_1") ++ laptopOpens (lit "ses_1") none 1 ++ [.restart] ++
      laptopConnects (lit "ses_2") ++ laptopOpens (lit "ses_2") none 2) = some [lit "sub-ses_1", lit "sub-ses_2"] ∧
    laptopSubdomains (laptopConnects (lit "ses_1") ++ laptopOpens (lit "ses_1") none 1 ++ [.leave (lit "ses_1")] ++
      laptopConnects (lit "ses_2") ++ laptopOpens (lit "ses_2") none 2) = some [lit "sub-ses_1", lit "sub-ses_2"] := by
  decide +kernel

end myngrok.server
