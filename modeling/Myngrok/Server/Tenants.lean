import Myngrok.Server.Access
import Myngrok.Server.StableAddress

open golang transition myngrok.protocol myngrok.gateway myngrok.agents myngrok.tunnels myngrok.agenttokens

namespace myngrok.server

variable {baseDomain : GoString} {s next : Access} {e : AccessEvent} {events : List AccessEvent}
  {sessionID tokenHash user : GoString} {found : Map GoString (Option Found)}

/-- Every connection presents a token, and works for the agent of the token's user. -/
structure Authenticated (s : Access) : Prop where
  unique : OneHashEach s.tokens
  found : ∀ sessionID token, s.found.lookup sessionID = some (some token) →
    ∃ tokenHash, s.hashes.lookup sessionID = some tokenHash ∧ Holds s.tokens tokenHash token.userID
  connected : ∀ sessionID c, s.gateway.connections.lookup sessionID = some c →
    ∃ tokenHash user, s.hashes.lookup sessionID = some tokenHash ∧ Holds s.tokens tokenHash user ∧
      userOf s.gateway.agents c.agentID = some user
  sessions : ∀ sessionID session, s.gateway.sessions.sessions.lookup sessionID = some session →
    s.hashes.lookup sessionID = some session.agentTokenHash

/-- The gateway of the system is a gateway. -/
theorem gateway_of_run (hrun : run (Access.step baseDomain) Access.start events = some s) :
    ∃ serverEvents, run (Server.step baseDomain) Server.start serverEvents = some s.gateway := by
  apply run_induction (P := fun _ s => ∃ serverEvents,
    run (Server.step baseDomain) Server.start serverEvents = some s.gateway) _ _ hrun
  · exact ⟨[], rfl⟩
  · rintro events s e next _ ⟨serverEvents, hgateway⟩ hstep
    cases Access.step_cases hstep with
    | connect _ hserver | register _ hserver | session _ hserver =>
      exact ⟨_, run_concat_eq_some.mpr ⟨_, hgateway, hserver⟩⟩
    | _ => exact ⟨serverEvents, hgateway⟩

/-- The tokens change, and nobody's token gets lost. -/
theorem Authenticated.extend (h : Authenticated s) (hextends : Extends s.tokens next.tokens)
    (hgateway : next.gateway = s.gateway) (hhashes : next.hashes = s.hashes)
    (hfound : ∀ sessionID token, next.found.lookup sessionID = some (some token) →
      s.found.lookup sessionID = some (some token)) : Authenticated next where
  unique := hextends.unique h.unique
  found := by
    rw [hhashes]
    intro sessionID token hlookup
    obtain ⟨tokenHash, hhash, hholds⟩ := h.found _ _ (hfound _ _ hlookup)
    exact ⟨tokenHash, hhash, hholds.extends hextends⟩
  connected := by
    rw [hgateway, hhashes]
    intro sessionID c hlookup
    obtain ⟨tokenHash, user, hhash, hholds, huser⟩ := h.connected _ _ hlookup
    exact ⟨tokenHash, user, hhash, hholds.extends hextends, huser⟩
  sessions := by
    rw [hgateway, hhashes]
    exact h.sessions

/-- Only `Register` adds a session, under the hash it is given. -/
theorem session_of_step {s next : Server} {e : ServerEvent} (hstep : s.step baseDomain e = some next)
    {session : Session} (hlookup : next.sessions.sessions.lookup sessionID = some session) :
    s.sessions.sessions.lookup sessionID = some session ∨
      ∃ outbound now agentID, e = .register sessionID session.agentTokenHash outbound now ∧
        s.connections.lookup sessionID = some { agentID, phase := .connected } := by
  cases Server.step_cases hstep with
  | @register acting agentID hash outbound now hphase =>
    obtain ⟨stored, hhash, hsessions⟩ :=
      SessionManager.lookup_register s.sessions (newSession acting agentID hash outbound) now
    rw [Server.setPhase, hsessions] at hlookup
    split at hlookup
    · rename_i hsame
      cases hlookup
      obtain rfl : sessionID = acting := hsame
      refine .inr ⟨outbound, now, agentID, ?_, hphase⟩
      rw [hhash]
      rfl
    · exact .inl hlookup
  | remove => exact .inl (SessionManager.lookup_of_removeLocked hlookup)
  | restart => cases hlookup
  | _ => exact .inl hlookup

/-- The gateway takes a step for connections that have passed the check. -/
theorem Authenticated.serve (h : Authenticated s) {se : ServerEvent} {gateway : Server}
    (hstep : s.gateway.step baseDomain se = some gateway) {validated : Map Nat GoString} {revokes : Map Nat RevokePhase}
    (hfound : ∀ sessionID token, found.lookup sessionID = some (some token) →
      s.found.lookup sessionID = some (some token))
    (hconnect : ∀ sessionID token hello fresh, se = .connect sessionID token hello fresh →
      ∃ tokenHash tokenID user, token = .ok (tokenID, user) ∧ s.hashes.lookup sessionID = some tokenHash ∧
        Holds s.tokens tokenHash user)
    (hregister : ∀ sessionID tokenHash outbound now, se = .register sessionID tokenHash outbound now →
      s.hashes.lookup sessionID = some tokenHash) : Authenticated { s with gateway, validated, found, revokes } where
  unique := h.unique
  found sessionID token hlookup := h.found _ _ (hfound _ _ hlookup)
  connected := by
    intro query c hlookup
    obtain ⟨old, hold, hagent, _⟩ | ⟨_, _, _, hevent, hagents⟩ := connection_of_step hstep hlookup
    · obtain ⟨tokenHash, user, hhash, hholds, huser⟩ := h.connected _ _ hold
      exact ⟨tokenHash, user, hhash, hholds, userOf_step hstep (hagent ▸ huser)⟩
    · obtain ⟨tokenHash, tokenID, user, rfl, hhash, hholds⟩ := hconnect _ _ _ _ hevent
      obtain ⟨_, _, hsame, huser⟩ := connect_user hagents
      cases hsame
      exact ⟨tokenHash, user, hhash, hholds, huser⟩
  sessions := by
    intro query session hlookup
    obtain hold | ⟨_, _, _, hevent, _⟩ := session_of_step hstep hlookup
    · exact h.sessions _ _ hold
    · exact hregister _ _ _ _ hevent

/-- A connection gets its session ID and asks for its token. -/
theorem Authenticated.find (h : Authenticated s) {connection : Nat} {hello : ClientHelloPayload} {now : Time}
    (hnew : sessionID ∉ s.hashes) :
    Authenticated { s with
      validated := s.validated.erase connection, hashes := s.hashes.insert sessionID tokenHash
      found := s.found.insert sessionID (s.findToken tokenHash hello now) } := by
  have hkept : ∀ {query tokenHash'}, s.hashes.lookup query = some tokenHash' →
      (s.hashes.insert sessionID tokenHash).lookup query = some tokenHash' := by
    intro query tokenHash' hlookup
    rw [Map.lookup_insert_eq, if_neg, hlookup]
    rintro rfl
    exact hnew ((Map.mem_iff_lookup _ _).mpr ⟨_, hlookup⟩)
  refine ⟨h.unique, fun query token hlookup => ?_, fun query c hlookup => ?_,
    fun _ _ hlookup => hkept (h.sessions _ _ hlookup)⟩
  · rw [Map.lookup_insert_eq] at hlookup
    split at hlookup
    · rename_i hsame
      subst hsame
      obtain ⟨row, hrow, hhash, huser, _⟩ := find_eq_ok (Access.findToken_eq_some (Option.some.inj hlookup))
      exact ⟨tokenHash, AList.lookup_insert _, _, row, hrow, hhash, huser⟩
    · obtain ⟨tokenHash', hhash, hholds⟩ := h.found _ _ hlookup
      exact ⟨tokenHash', hkept hhash, hholds⟩
  · obtain ⟨tokenHash', user, hhash, hholds⟩ := h.connected _ _ hlookup
    exact ⟨tokenHash', user, hkept hhash, hholds⟩

/-- One that is through with `agents.Connect`, or has given up, is not in the middle of it. -/
theorem lookup_found_none {query : GoString} {token : Found}
    (h : (found.insert sessionID none).lookup query = some (some token)) : found.lookup query = some (some token) := by
  rw [Map.lookup_insert_eq] at h
  split at h
  · cases h
  · exact h

theorem Authenticated.step (h : Authenticated s) (hstep : s.step baseDomain e = some next) : Authenticated next := by
  cases Access.step_cases hstep with
  | create hextends | revoke _ hextends => exact h.extend hextends rfl rfl fun _ _ hlookup => hlookup
  | refused | validate | cancel | missing | collect | cancelNext | answer =>
    exact h.extend .refl rfl rfl fun _ _ hlookup => hlookup
  | abandon => exact h.extend .refl rfl rfl fun _ _ => lookup_found_none
  | find _ hnew => exact h.find hnew
  | connect hfound hserver =>
    refine h.serve hserver (fun _ _ => lookup_found_none) ?_ nofun
    rintro _ _ _ _ ⟨⟩
    obtain ⟨tokenHash, hhash, hholds⟩ := h.found _ _ hfound
    exact ⟨tokenHash, _, _, rfl, hhash, hholds⟩
  | register hhash hserver =>
    refine h.serve hserver (fun _ _ hlookup => hlookup) nofun ?_
    rintro _ _ _ _ ⟨⟩
    exact hhash
  | session hrest hserver =>
    refine h.serve hserver (fun _ _ => Access.lookup_foundAfter) ?_ ?_
    · rintro _ _ _ _ rfl
      cases hrest
    · rintro _ _ _ _ rfl
      cases hrest

theorem authenticated_of_run (hrun : run (Access.step baseDomain) Access.start events = some s) : Authenticated s := by
  apply run_induction (P := fun _ s => Authenticated s) _ (fun _ _ _ _ _ h hstep => h.step hstep) hrun
  exact ⟨nofun, nofun, nofun, nofun⟩

/-- The hash of the token whose session takes the step. -/
def Access.acting (s : Access) : AccessEvent → Option GoString
  | .validate _ tokenHash _ => some tokenHash
  | .find connection .. => s.validated.lookup connection
  | .connect sessionID _ => s.hashes.lookup sessionID
  | .abandon sessionID => s.hashes.lookup sessionID
  | .register sessionID .. => s.hashes.lookup sessionID
  | .session e => e.session.bind s.hashes.lookup
  | _ => none

/-- What a session of one user does leaves the rows of others, and what is routed for them. -/
theorem tenant_untouched (hrun : run (Access.step baseDomain) Access.start events = some s)
    (hstep : s.step baseDomain e = some next) (hacts : s.acting e = some tokenHash)
    (hholds : Holds s.tokens tokenHash user) {id : GoString} {row : TunnelRow}
    (hrow : s.gateway.tunnels.lookup id = some row) (hother : row.userID ≠ user) :
    next.gateway.tunnels.lookup id = some row ∧
      next.gateway.registry.get row.subdomain = s.gateway.registry.get row.subdomain := by
  obtain ⟨serverEvents, hgateway⟩ := gateway_of_run hrun
  have hsound := sound_of_run hgateway
  have howners := owners_of_run hgateway
  have hauth := authenticated_of_run hrun
  -- The agent of the session belongs to the user of its token.
  have hserves : ∀ {se : ServerEvent} {sessionID : GoString} {gateway : Server},
      s.gateway.step baseDomain se = some gateway → se.session = some sessionID →
      s.hashes.lookup sessionID = some tokenHash →
      gateway.tunnels.lookup id = some row ∧ gateway.registry.get row.subdomain = s.gateway.registry.get row.subdomain := by
    intro se sessionID gateway hserver hsession hhash
    refine others_untouched hsound hserver hsession hrow fun c hlookup hsame => hother ?_
    obtain ⟨tokenHash', user', hhash', hholds', huser⟩ := hauth.connected _ _ hlookup
    rw [hhash] at hhash'
    cases hhash'
    rw [← hsame, howners.rows _ _ hrow] at huser
    rw [Option.some.inj huser]
    exact hholds.unique hauth.unique hholds'
  cases Access.step_cases hstep with
  | refused | validate | find | abandon => exact ⟨hrow, rfl⟩
  | connect _ hserver => exact hserves hserver rfl hacts
  | register _ hserver => exact hserves hserver rfl hacts
  | session _ hserver =>
    obtain ⟨sessionID, hsession, hhash⟩ := Option.bind_eq_some_iff.mp hacts
    exact hserves hserver hsession hhash
  | create | cancel | revoke | missing | collect | cancelNext | answer => cases hacts

/-- Tenants are isolated: a route has the owner of its row and of the token that its session presented, and what a
    session of one user does changes no row of another user, nor what is routed at the row's subdomain. -/
theorem tenants_isolated (hrun : run (Access.step baseDomain) Access.start events = some s) :
    (∀ subdomain t, s.gateway.registry.get subdomain = some t →
      (∃ row, s.gateway.tunnels.lookup t.id = some row ∧ row.userID = t.userID) ∧
      ∃ tokenHash, s.hashes.lookup t.sessionID = some tokenHash ∧ Holds s.tokens tokenHash t.userID ∧
        ∀ session, s.gateway.sessions.sessions.lookup t.sessionID = some session →
          session.agentTokenHash = tokenHash) ∧
    ∀ e next tokenHash user, s.step baseDomain e = some next → s.acting e = some tokenHash →
      Holds s.tokens tokenHash user → ∀ id row, s.gateway.tunnels.lookup id = some row → row.userID ≠ user →
        next.gateway.tunnels.lookup id = some row ∧
          next.gateway.registry.get row.subdomain = s.gateway.registry.get row.subdomain := by
  obtain ⟨serverEvents, hgateway⟩ := gateway_of_run hrun
  have hsound := sound_of_run hgateway
  have howners := owners_of_run hgateway
  have hauth := authenticated_of_run hrun
  refine ⟨fun subdomain t hrouted => ⟨howners.route_row hsound hrouted, ?_⟩, ?_⟩
  · obtain ⟨_, _, hlookup, _⟩ := hsound.routes _ _ hrouted
    obtain ⟨tokenHash, user, hhash, hholds, huser⟩ := hauth.connected _ _ hlookup
    rw [howners.routes _ _ hrouted] at huser
    cases huser
    refine ⟨tokenHash, hhash, hholds, fun session hsession => ?_⟩
    rw [hauth.sessions _ _ hsession] at hhash
    exact Option.some.inj hhash
  · intro e next tokenHash user hstep hacts hholds id row hrow hother
    exact tenant_untouched hrun hstep hacts hholds hrow hother

/-- A user gets a token, and an agent connects with it. -/
def tenantConnects (userID sessionID tokenHash : GoString) : List AccessEvent :=
  [.create userID (lit "laptop") (lit "tkn_" ++ sessionID) tokenHash (lit "tok_" ++ sessionID),
    .validate 0 tokenHash 0, .find 0 sessionID laptopHello 0, .connect sessionID (lit "agt_" ++ sessionID),
    .register sessionID 0 1]

/-- Two users with one tunnel each, and the session of the second one has ended. -/
def twoTenants : List AccessEvent :=
  tenantConnects (lit "usr_1") (lit "ses_1") (lit "5e88") ++
    (laptopOpens (lit "ses_1") none 1).map AccessEvent.session ++
    tenantConnects (lit "usr_2") (lit "ses_2") (lit "6b3a") ++
    (laptopOpens (lit "ses_2") none 2).map AccessEvent.session ++
    [.session (.leave (lit "ses_2")), .session (.remove (lit "ses_2"))]

/-- The cleanup of its routes leaves those of the first user. -/
theorem tenants_isolated_cleanup :
    ∃ s next row t, run (Access.step (lit "tunnel.example")) Access.start twoTenants = some s ∧
      s.step (lit "tunnel.example") (.session (.closeRoutes (lit "ses_2") [lit "tun_ses_1", lit "tun_ses_2"])) =
        some next ∧
      s.gateway.tunnels.lookup (lit "tun_ses_1") = some row ∧ s.gateway.registry.get row.subdomain = some t ∧
      t.userID = lit "usr_1" ∧ Holds s.tokens (lit "6b3a") (lit "usr_2") ∧
      next.gateway.registry.get row.subdomain = some t := by
  have hfacts : (run (Access.step (lit "tunnel.example")) Access.start twoTenants).any (fun s =>
      (s.step (lit "tunnel.example")
        (.session (.closeRoutes (lit "ses_2") [lit "tun_ses_1", lit "tun_ses_2"]))).isSome &&
      s.acting (.session (.closeRoutes (lit "ses_2") [])) = some (lit "6b3a") &&
      (s.gateway.tunnels.lookup (lit "tun_ses_1")).map (fun row => (row.userID, row.subdomain)) =
        some (lit "usr_1", lit "sub-ses_1") &&
      (s.gateway.registry.get (lit "sub-ses_1")).map ActiveTunnel.userID = some (lit "usr_1") &&
      (s.tokens.lookup (lit "tok_ses_2")).map (fun token => (token.tokenHash, token.userID)) =
        some (lit "6b3a", lit "usr_2")) = true := by
    decide +kernel
  obtain ⟨s, hrun, hstate⟩ := (Option.any_eq_true _ _).mp hfacts
  simp only [Bool.and_eq_true, decide_eq_true_eq, Option.map_eq_some_iff, Prod.mk.injEq] at hstate
  obtain ⟨⟨⟨⟨hsome, hhash⟩, row, hlookup, huser, hsubdomain⟩, t, ht, htUser⟩, token, hfound, htokenHash, htokenUser⟩ :=
    hstate
  obtain ⟨next, hstep⟩ := Option.isSome_iff_exists.mp hsome
  rw [← hsubdomain] at ht
  have hholds : Holds s.tokens (lit "6b3a") (lit "usr_2") := ⟨_, token, hfound, htokenHash, htokenUser⟩
  refine ⟨s, next, row, t, hrun, hstep, hlookup, ht, htUser, hholds, ?_⟩
  obtain ⟨_, hkept⟩ := (tenants_isolated hrun).2 _ _ _ _ hstep hhash hholds _ _ hlookup (by rw [huser]; decide)
  rw [hkept, ht]

end myngrok.server
