import Myngrok.Server.Tenants

open golang transition myngrok.protocol myngrok.gateway myngrok.agents myngrok.agenttokens

namespace myngrok.server

variable {baseDomain : GoString} {s next : Access} {e : AccessEvent} {events : List AccessEvent}
  {sessionID tokenHash : GoString} {left : List GoString} {phase : RevokePhase}

/-- The connection presents the token with the hash. -/
def Access.presents (s : Access) (tokenHash sessionID : GoString) : Bool :=
  match s.hashes.lookup sessionID with
  | some presented => presented = tokenHash
  | none => false

/-- A connection with the token is past the query of `agents.Connect` for it, and has not registered its session yet. -/
def Access.registering (s : Access) (tokenHash : GoString) : Bool :=
  (s.found.entries.any fun entry => entry.2.isSome && s.presents tokenHash entry.1) ||
    s.gateway.connections.entries.any fun entry => entry.2.phase = .connected && s.presents tokenHash entry.1

/-- `DisconnectTokenHash` looks at the sessions only when no connection with the token is about to register one. -/
def looksBetween (s : Access) : AccessEvent → Bool
  | .collect request =>
    match s.revokes.lookup request with
    | some (.updated tokenHash) => !s.registering tokenHash
    | _ => true
  | _ => true

/-- No session with the hash can be registered any more, and those that are registered have been cancelled, or are among
    those that will be. -/
structure Sealed (s : Access) (tokenHash : GoString) (left : List GoString) : Prop where
  none_found : ∀ sessionID token, s.found.lookup sessionID = some (some token) →
    s.hashes.lookup sessionID ≠ some tokenHash
  none_registering : ∀ sessionID c, s.gateway.connections.lookup sessionID = some c → c.phase = .connected →
    s.hashes.lookup sessionID ≠ some tokenHash
  cancelled : ∀ sessionID session, s.gateway.sessions.sessions.lookup sessionID = some session →
    session.agentTokenHash = tokenHash → sessionID ∈ s.cancelled ∨ sessionID ∈ left

/-- What a request has reached. -/
def RevokePhase.Reached (s : Access) : RevokePhase → Prop
  | .updated tokenHash => Revoked s.tokens tokenHash
  | .cancelling tokenHash cancels => Revoked s.tokens tokenHash ∧ Sealed s tokenHash cancels
  | .noContent tokenHash => Revoked s.tokens tokenHash ∧ Sealed s tokenHash []
  | .notFound => True
  | .cutOff => True

theorem Sealed.of_same (h : Sealed s tokenHash left) (hgateway : next.gateway = s.gateway)
    (hhashes : next.hashes = s.hashes) (hfound : ∀ sessionID token, next.found.lookup sessionID = some (some token) →
      s.found.lookup sessionID = some (some token))
    (hcancelled : ∀ sessionID ∈ s.cancelled, sessionID ∈ next.cancelled) : Sealed next tokenHash left where
  none_found := by
    rw [hhashes]
    exact fun sessionID token hlookup => h.none_found sessionID token (hfound sessionID token hlookup)
  none_registering := by
    rw [hgateway, hhashes]
    exact h.none_registering
  cancelled := by
    rw [hgateway]
    intro sessionID session hlookup hhash
    exact (h.cancelled sessionID session hlookup hhash).imp_left (hcancelled sessionID)

/-- Only `connect` brings a connection before `Register`. -/
theorem connected_of_step {s next : Server} {e : ServerEvent} (hstep : s.step baseDomain e = some next)
    {c : Connection} (hlookup : next.connections.lookup sessionID = some c) (hphase : c.phase = .connected) :
    s.connections.lookup sessionID = some c ∨
      ∃ token hello fresh result, e = .connect sessionID token hello fresh ∧
        agents.connect s.agents token hello fresh = .ok result := by
  obtain ⟨old, hold, _, hsame⟩ | ⟨token, hello, fresh, hevent, hagents⟩ := connection_of_step hstep hlookup
  · rw [hsame hphase] at hold
    exact .inl hold
  · exact .inr ⟨token, hello, fresh, _, hevent, hagents⟩

/-- The gateway takes a step in which nobody with the token connects or registers. -/
theorem Sealed.serve (h : Sealed s tokenHash left) {se : ServerEvent} {gateway : Server}
    (hstep : s.gateway.step baseDomain se = some gateway) {validated : Map Nat GoString}
    {found : Map GoString (Option Found)} {revokes : Map Nat RevokePhase}
    (hfound : ∀ sessionID token, found.lookup sessionID = some (some token) →
      s.found.lookup sessionID = some (some token))
    (hconnect : ∀ sessionID token hello fresh, se = .connect sessionID token hello fresh →
      s.hashes.lookup sessionID ≠ some tokenHash)
    (hregister : ∀ sessionID outbound now agentID, se = .register sessionID tokenHash outbound now →
      s.gateway.connections.lookup sessionID ≠ some { agentID, phase := .connected }) :
    Sealed { s with gateway, validated, found, revokes } tokenHash left where
  none_found sessionID token hlookup := h.none_found sessionID token (hfound sessionID token hlookup)
  none_registering query c hlookup hphase := by
    obtain hold | ⟨_, _, _, _, hevent, _⟩ := connected_of_step hstep hlookup hphase
    · exact h.none_registering query c hold hphase
    · exact hconnect _ _ _ _ hevent
  cancelled query session hlookup hown := by
    obtain hold | ⟨_, _, agentID, hevent, hconnected⟩ := session_of_step hstep hlookup
    · exact h.cancelled query session hold hown
    · rw [hown] at hevent
      exact absurd hconnected (hregister _ _ _ agentID hevent)

/-- A token that has been revoked lets nobody in. -/
theorem Sealed.step (h : Sealed s tokenHash left) (hrevoked : Revoked s.tokens tokenHash) (hauth : Authenticated s)
    (hstep : s.step baseDomain e = some next) : Sealed next tokenHash left := by
  cases Access.step_cases hstep with
  | create | refused | validate | revoke | missing | collect | answer =>
    exact h.of_same rfl rfl (fun _ _ hlookup => hlookup) fun _ hmem => hmem
  | cancel | cancelNext => exact h.of_same rfl rfl (fun _ _ hlookup => hlookup) fun _ hmem => List.mem_cons_of_mem _ hmem
  | abandon => exact h.of_same rfl rfl (fun _ _ => lookup_found_none) fun _ hmem => hmem
  | @find connection sessionID presented hello now _ hnew =>
    refine ⟨fun query token hlookup => ?_, fun query c hlookup hphase => ?_, h.cancelled⟩
    · rw [Map.lookup_insert_eq] at hlookup ⊢
      split at hlookup
      · rename_i hsame
        rw [if_pos hsame]
        rintro ⟨⟩
        exact hrevoked.not_found hauth.unique (Access.findToken_eq_some (Option.some.inj hlookup))
      · rename_i hne
        rw [if_neg hne]
        exact h.none_found query token hlookup
    · rw [Map.lookup_insert_eq, if_neg]
      · exact h.none_registering query c hlookup hphase
      · rintro rfl
        obtain ⟨_, _, hhash, _⟩ := hauth.connected _ _ hlookup
        exact hnew ((Map.mem_iff_lookup _ _).mpr ⟨_, hhash⟩)
  | connect hfound hserver =>
    refine h.serve hserver (fun _ _ => lookup_found_none) ?_ nofun
    rintro _ _ _ _ ⟨⟩
    exact h.none_found _ _ hfound
  | register hhash hserver =>
    refine h.serve hserver (fun _ _ hlookup => hlookup) nofun ?_
    rintro _ _ _ agentID ⟨⟩ hconnected
    exact h.none_registering _ _ hconnected rfl hhash
  | session hrest hserver =>
    refine h.serve hserver (fun _ _ => Access.lookup_foundAfter) ?_ ?_
    · rintro _ _ _ _ rfl
      cases hrest
    · rintro _ _ _ _ rfl
      cases hrest

theorem extends_step (hstep : s.step baseDomain e = some next) : Extends s.tokens next.tokens := by
  cases Access.step_cases hstep with
  | create hextends | revoke _ hextends => exact hextends
  | _ => exact .refl

theorem RevokePhase.Reached.step (h : phase.Reached s) (hauth : Authenticated s)
    (hstep : s.step baseDomain e = some next) : phase.Reached next := by
  cases phase with
  | updated tokenHash => exact Revoked.extends h (extends_step hstep)
  | cancelling tokenHash cancels | noContent tokenHash =>
    exact ⟨h.1.extends (extends_step hstep), h.2.step h.1 hauth hstep⟩
  | notFound | cutOff => trivial

theorem RevokePhase.Reached.after (h : phase.Reached s) (e : ServerEvent) : (phase.after e).Reached s := by
  cases e with
  | restart =>
    cases phase with
    | updated tokenHash | cancelling tokenHash cancels => trivial
    | noContent tokenHash | notFound | cutOff => exact h
  | _ => exact h

/-- Nobody is about to register when `DisconnectTokenHash` looks, and it finds all others. -/
theorem sealed_of_collect (hclear : s.registering tokenHash = false) :
    Sealed s tokenHash (s.gateway.sessions.disconnectTokenHash tokenHash) := by
  obtain ⟨hfound, hconnected⟩ := Bool.or_eq_false_iff.mp hclear
  refine ⟨fun sessionID token hlookup hhash => ?_, fun sessionID c hlookup hphase hhash => ?_,
    fun sessionID session hlookup hhash => .inr ?_⟩
  · have hentry := List.any_eq_false.mp hfound ⟨sessionID, some token⟩ (AList.mem_lookup_iff.mp hlookup)
    refine hentry ?_
    simp only [Access.presents, hhash, Option.isSome_some, decide_true, Bool.and_self]
  · have hentry := List.any_eq_false.mp hconnected ⟨sessionID, c⟩ (AList.mem_lookup_iff.mp hlookup)
    refine hentry ?_
    simp only [Access.presents, hhash, hphase, decide_true, Bool.and_self]
  · exact sql.mem_select.mpr ⟨session, hlookup, decide_eq_true hhash⟩

/-- The state and what is in its table of requests, after a step that changed one of them. -/
theorem reached_setRevoke {request : Nat} (h : ∀ request phase, s.revokes.lookup request = some phase → phase.Reached next)
    (hrevokes : next.revokes = s.revokes.insert request phase) (hphase : phase.Reached next) :
    ∀ request phase, next.revokes.lookup request = some phase → phase.Reached next := by
  intro query phase' hlookup
  rw [hrevokes, Map.lookup_insert_eq] at hlookup
  split at hlookup
  · cases hlookup
    exact hphase
  · exact h query phase' hlookup

theorem reached_step (h : ∀ request phase, s.revokes.lookup request = some phase → phase.Reached s)
    (hauth : Authenticated s) (hlooks : looksBetween s e = true) (hstep : s.step baseDomain e = some next) :
    ∀ request phase, next.revokes.lookup request = some phase → phase.Reached next := by
  have hold : ∀ request phase, s.revokes.lookup request = some phase → phase.Reached next :=
    fun request phase hlookup => (h request phase hlookup).step hauth hstep
  cases Access.step_cases hstep with
  | create | refused | validate | find | connect | abandon | register | cancel => exact hold
  | session =>
    intro request phase hlookup
    rw [sql.lookup_update, Option.map_eq_some_iff] at hlookup
    obtain ⟨before, hlookup, rfl⟩ := hlookup
    exact (hold request before hlookup).after _
  | revoke _ _ hrevoked => exact reached_setRevoke hold rfl hrevoked
  | missing => exact reached_setRevoke hold rfl trivial
  | collect hphase =>
    have hupdated := hold _ _ hphase
    simp only [looksBetween, hphase, Bool.not_eq_true'] at hlooks
    have hsealed := sealed_of_collect hlooks
    exact reached_setRevoke hold rfl
      ⟨hupdated, hsealed.of_same rfl rfl (fun _ _ hlookup => hlookup) fun _ hmem => hmem⟩
  | @cancelNext request sessionID tokenHash cancels hphase =>
    obtain ⟨hrevoked, hsealed⟩ := hold _ _ hphase
    refine reached_setRevoke hold rfl ⟨hrevoked, hsealed.none_found, hsealed.none_registering,
      fun query session hlookup hhash => ?_⟩
    obtain hdone | hleft := hsealed.cancelled query session hlookup hhash
    · exact .inl hdone
    · by_cases hsame : query = sessionID
      · exact .inl (hsame ▸ List.mem_cons_self)
      · exact .inr ((List.mem_erase_of_ne hsame).mpr hleft)
  | answer hphase =>
    obtain ⟨hrevoked, hsealed⟩ := hold _ _ hphase
    exact reached_setRevoke hold rfl ⟨hrevoked, hsealed⟩

/-- Once a request to revoke a token has been answered with 204, every session that is registered with the token has
    been cancelled, as long as `DisconnectTokenHash` never looks while a connection is between the query of
    `agents.Connect` for the token and `Register`. -/
theorem revoked_sessions_cancelled (hrun : run (Access.step baseDomain) Access.start events = some s)
    (hlooks : AllSteps (Access.step baseDomain) (fun s e => looksBetween s e = true) Access.start events)
    {request : Nat} (hanswered : s.revokes.lookup request = some (.noContent tokenHash)) {session : Session}
    (hregistered : s.gateway.sessions.sessions.lookup sessionID = some session)
    (hhash : session.agentTokenHash = tokenHash) : sessionID ∈ s.cancelled := by
  have hreached : ∀ request phase, s.revokes.lookup request = some phase → phase.Reached s := by
    apply run_induction_of_steps (P := fun _ s => ∀ request phase, s.revokes.lookup request = some phase →
      phase.Reached s) nofun _ hrun hlooks
    intro events s e next hbefore h hallowed hstep
    exact reached_step h (authenticated_of_run hbefore) hallowed hstep
  obtain ⟨_, hsealed⟩ := hreached request _ hanswered
  obtain hdone | hleft := hsealed.cancelled sessionID session hregistered hhash
  · exact hdone
  · cases hleft

/-- A session that is registered is found and cancelled. -/
def revokedLate : List AccessEvent :=
  tenantConnects (lit "usr_1") (lit "ses_1") (lit "5e88") ++
    [.revoke 7 (lit "usr_1") (lit "tok_ses_1") 5, .collect 7, .cancelNext 7 (lit "ses_1"), .answer 7]

theorem revoked_sessions_cancelled_late :
    ∃ s session, run (Access.step (lit "tunnel.example")) Access.start revokedLate = some s ∧
      s.revokes.lookup 7 = some (.noContent (lit "5e88")) ∧
      s.gateway.sessions.sessions.lookup (lit "ses_1") = some session ∧ session.agentTokenHash = lit "5e88" ∧
      lit "ses_1" ∈ s.cancelled := by
  have hfacts : (run (Access.step (lit "tunnel.example")) Access.start revokedLate).any (fun s =>
      (s.revokes.lookup 7).any (fun phase => phase = .noContent (lit "5e88")) &&
      (s.gateway.sessions.sessions.lookup (lit "ses_1")).any fun session => session.agentTokenHash = lit "5e88") =
      true := by decide +kernel
  obtain ⟨s, hrun, hstate⟩ := (Option.any_eq_true _ _).mp hfacts
  simp only [Bool.and_eq_true, Option.any_eq_true, decide_eq_true_eq] at hstate
  obtain ⟨⟨phase, hphase, rfl⟩, session, hsession, hhash⟩ := hstate
  have hlooks : AllSteps (Access.step (lit "tunnel.example")) (fun s e => looksBetween s e = true) Access.start
      revokedLate := by decide +kernel
  exact ⟨s, session, hrun, hphase, hsession, hhash, revoked_sessions_cancelled hrun hlooks hphase hsession hhash⟩

/-- The token is revoked, and the request answered, after `agents.Connect` has found the token and before it inserts the
    row of the agent: the session is registered, and not cancelled. -/
def revokedBetween : List AccessEvent :=
  [.create (lit "usr_1") (lit "laptop") (lit "tkn_ses_1") (lit "5e88") (lit "tok_ses_1"),
    .validate 0 (lit "5e88") 0, .find 0 (lit "ses_1") laptopHello 0,
    .revoke 7 (lit "usr_1") (lit "tok_ses_1") 5, .collect 7, .answer 7, .connect (lit "ses_1") (lit "agt_ses_1"),
    .register (lit "ses_1") 0 6]

theorem revoked_session_survives :
    ∃ s session, run (Access.step (lit "tunnel.example")) Access.start revokedBetween = some s ∧
      s.revokes.lookup 7 = some (.noContent (lit "5e88")) ∧
      s.gateway.sessions.sessions.lookup (lit "ses_1") = some session ∧ session.agentTokenHash = lit "5e88" ∧
      lit "ses_1" ∉ s.cancelled := by
  have hfacts : (run (Access.step (lit "tunnel.example")) Access.start revokedBetween).any (fun s =>
      (s.revokes.lookup 7).any (fun phase => phase = .noContent (lit "5e88")) &&
      ((s.gateway.sessions.sessions.lookup (lit "ses_1")).any fun session => session.agentTokenHash = lit "5e88") &&
      decide (lit "ses_1" ∉ s.cancelled)) = true := by decide +kernel
  obtain ⟨s, hrun, hstate⟩ := (Option.any_eq_true _ _).mp hfacts
  simp only [Bool.and_eq_true, Option.any_eq_true, decide_eq_true_eq] at hstate
  obtain ⟨⟨⟨phase, hphase, rfl⟩, session, hsession, hhash⟩, hcancelled⟩ := hstate
  exact ⟨s, session, hrun, hphase, hsession, hhash, hcancelled⟩

end myngrok.server
