import Myngrok.Auth.Authentication
import Myngrok.Server.TenantView

open golang transition myngrok.protocol myngrok.agents myngrok.tunnels myngrok.agenttokens myngrok.traffic

namespace myngrok.server.Store

variable {service : auth.AccessService} {s next : Store} {e : StoreEvent} {events : List StoreEvent}
  {u userID tokenID tokenHash agentID id : GoString} {now : Time}

/-! Who owns the rows, over a run. -/

namespace Owned

/-- No statement changes whose an agent is, whose tunnel it is, or a hash. -/
theorem keep (h : Owned s) (htokens : ∀ id row, next.tokens.lookup id = some row →
      ∃ old, s.tokens.lookup id = some old ∧ old.tokenHash = row.tokenHash)
    (htunnels : ∀ id row, next.tunnels.lookup id = some row →
      (∃ old, s.tunnels.lookup id = some old ∧ old.agentID = row.agentID ∧ old.userID = row.userID) ∨
        s.agentUser row.agentID = some row.userID)
    (hagents : ∀ agentID userID, s.agentUser agentID = some userID → next.agentUser agentID = some userID) :
    Owned next where
  hashes := by
    intro id id' row row' hrow hrow' hsame
    obtain ⟨old, hold, hhash⟩ := htokens id row hrow
    obtain ⟨old', hold', hhash'⟩ := htokens id' row' hrow'
    exact h.hashes _ _ _ _ hold hold' (hhash.trans (hsame.trans hhash'.symm))
  tunnels := by
    intro id row hrow
    obtain ⟨old, hold, hagent, huser⟩ | hnew := htunnels id row hrow
    · exact hagents _ _ (hagent ▸ huser ▸ h.tunnels id old hold)
    · exact hagents _ _ hnew

theorem updateTokens (h : Owned s) {condition : GoString → TokenRecord → Bool} {set : TokenRecord → TokenRecord}
    (hset : ∀ row, (set row).tokenHash = row.tokenHash) :
    Owned { s with tokens := sql.update s.tokens condition set } := by
  refine h.keep (fun id row hrow => ?_) (fun _ row hrow => .inl ⟨row, hrow, rfl, rfl⟩) fun _ _ huser => huser
  rw [sql.lookup_update, Option.map_eq_some_iff] at hrow
  obtain ⟨old, hold, rfl⟩ := hrow
  refine ⟨old, hold, ?_⟩
  split
  · exact (hset old).symm
  · rfl

theorem updateAgents (h : Owned s) {condition : GoString → AgentRecord → Bool} {set : AgentRecord → AgentRecord}
    (hset : ∀ row, (set row).userID = row.userID) : Owned { s with agents := sql.update s.agents condition set } := by
  refine h.keep (fun _ row hrow => ⟨row, hrow, rfl⟩) (fun _ row hrow => .inl ⟨row, hrow, rfl, rfl⟩) ?_
  intro agentID userID huser
  rw [agentUser] at huser ⊢
  rw [sql.lookup_update, Option.map_map, ← huser]
  congr 1
  funext row
  simp only [Function.comp_apply]
  split
  · exact hset row
  · rfl

theorem updateTunnels (h : Owned s) {condition : GoString → TunnelRecord → Bool} {set : TunnelRecord → TunnelRecord}
    (hset : ∀ row, (set row).agentID = row.agentID ∧ (set row).userID = row.userID) :
    Owned { s with tunnels := sql.update s.tunnels condition set } := by
  refine h.keep (fun _ row hrow => ⟨row, hrow, rfl⟩) (fun id row hrow => .inl ?_) fun _ _ huser => huser
  rw [sql.lookup_update, Option.map_eq_some_iff] at hrow
  obtain ⟨old, hold, rfl⟩ := hrow
  refine ⟨old, hold, ?_⟩
  split
  · exact ⟨(hset old).1.symm, (hset old).2.symm⟩
  · exact ⟨rfl, rfl⟩

theorem insertToken (h : Owned s) {name raw : GoString}
    (hhash : sql.rows s.tokens (fun row => row.tokenHash = tokenHash) = []) :
    Owned (s.insertToken userID name raw tokenHash id now) := by
  have hunused : ∀ key row, s.tokens.lookup key = some row → row.tokenHash ≠ tokenHash := by
    intro key row hrow hsame
    have hmem : (key, row) ∈ sql.rows s.tokens fun row => row.tokenHash = tokenHash :=
      sql.mem_rows.mpr ⟨hrow, decide_eq_true hsame⟩
    rw [hhash] at hmem
    cases hmem
  refine ⟨?_, h.tunnels⟩
  intro key key' row row' hrow hrow' hsame
  simp only [Store.insertToken, Map.lookup_insert_eq] at hrow hrow'
  split at hrow <;> split at hrow' <;> rename_i hkey hkey'
  · exact hkey.trans hkey'.symm
  · cases hrow
    exact absurd hsame.symm (hunused _ _ hrow')
  · cases hrow'
    exact absurd hsame (hunused _ _ hrow)
  · exact h.hashes _ _ _ _ hrow hrow' hsame

variable {hello : ClientHelloPayload} {fresh : GoString}

theorem upsertAgent (h : Owned s) (hnew : fresh ∉ s.agents) : Owned (s.upsertAgent userID tokenID hello fresh now) := by
  -- The row that is replaced is one of the same user.
  have hinsert : ∀ (key : GoString) (row : AgentRecord),
      (∀ old, s.agents.lookup key = some old → old.userID = row.userID) →
      Owned { s with agents := s.agents.insert key row } := by
    intro key row hsame
    refine h.keep (fun _ row hrow => ⟨row, hrow, rfl⟩) (fun _ row hrow => .inl ⟨row, hrow, rfl, rfl⟩) ?_
    intro agentID owner howner
    rw [agentUser] at howner ⊢
    rw [Map.lookup_insert_eq]
    split
    · rename_i hid
      obtain ⟨old, hold, rfl⟩ := Option.map_eq_some_iff.mp howner
      rw [Option.map_some, hsame old (hid ▸ hold)]
    · exact howner
  unfold Store.upsertAgent
  dsimp only
  split
  · rename_i id rest hfound
    refine hinsert _ _ fun old hold => ?_
    obtain ⟨row, hrow, huser⟩ := sql.mem_select.mp (hfound ▸ List.mem_cons_self (a := id) (l := rest))
    rw [hold] at hrow
    cases hrow
    exact (of_decide_eq_true huser).1
  · exact hinsert _ _ fun old hold => absurd ((Map.mem_iff_lookup _ _).mpr ⟨old, hold⟩) hnew

theorem insertTunnel (h : Owned s) {subdomain localAddress : GoString} (hagent : s.agentUser agentID = some userID) :
    Owned (s.insertTunnel userID agentID subdomain localAddress id now) := by
  refine h.keep (fun _ row hrow => ⟨row, hrow, rfl⟩) ?_ fun _ _ huser => huser
  intro key row hrow
  simp only [Store.insertTunnel, Map.lookup_insert_eq] at hrow
  split at hrow
  · cases hrow
    exact .inr hagent
  · exact .inl ⟨row, hrow, rfl, rfl⟩

theorem step (h : Owned s) (hstep : s.step service e = some next) : Owned next := by
  cases writes_of_step hstep with
  | nothing => exact h
  | register | addDelta => exact ⟨h.hashes, h.tunnels⟩
  | create _ _ _ hhash => exact h.insertToken hhash
  | revoke =>
    rw [revokeToken_snd]
    exact h.updateTokens fun _ => rfl
  | connect hfresh =>
    split
    · exact (h.upsertAgent hfresh).updateTokens fun _ => rfl
    · exact h.upsertAgent hfresh
  | touch | disconnect => exact h.updateAgents fun _ => rfl
  | closeTunnels | reopen => exact h.updateTunnels fun _ => ⟨rfl, rfl⟩
  | insertTunnel hagent =>
    refine h.insertTunnel ?_
    rw [agentUser, hagent]
    rfl

end Owned

theorem owned_of_run (hrun : run (step service) start events = some s) : Owned s := by
  apply run_induction (P := fun _ s => Owned s) _ (fun _ _ _ _ _ h hstep => h.step hstep) hrun
  refine ⟨fun _ _ _ _ hrow => ?_, fun _ _ hrow => ?_⟩ <;> cases hrow

/-! The steps of the user and those of others. -/

theorem agentUser_only (h : s.agentUser agentID = some u) : (s.only u).agentUser agentID = some u := by
  obtain ⟨row, hrow, rfl⟩ := Option.map_eq_some_iff.mp h
  have hlookup : (s.only row.userID).agents.lookup agentID = some row :=
    sql.lookup_restrict_of_pos hrow (decide_eq_true rfl)
  rw [agentUser, hlookup, Option.map_some]

theorem owner_request {api : Api} {r : ApiRequest} :
    s.owner service (.request api r) = some u ↔ ∃ user, s.user service r = .ok user ∧ user.id = u := by
  rw [owner, Option.map_eq_some_iff]
  cases s.user service r with
  | error err => simp [Except.toOption]
  | ok user => simp [Except.toOption]

/-- A step on behalf of the user. -/
theorem step_only (hs : Owned s) (hstep : s.step service e = some next) (howner : s.owner service e = some u) :
    (s.only u).step service e = some (next.only u) ∧ (s.only u).owner service e = some u ∧
      (s.only u).reply service e = s.reply service e := by
  unfold step at hstep ⊢
  split at hstep
  swap
  · cases hstep
  rename_i hfresh
  rw [if_pos (fresh_only hfresh)]
  cases e with
  | register email passwordHash id =>
    cases hstep
    cases howner
    exact ⟨congrArg some (only_insertUser email passwordHash).symm, rfl, rfl⟩
  | request api r =>
    cases hstep
    obtain ⟨user, huser, hid⟩ := owner_request.mp howner
    have hserve : (s.only u).serve service api r = (s.serve service api r).only u :=
      serve_only huser hid
    refine ⟨?_, owner_request.mpr ⟨user, user_only huser hid, hid⟩, ?_⟩
    · dsimp only
      rw [hserve]
      rfl
    · rw [reply, reply, hserve]
      rfl
  | connect tokenHash hello fresh now used =>
    cases hstep
    obtain ⟨⟨tokenID, row⟩, hfound, huser⟩ := Option.map_eq_some_iff.mp howner
    refine ⟨congrArg some (connect_only hs hfound huser), ?_, rfl⟩
    rw [owner, findToken_only hs hfound huser, Option.map_some, huser]
  | touch agentID now | disconnect agentID now =>
    cases hstep
    refine ⟨congrArg some (Eq.symm ?_), agentUser_only howner, rfl⟩
    exact only_updateAgent fun _ => rfl
  | closeTunnels agentID now =>
    cases hstep
    refine ⟨?_, agentUser_only howner, rfl⟩
    dsimp only [closeAgentTunnels]
    split
    · rfl
    · refine congrArg some (Eq.symm ?_)
      exact only_updateTunnels fun _ => rfl
  | reopen agentID localAddress id now =>
    dsimp only at hstep ⊢
    split at hstep <;> cases hstep
    rename_i hselects
    rw [if_pos (selectsClosed_only hs hselects howner)]
    refine ⟨congrArg some (Eq.symm ?_), agentUser_only howner, rfl⟩
    exact only_updateTunnels fun _ => rfl
  | insertTunnel agentID subdomain localAddress id now =>
    obtain ⟨agent, hagent, rfl⟩ := Option.map_eq_some_iff.mp hstep
    have huser : agent.userID = u := by
      rw [owner, agentUser, hagent] at howner
      exact Option.some.inj howner
    subst huser
    have hlookup : (s.only agent.userID).agents.lookup agentID = some agent :=
      sql.lookup_restrict_of_pos hagent (decide_eq_true rfl)
    refine ⟨?_, agentUser_only howner, rfl⟩
    dsimp only
    rw [hlookup, Option.map_some, only_insertTunnel]
  | addDelta userID delta =>
    cases hstep
    cases howner
    exact ⟨congrArg some only_addDelta.symm, rfl, rfl⟩

/-- A step on behalf of somebody else, or of nobody. -/
theorem step_only_of_ne (hs : Owned s) (hstep : s.step service e = some next) (howner : s.owner service e ≠ some u) :
    next.only u = s.only u := by
  cases writes_of_step hstep with
  | nothing => rfl
  | register => exact only_insertUser_of_ne _ _ fun hid => howner (congrArg some hid)
  | create huser _ hid =>
    exact only_insertToken_of_ne hid _ _ fun hsame => howner (owner_request.mpr ⟨_, huser, hsame⟩)
  | revoke huser => exact only_revokeToken_of_ne fun hsame => howner (owner_request.mpr ⟨_, huser, hsame⟩)
  | @connect _ fresh tokenID _ kept now _ token hnew hfound =>
    have hother : token.userID ≠ u := by
      intro huser
      rw [owner, hfound] at howner
      exact howner (congrArg some huser)
    obtain ⟨hrow, _⟩ := sql.mem_rows.mp (List.mem_of_head? hfound)
    have htokens : (s.upsertAgent token.userID tokenID kept fresh now).tokens = s.tokens := by
      unfold upsertAgent
      dsimp only
      split <;> rfl
    split
    · rw [only_useToken_of_ne (htokens ▸ hrow) hother, only_upsertAgent_of_ne hnew hother]
    · exact only_upsertAgent_of_ne hnew hother
  | touch => exact only_updateAgent_of_ne (fun _ => rfl) (fun _ _ hid => (of_decide_eq_true hid).1) howner
  | disconnect => exact only_updateAgent_of_ne (fun _ => rfl) (fun _ _ hid => of_decide_eq_true hid) howner
  | closeTunnels =>
    exact only_updateTunnels_of_ne hs (fun _ => rfl) (fun _ _ _ hagent => (of_decide_eq_true hagent).1) howner
  | reopen hselects =>
    refine only_updateTunnels_of_ne hs (fun _ => rfl) (fun key row hrow hkey => ?_) howner
    unfold selectsClosed at hselects
    rw [← of_decide_eq_true hkey, hrow, Bool.and_eq_true] at hselects
    exact (of_decide_eq_true hselects.1).1
  | insertTunnel hagent hid =>
    refine only_insertTunnel_of_ne hid fun huser => howner ?_
    rw [owner, agentUser, hagent, Option.map_some, huser]
  | addDelta => exact only_insertTotals_of_ne fun huser => howner (congrArg some huser)

/-- The events of a user. -/
def owns (service : auth.AccessService) (u : GoString) (s : Store) (e : StoreEvent) : Bool :=
  s.owner service e = some u

/-- Every user has the service alone: the events of a user make a run by themselves, without those of all other users,
    that leaves what the shared run leaves to the user; and all requests of the user are answered in the same way. -/
theorem tenant_alone (u : GoString) (hrun : run (step service) start events = some s) :
    run (step service) start (purge (step service) (owns service u) start events) = some (s.only u) ∧
      observed (step service) (owns service u) (reply service) start
          (purge (step service) (owns service u) start events) =
        observed (step service) (owns service u) (reply service) start events := by
  refine run_purge (only u) rfl ?_ ?_ hrun
  · intro before state e next hbefore hstep hown
    obtain ⟨honly, howner, hreply⟩ := step_only (owned_of_run hbefore) hstep (of_decide_eq_true hown)
    exact ⟨honly, decide_eq_true howner, hreply⟩
  · intro before state e next hbefore hstep hown
    exact step_only_of_ne (owned_of_run hbefore) hstep (of_decide_eq_false hown)

/-- A token that the service has signed for a user, good for fifteen minutes. -/
def signedFor (userID : GoString) : GoString :=
  lit "Bearer " ++ auth.signJWT auth.plainService.hmac
    (auth.plainService.claims userID { issuedAt := 0, expiresFrom := 0 }) auth.plainService.accessSecret

/-- A request to `/api/v1/agent-tokens`. -/
def tokenRequest (method userID name id : GoString) (now : Time) : StoreEvent :=
  .request .agentTokens
    { method, path := lit "/api/v1/agent-tokens", authorization := signedFor userID, name := some name
      drawn := .ok (lit "tkn_" ++ id), tokenHash := lit "hash of " ++ id, id, now, load := none, failure := none }

/-- Two users create a token each, an agent of the second one connects, and the first one lists. -/
def twoUsers : List StoreEvent :=
  [.register (lit "dev@example.test") [] (lit "usr_1"), .register (lit "ops@example.test") [] (lit "usr_2"),
    tokenRequest (lit "POST") (lit "usr_1") (lit "laptop") (lit "t1") 1,
    tokenRequest (lit "POST") (lit "usr_2") (lit "server") (lit "t2") 2,
    .connect (lit "hash of t2") { protocolVersion := 1, agentVersion := [], instanceID := lit "i", hostname := lit "h"
                                  os := [], arch := [] } (lit "agt_1") 3 true,
    tokenRequest (lit "GET") (lit "usr_1") [] (lit "t3") 4]

/-- The first user sees one token, with or without the second user. -/
theorem tenant_alone_lists :
    ∃ s, run (step auth.plainService) start twoUsers = some s ∧ s.tokens.len = 2 ∧
      run (step auth.plainService) start (purge (step auth.plainService) (owns auth.plainService (lit "usr_1")) start twoUsers) =
        some (s.only (lit "usr_1")) ∧ (s.only (lit "usr_1")).tokens.len = 1 := by
  have hfacts : (run (step auth.plainService) start twoUsers).any (fun s =>
      s.tokens.len = 2 && (s.only (lit "usr_1")).tokens.len = 1) = true := by
    decide +kernel
  obtain ⟨s, hrun, hstate⟩ := (Option.any_eq_true _ _).mp hfacts
  simp only [Bool.and_eq_true, decide_eq_true_eq] at hstate
  have halone := (tenant_alone (lit "usr_1") hrun).1
  exact ⟨s, hrun, hstate.1, halone, hstate.2⟩

end myngrok.server.Store
