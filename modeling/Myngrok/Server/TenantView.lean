import Myngrok.Server.Management

open golang myngrok.protocol myngrok.agents myngrok.tunnels myngrok.agenttokens myngrok.traffic

namespace myngrok.server

/-- What the API has told a user about a token: that it was created, with its hash, or that it was revoked. -/
inductive TokenAct where
  | created (userID tokenID tokenHash : GoString)
  | revoked (userID tokenID : GoString)
  deriving DecidableEq

/-- What the answer to a request of a user says about a token. -/
def ApiReply.acts (userID : GoString) (r : ApiRequest) : ApiReply → List TokenAct
  | .data _ (.created token) => [.created userID token.token.id r.tokenHash]
  | .noContent => [.revoked userID (strings.trimPrefix r.path (lit "/api/v1/agent-tokens/"))]
  | _ => []

namespace Store

/-- What belongs to one user. -/
def only (u : GoString) (s : Store) : Store :=
  { users := sql.restrict s.users fun id _ => id = u
    tokens := sql.restrict s.tokens fun _ row => row.userID = u
    agents := sql.restrict s.agents fun _ row => row.userID = u
    tunnels := sql.restrict s.tunnels fun _ row => row.userID = u
    totals := sql.restrict s.totals fun id _ => id = u }

/-- Every token has its own hash, and a tunnel belongs to the user of its agent. -/
structure Owned (s : Store) : Prop where
  hashes : ∀ id id' row row', s.tokens.lookup id = some row → s.tokens.lookup id' = some row' →
    row.tokenHash = row'.tokenHash → id = id'
  tunnels : ∀ id row, s.tunnels.lookup id = some row → s.agentUser row.agentID = some row.userID

variable {service : auth.AccessService} {s : Store} {e : StoreEvent}
  {u userID tokenID tokenHash agentID id fresh localAddress subdomain : GoString} {now : Time} {api : Api}
  {r : ApiRequest} {condition : GoString → TokenRecord → Bool} {set : TokenRecord → TokenRecord} {row : TokenRecord}
  {hello : ClientHelloPayload} {delta : Totals}

/-- `Revoke` changes nothing where its `UPDATE` finds no row. -/
theorem revokeToken_snd (s : Store) (userID tokenID : GoString) (now : Time) :
    (s.revokeToken userID tokenID now).2 =
      { s with tokens := sql.update s.tokens (fun id row => row.revocable userID tokenID id) fun row =>
          { row with revokedAt := some now } } := by
  have hnone : (∀ row, s.tokens.lookup tokenID = some row → row.revocable userID tokenID tokenID = false) →
      s = { s with tokens := sql.update s.tokens (fun id row => row.revocable userID tokenID id) fun row =>
        { row with revokedAt := some now } } := by
    intro hother
    rw [sql.update_eq_self]
    intro id row hrow
    by_cases hid : id = tokenID
    · subst hid
      exact hother row hrow
    · simp [TokenRow.revocable, hid]
  unfold revokeToken
  split
  · rename_i row hrow
    split
    · rfl
    · rename_i hrevocable
      refine hnone fun row' hrow' => ?_
      rw [hrow] at hrow'
      cases hrow'
      exact Bool.eq_false_iff.mpr hrevocable
  · rename_i hlookup
    refine hnone fun row hrow => ?_
    rw [hlookup] at hrow
    cases hrow

def acts (service : auth.AccessService) (s : Store) : StoreEvent → List TokenAct
  | .request api r =>
    match s.user service r with
    | .ok user => (s.serve service api r).reply.acts user.id r
    | .error _ => []
  | _ => []

/-- What a handler may do for a user, and what its answer says of it. -/
inductive Acts (s : Store) (userID : GoString) (r : ApiRequest) : Served → Prop where
  | nothing {reply : ApiReply} {disconnects} (hreply : reply.acts userID r = []) :
    Acts s userID r ⟨reply, disconnects, s⟩
  | create {reply : ApiReply} {disconnects} (name raw : GoString)
      (hname : strings.trimSpace name ≠ [] ∧ (strings.trimSpace name).length ≤ 128)
      (hreply : reply.acts userID r = [.created userID r.id r.tokenHash]) :
    Acts s userID r ⟨reply, disconnects, s.insertToken userID (strings.trimSpace name) raw r.tokenHash r.id r.now⟩
  | revoke {reply : ApiReply} {disconnects} (tokenID : GoString) (row : TokenRecord)
      (hrow : s.tokens.lookup tokenID = some row) (hrevocable : row.revocable userID tokenID tokenID = true)
      (hreply : reply.acts userID r = [.revoked userID tokenID]) :
    Acts s userID r ⟨reply, disconnects, (s.revokeToken userID tokenID r.now).2⟩

theorem acts_loads (unable : GoString) {data : ApiData} (hdata : (ApiReply.data 200 data).acts userID r = []) :
    Acts s userID r (s.loads r unable data) := by
  unfold loads
  split
  · exact .nothing rfl
  · exact .nothing hdata

theorem acts_servesOne (path unable : GoString) {data : ApiData} (hdata : (ApiReply.data 200 data).acts userID r = []) :
    Acts s userID r (s.servesOne r path unable data) := by
  unfold servesOne
  split
  · exact .nothing rfl
  · exact acts_loads unable hdata

theorem acts_create (s : Store) (userID : GoString) (r : ApiRequest) : Acts s userID r (s.create userID r) := by
  unfold create
  split
  · exact .nothing rfl
  · dsimp only
    split
    · exact .nothing rfl
    · rename_i hname
      obtain ⟨hsome, hshort⟩ := not_or.mp hname
      split
      · exact .nothing rfl
      · exact .nothing rfl
      · exact .create _ _ ⟨hsome, not_lt.mp hshort⟩ rfl

theorem acts_revoke (s : Store) (userID : GoString) (r : ApiRequest) : Acts s userID r (s.revoke userID r) := by
  unfold revoke
  dsimp only
  split
  · exact .nothing rfl
  · split
    · exact .nothing rfl
    · cases hrow : s.tokens.lookup (strings.trimPrefix r.path (lit "/api/v1/agent-tokens/")) with
      | none =>
        have hnone : s.revokeToken userID (strings.trimPrefix r.path (lit "/api/v1/agent-tokens/")) r.now = (none, s) := by
          rw [revokeToken, hrow]
        rw [hnone]
        exact .nothing rfl
      | some row =>
        by_cases hrevocable : row.revocable userID (strings.trimPrefix r.path (lit "/api/v1/agent-tokens/"))
            (strings.trimPrefix r.path (lit "/api/v1/agent-tokens/")) = true
        · have hacts : Acts s userID r ⟨.noContent, some row.tokenHash, _⟩ := .revoke _ _ hrow hrevocable rfl
          simp only [revokeToken, hrow, if_pos hrevocable] at hacts ⊢
          exact hacts
        · simp only [revokeToken, hrow, if_neg hrevocable]
          exact .nothing rfl

theorem acts_serve {user : auth.User} (huser : s.user service r = .ok user) (api : Api) :
    Acts s user.id r (s.serve service api r) := by
  rw [serve, huser]
  cases api with
  | agents | tunnels | traffic => exact acts_servesOne _ _ rfl
  | agentTokens =>
    dsimp only [serveAgentTokens]
    split
    · exact acts_loads _ rfl
    · split
      · exact acts_create s user.id r
      · split
        · exact acts_revoke s user.id r
        · exact .nothing rfl

section

variable (service : auth.AccessService) (s : Store)

/-- What a step does to the tables, and what the answer to a request says of it. -/
inductive Writes : StoreEvent → Store → Prop where
  | nothing {e : StoreEvent} (hacts : s.acts service e = []) : Writes e s
  | register {email passwordHash} {id : GoString} :
    Writes (.register email passwordHash id) (s.insertUser email passwordHash id)
  | create {api : Api} {r : ApiRequest} {user : auth.User} {name raw} (huser : s.user service r = .ok user)
      (hname : strings.trimSpace name ≠ [] ∧ (strings.trimSpace name).length ≤ 128) (hid : r.id ∉ s.tokens)
      (hhash : sql.rows s.tokens (fun row => row.tokenHash = r.tokenHash) = [])
      (hacts : s.acts service (.request api r) = [.created user.id r.id r.tokenHash]) :
    Writes (.request api r) (s.insertToken user.id (strings.trimSpace name) raw r.tokenHash r.id r.now)
  | revoke {api : Api} {r : ApiRequest} {user : auth.User} {tokenID : GoString} {row : TokenRecord}
      (huser : s.user service r = .ok user) (hrow : s.tokens.lookup tokenID = some row)
      (hrevocable : row.revocable user.id tokenID tokenID = true)
      (hacts : s.acts service (.request api r) = [.revoked user.id tokenID]) :
    Writes (.request api r) (s.revokeToken user.id tokenID r.now).2
  | connect {tokenHash fresh tokenID : GoString} {hello : ClientHelloPayload} {kept} {now : Time} {used}
      {token : TokenRecord} (hfresh : fresh ∉ s.agents) (hfound : s.findToken tokenHash now = some (tokenID, token)) :
    Writes (.connect tokenHash hello fresh now used)
      (if used then (s.upsertAgent token.userID tokenID kept fresh now).useToken tokenID now
        else s.upsertAgent token.userID tokenID kept fresh now)
  | touch {agentID : GoString} {now : Time} : Writes (.touch agentID now) (s.touch agentID now)
  | disconnect {agentID : GoString} {now : Time} : Writes (.disconnect agentID now) (s.disconnect agentID now)
  | closeTunnels {agentID : GoString} {now : Time} :
    Writes (.closeTunnels agentID now)
      { s with tunnels := sql.update s.tunnels (fun _ row => row.agentID = agentID ∧ row.status = .open) fun row =>
          { row with status := .closed, closedAt := some now, updatedAt := now } }
  | reopen {agentID localAddress id : GoString} {now : Time} (hselects : s.selectsClosed agentID localAddress id = true) :
    Writes (.reopen agentID localAddress id now) (s.reopen id now)
  | insertTunnel {agentID subdomain localAddress id : GoString} {now : Time} {agent : AgentRecord}
      (hagent : s.agents.lookup agentID = some agent) (hid : id ∉ s.tunnels) :
    Writes (.insertTunnel agentID subdomain localAddress id now)
      (s.insertTunnel agent.userID agentID subdomain localAddress id now)
  | addDelta {userID : GoString} {delta : Totals} {totals} :
    Writes (.addDelta userID delta) { s with totals := s.totals.insert userID totals }

end

theorem writes_of_step (hstep : s.step service e = some next) : s.Writes service e next := by
  unfold step at hstep
  split at hstep
  swap
  · cases hstep
  rename_i hfresh
  cases e with
  | register =>
    cases hstep
    exact .register
  | request api r =>
    cases hstep
    cases huser : s.user service r with
    | error err =>
      have hserve : s.serve service api r = ⟨unauthorized, none, s⟩ := by rw [serve, huser]
      rw [hserve]
      exact .nothing (by rw [acts, huser])
    | ok user =>
      have hacts : s.acts service (.request api r) = (s.serve service api r).reply.acts user.id r := by rw [acts, huser]
      have hserved := acts_serve huser api
      generalize s.serve service api r = served at hserved hacts
      obtain ⟨hid, hhash⟩ := of_decide_eq_true hfresh
      cases hserved with
      | nothing hreply => exact .nothing (hacts.trans hreply)
      | create name raw hname hreply => exact .create huser hname hid hhash (hacts.trans hreply)
      | revoke tokenID row hrow hrevocable hreply => exact .revoke huser hrow hrevocable (hacts.trans hreply)
  | connect tokenHash hello fresh now used =>
    cases hstep
    unfold connect
    split
    · exact .nothing rfl
    · split
      · exact .nothing rfl
      · rename_i hfound
        dsimp only
        split
        · exact .nothing rfl
        · exact .connect (of_decide_eq_true hfresh) hfound
  | touch =>
    cases hstep
    exact .touch
  | disconnect =>
    cases hstep
    exact .disconnect
  | closeTunnels =>
    cases hstep
    unfold closeAgentTunnels
    split
    · exact .nothing rfl
    · exact .closeTunnels
  | reopen =>
    dsimp only at hstep
    split at hstep <;> cases hstep
    rename_i hselects
    exact .reopen hselects
  | insertTunnel =>
    obtain ⟨agent, hagent, rfl⟩ := Option.map_eq_some_iff.mp hstep
    exact .insertTunnel hagent (of_decide_eq_true hfresh).1
  | addDelta =>
    cases hstep
    unfold addDelta
    dsimp only
    split
    · exact .addDelta
    · exact .nothing rfl

/-! What a statement does to the part of a user: on the user's own behalf the same as to the whole, on another's
    nothing. -/

theorem only_insertUser (email passwordHash : GoString) :
    (s.insertUser email passwordHash u).only u = (s.only u).insertUser email passwordHash u := by
  refine congrArg (fun users => { s.only u with users }) (sql.restrict_insert ?_)
  exact decide_eq_true rfl

theorem only_insertUser_of_ne (email passwordHash : GoString) (hother : id ≠ u) :
    (s.insertUser email passwordHash id).only u = s.only u := by
  refine congrArg (fun users => { s.only u with users }) (sql.restrict_insert_of_neg ?_ fun _ _ => ?_)
  · exact decide_eq_false hother
  · exact decide_eq_false hother

theorem only_insertToken (name raw : GoString) :
    (s.insertToken u name raw tokenHash id now).only u = (s.only u).insertToken u name raw tokenHash id now := by
  refine congrArg (fun tokens => { s.only u with tokens }) (sql.restrict_insert ?_)
  exact decide_eq_true rfl

theorem only_insertToken_of_ne (hnew : id ∉ s.tokens) (name raw : GoString) (hother : userID ≠ u) :
    (s.insertToken userID name raw tokenHash id now).only u = s.only u := by
  refine congrArg (fun tokens => { s.only u with tokens }) (sql.restrict_insert_of_neg ?_ fun old hold => ?_)
  · exact decide_eq_false hother
  · exact absurd ((Map.mem_iff_lookup _ _).mpr ⟨old, hold⟩) hnew

theorem only_updateTokens (hset : ∀ row, (set row).userID = row.userID) :
    ({ s with tokens := sql.update s.tokens condition set } : Store).only u =
      { s.only u with tokens := sql.update (s.only u).tokens condition set } := by
  refine congrArg (fun tokens => { s.only u with tokens }) (sql.restrict_update _ _ ?_)
  intro _ row
  rw [hset]

theorem only_updateTokens_of_ne (hset : ∀ row, (set row).userID = row.userID)
    (hothers : ∀ id row, s.tokens.lookup id = some row → condition id row = true → row.userID ≠ u) :
    ({ s with tokens := sql.update s.tokens condition set } : Store).only u = s.only u := by
  refine congrArg (fun tokens => { s.only u with tokens }) (sql.restrict_update_of_neg ?_ ?_)
  · intro _ row
    rw [hset]
  · exact fun id row hrow hcondition => decide_eq_false (hothers id row hrow hcondition)

theorem only_revokeToken :
    (s.revokeToken userID tokenID now).2.only u = ((s.only u).revokeToken userID tokenID now).2 := by
  rw [revokeToken_snd, revokeToken_snd]
  exact only_updateTokens fun _ => rfl

theorem only_revokeToken_of_ne (hother : userID ≠ u) : (s.revokeToken userID tokenID now).2.only u = s.only u := by
  rw [revokeToken_snd]
  refine only_updateTokens_of_ne (fun _ => rfl) fun id row _ hrevocable => ?_
  obtain ⟨_, huser, _⟩ := of_decide_eq_true hrevocable
  exact huser ▸ hother

theorem only_useToken : (s.useToken tokenID now).only u = (s.only u).useToken tokenID now :=
  only_updateTokens fun _ => rfl

theorem only_useToken_of_ne (hrow : s.tokens.lookup tokenID = some row) (hother : row.userID ≠ u) :
    (s.useToken tokenID now).only u = s.only u := by
  refine only_updateTokens_of_ne (fun _ => rfl) fun id found hfound hid => ?_
  rw [of_decide_eq_true hid, hrow] at hfound
  cases hfound
  exact hother

theorem only_upsertAgent :
    (s.upsertAgent u tokenID hello fresh now).only u = (s.only u).upsertAgent u tokenID hello fresh now := by
  have hselect : sql.select (s.only u).agents (fun old => old.userID = u ∧ old.instanceID = hello.instanceID) =
      sql.select s.agents fun old => old.userID = u ∧ old.instanceID = hello.instanceID := by
    show sql.select (sql.restrict s.agents fun _ row => row.userID = u) _ = _
    exact sql.select_restrict _ fun _ row hrow => decide_eq_true (of_decide_eq_true hrow).1
  unfold upsertAgent
  rw [hselect]
  split
  all_goals
    refine congrArg (fun agents => { s.only u with agents }) (sql.restrict_insert ?_)
    exact decide_eq_true rfl

theorem only_upsertAgent_of_ne (hnew : fresh ∉ s.agents) (hother : userID ≠ u) :
    (s.upsertAgent userID tokenID hello fresh now).only u = s.only u := by
  unfold upsertAgent
  dsimp only
  split
  · rename_i id rest hfound
    refine congrArg (fun agents => { s.only u with agents }) (sql.restrict_insert_of_neg ?_ fun old hold => ?_)
    · exact decide_eq_false hother
    · obtain ⟨row, hrow, huser⟩ := sql.mem_select.mp (hfound ▸ List.mem_cons_self (a := id) (l := rest))
      rw [hold] at hrow
      cases hrow
      exact decide_eq_false ((of_decide_eq_true huser).1 ▸ hother)
  · refine congrArg (fun agents => { s.only u with agents }) (sql.restrict_insert_of_neg ?_ fun old hold => ?_)
    · exact decide_eq_false hother
    · exact absurd ((Map.mem_iff_lookup _ _).mpr ⟨old, hold⟩) hnew

/-- A statement about one agent, which does not change whose it is. -/
theorem only_updateAgent {condition : GoString → AgentRecord → Bool} {set : AgentRecord → AgentRecord}
    (hset : ∀ row, (set row).userID = row.userID) :
    ({ s with agents := sql.update s.agents condition set } : Store).only u =
      { s.only u with agents := sql.update (s.only u).agents condition set } := by
  refine congrArg (fun agents => { s.only u with agents }) (sql.restrict_update _ _ ?_)
  intro _ row
  rw [hset]

theorem only_updateAgent_of_ne {condition : GoString → AgentRecord → Bool} {set : AgentRecord → AgentRecord}
    (hset : ∀ row, (set row).userID = row.userID) (hid : ∀ id row, condition id row = true → id = agentID)
    (hother : s.agentUser agentID ≠ some u) :
    ({ s with agents := sql.update s.agents condition set } : Store).only u = s.only u := by
  refine congrArg (fun agents => { s.only u with agents }) (sql.restrict_update_of_neg ?_ ?_)
  · intro _ row
    rw [hset]
  · intro id row hrow hcondition
    obtain rfl := hid id row hcondition
    refine decide_eq_false fun huser => hother ?_
    rw [agentUser, hrow, Option.map_some, huser]

theorem only_updateTunnels {condition : GoString → TunnelRecord → Bool} {set : TunnelRecord → TunnelRecord}
    (hset : ∀ row, (set row).userID = row.userID) :
    ({ s with tunnels := sql.update s.tunnels condition set } : Store).only u =
      { s.only u with tunnels := sql.update (s.only u).tunnels condition set } := by
  refine congrArg (fun tunnels => { s.only u with tunnels }) (sql.restrict_update _ _ ?_)
  intro _ row
  rw [hset]

/-- The tunnels of an agent are those of its user. -/
theorem only_updateTunnels_of_ne (hs : Owned s) {condition : GoString → TunnelRecord → Bool}
    {set : TunnelRecord → TunnelRecord} (hset : ∀ row, (set row).userID = row.userID)
    (hagent : ∀ id row, s.tunnels.lookup id = some row → condition id row = true → row.agentID = agentID)
    (hother : s.agentUser agentID ≠ some u) :
    ({ s with tunnels := sql.update s.tunnels condition set } : Store).only u = s.only u := by
  refine congrArg (fun tunnels => { s.only u with tunnels }) (sql.restrict_update_of_neg ?_ ?_)
  · intro _ row
    rw [hset]
  · intro id row hrow hcondition
    refine decide_eq_false fun huser => hother ?_
    rw [← hagent id row hrow hcondition, hs.tunnels id row hrow, huser]

theorem only_insertTunnel :
    (s.insertTunnel u agentID subdomain localAddress id now).only u =
      (s.only u).insertTunnel u agentID subdomain localAddress id now := by
  refine congrArg (fun tunnels => { s.only u with tunnels }) (sql.restrict_insert ?_)
  exact decide_eq_true rfl

theorem only_insertTunnel_of_ne (hnew : id ∉ s.tunnels) (hother : userID ≠ u) :
    (s.insertTunnel userID agentID subdomain localAddress id now).only u = s.only u := by
  refine congrArg (fun tunnels => { s.only u with tunnels }) (sql.restrict_insert_of_neg ?_ fun old hold => ?_)
  · exact decide_eq_false hother
  · exact absurd ((Map.mem_iff_lookup _ _).mpr ⟨old, hold⟩) hnew

theorem lookup_totals_only : (s.only u).totals.lookup u = s.totals.lookup u := by
  show (sql.restrict s.totals fun id _ => id = u).lookup u = s.totals.lookup u
  rw [sql.lookup_restrict]
  cases s.totals.lookup u with
  | none => rfl
  | some totals => exact Option.filter_some_pos (decide_eq_true rfl)

theorem mem_users_only : u ∈ (s.only u).users ↔ u ∈ s.users := by
  rw [Map.mem_iff_lookup, Map.mem_iff_lookup]
  constructor
  · rintro ⟨row, hrow⟩
    exact ⟨row, (sql.lookup_of_restrict hrow).1⟩
  · rintro ⟨row, hrow⟩
    exact ⟨row, sql.lookup_restrict_of_pos hrow (decide_eq_true rfl)⟩

theorem only_addDelta : (s.addDelta u delta).only u = (s.only u).addDelta u delta := by
  simp only [addDelta, lookup_totals_only, mem_users_only]
  split
  · refine congrArg (fun totals => { s.only u with totals }) (sql.restrict_insert ?_)
    exact decide_eq_true rfl
  · rfl

theorem only_insertTotals_of_ne {totals : Totals} (hother : userID ≠ u) :
    ({ s with totals := s.totals.insert userID totals } : Store).only u = s.only u := by
  refine congrArg (fun totals => { s.only u with totals }) (sql.restrict_insert_of_neg ?_ fun _ _ => ?_)
  · exact decide_eq_false hother
  · exact decide_eq_false hother

/-! The queries. -/

theorem listTokens_only : (s.only u).listTokens u = s.listTokens u := by
  unfold listTokens
  rw [only, sql.rows_restrict _ fun _ _ hrow => hrow]

theorem listAgents_only : (s.only u).listAgents u = s.listAgents u := by
  unfold listAgents
  rw [only, sql.rows_restrict _ fun _ _ hrow => hrow]

theorem listTunnels_only : (s.only u).listTunnels u = s.listTunnels u := by
  unfold listTunnels
  rw [only, sql.rows_restrict _ fun _ _ hrow => hrow]

theorem getTotals_only : (s.only u).getTotals u = s.getTotals u := by
  rw [getTotals, getTotals, lookup_totals_only]

theorem revokeToken_only_fst : ((s.only u).revokeToken u tokenID now).1 = (s.revokeToken u tokenID now).1 := by
  have hfst : ∀ s : Store, (s.revokeToken u tokenID now).1 =
      ((s.tokens.lookup tokenID).filter fun row => row.revocable u tokenID tokenID).map fun row => row.tokenHash := by
    intro s
    unfold revokeToken
    split
    · rename_i row hrow
      rw [hrow, Option.filter_some]
      split <;> rfl
    · rename_i hrow
      rw [hrow]
      rfl
  have hlookup : (s.only u).tokens.lookup tokenID = (s.tokens.lookup tokenID).filter fun row => row.userID = u :=
    sql.lookup_restrict _ _ _
  rw [hfst, hfst, hlookup, Option.filter_filter]
  congr 2
  funext row
  simp only [TokenRow.revocable]
  grind

theorem user_only {user : auth.User} (huser : s.user service r = .ok user) (hid : user.id = u) :
    (s.only u).user service r = .ok user := by
  obtain ⟨hclaims, hload, row, hrow, hactive, hemail⟩ := auth.AccessService.userFromAccessToken_eq_ok.mp huser
  refine auth.AccessService.userFromAccessToken_eq_ok.mpr ⟨hclaims, hload, row, ?_, hactive, hemail⟩
  exact sql.lookup_restrict_of_pos hrow (decide_eq_true hid)

/-- The query for a token finds the same row, if it is the user's. -/
theorem findToken_only (hs : Owned s) (hfound : s.findToken tokenHash now = some (id, row)) (huser : row.userID = u) :
    (s.only u).findToken tokenHash now = some (id, row) := by
  obtain ⟨hrow, haccepts⟩ := sql.mem_rows.mp (List.mem_of_head? hfound)
  have hmem : (id, row) ∈ sql.rows (s.only u).tokens fun row => row.accepts tokenHash now :=
    sql.mem_rows.mpr ⟨sql.lookup_restrict_of_pos hrow (decide_eq_true huser), haccepts⟩
  unfold findToken
  cases hrows : sql.rows (s.only u).tokens fun row => row.accepts tokenHash now with
  | nil =>
    rw [hrows] at hmem
    cases hmem
  | cons first rest =>
    obtain ⟨id', row'⟩ := first
    obtain ⟨hrow', haccepts'⟩ := sql.mem_rows.mp (hrows ▸ List.mem_cons_self (a := (id', row')) (l := rest))
    obtain ⟨hlookup, _⟩ := sql.lookup_of_restrict hrow'
    have hhash := (of_decide_eq_true haccepts).1
    have hhash' := (of_decide_eq_true haccepts').1
    obtain rfl := hs.hashes _ _ _ _ hrow hlookup (hhash.trans hhash'.symm)
    rw [hrow] at hlookup
    cases hlookup
    rfl

theorem fresh_only (h : s.fresh e = true) : (s.only u).fresh e = true := by
  cases e with
  | register email _ id =>
    obtain ⟨hid, hemail⟩ := of_decide_eq_true h
    exact decide_eq_true ⟨sql.notMem_restrict hid, sql.rows_restrict_eq_nil hemail⟩
  | request _ r =>
    obtain ⟨hid, hhash⟩ := of_decide_eq_true h
    exact decide_eq_true ⟨sql.notMem_restrict hid, sql.rows_restrict_eq_nil hhash⟩
  | connect _ _ fresh _ _ => exact decide_eq_true (sql.notMem_restrict (of_decide_eq_true h))
  | insertTunnel _ subdomain _ id _ =>
    obtain ⟨hid, hsubdomain⟩ := of_decide_eq_true h
    exact decide_eq_true ⟨sql.notMem_restrict hid, sql.rows_restrict_eq_nil hsubdomain⟩
  | _ => rfl

theorem selectsClosed_only (hs : Owned s) (h : s.selectsClosed agentID localAddress id = true)
    (hagent : s.agentUser agentID = some u) : (s.only u).selectsClosed agentID localAddress id = true := by
  unfold selectsClosed at h
  split at h
  · cases h
  · rename_i row hrow
    rw [Bool.and_eq_true, List.all_eq_true] at h
    obtain ⟨hclosed, hlatest⟩ := h
    have hrowAgent : row.agentID = agentID := (of_decide_eq_true hclosed).1
    have huser : row.userID = u := by
      have howner := hs.tunnels id row hrow
      rw [hrowAgent, hagent] at howner
      exact (Option.some.inj howner).symm
    have hlookup : (s.only u).tunnels.lookup id = some row := sql.lookup_restrict_of_pos hrow (decide_eq_true huser)
    simp only [selectsClosed, hlookup, Bool.and_eq_true, List.all_eq_true]
    exact ⟨hclosed, fun entry hentry => hlatest entry (List.mem_of_mem_filter hentry)⟩

end Store

/-- The same answer, with the part of a user. -/
def Served.only (u : GoString) (served : Served) : Served := { served with store := served.store.only u }

namespace Store

variable {service : auth.AccessService} {s : Store} {u tokenID tokenHash id : GoString} {now : Time} {api : Api}
  {r : ApiRequest}

/-! A request of the user is served from the user's part as from the whole. -/

theorem create_only : (s.only u).create u r = (s.create u r).only u := by
  unfold create
  split
  · rfl
  · dsimp only
    split
    · rfl
    · split
      · rfl
      · rfl
      · rw [← only_insertToken]
        rfl

theorem revokeToken_only : (s.only u).revokeToken u tokenID now =
    ((s.revokeToken u tokenID now).1, (s.revokeToken u tokenID now).2.only u) :=
  Prod.ext revokeToken_only_fst only_revokeToken.symm

theorem revoke_only : (s.only u).revoke u r = (s.revoke u r).only u := by
  unfold revoke
  dsimp only
  split
  · rfl
  · split
    · rfl
    · rw [revokeToken_only]
      cases s.revokeToken u (strings.trimPrefix r.path (lit "/api/v1/agent-tokens/")) r.now with
      | mk tokenHash store => cases tokenHash <;> rfl

theorem loads_only (unable : GoString) (data : ApiData) : (s.only u).loads r unable data = (s.loads r unable data).only u := by
  unfold loads
  split <;> rfl

theorem servesOne_only (path unable : GoString) (data : ApiData) :
    (s.only u).servesOne r path unable data = (s.servesOne r path unable data).only u := by
  unfold servesOne
  split
  · rfl
  · exact loads_only unable data

theorem serveAgentTokens_only : (s.only u).serveAgentTokens u r = (s.serveAgentTokens u r).only u := by
  unfold serveAgentTokens
  split
  · rw [listTokens_only]
    exact loads_only _ _
  · split
    · exact create_only
    · split
      · exact revoke_only
      · rfl

theorem serve_only {user : auth.User} (huser : s.user service r = .ok user) (hid : user.id = u) :
    (s.only u).serve service api r = (s.serve service api r).only u := by
  have honly := user_only huser hid
  subst hid
  simp only [serve, huser, honly]
  cases api with
  | agentTokens => exact serveAgentTokens_only
  | agents =>
    simp only [serveAgents, listAgents_only]
    exact servesOne_only _ _ _
  | tunnels =>
    simp only [serveTunnels, listTunnels_only]
    exact servesOne_only _ _ _
  | traffic =>
    simp only [serveTraffic, getTotals_only]
    exact servesOne_only _ _ _

theorem connect_only (hs : Owned s) {hello : ClientHelloPayload} {fresh : GoString} {used : Bool} {row : TokenRecord}
    (hfound : s.findToken tokenHash now = some (id, row)) (huser : row.userID = u) :
    (s.only u).connect tokenHash hello fresh now used = (s.connect tokenHash hello fresh now used).only u := by
  have honly := findToken_only hs hfound huser
  subst huser
  simp only [connect, hfound, honly]
  split
  · rfl
  · cases stored hello with
    | error err => rfl
    | ok kept =>
      cases used with
      | false => exact only_upsertAgent.symm
      | true =>
        simp only [if_pos]
        rw [← only_upsertAgent]
        exact only_useToken.symm

end Store

end myngrok.server
