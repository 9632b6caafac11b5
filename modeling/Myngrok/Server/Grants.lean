import Myngrok.Server.Tenancy

open golang transition myngrok.protocol myngrok.agents myngrok.tunnels myngrok.agenttokens myngrok.traffic

namespace myngrok.server.Store

variable {service : auth.AccessService} {s next : Store} {events : List StoreEvent} {log : List TokenAct}
  {userID tokenID tokenHash : GoString} {now : Time} {r : ApiRequest} {data : ApiData} {row : TokenRecord}

/-- The rows of the tokens are what the answers say: each token was created for its user, never expires, and is revoked
    if the user was told so. -/
structure Recorded (log : List TokenAct) (tokens : AgentTokens) : Prop where
  rows : ∀ id row, tokens.lookup id = some row → .created row.userID id row.tokenHash ∈ log ∧ row.expiresAt = none ∧
    (row.revokedAt = none ↔ .revoked row.userID id ∉ log)
  created : ∀ userID id tokenHash, .created userID id tokenHash ∈ log →
    ∃ row, tokens.lookup id = some row ∧ row.userID = userID ∧ row.tokenHash = tokenHash
  revoked : ∀ userID id, .revoked userID id ∈ log → id ∈ tokens

namespace Recorded

variable {tokens after : AgentTokens} {row : TokenRow}

theorem insert (h : Recorded log tokens) (row : TokenRow) (hnew : tokenID ∉ tokens) (hexpires : row.expiresAt = none)
    (hrevoked : row.revokedAt = none) :
    Recorded (log ++ [.created row.userID tokenID row.tokenHash]) (tokens.insert tokenID row) where
  rows id found hfound := by
    rw [Map.lookup_insert_eq] at hfound
    simp only [List.mem_append, List.mem_singleton, reduceCtorEq, or_false]
    split at hfound
    · next heq =>
      cases hfound
      subst heq
      exact ⟨.inr rfl, hexpires, iff_of_true hrevoked fun hmem => hnew (h.revoked _ _ hmem)⟩
    · obtain ⟨hcreated, hrest⟩ := h.rows id found hfound
      exact ⟨.inl hcreated, hrest⟩
  created userID id tokenHash hmem := by
    rw [Map.lookup_insert_eq]
    obtain hmem | hmem := List.mem_append.mp hmem
    · obtain ⟨old, hold, hcolumns⟩ := h.created userID id tokenHash hmem
      rw [if_neg]
      · exact ⟨old, hold, hcolumns⟩
      · rintro rfl
        exact hnew ((Map.mem_iff_lookup _ _).mpr ⟨old, hold⟩)
    · cases List.mem_singleton.mp hmem
      exact ⟨row, if_pos rfl, rfl, rfl⟩
  revoked userID id hmem := by
    obtain hmem | hmem := List.mem_append.mp hmem
    · exact (AList.mem_insert _).mpr (.inr (h.revoked userID id hmem))
    · cases List.mem_singleton.mp hmem

theorem revoke (h : Recorded log tokens) (hrow : tokens.lookup tokenID = some row)
    (hafter : ∀ id, after.lookup id = if id = tokenID then some { row with revokedAt := some now } else tokens.lookup id) :
    Recorded (log ++ [.revoked row.userID tokenID]) after where
  rows id found hfound := by
    rw [hafter] at hfound
    simp only [List.mem_append, List.mem_singleton, reduceCtorEq, or_false, TokenAct.revoked.injEq]
    split at hfound
    · next heq =>
      cases hfound
      subst heq
      obtain ⟨hcreated, hexpires, -⟩ := h.rows id row hrow
      refine ⟨hcreated, hexpires, iff_of_false (Option.some_ne_none _) fun hnot => hnot (.inr ⟨rfl, rfl⟩)⟩
    · next hne =>
      obtain ⟨hcreated, hexpires, hrevoked⟩ := h.rows id found hfound
      refine ⟨hcreated, hexpires, hrevoked.trans (not_congr ?_)⟩
      exact ⟨.inl, fun hmem => hmem.resolve_right fun heq => hne heq.2⟩
  created userID id tokenHash hmem := by
    rw [hafter]
    obtain hmem | hmem := List.mem_append.mp hmem
    · obtain ⟨old, hold, hcolumns⟩ := h.created userID id tokenHash hmem
      split
      · next heq =>
        subst heq
        cases hrow.symm.trans hold
        exact ⟨_, rfl, hcolumns⟩
      · exact ⟨old, hold, hcolumns⟩
    · cases List.mem_singleton.mp hmem
  revoked userID id hmem := by
    rw [Map.mem_iff_lookup, hafter]
    split
    · exact ⟨_, rfl⟩
    · next hne =>
      rw [← Map.mem_iff_lookup]
      obtain hmem | hmem := List.mem_append.mp hmem
      · exact h.revoked userID id hmem
      · cases List.mem_singleton.mp hmem
        exact absurd rfl hne

end Recorded

theorem lookup_tokenRows_revokeToken (hrow : s.tokens.lookup tokenID = some row)
    (hrevocable : row.revocable userID tokenID tokenID = true) (id : GoString) :
    (s.revokeToken userID tokenID now).2.tokenRows.lookup id =
      if id = tokenID then some { row.toTokenRow with revokedAt := some now } else s.tokenRows.lookup id := by
  rw [lookup_tokenRows, lookup_tokenRows, revokeToken_snd, sql.lookup_update]
  split
  · next heq =>
    rw [heq, hrow, Option.map_some, if_pos hrevocable, Option.map_some]
  · next hne =>
    rw [Option.map_map]
    congr 1
    funext row
    simp only [Function.comp_apply]
    rw [if_neg]
    exact fun hother => hne (of_decide_eq_true hother).1

theorem Recorded.step (h : Recorded log s.tokenRows) {e : StoreEvent} (hstep : s.step service e = some next) :
    Recorded (log ++ s.acts service e) next.tokenRows := by
  have hsilent : s.acts service e = [] → next.tokenRows = s.tokenRows → Recorded (log ++ s.acts service e) next.tokenRows := by
    intro hacts hsame
    rw [hacts, List.append_nil, hsame]
    exact h
  cases writes_of_step hstep with
  | nothing hacts => exact hsilent hacts rfl
  | register | touch | disconnect | closeTunnels | reopen | insertTunnel | addDelta => exact hsilent rfl rfl
  | connect =>
    refine hsilent rfl ?_
    split
    · rw [tokenRows_useToken, tokenRows_upsertAgent]
    · rw [tokenRows_upsertAgent]
  | @create api r user name raw _ _ hid _ hacts =>
    rw [hacts, insertToken, tokenRows, sql.project_insert]
    have hnew : r.id ∉ s.tokenRows := by
      rw [tokenRows, sql.mem_project]
      exact hid
    exact h.insert { userID := user.id, name := strings.trimSpace name, tokenPrefix := visiblePrefix raw
                     tokenHash := r.tokenHash, expiresAt := none, revokedAt := none } hnew rfl rfl
  | @revoke api r user tokenID row _ hrow hrevocable hacts =>
    obtain ⟨-, howner, -⟩ := of_decide_eq_true hrevocable
    have hold : s.tokenRows.lookup tokenID = some row.toTokenRow := by rw [lookup_tokenRows, hrow, Option.map_some]
    rw [hacts, ← howner]
    exact h.revoke hold fun id => howner ▸ lookup_tokenRows_revokeToken hrow hrevocable id

theorem recorded_of_run (hrun : run (step service) start events = some s) :
    Recorded (outputs (step service) (acts service) start events) s.tokenRows := by
  apply run_induction (P := fun events s => Recorded (outputs (step service) (acts service) start events) s.tokenRows) _ _ hrun
  · refine ⟨fun _ _ hrow => ?_, fun _ _ _ hmem => ?_, fun _ _ hmem => ?_⟩
    · cases hrow
    · cases hmem
    · cases hmem
  · intro events s e next hrun h hstep
    rw [outputs_concat hrun]
    exact h.step hstep

/-- The query for a token finds the row with this hash, if there is one that is good. -/
theorem findToken_eq_some_iff (h : Owned s) :
    s.findToken tokenHash now = some (tokenID, row) ↔
      s.tokens.lookup tokenID = some row ∧ row.accepts tokenHash now = true := by
  rw [findToken]
  constructor
  · intro hhead
    exact sql.mem_rows.mp (List.mem_of_mem_head? hhead)
  · intro hfound
    have hmem : (tokenID, row) ∈ sql.rows s.tokens fun row => row.accepts tokenHash now := sql.mem_rows.mpr hfound
    cases hrows : sql.rows s.tokens fun row => row.accepts tokenHash now with
    | nil =>
      rw [hrows] at hmem
      cases hmem
    | cons first rest =>
      obtain ⟨id, other⟩ := first
      have hother : (id, other) ∈ sql.rows s.tokens fun row => row.accepts tokenHash now := by
        rw [hrows]
        exact List.mem_cons_self
      obtain ⟨hlookup, haccepts⟩ := sql.mem_rows.mp hother
      have hhash := (of_decide_eq_true haccepts).1
      obtain rfl := h.hashes _ _ _ _ hlookup hfound.1 (hhash.trans (of_decide_eq_true hfound.2).1.symm)
      cases hlookup.symm.trans hfound.1
      rfl

/-- The query of `valid`, which is asked first, finds a token exactly if that of `agents.Connect` does. -/
theorem valid_iff_findToken (s : Store) (tokenHash : GoString) (now : Time) :
    agenttokens.valid s.tokenRows tokenHash now = true ↔ ∃ found, s.findToken tokenHash now = some found := by
  rw [agenttokens.valid, Bool.not_eq_true', List.isEmpty_eq_false_iff_exists_mem, findToken]
  constructor
  · rintro ⟨id, hid⟩
    obtain ⟨row, hrow, haccepts⟩ := sql.mem_select.mp hid
    rw [lookup_tokenRows] at hrow
    obtain ⟨record, hrecord, rfl⟩ := Option.map_eq_some_iff.mp hrow
    have hmem : (id, record) ∈ sql.rows s.tokens fun row => row.accepts tokenHash now :=
      sql.mem_rows.mpr ⟨hrecord, haccepts⟩
    exact Option.isSome_iff_exists.mp (List.isSome_head?.mpr (List.ne_nil_of_mem hmem))
  · rintro ⟨⟨id, record⟩, hhead⟩
    obtain ⟨hrecord, haccepts⟩ := sql.mem_rows.mp (List.mem_of_mem_head? hhead)
    refine ⟨id, sql.mem_select.mpr ⟨record.toTokenRow, ?_, haccepts⟩⟩
    rw [lookup_tokenRows, hrecord, Option.map_some]

/-- The gateway takes a token for a user's exactly if the API has answered this user that it was created, and has not
    answered the user that it was revoked; no request of anyone else makes a difference. -/
theorem token_accepted_iff (hrun : run (step service) start events = some s) (tokenHash : GoString) (now : Time) :
    let log := outputs (step service) (acts service) start events
    (∀ userID tokenID, (∃ row, s.findToken tokenHash now = some (tokenID, row) ∧ row.userID = userID) ↔
      .created userID tokenID tokenHash ∈ log ∧ .revoked userID tokenID ∉ log) ∧
    (agenttokens.valid s.tokenRows tokenHash now = true ↔
      ∃ userID tokenID, .created userID tokenID tokenHash ∈ log ∧ .revoked userID tokenID ∉ log) := by
  intro log
  have hrecorded := recorded_of_run hrun
  have howned := owned_of_run hrun
  have hfind : ∀ userID tokenID, (∃ row, s.findToken tokenHash now = some (tokenID, row) ∧ row.userID = userID) ↔
      .created userID tokenID tokenHash ∈ log ∧ .revoked userID tokenID ∉ log := by
    intro userID tokenID
    constructor
    · rintro ⟨row, hfound, rfl⟩
      obtain ⟨hlookup, haccepts⟩ := (findToken_eq_some_iff howned).mp hfound
      obtain ⟨rfl, hrevoked, -⟩ := of_decide_eq_true haccepts
      have hrow : s.tokenRows.lookup tokenID = some row.toTokenRow := by rw [lookup_tokenRows, hlookup, Option.map_some]
      obtain ⟨hcreated, -, hgood⟩ := hrecorded.rows tokenID _ hrow
      exact ⟨hcreated, hgood.mp hrevoked⟩
    · rintro ⟨hcreated, hrevoked⟩
      obtain ⟨found, hfound, rfl, rfl⟩ := hrecorded.created userID tokenID tokenHash hcreated
      obtain ⟨-, hexpires, hgood⟩ := hrecorded.rows tokenID found hfound
      rw [lookup_tokenRows] at hfound
      obtain ⟨row, hrow, rfl⟩ := Option.map_eq_some_iff.mp hfound
      refine ⟨row, (findToken_eq_some_iff howned).mpr ⟨hrow, decide_eq_true ⟨rfl, hgood.mpr hrevoked, ?_⟩⟩, rfl⟩
      rw [hexpires]
      rfl
  refine ⟨hfind, (valid_iff_findToken s tokenHash now).trans ⟨?_, ?_⟩⟩
  · rintro ⟨⟨tokenID, row⟩, hfound⟩
    exact ⟨row.userID, tokenID, (hfind row.userID tokenID).mp ⟨row, hfound, rfl⟩⟩
  · rintro ⟨userID, tokenID, hgood⟩
    obtain ⟨row, hfound, -⟩ := (hfind userID tokenID).mpr hgood
    exact ⟨_, hfound⟩

def revokeRequest (userID tokenID : GoString) (now : Time) : StoreEvent :=
  .request .agentTokens
    { method := lit "DELETE", path := lit "/api/v1/agent-tokens/" ++ tokenID, authorization := signedFor userID
      name := none, drawn := .ok [], tokenHash := [], id := [], now, load := none, failure := none }

/-- The first of two users has revoked the token that the user created, the second has not. -/
theorem token_accepted_iff_revoked :
    let events := twoUsers ++ [revokeRequest (lit "usr_1") (lit "t1") 5, revokeRequest (lit "usr_1") (lit "t2") 6]
    ∃ s, run (step auth.plainService) start events = some s ∧
      (¬ ∃ row, s.findToken (lit "hash of t1") 7 = some (lit "t1", row) ∧ row.userID = lit "usr_1") ∧
      ∃ row, s.findToken (lit "hash of t2") 7 = some (lit "t2", row) ∧ row.userID = lit "usr_2" := by
  intro events
  have hruns : (run (step auth.plainService) start events).isSome = true := by decide +kernel
  have hrevoked : .revoked (lit "usr_1") (lit "t1") ∈ outputs (step auth.plainService) (acts auth.plainService) start events := by
    decide +kernel
  have hgood : .created (lit "usr_2") (lit "t2") (lit "hash of t2") ∈
      outputs (step auth.plainService) (acts auth.plainService) start events ∧
      .revoked (lit "usr_2") (lit "t2") ∉ outputs (step auth.plainService) (acts auth.plainService) start events := by
    decide +kernel
  obtain ⟨s, hrun⟩ := Option.isSome_iff_exists.mp hruns
  refine ⟨s, hrun, fun hfound => ?_, ((token_accepted_iff hrun _ 7).1 _ _).mpr hgood⟩
  exact (((token_accepted_iff hrun _ 7).1 _ _).mp hfound).2 hrevoked

end myngrok.server.Store
