import Myngrok.Protocol.Messages
import Myngrok.Sql.Table

open golang

namespace myngrok.agenttokens

/-- A row of the table `agent_tokens`, by its `id`; the columns with times that nothing depends on are left out. -/
structure TokenRow where
  userID : GoString
  name : GoString
  tokenPrefix : GoString
  tokenHash : GoString
  expiresAt : Option Time
  revokedAt : Option Time
  deriving DecidableEq

abbrev AgentTokens := sql.Table GoString TokenRow

def visiblePrefix (raw : GoString) : GoString := raw.take 12

/-- `Create`, with the token that was generated, its hash and the ID the row gets. The `INSERT` fails on a hash or an ID
    that is in use. -/
def create (tokens : AgentTokens) (userID name raw tokenHash id : GoString) : Except Error AgentTokens :=
  let name := strings.trimSpace name
  if name = [] ∨ name.length > 128 then .error (lit "token name must be 1-128 characters")
  else if id ∈ tokens ∨ sql.select tokens (fun row => row.tokenHash = tokenHash) ≠ [] then
    .error (lit "create agent token: " ++ sql.duplicateKey)
  else .ok (tokens.insert id
    { userID, name, tokenPrefix := visiblePrefix raw, tokenHash, expiresAt := none, revokedAt := none })

/-- What the queries for a token ask for. -/
def TokenRow.accepts (tokenHash : GoString) (now : Time) (row : TokenRow) : Bool :=
  row.tokenHash = tokenHash ∧ row.revokedAt = none ∧ row.expiresAt.all fun expiresAt => expiresAt > now

/-- The query of `valid`, the check of the agent connection handler. -/
def valid (tokens : AgentTokens) (tokenHash : GoString) (now : Time) : Bool :=
  !(sql.select tokens (TokenRow.accepts tokenHash now)).isEmpty

/-- The query of `agents.Connect`: the ID of the token and its user's. -/
def find (tokens : AgentTokens) (tokenHash : GoString) (now : Time) : Except Error (GoString × GoString) :=
  match sql.select tokens (TokenRow.accepts tokenHash now) with
  | [] => .error sql.noRows
  | id :: _ =>
    match tokens.lookup id with
    | some row => .ok (id, row.userID)
    | none => .error sql.noRows

/-- The rows that the `UPDATE` of `Revoke` is about. -/
def TokenRow.revocable (userID tokenID id : GoString) (row : TokenRow) : Bool :=
  id = tokenID ∧ row.userID = userID ∧ row.revokedAt = none

/-- `Revoke`, with the hash that the `UPDATE` returns. -/
def revoke (tokens : AgentTokens) (userID tokenID : GoString) (now : Time) : Option GoString × AgentTokens :=
  match tokens.lookup tokenID with
  | some row =>
    if row.revocable userID tokenID tokenID then
      (some row.tokenHash,
        sql.update tokens (fun id row => row.revocable userID tokenID id) fun row => { row with revokedAt := some now })
    else (none, tokens)
  | none => (none, tokens)

/-- `token_hash` is `UNIQUE`. -/
def OneHashEach (tokens : AgentTokens) : Prop :=
  ∀ id id' row row', tokens.lookup id = some row → tokens.lookup id' = some row' → row.tokenHash = row'.tokenHash →
    id = id'

/-- The user of the token with a hash. -/
def Holds (tokens : AgentTokens) (tokenHash user : GoString) : Prop :=
  ∃ id row, tokens.lookup id = some row ∧ row.tokenHash = tokenHash ∧ row.userID = user

/-- The token with the hash has been revoked. -/
def Revoked (tokens : AgentTokens) (tokenHash : GoString) : Prop :=
  ∃ id row, tokens.lookup id = some row ∧ row.tokenHash = tokenHash ∧ row.revokedAt ≠ none

variable {tokens next : AgentTokens} {tokenHash user id name raw userID tokenID : GoString} {now : Time}

theorem Holds.unique (h : Holds tokens tokenHash user) (hone : OneHashEach tokens) {other : GoString}
    (hother : Holds tokens tokenHash other) : other = user := by
  obtain ⟨id, row, hlookup, hhash, rfl⟩ := h
  obtain ⟨id', row', hlookup', hhash', rfl⟩ := hother
  obtain rfl := hone _ _ _ _ hlookup hlookup' (hhash.trans hhash'.symm)
  rw [hlookup] at hlookup'
  cases hlookup'
  rfl

theorem create_eq_ok (h : create tokens userID name raw tokenHash id = .ok next) :
    ∃ row, row.tokenHash = tokenHash ∧ id ∉ tokens ∧
      (∀ other row', tokens.lookup other = some row' → row'.tokenHash ≠ tokenHash) ∧ next = tokens.insert id row := by
  simp only [create] at h
  split at h
  · cases h
  · split at h <;> cases h
    rename_i hguard
    rw [not_or, not_not] at hguard
    refine ⟨_, rfl, hguard.1, ?_, rfl⟩
    intro other row' hlookup hsame
    refine List.not_mem_nil (a := other) ?_
    rw [← hguard.2]
    exact sql.mem_select.mpr ⟨row', hlookup, decide_eq_true hsame⟩

/-- No statement changes whose token it is, or takes a token away; one that is revoked stays so. -/
structure Extends (tokens next : AgentTokens) : Prop where
  kept : ∀ id row, tokens.lookup id = some row → ∃ row', next.lookup id = some row' ∧
    row'.tokenHash = row.tokenHash ∧ row'.userID = row.userID ∧ (row.revokedAt ≠ none → row'.revokedAt ≠ none)
  unique : OneHashEach tokens → OneHashEach next

theorem Extends.refl : Extends tokens tokens :=
  ⟨fun _ row hlookup => ⟨row, hlookup, rfl, rfl, id⟩, id⟩

theorem extends_create (h : create tokens userID name raw tokenHash id = .ok next) : Extends tokens next := by
  obtain ⟨new, rfl, hnew, hunused, rfl⟩ := create_eq_ok h
  refine ⟨fun key row hlookup => ⟨row, ?_, rfl, rfl, fun h => h⟩, fun hone id' id'' row row' hrow hrow' hsame => ?_⟩
  · rw [Map.lookup_insert_eq, if_neg, hlookup]
    rintro rfl
    exact hnew ((Map.mem_iff_lookup _ _).mpr ⟨row, hlookup⟩)
  · rw [Map.lookup_insert_eq] at hrow hrow'
    split at hrow <;> split at hrow' <;> rename_i hid hid'
    · rw [hid, hid']
    · cases hrow
      exact absurd hsame.symm (hunused _ _ hrow')
    · cases hrow'
      exact absurd hsame (hunused _ _ hrow)
    · exact hone _ _ _ _ hrow hrow' hsame

/-- `Revoke` revokes the token whose hash it returns, or does nothing. -/
theorem revoke_cases (tokens : AgentTokens) (userID tokenID : GoString) (now : Time) :
    revoke tokens userID tokenID now = (none, tokens) ∨
      ∃ tokenHash next, revoke tokens userID tokenID now = (some tokenHash, next) ∧ Extends tokens next ∧
        Revoked next tokenHash := by
  simp only [revoke]
  split
  · rename_i row hrow
    split
    · rename_i hrevocable
      have hlookup := sql.lookup_update tokens (fun id row => row.revocable userID tokenID id)
        (fun row => { row with revokedAt := some now })
      refine .inr ⟨_, _, rfl, ⟨fun id old hold => ?_, fun hone id id' row row' hid hid' hsame => ?_⟩, ?_⟩
      · rw [hlookup, hold, Option.map_some]
        split
        · exact ⟨_, rfl, rfl, rfl, fun _ => nofun⟩
        · exact ⟨_, rfl, rfl, rfl, fun h => h⟩
      · rw [hlookup, Option.map_eq_some_iff] at hid hid'
        obtain ⟨old, hold, rfl⟩ := hid
        obtain ⟨old', hold', rfl⟩ := hid'
        refine hone _ _ _ _ hold hold' ?_
        split at hsame <;> split at hsame <;> exact hsame
      · refine ⟨tokenID, { row with revokedAt := some now }, ?_, rfl, nofun⟩
        rw [hlookup, hrow, Option.map_some, if_pos hrevocable]
    · exact .inl rfl
  · exact .inl rfl

theorem Holds.extends (h : Holds tokens tokenHash user) (hnext : Extends tokens next) : Holds next tokenHash user := by
  obtain ⟨id, row, hlookup, rfl, rfl⟩ := h
  obtain ⟨row', hlookup', hhash, huser, _⟩ := hnext.kept id row hlookup
  exact ⟨id, row', hlookup', hhash, huser⟩

theorem Revoked.extends (h : Revoked tokens tokenHash) (hnext : Extends tokens next) : Revoked next tokenHash := by
  obtain ⟨id, row, hlookup, rfl, hrevoked⟩ := h
  obtain ⟨row', hlookup', hhash, _, hstays⟩ := hnext.kept id row hlookup
  exact ⟨id, row', hlookup', hhash, hstays hrevoked⟩

/-- Both queries find a row that has the hash and has not been revoked. -/
theorem find_eq_ok (h : find tokens tokenHash now = .ok (tokenID, user)) :
    ∃ row, tokens.lookup tokenID = some row ∧ row.tokenHash = tokenHash ∧ row.userID = user ∧ row.revokedAt = none := by
  simp only [find] at h
  split at h
  · cases h
  · rename_i id rest hselect
    split at h
    · rename_i row hlookup
      cases h
      have hmem := hselect ▸ List.mem_cons_self (a := tokenID) (l := rest)
      obtain ⟨found, hfound, haccepts⟩ := sql.mem_select.mp hmem
      rw [hlookup] at hfound
      cases hfound
      obtain ⟨hhash, hrevoked, _⟩ := of_decide_eq_true haccepts
      exact ⟨row, hlookup, hhash, rfl, hrevoked⟩
    · cases h

/-- A revoked token is not found. -/
theorem Revoked.not_found (h : Revoked tokens tokenHash) (hone : OneHashEach tokens) :
    find tokens tokenHash now ≠ .ok (tokenID, user) := by
  intro hfind
  obtain ⟨row, hlookup, hhash, _, hnone⟩ := find_eq_ok hfind
  obtain ⟨id, revoked, hother, hsame, hrevoked⟩ := h
  obtain rfl := hone _ _ _ _ hlookup hother (hhash.trans hsame.symm)
  rw [hlookup] at hother
  cases hother
  exact hrevoked hnone

end myngrok.agenttokens
