import Myngrok.AgentTokens.Service
import Myngrok.Auth.Service
import Myngrok.Sql.Restrict
import Myngrok.Tunnels.Service

open golang myngrok.protocol myngrok.agents myngrok.tunnels myngrok.agenttokens

namespace myngrok.agenttokens

/-- A row with the columns that only `List` reads. -/
structure TokenRecord extends TokenRow where
  createdAt : Time
  lastUsedAt : Option Time
  deriving DecidableEq

/-- What `List` returns for a row. -/
structure Token where
  id : GoString
  name : GoString
  tokenPrefix : GoString
  createdAt : Time
  lastUsedAt : Option Time
  expiresAt : Option Time
  revokedAt : Option Time
  deriving DecidableEq

structure CreatedToken where
  token : Token
  plaintext : GoString
  deriving DecidableEq

def TokenRecord.item (id : GoString) (row : TokenRecord) : Token :=
  { id, name := row.name, tokenPrefix := row.tokenPrefix, createdAt := row.createdAt, lastUsedAt := row.lastUsedAt
    expiresAt := row.expiresAt, revokedAt := row.revokedAt }

end myngrok.agenttokens

namespace myngrok.agents

structure AgentRecord extends AgentRow where
  connectedAt : Option Time
  disconnectedAt : Option Time
  lastSeenAt : Option Time
  deriving DecidableEq

structure Agent where
  id : GoString
  instanceID : GoString
  hostname : GoString
  os : GoString
  arch : GoString
  version : GoString
  connected : Bool
  connectedAt : Option Time
  disconnectedAt : Option Time
  lastSeenAt : Option Time
  deriving DecidableEq

def AgentRecord.item (id : GoString) (row : AgentRecord) : Agent :=
  { id, instanceID := row.instanceID, hostname := row.hostname, os := row.os, arch := row.arch
    version := row.agentVersion, connected := row.connected, connectedAt := row.connectedAt
    disconnectedAt := row.disconnectedAt, lastSeenAt := row.lastSeenAt }

end myngrok.agents

namespace myngrok.tunnels

structure TunnelRecord extends TunnelRow where
  openedAt : Option Time
  closedAt : Option Time
  createdAt : Time
  deriving DecidableEq

structure Tunnel where
  id : GoString
  subdomain : GoString
  localAddress : GoString
  status : Status
  openedAt : Option Time
  closedAt : Option Time
  agentID : GoString
  deriving DecidableEq

def TunnelRecord.item (id : GoString) (row : TunnelRecord) : Tunnel :=
  { id, subdomain := row.subdomain, localAddress := row.localAddress, status := row.status, openedAt := row.openedAt
    closedAt := row.closedAt, agentID := row.agentID }

end myngrok.tunnels

namespace myngrok.traffic

/-- The counters of `Metrics` and of `Totals`, whose columns are `BIGINT`. -/
structure Totals where
  requestsTotal : Nat
  requestBytes : Nat
  responseBytes : Nat
  deriving DecidableEq

def Totals.zero : Totals := { requestsTotal := 0, requestBytes := 0, responseBytes := 0 }

def Totals.add (totals delta : Totals) : Totals :=
  { requestsTotal := totals.requestsTotal + delta.requestsTotal
    requestBytes := totals.requestBytes + delta.requestBytes
    responseBytes := totals.responseBytes + delta.responseBytes }

/-- The values fit in their columns. -/
def Totals.fits (totals : Totals) : Bool :=
  totals.requestsTotal < 2 ^ 63 && totals.requestBytes < 2 ^ 63 && totals.responseBytes < 2 ^ 63

end myngrok.traffic

namespace myngrok.server

open myngrok.traffic

/-- The tables of the database, with all columns that a query reads; the refresh tokens are those of the service for
    authentication. -/
structure Store where
  users : sql.Table GoString auth.UserRow
  tokens : sql.Table GoString TokenRecord
  agents : sql.Table GoString AgentRecord
  tunnels : sql.Table GoString TunnelRecord
  totals : sql.Table GoString Totals

namespace Store

def start : Store := { users := ∅, tokens := ∅, agents := ∅, tunnels := ∅, totals := ∅ }

/-- The `INSERT` of `auth.Register`. -/
def insertUser (s : Store) (email passwordHash id : GoString) : Store :=
  { s with users := s.users.insert id { email, passwordHash, status := .active } }

/-- The `INSERT` of `agenttokens.Create`, for a name that has passed the check. -/
def insertToken (s : Store) (userID name raw tokenHash id : GoString) (now : Time) : Store :=
  { s with tokens := s.tokens.insert id
            { userID, name, tokenPrefix := visiblePrefix raw, tokenHash, expiresAt := none, revokedAt := none
              createdAt := now, lastUsedAt := none } }

/-- The `UPDATE` of `agenttokens.Revoke`, with the hash that it returns. -/
def revokeToken (s : Store) (userID tokenID : GoString) (now : Time) : Option GoString × Store :=
  match s.tokens.lookup tokenID with
  | some row =>
    if row.revocable userID tokenID tokenID then
      (some row.tokenHash,
        { s with tokens := sql.update s.tokens (fun id row => row.revocable userID tokenID id) fun row =>
            { row with revokedAt := some now } })
    else (none, s)
  | none => (none, s)

/-- The query of `agents.Connect` for the token, and its user. -/
def findToken (s : Store) (tokenHash : GoString) (now : Time) : Option (GoString × TokenRecord) :=
  (sql.rows s.tokens fun row => row.accepts tokenHash now).head?

/-- The `INSERT … ON CONFLICT (user_id,instance_id) DO UPDATE …` of `agents.Connect`, for what the columns keep of a
    hello. -/
def upsertAgent (s : Store) (userID tokenID : GoString) (hello : ClientHelloPayload) (fresh : GoString) (now : Time) :
    Store :=
  let row := { userID, agentTokenID := tokenID, instanceID := hello.instanceID, hostname := hello.hostname
               os := hello.os, arch := hello.arch, agentVersion := hello.agentVersion, connected := true
               connectedAt := some now, disconnectedAt := none, lastSeenAt := some now }
  match sql.select s.agents fun old => old.userID = userID ∧ old.instanceID = hello.instanceID with
  | id :: _ => { s with agents := s.agents.insert id row }
  | [] => { s with agents := s.agents.insert fresh row }

/-- The last statement of `agents.Connect`. -/
def useToken (s : Store) (tokenID : GoString) (now : Time) : Store :=
  { s with tokens := sql.update s.tokens (fun id _ => id = tokenID) fun row => { row with lastUsedAt := some now } }

/-- `agents.Touch`. -/
def touch (s : Store) (agentID : GoString) (now : Time) : Store :=
  { s with agents := sql.update s.agents (fun id row => id = agentID ∧ row.connected) fun row =>
      { row with lastSeenAt := some now } }

/-- `agents.Disconnect`. -/
def disconnect (s : Store) (agentID : GoString) (now : Time) : Store :=
  { s with agents := sql.update s.agents (fun id _ => id = agentID) fun row =>
      { row with connected := false, disconnectedAt := some now } }

/-- `tunnels.CloseAgentTunnels`. -/
def closeAgentTunnels (s : Store) (agentID : GoString) (now : Time) : Store :=
  if agentID = [] then s
  else
    { s with tunnels := sql.update s.tunnels (fun _ row => row.agentID = agentID ∧ row.status = .open) fun row =>
        { row with status := .closed, closedAt := some now, updatedAt := now } }

/-- The row is one that the `SELECT … ORDER BY updated_at DESC LIMIT 1` of `ReopenForSession` may return. -/
def selectsClosed (s : Store) (agentID localAddress id : GoString) : Bool :=
  match s.tunnels.lookup id with
  | none => false
  | some row => row.closedFor agentID localAddress &&
      s.tunnels.entries.all fun entry => !entry.2.closedFor agentID localAddress || entry.2.updatedAt ≤ row.updatedAt

/-- The `UPDATE` of `tunnels.ReopenForSession`. -/
def reopen (s : Store) (id : GoString) (now : Time) : Store :=
  { s with tunnels := sql.update s.tunnels (fun key _ => key = id) fun row =>
      { row with status := .open, openedAt := some now, closedAt := none, updatedAt := now } }

/-- The `INSERT` of `tunnels.ReopenForSession`, for a tunnel of an agent of the user. -/
def insertTunnel (s : Store) (userID agentID subdomain localAddress id : GoString) (now : Time) : Store :=
  { s with tunnels := s.tunnels.insert id
            { userID, agentID, subdomain, localAddress, status := .open, updatedAt := now, openedAt := some now
              closedAt := none, createdAt := now } }

/-- `traffic.AddDelta`. A user that does not exist is an error, as is a value that does not fit in its column, and
    nothing is stored then. -/
def addDelta (s : Store) (userID : GoString) (delta : Totals) : Store :=
  let totals := ((s.totals.lookup userID).getD .zero).add delta
  if userID ∈ s.users ∧ delta.fits ∧ totals.fits then { s with totals := s.totals.insert userID totals } else s

/-- `ORDER BY … DESC`. -/
def latestFirst {Row : Type} (time : Row → Time) (rows : List (GoString × Row)) : List (GoString × Row) :=
  rows.insertionSort fun x y => time y.2 ≤ time x.2

/-- The order of `DESC NULLS LAST`. -/
def nullsLast : Option Time → Option Time → Bool
  | some seen, some other => other ≤ seen
  | some _, none => true
  | none, some _ => false
  | none, none => true

/-- `ORDER BY last_seen_at DESC NULLS LAST`. -/
def seenFirst (rows : List (GoString × AgentRecord)) : List (GoString × AgentRecord) :=
  rows.insertionSort fun x y => nullsLast x.2.lastSeenAt y.2.lastSeenAt

/-- `agenttokens.List`. -/
def listTokens (s : Store) (userID : GoString) : List Token :=
  (latestFirst TokenRecord.createdAt (sql.rows s.tokens fun row => row.userID = userID)).map fun row => row.2.item row.1

/-- `agents.List`. -/
def listAgents (s : Store) (userID : GoString) : List Agent :=
  (seenFirst (sql.rows s.agents fun row => row.userID = userID)).map fun row => row.2.item row.1

/-- `tunnels.List`. -/
def listTunnels (s : Store) (userID : GoString) : List Tunnel :=
  (latestFirst TunnelRecord.createdAt (sql.rows s.tunnels fun row => row.userID = userID)).map fun row => row.2.item row.1

/-- `traffic.GetTotals`. -/
def getTotals (s : Store) (userID : GoString) : Totals := (s.totals.lookup userID).getD .zero

/-! Without the columns for times, the statements are those of the services. -/

def tokenRows (s : Store) : AgentTokens := sql.project TokenRecord.toTokenRow s.tokens

/-- The table of the agents, by their installations. -/
def installations (s : Store) : sql.Table GoString (GoString × GoString) :=
  sql.project (fun row => row.toAgentRow.installation) s.agents

variable (s : Store) {userID name raw tokenHash tokenID id fresh : GoString} {now : Time}

theorem lookup_tokenRows (id : GoString) :
    s.tokenRows.lookup id = (s.tokens.lookup id).map TokenRecord.toTokenRow := sql.lookup_project s.tokens id

theorem tokenRows_insertToken (hname : strings.trimSpace name ≠ [] ∧ (strings.trimSpace name).length ≤ 128)
    (hid : id ∉ s.tokens) (hhash : sql.select s.tokens (fun row => row.tokenHash = tokenHash) = []) :
    agenttokens.create s.tokenRows userID name raw tokenHash id =
      .ok (s.insertToken userID (strings.trimSpace name) raw tokenHash id now).tokenRows := by
  have hgood : ¬ (strings.trimSpace name = [] ∨ (strings.trimSpace name).length > 128) := by
    rintro (hempty | hlong)
    · exact hname.1 hempty
    · omega
  have hunused : ¬ (id ∈ s.tokenRows ∨ sql.select s.tokenRows (fun row => row.tokenHash = tokenHash) ≠ []) := by
    rw [tokenRows, sql.mem_project, sql.select_project, hhash]
    simpa using hid
  simp only [agenttokens.create]
  rw [if_neg hgood, if_neg hunused, insertToken, tokenRows, tokenRows, sql.project_insert]

theorem tokenRows_revokeToken :
    agenttokens.revoke s.tokenRows userID tokenID now =
      ((s.revokeToken userID tokenID now).1, (s.revokeToken userID tokenID now).2.tokenRows) := by
  have hupdate : sql.project TokenRecord.toTokenRow (sql.update s.tokens (fun id row => row.revocable userID tokenID id)
      fun row => { row with revokedAt := some now }) =
      sql.update s.tokenRows (fun id row => row.revocable userID tokenID id) fun row => { row with revokedAt := some now } :=
    sql.project_update _ (fun _ _ => rfl) fun _ => rfl
  rw [agenttokens.revoke, tokenRows, sql.lookup_project, revokeToken]
  cases s.tokens.lookup tokenID with
  | none => rfl
  | some row =>
    simp only [Option.map_some]
    split
    · exact congrArg (Prod.mk _) hupdate.symm
    · rfl

theorem find_tokenRows {found : GoString × TokenRecord} (h : s.findToken tokenHash now = some found) :
    agenttokens.find s.tokenRows tokenHash now = .ok (found.1, found.2.userID) := by
  obtain ⟨tokenID, row⟩ := found
  obtain ⟨hrow, -⟩ := sql.mem_rows.mp (List.mem_of_mem_head? h)
  have hselect : ∃ rest, sql.select s.tokenRows (TokenRow.accepts tokenHash now) = tokenID :: rest := by
    rw [findToken, List.head?_eq_some_iff] at h
    obtain ⟨rest, hrows⟩ := h
    refine ⟨rest.map Prod.fst, ?_⟩
    rw [tokenRows, sql.select_project]
    have hfst := congrArg (List.map Prod.fst) hrows
    rw [sql.rows, List.map_map] at hfst
    exact hfst
  obtain ⟨rest, hselect⟩ := hselect
  simp only [agenttokens.find, hselect, lookup_tokenRows, hrow, Option.map_some]

theorem tokenRows_useToken : (s.useToken tokenID now).tokenRows = s.tokenRows :=
  sql.project_update_of_same s.tokens _ fun _ => rfl

theorem tokenRows_upsertAgent {kept : ClientHelloPayload} :
    (s.upsertAgent userID tokenID kept fresh now).tokenRows = s.tokenRows := by
  unfold upsertAgent
  dsimp only
  split <;> rfl

theorem installations_update {condition : GoString → AgentRecord → Bool} {set : AgentRecord → AgentRecord}
    (hset : ∀ row, (set row).toAgentRow.installation = row.toAgentRow.installation) :
    ({ s with agents := sql.update s.agents condition set } : Store).installations = s.installations :=
  sql.project_update_of_same s.agents condition hset

end Store

end myngrok.server
