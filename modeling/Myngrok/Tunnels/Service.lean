import Myngrok.Agents.Service

open golang myngrok.agents

namespace myngrok.tunnels

inductive Status where
  | «open»
  | closed
  deriving DecidableEq

/-- A row of the table `tunnels`, by its `id`. -/
structure TunnelRow where
  userID : GoString
  agentID : GoString
  subdomain : GoString
  localAddress : GoString
  status : Status
  updatedAt : Time
  deriving DecidableEq

abbrev Tunnels := sql.Table GoString TunnelRow

def closeAgentTunnels (tunnels : Tunnels) (agentID : GoString) (now : Time) : Tunnels :=
  if agentID = [] then tunnels
  else sql.update tunnels (fun _ row => row.agentID = agentID ∧ row.status = .open) fun row =>
    { row with status := .closed, updatedAt := now }

/-- The rows that `ReopenForSession` looks for. -/
def TunnelRow.closedFor (agentID localAddress : GoString) (row : TunnelRow) : Bool :=
  row.agentID = agentID ∧ row.localAddress = localAddress ∧ row.status = .closed

/-- What `SELECT id … ORDER BY updated_at DESC LIMIT 1` may return: one of the rows with the latest time. -/
def selectsClosed (tunnels : Tunnels) (agentID localAddress : GoString) : Option GoString → Bool
  | none => (sql.select tunnels (TunnelRow.closedFor agentID localAddress)).isEmpty
  | some id =>
    match tunnels.lookup id with
    | none => false
    | some row => row.closedFor agentID localAddress &&
        tunnels.entries.all fun entry =>
          !entry.2.closedFor agentID localAddress || entry.2.updatedAt ≤ row.updatedAt

/-- The `UPDATE` of `ReopenForSession`. -/
def reopen (tunnels : Tunnels) (id : GoString) (now : Time) : Tunnels :=
  sql.update tunnels (fun key _ => key = id) fun row => { row with status := .open, updatedAt := now }

/-- The `INSERT` of `ReopenForSession`, with the ID the row gets. It fails when there is no such agent, and on a
    subdomain or an ID that is in use. -/
def create (tunnels : Tunnels) (agents : Agents) (agentID subdomain localAddress id : GoString) (now : Time) :
    Option Tunnels :=
  match agents.lookup agentID with
  | none => none
  | some agent =>
    if id ∈ tunnels ∨ sql.select tunnels (fun row => row.subdomain = subdomain) ≠ [] then none
    else some (tunnels.insert id
      { userID := agent.userID, agentID, subdomain, localAddress, status := .open, updatedAt := now })

/-- What of a row never changes. -/
def TunnelRow.identity (row : TunnelRow) : GoString × GoString × GoString :=
  (row.agentID, row.subdomain, row.localAddress)

/-- The agent, the subdomain and the local address of a tunnel. -/
def identity (tunnels : Tunnels) (id : GoString) : Option (GoString × GoString × GoString) :=
  (tunnels.lookup id).map TunnelRow.identity

/-- The row exists and has status 'open'. -/
def isOpen (tunnels : Tunnels) (id : GoString) : Prop := ∃ row, tunnels.lookup id = some row ∧ row.status = .open

variable {tunnels next : Tunnels} {agents : Agents} {agentID subdomain localAddress id key : GoString} {now : Time}

theorem lookup_closeAgentTunnels (hagent : agentID ≠ []) :
    (closeAgentTunnels tunnels agentID now).lookup key = (tunnels.lookup key).map fun row =>
      if row.agentID = agentID ∧ row.status = .open then { row with status := .closed, updatedAt := now } else row := by
  rw [closeAgentTunnels, if_neg hagent, sql.lookup_update]
  simp only [decide_eq_true_eq]

theorem identity_closeAgentTunnels : identity (closeAgentTunnels tunnels agentID now) key = identity tunnels key := by
  by_cases hagent : agentID = []
  · rw [closeAgentTunnels, if_pos hagent]
  · rw [identity, lookup_closeAgentTunnels hagent, Option.map_map, identity]
    congr 1
    funext row
    simp only [Function.comp_apply]
    split <;> rfl

/-- Exactly the rows of the agent are no longer open. -/
theorem isOpen_closeAgentTunnels (hagent : agentID ≠ []) : isOpen (closeAgentTunnels tunnels agentID now) key ↔
    ∃ row, tunnels.lookup key = some row ∧ row.status = .open ∧ row.agentID ≠ agentID := by
  simp only [isOpen, lookup_closeAgentTunnels hagent, Option.map_eq_some_iff]
  constructor
  · rintro ⟨_, ⟨row, hlookup, rfl⟩, hopen⟩
    split at hopen
    · cases hopen
    · rename_i hother
      exact ⟨row, hlookup, hopen, fun hsame => hother ⟨hsame, hopen⟩⟩
  · rintro ⟨row, hlookup, hopen, hother⟩
    refine ⟨row, ⟨row, hlookup, ?_⟩, hopen⟩
    rw [if_neg fun h => hother h.1]

theorem lookup_reopen : (reopen tunnels id now).lookup key = (tunnels.lookup key).map fun row =>
    if key = id then { row with status := .open, updatedAt := now } else row := by
  rw [reopen, sql.lookup_update]
  simp only [decide_eq_true_eq]

theorem identity_reopen : identity (reopen tunnels id now) key = identity tunnels key := by
  rw [identity, lookup_reopen, Option.map_map, identity]
  congr 1
  funext row
  simp only [Function.comp_apply]
  split <;> rfl

theorem isOpen_reopen (hexists : id ∈ tunnels) :
    isOpen (reopen tunnels id now) key ↔ key = id ∨ isOpen tunnels key := by
  simp only [isOpen, lookup_reopen, Option.map_eq_some_iff]
  by_cases hkey : key = id
  · subst hkey
    obtain ⟨row, hlookup⟩ := (Map.mem_iff_lookup _ _).mp hexists
    exact iff_of_true ⟨_, ⟨row, hlookup, rfl⟩, by rw [if_pos rfl]⟩ (.inl rfl)
  · simp [hkey]

section

variable (h : create tunnels agents agentID subdomain localAddress id now = some next)

include h

theorem create_eq_some :
    ∃ row, row.identity = (agentID, subdomain, localAddress) ∧ row.status = .open ∧ id ∉ tunnels ∧
      (∀ other row', tunnels.lookup other = some row' → row'.subdomain ≠ subdomain) ∧ next = tunnels.insert id row := by
  simp only [create] at h
  split at h
  · cases h
  · split at h <;> cases h
    rename_i hguard
    rw [not_or, not_not] at hguard
    refine ⟨_, rfl, rfl, hguard.1, ?_, rfl⟩
    intro other row' hlookup hsame
    refine List.not_mem_nil (a := other) ?_
    rw [← hguard.2]
    exact sql.mem_select.mpr ⟨row', hlookup, decide_eq_true hsame⟩

/-- The row is the agent's and the user's whose agent it is. -/
theorem lookup_create :
    ∃ agent row, agents.lookup agentID = some agent ∧ row.userID = agent.userID ∧ row.agentID = agentID ∧
      ∀ key, next.lookup key = if key = id then some row else tunnels.lookup key := by
  simp only [create] at h
  split at h
  · cases h
  · rename_i agent hagent
    split at h <;> cases h
    exact ⟨agent, _, hagent, rfl, rfl, Map.lookup_insert_eq _ _ _⟩

theorem identity_create :
    identity next key = if key = id then some (agentID, subdomain, localAddress) else identity tunnels key := by
  obtain ⟨row, hidentity, _, _, _, rfl⟩ := create_eq_some h
  rw [identity, Map.lookup_insert_eq]
  split
  · rw [Option.map_some, hidentity]
  · rfl

theorem isOpen_create : isOpen next key ↔ key = id ∨ isOpen tunnels key := by
  obtain ⟨row, _, hopen, _, _, rfl⟩ := create_eq_some h
  rw [isOpen, Map.lookup_insert_eq]
  split
  · rename_i hsame
    exact iff_of_true ⟨row, rfl, hopen⟩ (.inl hsame)
  · rename_i hother
    exact ⟨.inr, fun h => h.resolve_left hother⟩

end

theorem selectsClosed_some (h : selectsClosed tunnels agentID localAddress (some id) = true) :
    ∃ row, tunnels.lookup id = some row ∧ row.agentID = agentID ∧ row.localAddress = localAddress ∧
      row.status = .closed := by
  simp only [selectsClosed] at h
  split at h
  · cases h
  · rename_i row hlookup
    rw [Bool.and_eq_true] at h
    exact ⟨row, hlookup, of_decide_eq_true h.1⟩

theorem selectsClosed_none (h : selectsClosed tunnels agentID localAddress none = true) {row : TunnelRow}
    (hlookup : tunnels.lookup id = some row) (hagent : row.agentID = agentID)
    (haddress : row.localAddress = localAddress) : row.status = .open := by
  cases hstatus : row.status with
  | «open» => rfl
  | closed =>
    have hmem : id ∈ sql.select tunnels (TunnelRow.closedFor agentID localAddress) :=
      sql.mem_select.mpr ⟨row, hlookup, decide_eq_true ⟨hagent, haddress, hstatus⟩⟩
    rw [List.isEmpty_iff.mp h] at hmem
    cases hmem

end myngrok.tunnels
