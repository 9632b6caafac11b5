import Myngrok.Protocol.Messages
import Myngrok.Sql.Table
import Myngrok.Sql.Varchar

open golang

namespace myngrok.protocol

structure ClientHelloPayload where
  protocolVersion : Int
  agentVersion : GoString
  instanceID : GoString
  hostname : GoString
  os : GoString
  arch : GoString
  deriving DecidableEq

end myngrok.protocol

namespace myngrok.agents

open myngrok.protocol

/-- A row of the table `agents`, by its `id`; the columns with times are left out. -/
structure AgentRow where
  userID : GoString
  agentTokenID : GoString
  instanceID : GoString
  hostname : GoString
  os : GoString
  arch : GoString
  agentVersion : GoString
  connected : Bool
  deriving DecidableEq

abbrev Agents := sql.Table GoString AgentRow

/-- `INSERT … ON CONFLICT (user_id,instance_id) DO UPDATE … RETURNING id`, which replaces the row of the installation or
    gives a new one the ID `fresh`. -/
def upsert (agents : Agents) (row : AgentRow) (fresh : GoString) : GoString × Agents :=
  match sql.select agents fun old => old.userID = row.userID ∧ old.instanceID = row.instanceID with
  | id :: _ => (id, agents.insert id row)
  | [] => (fresh, agents.insert fresh row)

/-- The hello as the columns of `agents` keep it. -/
def stored (hello : ClientHelloPayload) : Except Error ClientHelloPayload := do
  let instanceID ← sql.varchar 255 hello.instanceID
  let hostname ← sql.varchar 255 hello.hostname
  let os ← sql.varchar 64 hello.os
  let arch ← sql.varchar 64 hello.arch
  let agentVersion ← sql.varchar 64 hello.agentVersion
  return { hello with instanceID, hostname, os, arch, agentVersion }

/-- `Connect`. `token` is what the query for the token returned: its ID and its user's. -/
def connect (agents : Agents) (token : Except Error (GoString × GoString)) (hello : ClientHelloPayload)
    (fresh : GoString) : Except Error (GoString × Agents) :=
  if strings.trimSpace hello.instanceID = [] ∨ strings.trimSpace hello.hostname = [] then
    .error (lit "agent instance ID and hostname are required")
  else
    match token with
    | .error err => .error (lit "find agent token: " ++ err)
    | .ok (tokenID, userID) =>
      match stored hello with
      | .error err => .error (lit "upsert agent: " ++ err)
      | .ok hello =>
        let row := { userID, agentTokenID := tokenID, instanceID := hello.instanceID, hostname := hello.hostname
                     os := hello.os, arch := hello.arch, agentVersion := hello.agentVersion, connected := true }
        .ok (upsert agents row fresh)

def disconnect (agents : Agents) (agentID : GoString) : Agents :=
  sql.update agents (fun id _ => id = agentID) fun row => { row with connected := false }

/-- The key that the table keeps unique next to its primary key. -/
def AgentRow.installation (row : AgentRow) : GoString × GoString := (row.userID, row.instanceID)

/-- The installation that a row stands for. -/
def installation (agents : Agents) (agentID : GoString) : Option (GoString × GoString) :=
  (agents.lookup agentID).map AgentRow.installation

/-- `UNIQUE (user_id, instance_id)`. -/
def OneRowEach (agents : Agents) : Prop :=
  ∀ id id' key, installation agents id = some key → installation agents id' = some key → id = id'

variable {agents next : Agents} {agentID fresh : GoString} {hello : ClientHelloPayload}
  {token : Except Error (GoString × GoString)}

/-- `Connect` writes one row, that of its installation, and that one is connected. -/
theorem connect_eq_ok (h : connect agents token hello fresh = .ok (agentID, next)) :
    ∃ row, row.connected = true ∧ next = agents.insert agentID row ∧
      (installation agents agentID = some row.installation ∨
        agentID = fresh ∧ ∀ id, installation agents id ≠ some row.installation) := by
  have hupsert : ∃ row, row.connected = true ∧ upsert agents row fresh = (agentID, next) := by
    simp only [connect] at h
    split at h
    · cases h
    · split at h
      · cases h
      · split at h
        · cases h
        · exact ⟨_, rfl, Except.ok.inj h⟩
  obtain ⟨row, hconnected, hupsert⟩ := hupsert
  refine ⟨row, hconnected, ?_⟩
  simp only [upsert] at hupsert
  split at hupsert <;> cases hupsert
  · rename_i rest hselect
    refine ⟨rfl, .inl ?_⟩
    have hmem := hselect ▸ List.mem_cons_self (a := agentID) (l := rest)
    obtain ⟨old, hlookup, hsame⟩ := sql.mem_select.mp hmem
    obtain ⟨huser, hinstance⟩ := of_decide_eq_true hsame
    rw [installation, hlookup, Option.map_some, AgentRow.installation, huser, hinstance, ← AgentRow.installation]
  · rename_i hselect
    refine ⟨rfl, .inr ⟨rfl, ?_⟩⟩
    intro id hinstallation
    obtain ⟨old, hlookup, hsame⟩ := Option.map_eq_some_iff.mp hinstallation
    obtain ⟨huser, hinstance⟩ := Prod.mk.inj hsame
    refine List.not_mem_nil (a := id) ?_
    rw [← hselect]
    exact sql.mem_select.mpr ⟨old, hlookup, decide_eq_true ⟨huser, hinstance⟩⟩

/-- The row belongs to the user of the token. -/
theorem connect_user (h : connect agents token hello fresh = .ok (agentID, next)) :
    ∃ tokenID userID, token = .ok (tokenID, userID) ∧ (installation next agentID).map Prod.fst = some userID := by
  simp only [connect] at h
  split at h
  · cases h
  · split at h
    · cases h
    · rename_i tokenID userID
      split at h
      · cases h
      · refine ⟨tokenID, userID, rfl, ?_⟩
        have hupsert := Except.ok.inj h
        simp only [upsert] at hupsert
        split at hupsert <;> cases hupsert <;> rw [installation, AList.lookup_insert] <;> rfl

/-- The instance ID is the one that its column keeps. -/
theorem stored_instanceID {kept : ClientHelloPayload} (h : stored hello = .ok kept) :
    sql.varchar 255 hello.instanceID = .ok kept.instanceID := by
  simp only [stored, bind, Except.bind] at h
  split at h
  · cases h
  · rename_i instanceID hinstance
    repeat' split at h
    all_goals cases h
    exact hinstance

theorem lookup_disconnect (agents : Agents) (agentID id : GoString) :
    (disconnect agents agentID).lookup id = (agents.lookup id).map fun row =>
      if id = agentID then { row with connected := false } else row := by
  rw [disconnect, sql.lookup_update]
  simp only [decide_eq_true_eq]

theorem installation_disconnect (agents : Agents) (agentID id : GoString) :
    installation (disconnect agents agentID) id = installation agents id := by
  rw [installation, lookup_disconnect, Option.map_map, installation]
  congr 1
  funext row
  simp only [Function.comp_apply]
  split <;> rfl

end myngrok.agents
