import Mathlib.Data.Fintype.EquivFin
import Myngrok.Server.Access
import Myngrok.Server.Handshake

open golang transition myngrok.protocol myngrok.agents myngrok.agenttokens myngrok.gateway

namespace myngrok.server

namespace Store

variable (s : Store) {userID tokenID fresh : GoString} {kept : ClientHelloPayload} {now : Time}

/-- The `INSERT` of `agents.Connect` takes the row of one installation in both tables. -/
theorem upsert_installations {agents : Agents} (hsame : sql.project AgentRow.installation agents = s.installations)
    {row : AgentRow} (hrow : row.installation = (userID, kept.instanceID)) :
    (upsert agents row fresh).1 = s.upsertedID userID kept fresh ∧
      sql.project AgentRow.installation (upsert agents row fresh).2 =
        (s.upsertAgent userID tokenID kept fresh now).installations := by
  obtain ⟨huser, hinstance⟩ := Prod.mk.inj hrow
  have hselect : sql.select agents (fun old => old.userID = row.userID ∧ old.instanceID = row.instanceID) =
      sql.select s.agents fun old => old.userID = userID ∧ old.instanceID = kept.instanceID := by
    have hselects := congrArg (fun table => sql.select table fun key => key.1 = userID ∧ key.2 = kept.instanceID) hsame
    simp only [installations, sql.select_project] at hselects
    rw [huser, hinstance]
    exact hselects
  have hinsert : ∀ (id : GoString) (record : AgentRecord), record.toAgentRow.installation = row.installation →
      sql.project AgentRow.installation (agents.insert id row) =
        sql.project (fun row => row.toAgentRow.installation) (s.agents.insert id record) := by
    intro id record hrecord
    rw [sql.project_insert, hsame, installations, sql.project_insert, hrecord]
  rw [upsert, hselect, upsertedID, upsertAgent]
  cases sql.select s.agents fun old => old.userID = userID ∧ old.instanceID = kept.instanceID with
  | nil => exact ⟨rfl, hinsert _ _ hrow.symm⟩
  | cons id rest => exact ⟨rfl, hinsert _ _ hrow.symm⟩

end Store

namespace Access

variable {baseDomain : GoString} {a : Access} {connection : Nat} {sessionID fresh tokenHash : GoString}
  {kept : ClientHelloPayload} {now : Time} {token : Found}

/-- The head of `handshake` and of `agents.Connect` lets the hello pass. -/
structure Accepts (hello : ClientHelloPayload) : Prop where
  version : hello.protocolVersion = protocol.version
  instanceID : strings.trimSpace hello.instanceID ≠ []
  hostname : strings.trimSpace hello.hostname ≠ []

/-- The row that `agents.Connect` writes. -/
def agentRow (token : Found) (kept : ClientHelloPayload) : AgentRow :=
  { userID := token.userID, agentTokenID := token.tokenID, instanceID := kept.instanceID, hostname := kept.hostname
    os := kept.os, arch := kept.arch, agentVersion := kept.agentVersion, connected := true }

/-! What the three steps of a handshake lead to. -/

def presented (a : Access) (connection : Nat) (tokenHash : GoString) : Access :=
  { a with validated := a.validated.insert connection tokenHash }

def asked (a : Access) (connection : Nat) (sessionID tokenHash : GoString) (token : Found) : Access :=
  { a with validated := a.validated.erase connection, hashes := a.hashes.insert sessionID tokenHash
           found := a.found.insert sessionID (some token) }

def connected (a : Access) (sessionID : GoString) (agent : GoString × Agents) : Access :=
  { a with gateway := { a.gateway with agents := agent.2 }.setPhase sessionID agent.1 .connected
           found := a.found.insert sessionID none }

theorem step_validate (hnew : connection ∉ a.validated) (hvalid : valid a.tokens tokenHash now = true) :
    a.step baseDomain (.validate connection tokenHash now) = some (a.presented connection tokenHash) := by
  rw [step, if_neg hnew, if_pos hvalid]
  rfl

theorem step_find (hpresents : a.validated.lookup connection = some tokenHash) (hnew : sessionID ∉ a.hashes)
    (haccepts : Accepts token.hello)
    (hfind : agenttokens.find a.tokens tokenHash now = .ok (token.tokenID, token.userID)) :
    a.step baseDomain (.find connection sessionID token.hello now) =
      some (a.asked connection sessionID tokenHash token) := by
  have hpass : ¬(token.hello.protocolVersion ≠ protocol.version ∨ strings.trimSpace token.hello.instanceID = [] ∨
      strings.trimSpace token.hello.hostname = []) := by
    rintro (hversion | hinstance | hhostname)
    · exact hversion haccepts.version
    · exact haccepts.instanceID hinstance
    · exact haccepts.hostname hhostname
  have hfound : a.findToken tokenHash token.hello now = some token := by
    rw [findToken, if_neg hpass, hfind]
    rfl
  simp only [step, hpresents]
  rw [if_neg hnew, hfound]
  rfl

theorem step_connect (hfound : a.found.lookup sessionID = some (some token)) (haccepts : Accepts token.hello)
    (hkept : stored token.hello = .ok kept) (hnew : sessionID ∉ a.gateway.connections)
    (hfresh : fresh ∉ a.gateway.agents) (hnonempty : fresh ≠ []) :
    a.step baseDomain (.connect sessionID fresh) =
      some (a.connected sessionID (upsert a.gateway.agents (agentRow token kept) fresh)) := by
  have hnamed : ¬(strings.trimSpace token.hello.instanceID = [] ∨ strings.trimSpace token.hello.hostname = []) :=
    fun hblank => hblank.elim haccepts.instanceID haccepts.hostname
  have hconnect : agents.connect a.gateway.agents (.ok (token.tokenID, token.userID)) token.hello fresh =
      .ok (upsert a.gateway.agents (agentRow token kept) fresh) := by
    simp only [agents.connect, if_neg hnamed, hkept]
    rfl
  simp only [step, hfound, Server.step]
  rw [if_pos ⟨hnew, hfresh, hnonempty⟩, if_neg (not_not.mpr haccepts.version), hconnect]
  rfl

end Access

/-- Agents connect by their handshakes only, and the IDs that the database draws for new rows are not empty. -/
def HandshakeEvent.proper : HandshakeEvent → Bool
  | .store (.connect _ _ _ _ _) => false
  | .upsert _ fresh _ _ => fresh ≠ []
  | _ => true

namespace Access

/-- Two states have the same to say about a session. -/
structure Agree (a next : Access) (sessionID : GoString) : Prop where
  hashes : next.hashes.lookup sessionID = a.hashes.lookup sessionID
  found : next.found.lookup sessionID = a.found.lookup sessionID
  connections : next.gateway.connections.lookup sessionID = a.gateway.connections.lookup sessionID
  sessions : next.gateway.sessions.sessions.lookup sessionID = a.gateway.sessions.sessions.lookup sessionID

variable {other sessionID : GoString}

theorem agree_asked (a : Access) (connection : Nat) (tokenHash : GoString) (token : Found) (hne : other ≠ sessionID) :
    Agree a (a.asked connection sessionID tokenHash token) other :=
  ⟨AList.lookup_insert_ne hne, AList.lookup_insert_ne hne, rfl, rfl⟩

theorem agree_connected (a : Access) (agent : GoString × Agents) (hne : other ≠ sessionID) :
    Agree a (a.connected sessionID agent) other :=
  ⟨rfl, AList.lookup_insert_ne hne, AList.lookup_insert_ne hne, rfl⟩

end Access

/-! The rest of the system works on the same tables. -/

section Tables

variable {service : auth.AccessService} {store next : Store} {a : Access} {tokenHash fresh : GoString} {now : Time}
  (baseDomain : GoString)

/-- The tables of the two models. -/
structure Access.Tables (a : Access) (store : Store) : Prop where
  tokens : a.tokens = store.tokenRows
  agents : sql.project AgentRow.installation a.gateway.agents = store.installations

theorem Access.Tables.token (h : a.Tables store) {tokenID : GoString} {token : TokenRecord}
    (hfind : store.findToken tokenHash now = some (tokenID, token)) :
    agenttokens.find a.tokens tokenHash now = .ok (tokenID, token.userID) := by
  rw [h.tokens]
  exact store.find_tokenRows hfind

theorem Access.Tables.unused (h : a.Tables store) (hfresh : fresh ∉ store.agents) : fresh ∉ a.gateway.agents := by
  have hproject : fresh ∉ sql.project AgentRow.installation a.gateway.agents := by
    rw [h.agents]
    exact fun hmem => hfresh (sql.mem_project.mp hmem)
  exact fun hmem => hproject (sql.mem_project.mpr hmem)

theorem Access.Tables.upsert (h : a.Tables store) (token : Found) (kept : ClientHelloPayload) (fresh sessionID : GoString)
    (now : Time) (used : Bool) :
    let agent := agents.upsert a.gateway.agents (Access.agentRow token kept) fresh
    let next := store.upsertAgent token.userID token.tokenID kept fresh now
    agent.1 = store.upsertedID token.userID kept fresh ∧
      (a.connected sessionID agent).Tables (if used then next.useToken token.tokenID now else next) := by
  intro agent next
  obtain ⟨hid, hagents⟩ : agent.1 = store.upsertedID token.userID kept fresh ∧
      sql.project AgentRow.installation agent.2 = next.installations := store.upsert_installations h.agents rfl
  have htokens : a.tokens = next.tokenRows := h.tokens.trans store.tokenRows_upsertAgent.symm
  refine ⟨hid, ?_⟩
  cases used with
  | false => exact ⟨htokens, hagents⟩
  | true => exact ⟨htokens.trans next.tokenRows_useToken.symm, hagents⟩

/-- The steps that bring the table of tokens to that of the store. -/
def Access.Follows (a : Access) (store : Store) : Prop :=
  ∃ events revokes, run (Access.step baseDomain) a events = some { a with tokens := store.tokenRows, revokes }

variable {baseDomain} in
theorem Access.Follows.of_step (e : AccessEvent) (revokes : Map Nat RevokePhase)
    (hstep : a.step baseDomain e = some { a with tokens := store.tokenRows, revokes }) : a.Follows baseDomain store :=
  ⟨[e], revokes, by rw [run_cons, hstep, Option.bind_some, run_nil]⟩

theorem follows_create (h : a.tokens = store.tokenRows) {userID name raw id : GoString}
    (hname : strings.trimSpace name ≠ [] ∧ (strings.trimSpace name).length ≤ 128) (hid : id ∉ store.tokens)
    (hhash : sql.rows store.tokens (fun row => row.tokenHash = tokenHash) = []) :
    a.Follows baseDomain (store.insertToken userID (strings.trimSpace name) raw tokenHash id now) := by
  have hselect : sql.select store.tokens (fun row => row.tokenHash = tokenHash) = [] := by
    rw [sql.rows, List.map_eq_nil_iff] at hhash
    rw [sql.select, hhash, List.map_nil]
  refine .of_step (.create userID name raw tokenHash id) a.revokes ?_
  have hcreate : agenttokens.create store.tokenRows userID name raw tokenHash id =
      .ok (store.insertToken userID (strings.trimSpace name) raw tokenHash id now).tokenRows :=
    store.tokenRows_insertToken hname hid hselect
  rw [Access.step, h, hcreate]

theorem follows_revoke (h : a.tokens = store.tokenRows) (userID tokenID : GoString) (now : Time) :
    a.Follows baseDomain (store.revokeToken userID tokenID now).2 := by
  obtain ⟨request, hrequest⟩ := Infinite.exists_notMem_finset a.revokes.keys.toFinset
  have hnew : request ∉ a.revokes := fun hmem => hrequest (List.mem_toFinset.mpr (AList.mem_keys.mp hmem))
  have hrevoke : agenttokens.revoke store.tokenRows userID tokenID now =
      (_, (store.revokeToken userID tokenID now).2.tokenRows) := store.tokenRows_revokeToken
  obtain hnone | ⟨tokenHash, tokens, hsome, -, -⟩ := revoke_cases store.tokenRows userID tokenID now
  · refine .of_step (.revoke request userID tokenID now) (a.revokes.insert request .notFound) ?_
    rw [Access.step, if_neg hnew, h, hnone, ← (Prod.mk.inj (hnone.symm.trans hrevoke)).2, ← h]
    rfl
  · refine .of_step (.revoke request userID tokenID now) (a.revokes.insert request (.updated tokenHash)) ?_
    rw [Access.step, if_neg hnew, h, hsome, ← (Prod.mk.inj (hsome.symm.trans hrevoke)).2]
    rfl

/-- What the rest of the system does to the database. -/
theorem follows_store (h : a.tokens = store.tokenRows) {e : StoreEvent} (hstep : store.step service e = some next)
    (hproper : (HandshakeEvent.store e).proper = true) :
    a.Follows baseDomain next ∧ next.installations = store.installations := by
  have hsame : ∀ next : Store, next.tokenRows = store.tokenRows → a.Follows baseDomain next :=
    fun next htokens => ⟨[], a.revokes, by rw [run_nil, htokens, ← h]⟩
  cases Store.writes_of_step hstep with
  | nothing | register | closeTunnels | reopen | insertTunnel | addDelta => exact ⟨hsame _ rfl, rfl⟩
  | create _ hname hid hhash => exact ⟨follows_create baseDomain h hname hid hhash, rfl⟩
  | revoke =>
    refine ⟨follows_revoke baseDomain h _ _ _, ?_⟩
    rw [Store.revokeToken_snd]
    rfl
  | connect => cases hproper
  | touch | disconnect => exact ⟨hsame _ rfl, store.installations_update fun _ => rfl⟩

end Tables

end myngrok.server
