import Myngrok.Server.Handshake

open golang transition websocket myngrok.protocol myngrok.agents myngrok.agenttokens myngrok.gateway
open myngrok.gatewayclient (AgentHost)

namespace myngrok.server

namespace Store

variable {service : auth.AccessService} {s next last : Store} {userID tokenID tokenHash id fresh : GoString} {now : Time}

/-- No row of a token or of an agent is deleted or given to someone else. -/
structure Keeps (s next : Store) : Prop where
  tokens : ∀ id row, s.tokens.lookup id = some row →
    ∃ row', next.tokens.lookup id = some row' ∧ row'.tokenHash = row.tokenHash ∧ row'.userID = row.userID
  agents : ∀ id row, s.agents.lookup id = some row →
    ∃ row', next.agents.lookup id = some row' ∧ row'.userID = row.userID ∧ row'.instanceID = row.instanceID

namespace Keeps

theorem of_eq (htokens : next.tokens = s.tokens) (hagents : next.agents = s.agents) : Keeps s next where
  tokens _ row hrow := ⟨row, htokens ▸ hrow, rfl, rfl⟩
  agents _ row hrow := ⟨row, hagents ▸ hrow, rfl, rfl⟩

theorem trans (h : Keeps s next) (h' : Keeps next last) : Keeps s last where
  tokens id row hrow := by
    obtain ⟨mid, hmid, hhash, huser⟩ := h.tokens id row hrow
    obtain ⟨found, hfound, hhash', huser'⟩ := h'.tokens id mid hmid
    exact ⟨found, hfound, hhash'.trans hhash, huser'.trans huser⟩
  agents id row hrow := by
    obtain ⟨mid, hmid, huser, hinstance⟩ := h.agents id row hrow
    obtain ⟨found, hfound, huser', hinstance'⟩ := h'.agents id mid hmid
    exact ⟨found, hfound, huser'.trans huser, hinstance'.trans hinstance⟩

theorem updateTokens {condition : GoString → TokenRecord → Bool} {set : TokenRecord → TokenRecord}
    (hset : ∀ row, (set row).tokenHash = row.tokenHash ∧ (set row).userID = row.userID) :
    Keeps s { s with tokens := sql.update s.tokens condition set } where
  tokens id row hrow := by
    rw [sql.lookup_update, hrow, Option.map_some]
    refine ⟨_, rfl, ?_⟩
    split
    · exact hset row
    · exact ⟨rfl, rfl⟩
  agents id row hrow := ⟨row, hrow, rfl, rfl⟩

theorem updateAgents {condition : GoString → AgentRecord → Bool} {set : AgentRecord → AgentRecord}
    (hset : ∀ row, (set row).userID = row.userID ∧ (set row).instanceID = row.instanceID) :
    Keeps s { s with agents := sql.update s.agents condition set } where
  tokens id row hrow := ⟨row, hrow, rfl, rfl⟩
  agents id row hrow := by
    rw [sql.lookup_update, hrow, Option.map_some]
    refine ⟨_, rfl, ?_⟩
    split
    · exact hset row
    · exact ⟨rfl, rfl⟩

theorem insertToken {name raw : GoString} (hnew : id ∉ s.tokens) :
    Keeps s (s.insertToken userID name raw tokenHash id now) where
  tokens key row hrow := by
    refine ⟨row, ?_, rfl, rfl⟩
    rw [Store.insertToken, Map.lookup_insert_eq, if_neg]
    · exact hrow
    · rintro rfl
      exact hnew ((Map.mem_iff_lookup _ _).mpr ⟨row, hrow⟩)
  agents key row hrow := ⟨row, hrow, rfl, rfl⟩

variable {hello : ClientHelloPayload}

theorem upsertAgent (hnew : fresh ∉ s.agents) : Keeps s (s.upsertAgent userID tokenID hello fresh now) := by
  unfold Store.upsertAgent
  dsimp only
  split
  · rename_i key rest hfound
    refine ⟨fun id row hrow => ⟨row, hrow, rfl, rfl⟩, fun id row hrow => ?_⟩
    rw [Map.lookup_insert_eq]
    split
    · rename_i hid
      subst hid
      obtain ⟨old, hold, hsame⟩ := sql.mem_select.mp (hfound ▸ List.mem_cons_self (a := id) (l := rest))
      cases hrow.symm.trans hold
      obtain ⟨huser, hinstance⟩ := of_decide_eq_true hsame
      exact ⟨_, rfl, huser.symm, hinstance.symm⟩
    · exact ⟨row, hrow, rfl, rfl⟩
  · refine ⟨fun id row hrow => ⟨row, hrow, rfl, rfl⟩, fun id row hrow => ⟨row, ?_, rfl, rfl⟩⟩
    rw [Map.lookup_insert_eq, if_neg]
    · exact hrow
    · rintro rfl
      exact hnew ((Map.mem_iff_lookup _ _).mpr ⟨row, hrow⟩)

theorem useToken : Keeps s (s.useToken tokenID now) := updateTokens fun _ => ⟨rfl, rfl⟩

theorem step {e : StoreEvent} (hstep : s.step service e = some next) : Keeps s next := by
  cases writes_of_step hstep with
  | nothing | register | closeTunnels | reopen | insertTunnel | addDelta => exact of_eq rfl rfl
  | create _ _ hid => exact insertToken hid
  | revoke =>
    rw [revokeToken_snd]
    exact updateTokens fun _ => ⟨rfl, rfl⟩
  | connect hfresh =>
    split
    · exact (upsertAgent hfresh).trans useToken
    · exact upsertAgent hfresh
  | touch | disconnect => exact updateAgents fun _ => ⟨rfl, rfl⟩

end Keeps

theorem lookup_upsertedID (s : Store) (userID tokenID fresh : GoString) (hello : ClientHelloPayload) (now : Time) :
    ∃ row, (s.upsertAgent userID tokenID hello fresh now).agents.lookup (s.upsertedID userID hello fresh) = some row ∧
      row.userID = userID ∧ row.instanceID = hello.instanceID := by
  unfold upsertAgent upsertedID
  dsimp only
  cases sql.select s.agents fun old => old.userID = userID ∧ old.instanceID = hello.instanceID with
  | nil =>
    refine ⟨_, AList.lookup_insert _, ?_⟩
    exact ⟨rfl, rfl⟩
  | cons id rest =>
    refine ⟨_, AList.lookup_insert _, ?_⟩
    exact ⟨rfl, rfl⟩

end Store

namespace Handshakes

variable {service : auth.AccessService} {hash : GoString → GoString} {s next : Handshakes} {i : Nat} {c : Upgraded}
  {sessionID agentID : GoString}

/-- The row of the agent is one of this installation, and belongs to the user of the token. -/
def Backed (hash : GoString → GoString) (store : Store) (c : Upgraded) (agentID : GoString) : Prop :=
  strings.trimSpace (utf8.toValid c.agent.hostname) ≠ [] ∧ ∃ row tokenID token,
    store.agents.lookup agentID = some row ∧ sql.varchar 255 (utf8.toValid c.agent.hostname) = .ok row.instanceID ∧
    store.tokens.lookup tokenID = some token ∧ token.tokenHash = hash c.rawToken ∧ token.userID = row.userID

theorem Backed.keeps {store store' : Store} (h : Backed hash store c agentID) (hkeeps : store.Keeps store') :
    Backed hash store' c agentID := by
  obtain ⟨hnamed, row, tokenID, token, hrow, hinstance, htoken, hhash, huser⟩ := h
  obtain ⟨row', hrow', huser', hinstance'⟩ := hkeeps.agents agentID row hrow
  obtain ⟨token', htoken', hhash', howner'⟩ := hkeeps.tokens tokenID token htoken
  exact ⟨hnamed, row', tokenID, token', hrow', hinstance' ▸ hinstance, htoken', hhash'.trans hhash,
    howner'.trans (huser.trans huser'.symm)⟩

/-- The session ID was drawn for this connection. -/
def Drawn (s : Handshakes) (i : Nat) (sessionID : GoString) : Prop :=
  s.drawn.lookup sessionID = some i ∧ ∃ random, newSessionID random = some sessionID

def Registers (s : Handshakes) (i : Nat) (sessionID : GoString) : Prop :=
  ∃ session, (i, session) ∈ s.registered ∧ session.id = sessionID

/-- What the gateway has found out about the agent so far is true. -/
def Side (hash : GoString → GoString) (s : Handshakes) (i : Nat) (c : Upgraded) : GatewaySide → Prop
  | .greeted hello sessionID => hello = c.agent.hello.received ∧ s.Drawn i sessionID
  | .found hello sessionID tokenID userID => hello = c.agent.hello.received ∧ s.Drawn i sessionID ∧
    strings.trimSpace hello.instanceID ≠ [] ∧ ∃ token, s.store.tokens.lookup tokenID = some token ∧
      token.tokenHash = hash c.rawToken ∧ token.userID = userID
  | .upserted sessionID agentID => s.Drawn i sessionID ∧ Backed hash s.store c agentID
  | .registered sessionID => s.Registers i sessionID
  | _ => True

/-- The messages under way are the hellos of the two ends, and the agent is in a session of its own connection. -/
structure Agreed (hash : GoString → GoString) (s : Handshakes) (i : Nat) (c : Upgraded) : Prop where
  token : c.rawToken = bearer c.agent.authorization
  toGateway : ∀ message ∈ c.toGateway, message = c.agent.helloMessage
  toAgent : ∀ message ∈ c.toAgent, ∃ sessionID, s.Registers i sessionID ∧ message = serverHelloMessage sessionID
  side : s.Side hash i c c.gatewaySide
  connected : ∀ sessionID, c.agentSide = .connected sessionID → s.Registers i sessionID

structure Agreement (hash : GoString → GoString) (s : Handshakes) : Prop where
  connections : ∀ i c, s.connections.lookup i = some c → s.Agreed hash i c
  registered : ∀ i session, (i, session) ∈ s.registered → s.Drawn i session.id ∧
    ∃ c, s.connections.lookup i = some c ∧ session.agentTokenHash = hash c.rawToken ∧ Backed hash s.store c session.agentID

/-- What a step may do apart from the connection it is about. -/
structure Extends (s next : Handshakes) : Prop where
  store : s.store.Keeps next.store
  drawn : ∀ id i, s.drawn.lookup id = some i → next.drawn.lookup id = some i
  registered : s.registered ⊆ next.registered

theorem Extends.refl (s : Handshakes) : Extends s s where
  store := .of_eq rfl rfl
  drawn _ _ h := h
  registered := List.Subset.refl _

theorem Drawn.extends (h : s.Drawn i sessionID) (hnext : Extends s next) : next.Drawn i sessionID :=
  ⟨hnext.drawn _ _ h.1, h.2⟩

theorem Registers.extends (h : s.Registers i sessionID) (hnext : Extends s next) : next.Registers i sessionID := by
  obtain ⟨session, hmem, hid⟩ := h
  exact ⟨session, hnext.registered hmem, hid⟩

theorem Side.extends {side : GatewaySide} (h : s.Side hash i c side) (hnext : Extends s next) :
    next.Side hash i c side := by
  cases side with
  | waiting | serving | ended => trivial
  | greeted hello sessionID => exact ⟨h.1, h.2.extends hnext⟩
  | found hello sessionID tokenID userID =>
    obtain ⟨hhello, hdrawn, hnamed, token, htoken, hhash, huser⟩ := h
    obtain ⟨token', htoken', hhash', huser'⟩ := hnext.store.tokens tokenID token htoken
    exact ⟨hhello, hdrawn.extends hnext, hnamed, token', htoken', hhash'.trans hhash, huser'.trans huser⟩
  | upserted sessionID agentID => exact ⟨h.1.extends hnext, h.2.keeps hnext.store⟩
  | registered sessionID => exact Registers.extends h hnext

theorem Agreed.extends (h : s.Agreed hash i c) (hnext : Extends s next) : next.Agreed hash i c where
  token := h.token
  toGateway := h.toGateway
  toAgent message hmessage := by
    obtain ⟨sessionID, hregisters, heq⟩ := h.toAgent message hmessage
    exact ⟨sessionID, hregisters.extends hnext, heq⟩
  side := h.side.extends hnext
  connected sessionID hside := (h.connected sessionID hside).extends hnext

/-- A step that is about one connection keeps the agreement if the connection is in order afterwards, and with it
    whatever has been registered for it. -/
theorem Agreement.set (h : s.Agreement hash) (hextends : Extends s next) (hconnections : next.connections = s.connections)
    (hsame : ∀ old, s.connections.lookup i = some old → c.agent = old.agent ∧ c.rawToken = old.rawToken)
    (hc : next.Agreed hash i c)
    (hregistered : ∀ j session, (j, session) ∈ next.registered → (j, session) ∈ s.registered ∨
      j = i ∧ next.Drawn i session.id ∧ session.agentTokenHash = hash c.rawToken ∧
        Backed hash next.store c session.agentID) :
    (next.setConnection i c).Agreement hash where
  connections j found hfound := by
    simp only [setConnection, Map.lookup_insert_eq] at hfound
    split at hfound
    · rename_i heq
      cases hfound
      subst heq
      exact ⟨hc.token, hc.toGateway, hc.toAgent, hc.side, hc.connected⟩
    · rw [hconnections] at hfound
      have hother := (h.connections j found hfound).extends hextends
      exact ⟨hother.token, hother.toGateway, hother.toAgent, hother.side, hother.connected⟩
  registered j session hmem := by
    simp only [setConnection, Map.lookup_insert_eq]
    obtain hold | ⟨rfl, hdrawn, hhash, hbacked⟩ := hregistered j session hmem
    · obtain ⟨hdrawn, old, hlookup, hhash, hbacked⟩ := h.registered j session hold
      have hkept : next.Drawn j session.id := hdrawn.extends hextends
      refine ⟨hkept, ?_⟩
      split
      · rename_i heq
        subst heq
        obtain ⟨hagent, htoken⟩ := hsame old hlookup
        refine ⟨c, rfl, by rw [hhash, htoken], ?_⟩
        have hbacked' := hbacked.keeps hextends.store
        rwa [Backed, ← hagent, ← htoken] at hbacked'
      · exact ⟨old, hconnections ▸ hlookup, hhash, hbacked.keeps hextends.store⟩
    · exact ⟨hdrawn, c, if_pos rfl, hhash, hbacked⟩

/-- A step that only moves the ends of a connection or its messages. -/
theorem Agreement.move (h : s.Agreement hash) {old : Upgraded} (hold : s.connections.lookup i = some old)
    (hagent : c.agent = old.agent) (htoken : c.rawToken = old.rawToken) (hc : s.Agreed hash i c) :
    (s.setConnection i c).Agreement hash := by
  refine h.set (.refl s) rfl (fun found hfound => ?_) hc fun _ _ hmem => .inl hmem
  cases hold.symm.trans hfound
  exact ⟨hagent, htoken⟩

section

variable (h : s.Agreement hash) (hc : s.connections.lookup i = some c)

include h hc

theorem Agreement.greet {message : Message} {rest : List Message} {random : Option Bytes} {hello : ClientHelloPayload}
    (hmessages : c.toGateway = message :: rest) (hhello : readClientHello message.data = some hello)
    (hdrawn : newSessionID random = some sessionID) (hnew : sessionID ∉ s.drawn) :
    ({ s with drawn := s.drawn.insert sessionID i }.setConnection i
      { c with toGateway := rest, gatewaySide := .greeted hello sessionID }).Agreement hash := by
  have hagreed := h.connections i c hc
  have hextends : Extends s { s with drawn := s.drawn.insert sessionID i } := by
    refine ⟨.of_eq rfl rfl, fun id j hid => ?_, List.Subset.refl _⟩
    rw [Map.lookup_insert_eq, if_neg]
    · exact hid
    · rintro rfl
      exact hnew ((Map.mem_iff_lookup _ _).mpr ⟨j, hid⟩)
  have hafter := hagreed.extends hextends
  have hmessage : message = c.agent.helloMessage :=
    hagreed.toGateway message (hmessages ▸ List.mem_cons_self)
  rw [hmessage, readClientHello_helloMessage] at hhello
  cases hhello
  refine h.set hextends rfl (fun old hold => ?_) ?_ fun _ _ hmem => .inl hmem
  · cases hc.symm.trans hold
    exact ⟨rfl, rfl⟩
  · refine ⟨hafter.token, fun other hother => ?_, hafter.toAgent, ⟨rfl, ?_, random, hdrawn⟩, hafter.connected⟩
    · exact hafter.toGateway other (hmessages ▸ List.mem_cons_of_mem _ hother)
    · exact AList.lookup_insert _

theorem Agreement.upsert {hello stored : ClientHelloPayload} {tokenID userID fresh : GoString} {now : Time}
    {used : Bool} {store : Store} (hside : c.gatewaySide = .found hello sessionID tokenID userID)
    (hfresh : fresh ∉ s.store.agents) (hstored : agents.stored hello = .ok stored)
    (hstore : store = if used then (s.store.upsertAgent userID tokenID stored fresh now).useToken tokenID now
      else s.store.upsertAgent userID tokenID stored fresh now) :
    ({ s with store }.setConnection i
      { c with gatewaySide := .upserted sessionID (s.store.upsertedID userID stored fresh) }).Agreement hash := by
  have hagreed := h.connections i c hc
  have hfound := hagreed.side
  rw [hside] at hfound
  obtain ⟨hhello, hdrawn, hnamed, token, htoken, hhash, huser⟩ := hfound
  have hname : hello.instanceID = utf8.toValid c.agent.hostname := congrArg ClientHelloPayload.instanceID hhello
  rw [hname] at hnamed
  have hcolumn : sql.varchar 255 (utf8.toValid c.agent.hostname) = .ok stored.instanceID :=
    hname ▸ stored_instanceID hstored
  have hupsert : s.store.Keeps (s.store.upsertAgent userID tokenID stored fresh now) := .upsertAgent hfresh
  have huse : (s.store.upsertAgent userID tokenID stored fresh now).Keeps store := by
    rw [hstore]
    split
    · exact .useToken
    · exact .of_eq rfl rfl
  have hextends : Extends s { s with store } := ⟨hupsert.trans huse, fun _ _ hid => hid, List.Subset.refl _⟩
  have hbacked : Backed hash store c (s.store.upsertedID userID stored fresh) := by
    obtain ⟨row, hrow, howner, hinstance⟩ := s.store.lookup_upsertedID userID tokenID fresh stored now
    obtain ⟨kept, hkept, hkeptHash, hkeptUser⟩ := hupsert.tokens tokenID token htoken
    have hbefore : Backed hash (s.store.upsertAgent userID tokenID stored fresh now) c
        (s.store.upsertedID userID stored fresh) :=
      ⟨hnamed, row, tokenID, kept, hrow, hinstance ▸ hcolumn, hkept, hkeptHash.trans hhash,
        hkeptUser.trans (huser.trans howner.symm)⟩
    exact hbefore.keeps huse
  have hafter := hagreed.extends hextends
  refine h.set hextends rfl (fun old hold => ?_) ?_ fun _ _ hmem => .inl hmem
  · cases hc.symm.trans hold
    exact ⟨rfl, rfl⟩
  · exact ⟨hafter.token, hafter.toGateway, hafter.toAgent, ⟨hdrawn.extends hextends, hbacked⟩, hafter.connected⟩

theorem Agreement.register {session : Session} (hside : c.gatewaySide = .upserted session.id agentID)
    (hagent : session.agentID = agentID) (hhash : session.agentTokenHash = hash c.rawToken) :
    ({ s with registered := (i, session) :: s.registered }.setConnection i
      { c with gatewaySide := .registered session.id }).Agreement hash := by
  have hagreed := h.connections i c hc
  have hupserted := hagreed.side
  rw [hside] at hupserted
  obtain ⟨hdrawn, hbacked⟩ := hupserted
  have hextends : Extends s { s with registered := (i, session) :: s.registered } :=
    ⟨.of_eq rfl rfl, fun _ _ hid => hid, List.subset_cons_self _ _⟩
  have hafter := hagreed.extends hextends
  refine h.set hextends rfl (fun old hold => ?_) ?_ fun j other hmem => ?_
  · cases hc.symm.trans hold
    exact ⟨rfl, rfl⟩
  · exact ⟨hafter.token, hafter.toGateway, hafter.toAgent, ⟨session, List.mem_cons_self, rfl⟩, hafter.connected⟩
  · obtain heq | hmem := List.mem_cons.mp hmem
    · cases heq
      exact .inr ⟨rfl, hdrawn, hhash, hagent ▸ hbacked⟩
    · exact .inl hmem

end

theorem Agreement.step (h : s.Agreement hash) {e : HandshakeEvent} (hstep : s.step service hash e = some next) :
    next.Agreement hash := by
  cases step_cases hstep with
  | store hstore =>
    have hextends : Extends s { s with store := _ } := ⟨.step hstore, fun _ _ hid => hid, List.Subset.refl _⟩
    refine ⟨fun i c hc => (h.connections i c hc).extends hextends, fun i session hmem => ?_⟩
    obtain ⟨hdrawn, c, hc, hhash, hbacked⟩ := h.registered i session hmem
    exact ⟨hdrawn, c, hc, hhash, hbacked.keeps hextends.store⟩
  | refused => exact h
  | dial hnew _ =>
    refine h.set (.refl s) rfl (fun old hold => ?_) ?_ fun _ _ hmem => .inl hmem
    · exact absurd ((Map.mem_iff_lookup _ _).mpr ⟨old, hold⟩) hnew
    · refine ⟨rfl, fun _ hmessage => ?_, fun _ hmessage => ?_, trivial, fun _ hside => ?_⟩
      · cases hmessage
      · cases hmessage
      · cases hside
  | sendHello hc hside =>
    have hagreed := h.connections _ _ hc
    refine h.move hc rfl rfl ⟨hagreed.token, fun message hmessage => ?_, hagreed.toAgent, hagreed.side, nofun⟩
    obtain hmessage | hmessage := List.mem_append.mp hmessage
    · exact hagreed.toGateway message hmessage
    · exact List.mem_singleton.mp hmessage
  | closed hc hgateway hagent =>
    have hagreed := h.connections _ _ hc
    exact h.move hc rfl rfl ⟨hagreed.token, fun message hmessage => hagreed.toGateway message (hgateway hmessage),
      fun message hmessage => hagreed.toAgent message (hagent hmessage), trivial, hagreed.connected⟩
  | greet hc _ hmessages hhello hdrawn hnew => exact h.greet hc hmessages hhello hdrawn hnew
  | find hc hside hinstance _ hfound =>
    have hagreed := h.connections _ _ hc
    have hgreeted := hagreed.side
    rw [hside] at hgreeted
    have hrow := sql.mem_rows.mp (List.mem_of_mem_head? hfound)
    obtain ⟨hlookup, haccepts⟩ := hrow
    have hhash := (of_decide_eq_true haccepts).1
    exact h.move hc rfl rfl ⟨hagreed.token, hagreed.toGateway, hagreed.toAgent,
      ⟨hgreeted.1, hgreeted.2, hinstance, _, hlookup, hhash, rfl⟩, hagreed.connected⟩
  | upsert hc hside hfresh hkept hstore => exact h.upsert hc hside hfresh hkept hstore
  | register hc hside => exact h.register hc hside rfl rfl
  | writeHello hc hside =>
    have hagreed := h.connections _ _ hc
    have hregistered := hagreed.side
    rw [hside] at hregistered
    refine h.move hc rfl rfl ⟨hagreed.token, hagreed.toGateway, fun message hmessage => ?_, trivial, hagreed.connected⟩
    obtain hmessage | hmessage := List.mem_append.mp hmessage
    · exact hagreed.toAgent message hmessage
    · exact ⟨_, hregistered, List.mem_singleton.mp hmessage⟩
  | connected hc hmessages hread =>
    have hagreed := h.connections _ _ hc
    obtain ⟨sessionID, hregisters, rfl⟩ := hagreed.toAgent _ (hmessages ▸ List.mem_cons_self)
    have hdrawn : ∃ random, newSessionID random = some sessionID := by
      obtain ⟨session, hmem, rfl⟩ := hregisters
      exact (h.registered _ session hmem).1.2
    obtain ⟨random, hdrawn⟩ := hdrawn
    rw [readServerHello_serverHelloMessage hdrawn] at hread
    cases hread
    refine h.move hc rfl rfl ⟨hagreed.token, hagreed.toGateway, fun message hmessage => ?_, hagreed.side, fun id hside => ?_⟩
    · exact hagreed.toAgent message (hmessages ▸ List.mem_cons_of_mem _ hmessage)
    · cases hside
      exact hregisters
  | failed hc hmessages =>
    have hagreed := h.connections _ _ hc
    refine h.move hc rfl rfl ⟨hagreed.token, hagreed.toGateway, fun message hmessage => ?_, hagreed.side, nofun⟩
    exact hagreed.toAgent message (hmessages ▸ List.mem_cons_of_mem _ hmessage)

theorem agreement_of_run {events : List HandshakeEvent} (hrun : run (step service hash) start events = some s) :
    s.Agreement hash := by
  apply run_induction (P := fun _ s => Agreement hash s) _ (fun _ _ _ _ _ h hstep => h.step hstep) hrun
  refine ⟨fun _ _ hlookup => ?_, fun _ _ hmem => ?_⟩
  · cases hlookup
  · cases hmem

/-- When an agent takes itself to be in a session, its machine has a name, and the gateway has registered this session
    for its connection, under the hash of its token and with a row of its installation that belongs to the token's user;
    and no other connection has had this session. -/
theorem handshake_agreement {events : List HandshakeEvent} (hrun : run (step service hash) start events = some s)
    (hc : s.connections.lookup i = some c) (hconnected : c.agentSide = .connected sessionID) :
    strings.trimSpace (utf8.toValid c.agent.hostname) ≠ [] ∧
    (∃ session row tokenID token, (i, session) ∈ s.registered ∧ session.id = sessionID ∧
      session.agentTokenHash = hash (bearer c.agent.authorization) ∧
      s.store.agents.lookup session.agentID = some row ∧
      sql.varchar 255 (utf8.toValid c.agent.hostname) = .ok row.instanceID ∧
      s.store.tokens.lookup tokenID = some token ∧ token.tokenHash = session.agentTokenHash ∧
      token.userID = row.userID) ∧
    ∀ j session, (j, session) ∈ s.registered → session.id = sessionID → j = i := by
  have h := agreement_of_run hrun
  obtain ⟨session, hmem, rfl⟩ := (h.connections i c hc).connected sessionID hconnected
  obtain ⟨hdrawn, found, hfound, hhash, hnamed, row, tokenID, token, hrow, hinstance, htoken, htokenHash, huser⟩ :=
    h.registered i session hmem
  cases hc.symm.trans hfound
  refine ⟨hnamed, ⟨session, row, tokenID, token, hmem, rfl, ?_, hrow, hinstance, htoken, htokenHash.trans hhash.symm,
    huser⟩, ?_⟩
  · rw [hhash, (h.connections i c hc).token]
  · intro j other hother hid
    have hdrawn' := (h.registered j other hother).1.1
    rw [hid, hdrawn.1] at hdrawn'
    cases hdrawn'
    rfl

/-- The steps of a connection that nothing goes wrong with. -/
def script (i : Nat) (agent : AgentHost) (random : Bytes) (fresh : GoString) (now : Time) (used : Bool)
    (outbound : Chan) (seen : Nat) : List HandshakeEvent :=
  [.dial i agent now, .sendHello i, .readHello i (some random), .findToken i now, .upsert i fresh now used,
    .register i outbound seen, .writeHello i, .readServerHello i]

/-- A user with a token, and the agent that has it. -/
def oneToken : List HandshakeEvent :=
  [.store (.register (lit "dev@example.test") [] (lit "usr_1")),
    .store (Store.tokenRequest (lit "POST") (lit "usr_1") (lit "laptop") (lit "YQ") 1)]

def laptop : AgentHost :=
  { token := lit "tkn_YQ", version := lit "0.1.0", hostname := lit "laptop", os := lit "linux", arch := lit "amd64" }

def plainHash (raw : GoString) : GoString := lit "hash of " ++ raw.drop 4

def laptopSession : GoString := lit "ses_" ++ base64.encodeToString (List.replicate 18 0)

theorem handshake_agreement_laptop :
    ∃ s c session, run (step auth.plainService plainHash) start
        (oneToken ++ script 0 laptop (List.replicate 18 0) (lit "agt_1") 2 true 0 0) = some s ∧
      s.connections.lookup 0 = some c ∧ c.agentSide = .connected laptopSession ∧
      (0, session) ∈ s.registered ∧ session.id = laptopSession ∧ session.agentTokenHash = lit "hash of YQ" := by
  have hfacts : ((run (step auth.plainService plainHash) start
      (oneToken ++ script 0 laptop (List.replicate 18 0) (lit "agt_1") 2 true 0 0)).bind fun s =>
        (s.connections.lookup 0).map fun c => (c.agentSide, plainHash (bearer c.agent.authorization))) =
      some (.connected laptopSession, lit "hash of YQ") := by decide +kernel
  obtain ⟨s, hrun, hs⟩ := Option.bind_eq_some_iff.mp hfacts
  obtain ⟨c, hc, hside⟩ := Option.map_eq_some_iff.mp hs
  obtain ⟨hconnected, hhash⟩ := Prod.mk.inj hside
  obtain ⟨-, ⟨session, _, _, _, hmem, hid, htoken, -⟩, -⟩ := handshake_agreement hrun hc hconnected
  exact ⟨s, c, session, hrun, hc, hconnected, hmem, hid, htoken.trans hhash⟩

end Handshakes

end myngrok.server
