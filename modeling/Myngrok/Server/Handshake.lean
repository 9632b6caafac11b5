import Myngrok.Gateway.Hello
import Myngrok.Gateway.ServeSession
import Myngrok.Server.Tenancy

open golang websocket myngrok.protocol myngrok.agents myngrok.agenttokens myngrok.gateway
open myngrok.gatewayclient (AgentHost)

namespace golang.textproto

/-- `textproto.TrimString`, which net/http applies to the values of the header fields that it reads. -/
def trimString (s : GoString) : GoString :=
  let blank : UInt8 → Bool := fun b => b = 0x20 || b = 0x09
  ((s.dropWhile blank).reverse.dropWhile blank).reverse

end golang.textproto

namespace myngrok.gatewayclient

/-- The header field of the agent's request as the gateway gets it. -/
def AgentHost.authorization (a : AgentHost) : GoString := textproto.trimString (lit "Bearer " ++ a.token)

end myngrok.gatewayclient

namespace myngrok.server

/-- How far `handshake` has got with a connection; `ended` is after it has returned. -/
inductive GatewaySide where
  | waiting
  | greeted (hello : ClientHelloPayload) (sessionID : GoString)
  | found (hello : ClientHelloPayload) (sessionID tokenID userID : GoString)
  | upserted (sessionID agentID : GoString)
  | registered (sessionID : GoString)
  | serving (sessionID : GoString)
  | ended
  deriving DecidableEq

/-- How far `Connect` has got; it has called `connected` with the session ID in the end, or returned an error. -/
inductive AgentSide where
  | dialled
  | greeted
  | connected (sessionID : GoString)
  | failed
  deriving DecidableEq

/-- A connection that the gateway has accepted: the agent, the token that the gateway has read from its request, the two
    ends, and the messages under way. -/
structure Upgraded where
  agent : AgentHost
  rawToken : GoString
  gatewaySide : GatewaySide
  agentSide : AgentSide
  toGateway : List Message
  toAgent : List Message
  deriving DecidableEq

/-- The database, the connections by a number of their own, the session IDs that have been drawn with the connection
    they were drawn for, and the calls of `Register` so far. -/
structure Handshakes where
  store : Store
  connections : Map Nat Upgraded
  drawn : Map GoString Nat
  registered : List (Nat × Session)

inductive HandshakeEvent where
  | store (e : StoreEvent)
  | dial (connection : Nat) (agent : AgentHost) (now : Time)
  | sendHello (connection : Nat)
  | readHello (connection : Nat) (random : Option Bytes)
  | findToken (connection : Nat) (now : Time)
  | upsert (connection : Nat) (fresh : GoString) (now : Time) (used : Bool)
  | register (connection : Nat) (outbound : Chan) (now : Nat)
  | writeHello (connection : Nat)
  | readServerHello (connection : Nat)
  | lose (connection : Nat)

/-- The ID that the `INSERT … ON CONFLICT` of `agents.Connect` returns. -/
def Store.upsertedID (s : Store) (userID : GoString) (hello : ClientHelloPayload) (fresh : GoString) : GoString :=
  match sql.select s.agents fun old => old.userID = userID ∧ old.instanceID = hello.instanceID with
  | id :: _ => id
  | [] => fresh

namespace Handshakes

def start : Handshakes := { store := .start, connections := ∅, drawn := ∅, registered := [] }

def setConnection (s : Handshakes) (connection : Nat) (c : Upgraded) : Handshakes :=
  { s with connections := s.connections.insert connection c }

/-- The first message of a connection, and the session ID that is drawn for it. A read that exceeds the limit fails. -/
def readHello (s : Handshakes) (connection : Nat) (c : Upgraded) (message : Message) (rest : List Message)
    (random : Option Bytes) : Option Handshakes :=
  let c := { c with toGateway := rest }
  let closed := s.setConnection connection { c with gatewaySide := .ended }
  if message.data.length > gateway.websocketReadLimit then some closed
  else
    match readClientHello message.data, newSessionID random with
    | none, _ => some closed
    | some _, none => some closed
    | some hello, some sessionID =>
      if sessionID ∈ s.drawn then none
      else some ({ s with drawn := s.drawn.insert sessionID connection }.setConnection connection
        { c with gatewaySide := .greeted hello sessionID })

/-- `ServeHTTP` up to the upgrade: the request is answered with 401, or the connection is accepted. The agent does not
    send a request whose header field is malformed. -/
def dial (hash : GoString → GoString) (s : Handshakes) (connection : Nat) (agent : AgentHost) (now : Time) : Handshakes :=
  let rawToken := bearer agent.authorization
  if http.validHeaderFieldValue (lit "Bearer " ++ agent.token) ∧ strings.hasPrefix rawToken (lit "tkn_") ∧
      valid s.store.tokenRows (hash rawToken) now then
    s.setConnection connection
      { agent, rawToken, gatewaySide := .waiting, agentSide := .dialled, toGateway := [], toAgent := [] }
  else s

/-- The head of `agents.Connect` and its query for the token. -/
def findToken (hash : GoString → GoString) (s : Handshakes) (connection : Nat) (c : Upgraded)
    (hello : ClientHelloPayload) (sessionID : GoString) (now : Time) : Handshakes :=
  let side :=
    if strings.trimSpace hello.instanceID = [] ∨ strings.trimSpace hello.hostname = [] then .ended
    else
      match s.store.findToken (hash c.rawToken) now with
      | none => .ended
      | some (tokenID, token) => .found hello sessionID tokenID token.userID
  s.setConnection connection { c with gatewaySide := side }

/-- One step of the gateway, of an agent, or of the rest of the system on the database. -/
def step (service : auth.AccessService) (hash : GoString → GoString) (s : Handshakes) : HandshakeEvent → Option Handshakes
  | .store e => (s.store.step service e).map fun store => { s with store }
  | .dial connection agent now => if connection ∈ s.connections then none else some (s.dial hash connection agent now)
  | .sendHello connection =>
    match s.connections.lookup connection with
    | some c =>
      if c.agentSide = .dialled then
        some (s.setConnection connection
          { c with agentSide := .greeted, toGateway := c.toGateway ++ [c.agent.helloMessage] })
      else none
    | none => none
  | .readHello connection random =>
    match s.connections.lookup connection with
    | some c =>
      match c.gatewaySide, c.toGateway with
      | .waiting, message :: rest => s.readHello connection c message rest random
      | _, _ => none
    | none => none
  | .findToken connection now =>
    match s.connections.lookup connection with
    | some c =>
      match c.gatewaySide with
      | .greeted hello sessionID => some (s.findToken hash connection c hello sessionID now)
      | _ => none
    | none => none
  | .upsert connection fresh now used =>
    match s.connections.lookup connection with
    | some c =>
      match c.gatewaySide with
      | .found hello sessionID tokenID userID =>
        if fresh ∈ s.store.agents then none
        else
          match stored hello with
          | .error _ => some (s.setConnection connection { c with gatewaySide := .ended })
          | .ok hello =>
            let store := s.store.upsertAgent userID tokenID hello fresh now
            let store := if used then store.useToken tokenID now else store
            some ({ s with store }.setConnection connection
              { c with gatewaySide := .upserted sessionID (s.store.upsertedID userID hello fresh) })
      | _ => none
    | none => none
  | .register connection outbound now =>
    match s.connections.lookup connection with
    | some c =>
      match c.gatewaySide with
      | .upserted sessionID agentID =>
        let session := { id := sessionID, agentID, agentTokenHash := hash c.rawToken, lastSeen := some now
                         outbound := some outbound }
        some ({ s with registered := (connection, session) :: s.registered }.setConnection connection
          { c with gatewaySide := .registered sessionID })
      | _ => none
    | none => none
  | .writeHello connection =>
    match s.connections.lookup connection with
    | some c =>
      match c.gatewaySide with
      | .registered sessionID =>
        some (s.setConnection connection
          { c with gatewaySide := .serving sessionID, toAgent := c.toAgent ++ [serverHelloMessage sessionID] })
      | _ => none
    | none => none
  | .readServerHello connection =>
    match s.connections.lookup connection with
    | some c =>
      match c.agentSide, c.toAgent with
      | .greeted, message :: rest =>
        let side :=
          if message.data.length > gatewayclient.websocketReadLimit then .failed
          else
            match gatewayclient.readServerHello message.data with
            | some sessionID => .connected sessionID
            | none => .failed
        some (s.setConnection connection { c with agentSide := side, toAgent := rest })
      | _, _ => none
    | none => none
  | .lose connection =>
    match s.connections.lookup connection with
    | some c => some (s.setConnection connection { c with gatewaySide := .ended, toGateway := [], toAgent := [] })
    | none => none

variable {service : auth.AccessService} {hash : GoString → GoString} {s next : Handshakes}

section

variable (service : auth.AccessService) (hash : GoString → GoString) (s : Handshakes)

/-- The ways a step can go. -/
inductive Step : HandshakeEvent → Handshakes → Prop where
  | store {e store} (hstore : s.store.step service e = some store) : Step (.store e) { s with store }
  | refused {connection agent now} : Step (.dial connection agent now) s
  | dial {connection} {agent : AgentHost} {now} (hnew : connection ∉ s.connections)
      (hvalid : valid s.store.tokenRows (hash (bearer agent.authorization)) now = true) :
    Step (.dial connection agent now) (s.setConnection connection
      { agent, rawToken := bearer agent.authorization, gatewaySide := .waiting, agentSide := .dialled, toGateway := []
        toAgent := [] })
  | sendHello {connection} {c : Upgraded} (hc : s.connections.lookup connection = some c)
      (hside : c.agentSide = .dialled) :
    Step (.sendHello connection) (s.setConnection connection
      { c with agentSide := .greeted, toGateway := c.toGateway ++ [c.agent.helloMessage] })
  | closed {e connection} {c : Upgraded} {toGateway toAgent} (hc : s.connections.lookup connection = some c)
      (hgateway : toGateway ⊆ c.toGateway) (hagent : toAgent ⊆ c.toAgent) :
    Step e (s.setConnection connection { c with gatewaySide := .ended, toGateway, toAgent })
  | greet {connection} {c : Upgraded} {message : Message} {rest random hello sessionID}
      (hc : s.connections.lookup connection = some c) (hside : c.gatewaySide = .waiting)
      (hmessages : c.toGateway = message :: rest) (hhello : readClientHello message.data = some hello)
      (hdrawn : newSessionID random = some sessionID) (hnew : sessionID ∉ s.drawn) :
    Step (.readHello connection random)
      ({ s with drawn := s.drawn.insert sessionID connection }.setConnection connection
        { c with toGateway := rest, gatewaySide := .greeted hello sessionID })
  | find {connection} {c : Upgraded} {hello : ClientHelloPayload} {sessionID tokenID now} {token : TokenRecord}
      (hc : s.connections.lookup connection = some c) (hside : c.gatewaySide = .greeted hello sessionID)
      (hinstance : strings.trimSpace hello.instanceID ≠ []) (hhostname : strings.trimSpace hello.hostname ≠ [])
      (hfound : s.store.findToken (hash c.rawToken) now = some (tokenID, token)) :
    Step (.findToken connection now)
      (s.setConnection connection { c with gatewaySide := .found hello sessionID tokenID token.userID })
  | upsert {connection} {c : Upgraded} {hello kept sessionID tokenID userID fresh now used store}
      (hc : s.connections.lookup connection = some c) (hside : c.gatewaySide = .found hello sessionID tokenID userID)
      (hfresh : fresh ∉ s.store.agents) (hkept : stored hello = .ok kept)
      (hstore : store = if used then (s.store.upsertAgent userID tokenID kept fresh now).useToken tokenID now
        else s.store.upsertAgent userID tokenID kept fresh now) :
    Step (.upsert connection fresh now used)
      ({ s with store }.setConnection connection
        { c with gatewaySide := .upserted sessionID (s.store.upsertedID userID kept fresh) })
  | register {connection} {c : Upgraded} {sessionID agentID outbound now}
      (hc : s.connections.lookup connection = some c) (hside : c.gatewaySide = .upserted sessionID agentID) :
    Step (.register connection outbound now)
      ({ s with registered := (connection, { id := sessionID, agentID, agentTokenHash := hash c.rawToken
                                             lastSeen := some now, outbound := some outbound }) :: s.registered
        }.setConnection connection { c with gatewaySide := .registered sessionID })
  | writeHello {connection} {c : Upgraded} {sessionID} (hc : s.connections.lookup connection = some c)
      (hside : c.gatewaySide = .registered sessionID) :
    Step (.writeHello connection) (s.setConnection connection
      { c with gatewaySide := .serving sessionID, toAgent := c.toAgent ++ [serverHelloMessage sessionID] })
  | connected {connection} {c : Upgraded} {message : Message} {rest sessionID}
      (hc : s.connections.lookup connection = some c) (hmessages : c.toAgent = message :: rest)
      (hread : gatewayclient.readServerHello message.data = some sessionID) :
    Step (.readServerHello connection)
      (s.setConnection connection { c with agentSide := .connected sessionID, toAgent := rest })
  | failed {connection} {c : Upgraded} {message rest} (hc : s.connections.lookup connection = some c)
      (hmessages : c.toAgent = message :: rest) :
    Step (.readServerHello connection) (s.setConnection connection { c with agentSide := .failed, toAgent := rest })

end

theorem step_cases {e : HandshakeEvent} (h : s.step service hash e = some next) : Step service hash s e next := by
  cases e with
  | store e =>
    obtain ⟨store, hstore, rfl⟩ := Option.map_eq_some_iff.mp h
    exact .store hstore
  | dial connection agent now =>
    simp only [step] at h
    split at h <;> cases h
    rename_i hnew
    unfold dial
    dsimp only
    split
    · rename_i haccepted
      exact .dial hnew haccepted.2.2
    · exact .refused
  | sendHello connection =>
    simp only [step] at h
    split at h
    · rename_i c hc
      split at h <;> cases h
      rename_i hside
      exact .sendHello hc hside
    · cases h
  | readHello connection random =>
    simp only [step] at h
    split at h
    · rename_i c hc
      split at h
      · rename_i message rest hside hmessages
        have hrest : rest ⊆ c.toGateway := hmessages ▸ List.subset_cons_self message rest
        unfold readHello at h
        dsimp only at h
        split at h
        · cases h
          exact .closed hc hrest (List.Subset.refl _)
        · split at h
          · cases h
            exact .closed hc hrest (List.Subset.refl _)
          · cases h
            exact .closed hc hrest (List.Subset.refl _)
          · rename_i hhello hdrawn
            split at h <;> cases h
            rename_i hnew
            exact .greet hc hside hmessages hhello hdrawn hnew
      · cases h
    · cases h
  | findToken connection now =>
    simp only [step] at h
    split at h
    · rename_i c hc
      split at h
      · rename_i hello sessionID hside
        cases h
        unfold findToken
        dsimp only
        split
        · exact .closed hc (List.Subset.refl _) (List.Subset.refl _)
        · rename_i hnamed
          split
          · exact .closed hc (List.Subset.refl _) (List.Subset.refl _)
          · rename_i hfound
            exact .find hc hside (fun hblank => hnamed (.inl hblank)) (fun hblank => hnamed (.inr hblank)) hfound
      · cases h
    · cases h
  | upsert connection fresh now used =>
    simp only [step] at h
    split at h
    · rename_i c hc
      split at h
      · rename_i hside
        split at h
        · cases h
        · rename_i hfresh
          split at h
          · cases h
            exact .closed hc (List.Subset.refl _) (List.Subset.refl _)
          · rename_i hkept
            cases h
            exact .upsert hc hside hfresh hkept rfl
      · cases h
    · cases h
  | register connection outbound now =>
    simp only [step] at h
    split at h
    · rename_i c hc
      split at h
      · rename_i hside
        cases h
        exact .register hc hside
      · cases h
    · cases h
  | writeHello connection =>
    simp only [step] at h
    split at h
    · rename_i c hc
      split at h
      · rename_i hside
        cases h
        exact .writeHello hc hside
      · cases h
    · cases h
  | readServerHello connection =>
    simp only [step] at h
    split at h
    · rename_i c hc
      split at h
      · rename_i message rest hside hmessages
        cases h
        split
        · exact .failed hc hmessages
        · split
          · rename_i hread
            exact .connected hc hmessages hread
          · exact .failed hc hmessages
      · cases h
    · cases h
  | lose connection =>
    simp only [step] at h
    split at h
    · rename_i c hc
      cases h
      exact .closed hc (List.nil_subset _) (List.nil_subset _)
    · cases h

end Handshakes

end myngrok.server
