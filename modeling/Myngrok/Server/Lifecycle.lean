import Myngrok.Gateway.SessionManager
import Myngrok.Transition.Run
import Myngrok.Tunnels.Registry
import Myngrok.Tunnels.Service

open golang myngrok.protocol myngrok.gateway myngrok.agents myngrok.tunnels

namespace myngrok.server

/-- Where the handler of an agent connection stands: past `agents.Connect`, in the loop of `serveSession`, in one of the
    steps of an `open_tunnel` message (before the `INSERT`, before `registry.Open`, before the answer), back from the
    loop, or past one of the deferred `Remove`, `CloseSession`, `CloseAgentTunnels` and `Disconnect`. -/
inductive Phase where
  | connected
  | serving
  | creating (agentID : GoString) (payload : OpenTunnelPayload) (subdomain : GoString)
  | opening (payload : OpenTunnelPayload) (tunnel : ActiveTunnel)
  | opened (payload : OpenTunnelPayload) (tunnel : ActiveTunnel)
  | ended
  | removed
  | unrouted
  | closed
  | gone
  deriving DecidableEq

structure Connection where
  agentID : GoString
  phase : Phase
  deriving DecidableEq

/-- A `tunnel_opened` answer and the tunnel it is about. -/
structure Answer where
  tunnel : ActiveTunnel
  opened : TunnelOpenedPayload
  deriving DecidableEq

/-- The two tables of the database, the session manager and the registry of the gateway process, its agent connections
    by their session IDs, and the answers given so far. -/
structure Server where
  agents : Agents
  tunnels : Tunnels
  sessions : SessionManager
  registry : Registry
  connections : Map GoString Connection
  answers : List Answer

/-- `succeeds` tells whether a statement whose error is ignored succeeds; a statement whose error ends the loop does
    nothing but that when it fails. -/
inductive ServerEvent where
  | connect (sessionID : GoString) (token : Except Error (GoString × GoString)) (hello : ClientHelloPayload)
    (fresh : GoString)
  | register (sessionID tokenHash : GoString) (outbound : Chan) (now : Nat)
  | reopen (sessionID : GoString) (payload : OpenTunnelPayload) (selected : Option GoString) (subdomain : GoString)
    (now : Time)
  | create (sessionID id : GoString) (now : Time)
  | route (sessionID : GoString)
  | answer (sessionID : GoString)
  | leave (sessionID : GoString)
  | remove (sessionID : GoString)
  | closeRoutes (sessionID : GoString) (order : List GoString)
  | closeTunnels (sessionID : GoString) (now : Time) (succeeds : Bool)
  | disconnect (sessionID : GoString) (succeeds : Bool)
  | restart

/-- The loop of `serveSession` may return from here. -/
def Phase.mayLeave : Phase → Bool
  | .serving => true
  | .creating .. => true
  | .opened .. => true
  | _ => false

/-- The session is in the session manager. -/
def Phase.registered : Phase → Bool
  | .serving => true
  | .creating .. => true
  | .opening .. => true
  | .opened .. => true
  | .ended => true
  | _ => false

/-- The tunnel whose row has been opened. -/
def Phase.tunnel : Phase → Option ActiveTunnel
  | .opening _ tunnel => some tunnel
  | .opened _ tunnel => some tunnel
  | _ => none

/-- The result of the `openTunnel` callback, with the ID of the request. -/
def openedPayload (baseDomain : GoString) (payload : OpenTunnelPayload) (tunnel : ActiveTunnel) : TunnelOpenedPayload :=
  { requestID := payload.requestID, tunnelID := tunnel.id, subdomain := tunnel.subdomain
    publicURL := lit "https://" ++ tunnel.subdomain ++ lit "." ++ baseDomain }

def answerTo (baseDomain : GoString) (payload : OpenTunnelPayload) (tunnel : ActiveTunnel) : Answer :=
  { tunnel, opened := openedPayload baseDomain payload tunnel }

/-- The session that `handshake` registers. -/
def newSession (sessionID agentID tokenHash : GoString) (outbound : Chan) : Session :=
  { id := sessionID, agentID, agentTokenHash := tokenHash, lastSeen := none, outbound := some outbound }

namespace Server

def start : Server :=
  { agents := ∅, tunnels := ∅, sessions := newSessionManager, registry := newRegistry, connections := ∅, answers := [] }

def setPhase (s : Server) (sessionID agentID : GoString) (phase : Phase) : Server :=
  { s with connections := s.connections.insert sessionID { agentID, phase } }

/-- The tunnel that is opened for a row. -/
def activeTunnel (sessionID agentID : GoString) (payload : OpenTunnelPayload) (id : GoString) (row : TunnelRow) :
    ActiveTunnel :=
  { id, subdomain := row.subdomain, agentID, userID := row.userID, sessionID, localAddress := payload.localAddress }

/-- One statement, or one action under a lock, of one connection; or a new process. IDs that are generated are fresh. -/
def step (baseDomain : GoString) (s : Server) : ServerEvent → Option Server
  | .connect sessionID token hello fresh =>
    if sessionID ∉ s.connections ∧ fresh ∉ s.agents ∧ fresh ≠ [] then
      if hello.protocolVersion ≠ version then some s
      else
        match agents.connect s.agents token hello fresh with
        | .error _ => some s
        | .ok (agentID, agents) => some ({ s with agents }.setPhase sessionID agentID .connected)
    else none
  | .register sessionID tokenHash outbound now =>
    match s.connections.lookup sessionID with
    | some { agentID, phase := .connected } =>
      let sessions := s.sessions.register (newSession sessionID agentID tokenHash outbound) now
      some ({ s with sessions }.setPhase sessionID agentID .serving)
    | _ => none
  | .reopen sessionID payload selected subdomain now =>
    match s.connections.lookup sessionID, s.sessions.agentID sessionID with
    | some { agentID := own, phase := .serving }, some agentID =>
      if payload.requestID ≠ [] ∧ strings.trimSpace payload.localAddress ≠ [] ∧
          selectsClosed s.tunnels agentID payload.localAddress selected then
        match selected with
        | none => some (s.setPhase sessionID own (.creating agentID payload subdomain))
        | some id =>
          (s.tunnels.lookup id).map fun row =>
            { s with tunnels := tunnels.reopen s.tunnels id now }.setPhase sessionID own
              (.opening payload (activeTunnel sessionID agentID payload id row))
      else none
    | _, _ => none
  | .create sessionID id now =>
    match s.connections.lookup sessionID with
    | some { agentID := own, phase := .creating agentID payload subdomain } =>
      (tunnels.create s.tunnels s.agents agentID subdomain payload.localAddress id now).bind fun tunnels =>
        (tunnels.lookup id).map fun row =>
          { s with tunnels }.setPhase sessionID own
            (.opening payload (activeTunnel sessionID agentID payload id row))
    | _ => none
  | .route sessionID =>
    match s.connections.lookup sessionID with
    | some { agentID, phase := .opening payload tunnel } =>
      some ({ s with registry := s.registry.open tunnel }.setPhase sessionID agentID (.opened payload tunnel))
    | _ => none
  | .answer sessionID =>
    match s.connections.lookup sessionID with
    | some { agentID, phase := .opened payload tunnel } =>
      some ({ s with answers := s.answers ++ [answerTo baseDomain payload tunnel] }.setPhase sessionID agentID .serving)
    | _ => none
  | .leave sessionID =>
    match s.connections.lookup sessionID with
    | some { agentID, phase } => if phase.mayLeave then some (s.setPhase sessionID agentID .ended) else none
    | none => none
  | .remove sessionID =>
    match s.connections.lookup sessionID with
    | some { agentID, phase := .ended } =>
      let sessions := (s.sessions.removeLocked sessionID s.sessions.pending.keys).1
      some ({ s with sessions }.setPhase sessionID agentID .removed)
    | _ => none
  | .closeRoutes sessionID order =>
    match s.connections.lookup sessionID with
    | some { agentID, phase := .removed } =>
      if order.Perm s.registry.byID.keys then
        some ({ s with registry := s.registry.closeSession sessionID order }.setPhase sessionID agentID .unrouted)
      else none
    | _ => none
  | .closeTunnels sessionID now succeeds =>
    match s.connections.lookup sessionID with
    | some { agentID, phase := .unrouted } =>
      let tunnels := if succeeds then closeAgentTunnels s.tunnels agentID now else s.tunnels
      some ({ s with tunnels }.setPhase sessionID agentID .closed)
    | _ => none
  | .disconnect sessionID succeeds =>
    match s.connections.lookup sessionID with
    | some { agentID, phase := .closed } =>
      let agents := if succeeds ∧ agentID ≠ [] then agents.disconnect s.agents agentID else s.agents
      some ({ s with agents }.setPhase sessionID agentID .gone)
    | _ => none
  | .restart => some { s with
      sessions := newSessionManager, registry := newRegistry
      connections := sql.update s.connections (fun _ _ => true) fun connection => { connection with phase := .gone } }

theorem setPhase_lookup (s : Server) (sessionID agentID : GoString) (phase : Phase) (query : GoString) :
    (s.setPhase sessionID agentID phase).connections.lookup query =
      if query = sessionID then some { agentID, phase } else s.connections.lookup query :=
  Map.lookup_insert_eq _ _ _ _

section

variable (baseDomain : GoString) (s : Server)

/-- The ways a step can go. -/
inductive Step : ServerEvent → Server → Prop where
  | rejected {sessionID token hello fresh} : Step (.connect sessionID token hello fresh) s
  | connect {sessionID token hello fresh agentID agents} (hnew : sessionID ∉ s.connections) (hfresh : fresh ∉ s.agents)
      (hnonempty : fresh ≠ []) (hconnect : myngrok.agents.connect s.agents token hello fresh = .ok (agentID, agents)) :
    Step (.connect sessionID token hello fresh) ({ s with agents }.setPhase sessionID agentID .connected)
  | register {sessionID agentID tokenHash outbound now}
      (hphase : s.connections.lookup sessionID = some { agentID, phase := .connected }) :
    Step (.register sessionID tokenHash outbound now)
      ({ s with sessions := s.sessions.register (newSession sessionID agentID tokenHash outbound) now }.setPhase
        sessionID agentID .serving)
  | missing {sessionID own agentID subdomain} {payload : OpenTunnelPayload} {now}
      (hphase : s.connections.lookup sessionID = some { agentID := own, phase := .serving })
      (hagent : s.sessions.agentID sessionID = some agentID)
      (hselect : selectsClosed s.tunnels agentID payload.localAddress none = true) :
    Step (.reopen sessionID payload none subdomain now) (s.setPhase sessionID own (.creating agentID payload subdomain))
  | reopen {sessionID own agentID id subdomain} {payload : OpenTunnelPayload} {row now}
      (hphase : s.connections.lookup sessionID = some { agentID := own, phase := .serving })
      (hagent : s.sessions.agentID sessionID = some agentID)
      (hselect : selectsClosed s.tunnels agentID payload.localAddress (some id) = true)
      (hrow : s.tunnels.lookup id = some row) :
    Step (.reopen sessionID payload (some id) subdomain now)
      ({ s with tunnels := tunnels.reopen s.tunnels id now }.setPhase sessionID own
        (.opening payload (activeTunnel sessionID agentID payload id row)))
  | create {sessionID own agentID subdomain id} {payload : OpenTunnelPayload} {tunnels : Tunnels} {row now}
      (hphase : s.connections.lookup sessionID =
        some { agentID := own, phase := .creating agentID payload subdomain })
      (hcreate : myngrok.tunnels.create s.tunnels s.agents agentID subdomain payload.localAddress id now = some tunnels)
      (hrow : tunnels.lookup id = some row) :
    Step (.create sessionID id now)
      ({ s with tunnels }.setPhase sessionID own
        (.opening payload (activeTunnel sessionID agentID payload id row)))
  | route {sessionID agentID payload tunnel}
      (hphase : s.connections.lookup sessionID = some { agentID, phase := .opening payload tunnel }) :
    Step (.route sessionID)
      ({ s with registry := s.registry.open tunnel }.setPhase sessionID agentID (.opened payload tunnel))
  | answer {sessionID agentID payload tunnel}
      (hphase : s.connections.lookup sessionID = some { agentID, phase := .opened payload tunnel }) :
    Step (.answer sessionID)
      ({ s with answers := s.answers ++ [answerTo baseDomain payload tunnel] }.setPhase sessionID agentID .serving)
  | leave {sessionID agentID} {phase : Phase} (hphase : s.connections.lookup sessionID = some { agentID, phase })
      (hleave : phase.mayLeave) : Step (.leave sessionID) (s.setPhase sessionID agentID .ended)
  | remove {sessionID agentID} (hphase : s.connections.lookup sessionID = some { agentID, phase := .ended }) :
    Step (.remove sessionID)
      ({ s with sessions := (s.sessions.removeLocked sessionID s.sessions.pending.keys).1 }.setPhase sessionID
        agentID .removed)
  | closeRoutes {sessionID agentID} {order : List GoString}
      (hphase : s.connections.lookup sessionID = some { agentID, phase := .removed })
      (horder : order.Perm s.registry.byID.keys) :
    Step (.closeRoutes sessionID order)
      ({ s with registry := s.registry.closeSession sessionID order }.setPhase sessionID agentID .unrouted)
  | closeTunnels {sessionID agentID now succeeds}
      (hphase : s.connections.lookup sessionID = some { agentID, phase := .unrouted }) :
    Step (.closeTunnels sessionID now succeeds)
      ({ s with tunnels := if succeeds then closeAgentTunnels s.tunnels agentID now else s.tunnels }.setPhase
        sessionID agentID .closed)
  | disconnect {sessionID agentID succeeds}
      (hphase : s.connections.lookup sessionID = some { agentID, phase := .closed }) :
    Step (.disconnect sessionID succeeds)
      ({ s with agents := if succeeds ∧ agentID ≠ [] then agents.disconnect s.agents agentID else s.agents }.setPhase
        sessionID agentID .gone)
  | restart : Step .restart { s with
      sessions := newSessionManager, registry := newRegistry
      connections := sql.update s.connections (fun _ _ => true) fun connection => { connection with phase := .gone } }

end

theorem step_cases {baseDomain : GoString} {s next : Server} {e : ServerEvent} (h : s.step baseDomain e = some next) :
    s.Step baseDomain e next := by
  cases e with
  | connect sessionID token hello fresh =>
    simp only [step] at h
    split at h
    · rename_i hguard
      split at h
      · cases h
        exact .rejected
      · split at h <;> cases h
        · exact .rejected
        · rename_i agentID agents hconnect
          exact .connect hguard.1 hguard.2.1 hguard.2.2 hconnect
    · cases h
  | register sessionID tokenHash outbound now =>
    simp only [step] at h
    split at h <;> cases h
    rename_i agentID hphase
    exact .register hphase
  | reopen sessionID payload selected subdomain now =>
    simp only [step] at h
    split at h
    · rename_i own agentID hphase hagent
      split at h
      · rename_i hguard
        cases selected with
        | none =>
          cases h
          exact .missing hphase hagent hguard.2.2
        | some id =>
          obtain ⟨row, hrow, rfl⟩ := Option.map_eq_some_iff.mp h
          exact .reopen hphase hagent hguard.2.2 hrow
      · cases h
    · cases h
  | create sessionID id now =>
    simp only [step] at h
    split at h
    · rename_i own agentID payload subdomain hphase
      obtain ⟨tunnels, hcreate, hrest⟩ := Option.bind_eq_some_iff.mp h
      obtain ⟨row, hrow, rfl⟩ := Option.map_eq_some_iff.mp hrest
      exact .create hphase hcreate hrow
    · cases h
  | route sessionID =>
    simp only [step] at h
    split at h <;> cases h
    rename_i agentID payload tunnel hphase
    exact .route hphase
  | answer sessionID =>
    simp only [step] at h
    split at h <;> cases h
    rename_i agentID payload tunnel hphase
    exact .answer hphase
  | leave sessionID =>
    simp only [step] at h
    split at h
    · rename_i agentID phase hphase
      split at h <;> cases h
      rename_i hleave
      exact .leave hphase hleave
    · cases h
  | remove sessionID =>
    simp only [step] at h
    split at h <;> cases h
    rename_i agentID hphase
    exact .remove hphase
  | closeRoutes sessionID order =>
    simp only [step] at h
    split at h
    · rename_i agentID hphase
      split at h <;> cases h
      rename_i horder
      exact .closeRoutes hphase horder
    · cases h
  | closeTunnels sessionID now succeeds =>
    simp only [step] at h
    split at h <;> cases h
    rename_i agentID hphase
    exact .closeTunnels hphase
  | disconnect sessionID succeeds =>
    simp only [step] at h
    split at h <;> cases h
    rename_i agentID hphase
    exact .disconnect hphase
  | restart =>
    cases h
    exact .restart

end Server

end myngrok.server
