import Myngrok.Auth.Accounts
import Myngrok.Server.Store
import Myngrok.Transition.Purge

open golang myngrok.protocol myngrok.agents myngrok.tunnels myngrok.agenttokens myngrok.traffic

namespace golang.strings

def trimPrefix (s start : GoString) : GoString := if hasPrefix s start then s.drop start.length else s

end golang.strings

namespace myngrok.server

/-- The handlers of the management API that need a user. -/
inductive Api where
  | agentTokens
  | agents
  | tunnels
  | traffic

/-- A request, with what its handler meets with: what the body decodes to, the token that is drawn with its hash and the
    ID of its row, the time, and the errors of the query for the user and of the handler's own statement. -/
structure ApiRequest where
  method : GoString
  path : GoString
  authorization : GoString
  name : Option GoString
  drawn : Except Error GoString
  tokenHash : GoString
  id : GoString
  now : Time
  load : Option Error
  failure : Option Error

inductive ApiData where
  | tokens (items : List Token)
  | created (token : CreatedToken)
  | agents (items : List Agent)
  | tunnels (items : List Tunnel)
  | totals (totals : Totals)
  deriving DecidableEq

inductive ApiReply where
  | error (status : Int) (code message : GoString)
  | data (status : Int) (data : ApiData)
  | noContent
  deriving DecidableEq

/-- The reply, the token hash that is handed to `DisconnectTokenHash`, and the database afterwards. -/
structure Served where
  reply : ApiReply
  disconnects : Option GoString
  store : Store

def unauthorized : ApiReply := .error 401 (lit "UNAUTHORIZED") (lit "Authentication required")

def routeNotFound : ApiReply := .error 404 (lit "NOT_FOUND") (lit "Route not found")

def internalError (message : GoString) : ApiReply := .error 500 (lit "INTERNAL_ERROR") message

def bearer (authorization : GoString) : GoString :=
  strings.trimSpace (strings.trimPrefix authorization (lit "Bearer "))

namespace Store

/-- `agenttokens.Create` and the answer to it. -/
def create (s : Store) (userID : GoString) (r : ApiRequest) : Served :=
  match r.name with
  | none => ⟨.error 400 (lit "INVALID_JSON") (lit "Request body must be valid JSON"), none, s⟩
  | some name =>
    let name := strings.trimSpace name
    let refused (err : Error) : Served := ⟨.error 400 (lit "INVALID_TOKEN_NAME") err, none, s⟩
    if name = [] ∨ name.length > 128 then refused (lit "token name must be 1-128 characters")
    else
      match r.drawn, r.failure with
      | .error err, _ => refused (lit "generate token: " ++ err)
      | .ok _, some err => refused (lit "create agent token: " ++ err)
      | .ok raw, none =>
        let token := { id := r.id, name, tokenPrefix := visiblePrefix raw, createdAt := r.now, lastUsedAt := none
                       expiresAt := none, revokedAt := none }
        ⟨.data 201 (.created { token, plaintext := raw }), none, s.insertToken userID name raw r.tokenHash r.id r.now⟩

def revoke (s : Store) (userID : GoString) (r : ApiRequest) : Served :=
  let id := strings.trimPrefix r.path (lit "/api/v1/agent-tokens/")
  if id = [] ∨ 0x2F ∈ id then ⟨routeNotFound, none, s⟩
  else
    match r.failure with
    | some _ => ⟨internalError (lit "Unable to revoke token"), none, s⟩
    | none =>
      match s.revokeToken userID id r.now with
      | (none, s) => ⟨.error 404 (lit "NOT_FOUND") (lit "Token not found"), none, s⟩
      | (some tokenHash, s) => ⟨.noContent, some tokenHash, s⟩

/-- A handler that loads something. -/
def loads (s : Store) (r : ApiRequest) (unable : GoString) (data : ApiData) : Served :=
  match r.failure with
  | some _ => ⟨internalError unable, none, s⟩
  | none => ⟨.data 200 data, none, s⟩

def serveAgentTokens (s : Store) (userID : GoString) (r : ApiRequest) : Served :=
  if r.path = lit "/api/v1/agent-tokens" ∧ r.method = lit "GET" then
    s.loads r (lit "Unable to load tokens") (.tokens (s.listTokens userID))
  else if r.path = lit "/api/v1/agent-tokens" ∧ r.method = lit "POST" then s.create userID r
  else if strings.hasPrefix r.path (lit "/api/v1/agent-tokens/") ∧ r.method = lit "DELETE" then s.revoke userID r
  else ⟨routeNotFound, none, s⟩

/-- A handler with one route. -/
def servesOne (s : Store) (r : ApiRequest) (path unable : GoString) (data : ApiData) : Served :=
  if r.path ≠ path ∨ r.method ≠ lit "GET" then ⟨routeNotFound, none, s⟩ else s.loads r unable data

def serveAgents (s : Store) (userID : GoString) (r : ApiRequest) : Served :=
  s.servesOne r (lit "/api/v1/agents") (lit "Unable to load agents") (.agents (s.listAgents userID))

def serveTunnels (s : Store) (userID : GoString) (r : ApiRequest) : Served :=
  s.servesOne r (lit "/api/v1/tunnels") (lit "Unable to load tunnels") (.tunnels (s.listTunnels userID))

def serveTraffic (s : Store) (userID : GoString) (r : ApiRequest) : Served :=
  s.servesOne r (lit "/api/v1/traffic") (lit "Unable to load traffic totals") (.totals (s.getTotals userID))

/-- The user of a request. -/
def user (service : auth.AccessService) (s : Store) (r : ApiRequest) : Except Error auth.User :=
  service.userFromAccessToken { users := s.users, refreshTokens := ∅ } (bearer r.authorization) r.now r.load

def serve (service : auth.AccessService) (s : Store) (api : Api) (r : ApiRequest) : Served :=
  match s.user service r with
  | .error _ => ⟨unauthorized, none, s⟩
  | .ok user =>
    match api with
    | .agentTokens => s.serveAgentTokens user.id r
    | .agents => s.serveAgents user.id r
    | .tunnels => s.serveTunnels user.id r
    | .traffic => s.serveTraffic user.id r

end Store

/-- What changes the tables: registrations, requests to the management API, the statements of the agents' sessions, and
    the flushes of the traffic. -/
inductive StoreEvent where
  | register (email passwordHash id : GoString)
  | request (api : Api) (r : ApiRequest)
  | connect (tokenHash : GoString) (hello : ClientHelloPayload) (fresh : GoString) (now : Time) (used : Bool)
  | touch (agentID : GoString) (now : Time)
  | disconnect (agentID : GoString) (now : Time)
  | closeTunnels (agentID : GoString) (now : Time)
  | reopen (agentID localAddress id : GoString) (now : Time)
  | insertTunnel (agentID subdomain localAddress id : GoString) (now : Time)
  | addDelta (userID : GoString) (delta : Totals)

namespace Store

/-- What a new row is given at random, or by its user, is not in use. -/
def fresh (s : Store) : StoreEvent → Bool
  | .register email _ id => id ∉ s.users ∧ sql.rows s.users (fun row => row.email = email) = []
  | .request _ r => r.id ∉ s.tokens ∧ sql.rows s.tokens (fun row => row.tokenHash = r.tokenHash) = []
  | .connect _ _ fresh _ _ => fresh ∉ s.agents
  | .insertTunnel _ subdomain _ id _ => id ∉ s.tunnels ∧ sql.rows s.tunnels (fun row => row.subdomain = subdomain) = []
  | _ => true

/-- `agents.Connect`. `used` tells whether the last statement succeeds. -/
def connect (s : Store) (tokenHash : GoString) (hello : ClientHelloPayload) (fresh : GoString) (now : Time)
    (used : Bool) : Store :=
  if strings.trimSpace hello.instanceID = [] ∨ strings.trimSpace hello.hostname = [] then s
  else
    match s.findToken tokenHash now with
    | none => s
    | some (tokenID, token) =>
      match stored hello with
      | .error _ => s
      | .ok hello =>
        let s := s.upsertAgent token.userID tokenID hello fresh now
        if used then s.useToken tokenID now else s

def step (service : auth.AccessService) (s : Store) (e : StoreEvent) : Option Store :=
  if s.fresh e then
    match e with
    | .register email passwordHash id => some (s.insertUser email passwordHash id)
    | .request api r => some (s.serve service api r).store
    | .connect tokenHash hello fresh now used => some (s.connect tokenHash hello fresh now used)
    | .touch agentID now => some (s.touch agentID now)
    | .disconnect agentID now => some (s.disconnect agentID now)
    | .closeTunnels agentID now => some (s.closeAgentTunnels agentID now)
    | .reopen agentID localAddress id now =>
      if s.selectsClosed agentID localAddress id then some (s.reopen id now) else none
    | .insertTunnel agentID subdomain localAddress id now =>
      (s.agents.lookup agentID).map fun agent => s.insertTunnel agent.userID agentID subdomain localAddress id now
    | .addDelta userID delta => some (s.addDelta userID delta)
  else none

/-- What the sender of a request gets, and the sessions that it makes the gateway disconnect. -/
def reply (service : auth.AccessService) (s : Store) : StoreEvent → List (ApiReply × Option GoString)
  | .request api r => [((s.serve service api r).reply, (s.serve service api r).disconnects)]
  | _ => []

def agentUser (s : Store) (agentID : GoString) : Option GoString := (s.agents.lookup agentID).map fun row => row.userID

/-- For whom something happens: the user of a token, of an agent, or of an account. -/
def owner (service : auth.AccessService) (s : Store) : StoreEvent → Option GoString
  | .register _ _ id => some id
  | .request _ r => (s.user service r).toOption.map fun user => user.id
  | .connect tokenHash _ _ now _ => (s.findToken tokenHash now).map fun token => token.2.userID
  | .touch agentID _ => s.agentUser agentID
  | .disconnect agentID _ => s.agentUser agentID
  | .closeTunnels agentID _ => s.agentUser agentID
  | .reopen agentID _ _ _ => s.agentUser agentID
  | .insertTunnel agentID _ _ _ _ => s.agentUser agentID
  | .addDelta userID _ => some userID

end Store

end myngrok.server
