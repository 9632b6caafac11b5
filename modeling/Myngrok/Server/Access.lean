import Myngrok.AgentTokens.Service
import Myngrok.Server.Owners

open golang myngrok.protocol myngrok.agenttokens

namespace myngrok.gateway.SessionManager

/-- The sessions whose cancel functions `DisconnectTokenHash` collects. -/
def disconnectTokenHash (m : SessionManager) (tokenHash : GoString) : List GoString :=
  sql.select m.sessions fun session => session.agentTokenHash = tokenHash

theorem lookup_register (m : SessionManager) (session : Session) (now : Nat) :
    ∃ stored : Session, stored.agentTokenHash = session.agentTokenHash ∧
      ∀ id, (m.register session now).sessions.lookup id = if id = session.id then some stored else m.sessions.lookup id := by
  unfold register
  split
  · exact ⟨{ session with lastSeen := some now }, rfl, fun id => Map.lookup_insert_eq _ _ _ id⟩
  · exact ⟨session, rfl, fun id => Map.lookup_insert_eq _ _ _ id⟩

theorem lookup_of_removeLocked {m : SessionManager} {sessionID id : GoString} {order : List GoString}
    {session : Session} (h : (m.removeLocked sessionID order).1.sessions.lookup id = some session) :
    m.sessions.lookup id = some session := by
  simp only [removeLocked] at h
  split at h
  · rw [Map.lookup_erase_eq] at h
    split at h
    · cases h
    · exact h
  · exact h

end myngrok.gateway.SessionManager

namespace myngrok.server

open myngrok.gateway

/-- Where a request to revoke a token stands: past its `UPDATE`, in the loop of `DisconnectTokenHash` with some cancel
    functions left to be called, answered with 204 or with 404, or cut off because the process ended. -/
inductive RevokePhase where
  | updated (tokenHash : GoString)
  | cancelling (tokenHash : GoString) (cancels : List GoString)
  | noContent (tokenHash : GoString)
  | notFound
  | cutOff
  deriving DecidableEq

/-- What `agents.Connect` has in hand between its query for the token and its `INSERT`. -/
structure Found where
  hello : ClientHelloPayload
  tokenID : GoString
  userID : GoString
  deriving DecidableEq

/-- The gateway with the tokens that its connections present: the hash of the token of every connection that has passed
    the first check, by a number of the connection and, once it has one, by its session ID; the sessions that are in the
    middle of `agents.Connect`, or are past it (`none`); the sessions whose contexts have been cancelled; and the
    requests to revoke a token. -/
structure Access where
  tokens : AgentTokens
  gateway : Server
  validated : Map Nat GoString
  hashes : Map GoString GoString
  found : Map GoString (Option Found)
  cancelled : List GoString
  revokes : Map Nat RevokePhase

/-- `find` is the query of `agents.Connect` for the token, and `connect` its `INSERT`; `abandon` is a handshake that
    ends between the two. `session` is the life of a connection after its handshake; `cancel` is a context that ends for
    any other reason than a revocation. -/
inductive AccessEvent where
  | create (userID name raw tokenHash id : GoString)
  | validate (connection : Nat) (tokenHash : GoString) (now : Time)
  | find (connection : Nat) (sessionID : GoString) (hello : ClientHelloPayload) (now : Time)
  | connect (sessionID fresh : GoString)
  | abandon (sessionID : GoString)
  | register (sessionID : GoString) (outbound : Chan) (now : Nat)
  | session (e : ServerEvent)
  | cancel (sessionID : GoString)
  | revoke (request : Nat) (userID tokenID : GoString) (now : Time)
  | collect (request : Nat)
  | cancelNext (request : Nat) (sessionID : GoString)
  | answer (request : Nat)

/-- The steps of `handshake`. -/
def ServerEvent.handshake : ServerEvent → Bool
  | .connect .. => true
  | .register .. => true
  | _ => false

/-- A request that has not been answered does not outlive the process. -/
def RevokePhase.after (e : ServerEvent) (phase : RevokePhase) : RevokePhase :=
  match e, phase with
  | .restart, .updated _ => .cutOff
  | .restart, .cancelling .. => .cutOff
  | _, _ => phase

/-- A handshake does not either. -/
def foundAfter (e : ServerEvent) (found : Option Found) : Option Found :=
  match e with
  | .restart => none
  | _ => found

def validatedAfter (e : ServerEvent) (validated : Map Nat GoString) : Map Nat GoString :=
  match e with
  | .restart => ∅
  | _ => validated

namespace Access

def start : Access :=
  { tokens := ∅, gateway := .start, validated := ∅, hashes := ∅, found := ∅, cancelled := [], revokes := ∅ }

/-- What the query for the token finds, for a hello that is accepted. -/
def findToken (s : Access) (tokenHash : GoString) (hello : ClientHelloPayload) (now : Time) : Option Found :=
  if hello.protocolVersion ≠ version ∨ strings.trimSpace hello.instanceID = [] ∨ strings.trimSpace hello.hostname = [] then
    none
  else (agenttokens.find s.tokens tokenHash now).toOption.map fun token =>
    { hello, tokenID := token.1, userID := token.2 }

def setRevoke (s : Access) (request : Nat) (phase : RevokePhase) : Access :=
  { s with revokes := s.revokes.insert request phase }

def step (baseDomain : GoString) (s : Access) : AccessEvent → Option Access
  | .create userID name raw tokenHash id =>
    match agenttokens.create s.tokens userID name raw tokenHash id with
    | .ok tokens => some { s with tokens }
    | .error _ => some s
  | .validate connection tokenHash now =>
    if connection ∈ s.validated then none
    else if valid s.tokens tokenHash now then some { s with validated := s.validated.insert connection tokenHash }
    else some s
  | .find connection sessionID hello now =>
    match s.validated.lookup connection with
    | some tokenHash =>
      if sessionID ∈ s.hashes then none
      else some { s with
        validated := s.validated.erase connection, hashes := s.hashes.insert sessionID tokenHash
        found := s.found.insert sessionID (s.findToken tokenHash hello now) }
    | none => none
  | .connect sessionID fresh =>
    match s.found.lookup sessionID with
    | some (some token) =>
      (s.gateway.step baseDomain (.connect sessionID (.ok (token.tokenID, token.userID)) token.hello fresh)).map
        fun gateway => { s with gateway, found := s.found.insert sessionID none }
    | _ => none
  | .abandon sessionID =>
    match s.found.lookup sessionID with
    | some (some _) => some { s with found := s.found.insert sessionID none }
    | _ => none
  | .register sessionID outbound now =>
    match s.hashes.lookup sessionID with
    | some tokenHash =>
      (s.gateway.step baseDomain (.register sessionID tokenHash outbound now)).map fun gateway => { s with gateway }
    | none => none
  | .session e =>
    if e.handshake then none
    else (s.gateway.step baseDomain e).map fun gateway => { s with
      gateway, validated := validatedAfter e s.validated, found := sql.update s.found (fun _ _ => true) (foundAfter e)
      revokes := sql.update s.revokes (fun _ _ => true) (RevokePhase.after e) }
  | .cancel sessionID => some { s with cancelled := sessionID :: s.cancelled }
  | .revoke request userID tokenID now =>
    if request ∈ s.revokes then none
    else
      match agenttokens.revoke s.tokens userID tokenID now with
      | (some tokenHash, tokens) => some ({ s with tokens }.setRevoke request (.updated tokenHash))
      | (none, _) => some (s.setRevoke request .notFound)
  | .collect request =>
    match s.revokes.lookup request with
    | some (.updated tokenHash) =>
      some (s.setRevoke request (.cancelling tokenHash (s.gateway.sessions.disconnectTokenHash tokenHash)))
    | _ => none
  | .cancelNext request sessionID =>
    match s.revokes.lookup request with
    | some (.cancelling tokenHash cancels) =>
      if sessionID ∈ cancels then
        some ({ s with cancelled := sessionID :: s.cancelled }.setRevoke request
          (.cancelling tokenHash (cancels.erase sessionID)))
      else none
    | _ => none
  | .answer request =>
    match s.revokes.lookup request with
    | some (.cancelling tokenHash []) => some (s.setRevoke request (.noContent tokenHash))
    | _ => none

section

variable (baseDomain : GoString) (s : Access)

/-- The ways a step can go. -/
inductive Step : AccessEvent → Access → Prop where
  | create {userID name raw tokenHash id tokens} (hextends : Extends s.tokens tokens) :
    Step (.create userID name raw tokenHash id) { s with tokens }
  | refused {connection tokenHash now} : Step (.validate connection tokenHash now) s
  | validate {connection tokenHash now} (hvalid : valid s.tokens tokenHash now = true) :
    Step (.validate connection tokenHash now) { s with validated := s.validated.insert connection tokenHash }
  | find {connection sessionID tokenHash hello now} (hvalidated : s.validated.lookup connection = some tokenHash)
      (hnew : sessionID ∉ s.hashes) :
    Step (.find connection sessionID hello now)
      { s with validated := s.validated.erase connection, hashes := s.hashes.insert sessionID tokenHash
               found := s.found.insert sessionID (s.findToken tokenHash hello now) }
  | connect {sessionID fresh} {token : Found} {gateway} (hfound : s.found.lookup sessionID = some (some token))
      (hstep : s.gateway.step baseDomain (.connect sessionID (.ok (token.tokenID, token.userID)) token.hello fresh) =
        some gateway) : Step (.connect sessionID fresh) { s with gateway, found := s.found.insert sessionID none }
  | abandon {sessionID token} (hfound : s.found.lookup sessionID = some (some token)) :
    Step (.abandon sessionID) { s with found := s.found.insert sessionID none }
  | register {sessionID tokenHash outbound now gateway} (hhash : s.hashes.lookup sessionID = some tokenHash)
      (hstep : s.gateway.step baseDomain (.register sessionID tokenHash outbound now) = some gateway) :
    Step (.register sessionID outbound now) { s with gateway }
  | session {e : ServerEvent} {gateway} (hrest : e.handshake = false)
      (hstep : s.gateway.step baseDomain e = some gateway) :
    Step (.session e)
      { s with gateway, validated := validatedAfter e s.validated
               found := sql.update s.found (fun _ _ => true) (foundAfter e)
               revokes := sql.update s.revokes (fun _ _ => true) (RevokePhase.after e) }
  | cancel {sessionID} : Step (.cancel sessionID) { s with cancelled := sessionID :: s.cancelled }
  | revoke {request userID tokenID tokenHash now tokens} (hnew : request ∉ s.revokes)
      (hextends : Extends s.tokens tokens) (hrevoked : Revoked tokens tokenHash) :
    Step (.revoke request userID tokenID now) ({ s with tokens }.setRevoke request (.updated tokenHash))
  | missing {request userID tokenID now} (hnew : request ∉ s.revokes) :
    Step (.revoke request userID tokenID now) (s.setRevoke request .notFound)
  | collect {request tokenHash} (hphase : s.revokes.lookup request = some (.updated tokenHash)) :
    Step (.collect request)
      (s.setRevoke request (.cancelling tokenHash (s.gateway.sessions.disconnectTokenHash tokenHash)))
  | cancelNext {request sessionID tokenHash} {cancels : List GoString}
      (hphase : s.revokes.lookup request = some (.cancelling tokenHash cancels)) :
    Step (.cancelNext request sessionID)
      ({ s with cancelled := sessionID :: s.cancelled }.setRevoke request
        (.cancelling tokenHash (cancels.erase sessionID)))
  | answer {request tokenHash} (hphase : s.revokes.lookup request = some (.cancelling tokenHash [])) :
    Step (.answer request) (s.setRevoke request (.noContent tokenHash))

end

theorem step_cases {baseDomain : GoString} {s next : Access} {e : AccessEvent}
    (h : s.step baseDomain e = some next) : s.Step baseDomain e next := by
  cases e with
  | create userID name raw tokenHash id =>
    simp only [step] at h
    split at h <;> cases h
    · rename_i hcreate
      exact .create (extends_create hcreate)
    · exact .create .refl
  | validate connection tokenHash now =>
    simp only [step] at h
    split at h
    · cases h
    · split at h <;> cases h
      · rename_i hvalid
        exact .validate hvalid
      · exact .refused
  | find connection sessionID hello now =>
    simp only [step] at h
    split at h
    · rename_i hvalidated
      split at h <;> cases h
      rename_i hnew
      exact .find hvalidated hnew
    · cases h
  | connect sessionID fresh =>
    simp only [step] at h
    split at h
    · rename_i hfound
      obtain ⟨gateway, hstep, rfl⟩ := Option.map_eq_some_iff.mp h
      exact .connect hfound hstep
    · cases h
  | abandon sessionID =>
    simp only [step] at h
    split at h <;> cases h
    rename_i hfound
    exact .abandon hfound
  | register sessionID outbound now =>
    simp only [step] at h
    split at h
    · rename_i hhash
      obtain ⟨gateway, hstep, rfl⟩ := Option.map_eq_some_iff.mp h
      exact .register hhash hstep
    · cases h
  | session e =>
    simp only [step] at h
    split at h
    · cases h
    · rename_i hrest
      obtain ⟨gateway, hstep, rfl⟩ := Option.map_eq_some_iff.mp h
      exact .session (Bool.eq_false_iff.mpr hrest) hstep
  | cancel sessionID =>
    cases h
    exact .cancel
  | revoke request userID tokenID now =>
    simp only [step] at h
    split at h
    · cases h
    · rename_i hnew
      obtain hnone | ⟨tokenHash, tokens, hrevoke, hextends, hrevoked⟩ :=
        revoke_cases s.tokens userID tokenID now
      · rw [hnone] at h
        cases h
        exact .missing hnew
      · rw [hrevoke] at h
        cases h
        exact .revoke hnew hextends hrevoked
  | collect request =>
    simp only [step] at h
    split at h <;> cases h
    rename_i hphase
    exact .collect hphase
  | cancelNext request sessionID =>
    simp only [step] at h
    split at h
    · rename_i hphase
      split at h <;> cases h
      exact .cancelNext hphase
    · cases h
  | answer request =>
    simp only [step] at h
    split at h <;> cases h
    rename_i hphase
    exact .answer hphase

variable {s : Access} {tokenHash : GoString} {hello : ClientHelloPayload} {now : Time} {token : Found}

/-- What is found is a token that is in use. -/
theorem findToken_eq_some (h : s.findToken tokenHash hello now = some token) :
    agenttokens.find s.tokens tokenHash now = .ok (token.tokenID, token.userID) := by
  unfold findToken at h
  split at h
  · cases h
  · obtain ⟨⟨tokenID, userID⟩, hfind, rfl⟩ := Option.map_eq_some_iff.mp h
    cases hresult : agenttokens.find s.tokens tokenHash now with
    | error err =>
      rw [hresult] at hfind
      cases hfind
    | ok found =>
      rw [hresult] at hfind
      cases hfind
      rfl

/-- Nobody comes into the middle of `agents.Connect` by a session event. -/
theorem lookup_foundAfter {e : ServerEvent} {sessionID : GoString}
    (h : (sql.update s.found (fun _ _ => true) (foundAfter e)).lookup sessionID = some (some token)) :
    s.found.lookup sessionID = some (some token) := by
  rw [sql.lookup_update, Option.map_eq_some_iff] at h
  obtain ⟨found, hfound, hafter⟩ := h
  cases e with
  | restart => cases hafter
  | _ =>
    rw [hfound]
    exact congrArg some hafter

end Access

end myngrok.server
