import Myngrok.Server.AccessStore
import Myngrok.Server.HandshakeAgreement
import Myngrok.Server.Tenants

open golang transition websocket myngrok.protocol myngrok.agents myngrok.agenttokens myngrok.gateway
open myngrok.gatewayclient (AgentHost)

namespace myngrok.server

namespace Handshakes

/-- The session that the gateway prepares for a connection, until it is registered. -/
def pending : GatewaySide → Option GoString
  | .greeted _ sessionID => some sessionID
  | .found _ sessionID _ _ => some sessionID
  | .upserted sessionID _ => some sessionID
  | _ => none

/-- How far a connection with the token has got. -/
def Matches (a : Access) (i : Nat) (tokenHash : GoString) : GatewaySide → Prop
  | .waiting => a.validated.lookup i = some tokenHash
  | .greeted _ sessionID => a.validated.lookup i = some tokenHash ∧ a.hashes.lookup sessionID = none
  | .found hello sessionID tokenID userID => a.hashes.lookup sessionID = some tokenHash ∧
    a.found.lookup sessionID = some (some { hello, tokenID, userID }) ∧ Access.Accepts hello ∧
    a.gateway.connections.lookup sessionID = none ∧ a.gateway.sessions.sessions.lookup sessionID = none
  | .upserted sessionID agentID => a.hashes.lookup sessionID = some tokenHash ∧
    a.gateway.connections.lookup sessionID = some { agentID, phase := .connected } ∧
    a.gateway.sessions.sessions.lookup sessionID = none
  | _ => True

/-- The database holds the same tokens and the same installations, every connection has got as far, and what has been
    registered is registered. -/
structure Refines (hash : GoString → GoString) (s : Handshakes) (a : Access) : Prop where
  tables : a.Tables s.store
  numbers : ∀ i ∈ a.validated, i ∈ s.connections
  names : ∀ sessionID ∈ a.hashes, sessionID ∈ s.drawn
  sides : ∀ i c, s.connections.lookup i = some c → Matches a i (hash c.rawToken) c.gatewaySide
  registered : ∀ i session, (i, session) ∈ s.registered →
    a.gateway.sessions.sessions.lookup session.id = some session

variable {baseDomain : GoString} {service : auth.AccessService} {hash : GoString → GoString} {s next : Handshakes}
  {a a' : Access} {i : Nat} {c : Upgraded} {sessionID tokenHash : GoString} {side : GatewaySide} {now : Time}
  {hello : ClientHelloPayload}

theorem Matches.congr (h : Matches a i tokenHash side) (hvalidated : a'.validated.lookup i = a.validated.lookup i)
    (hagree : ∀ sessionID, pending side = some sessionID → Access.Agree a a' sessionID) :
    Matches a' i tokenHash side := by
  cases side with
  | waiting => exact hvalidated.trans h
  | greeted hello sessionID =>
    have hsame := hagree sessionID rfl
    exact ⟨hvalidated.trans h.1, hsame.hashes.trans h.2⟩
  | found hello sessionID tokenID userID =>
    have hsame := hagree sessionID rfl
    obtain ⟨hhash, hfound, haccepts, hconnection, hsession⟩ := h
    exact ⟨hsame.hashes.trans hhash, hsame.found.trans hfound, haccepts, hsame.connections.trans hconnection,
      hsame.sessions.trans hsession⟩
  | upserted sessionID agentID =>
    have hsame := hagree sessionID rfl
    obtain ⟨hhash, hconnection, hsession⟩ := h
    exact ⟨hsame.hashes.trans hhash, hsame.connections.trans hconnection, hsame.sessions.trans hsession⟩
  | registered | serving | ended => trivial

/-- The session of a connection was drawn for it. -/
theorem drawn_of_pending (h : s.Agreement hash) (hc : s.connections.lookup i = some c)
    (hpending : pending c.gatewaySide = some sessionID) : s.Drawn i sessionID := by
  have hside := (h.connections i c hc).side
  cases hgateway : c.gatewaySide with
  | greeted hello id =>
    rw [hgateway] at hside hpending
    cases hpending
    exact hside.2
  | found hello id tokenID userID =>
    rw [hgateway] at hside hpending
    cases hpending
    exact hside.2.1
  | upserted id agentID =>
    rw [hgateway] at hside hpending
    cases hpending
    exact hside.1
  | waiting | registered | serving | ended =>
    rw [hgateway] at hpending
    cases hpending

theorem Refines.store {store : Store} {revokes : Map Nat RevokePhase} (h : s.Refines hash a)
    (hinstallations : store.installations = s.store.installations) :
    { s with store }.Refines hash { a with tokens := store.tokenRows, revokes } where
  tables := ⟨rfl, h.tables.agents.trans hinstallations.symm⟩
  numbers := h.numbers
  names := h.names
  sides i c hc := (h.sides i c hc).congr rfl fun _ _ => ⟨rfl, rfl, rfl, rfl⟩
  registered := h.registered

/-- A step of one connection, which leaves the sessions of all others alone. -/
theorem Refines.move (h : s.Refines hash a) (hagreement : s.Agreement hash) {store : Store} {drawn : Map GoString Nat}
    {registered : List (Nat × Session)} (htables : a'.Tables store)
    (hnumbers : ∀ j ∈ a'.validated, j = i ∨ j ∈ a.validated) (hnames : ∀ sessionID ∈ a'.hashes, sessionID ∈ drawn)
    (hvalidated : ∀ j, j ≠ i → a'.validated.lookup j = a.validated.lookup j)
    (hagree : ∀ j sessionID, j ≠ i → s.Drawn j sessionID → a.Agree a' sessionID)
    (hc : Matches a' i (hash c.rawToken) c.gatewaySide) (hregistered : ∀ j session, (j, session) ∈ registered →
      a'.gateway.sessions.sessions.lookup session.id = some session) :
    ({ s with store, drawn, registered }.setConnection i c).Refines hash a' where
  tables := htables
  numbers j hj := by
    rw [setConnection, AList.mem_insert]
    exact (hnumbers j hj).imp id (h.numbers j)
  names := hnames
  sides j found hfound := by
    simp only [setConnection, Map.lookup_insert_eq] at hfound
    split at hfound
    · rename_i hsame
      cases hfound
      subst hsame
      exact hc
    · rename_i hne
      exact (h.sides j found hfound).congr (hvalidated j hne) fun sessionID hpending =>
        hagree j sessionID hne (drawn_of_pending hagreement hfound hpending)
  registered := hregistered

/-- A step that the gateway does not take part in, or that ends a handshake. -/
theorem Refines.stutter (h : s.Refines hash a) (hagreement : s.Agreement hash)
    (hc : Matches a i (hash c.rawToken) c.gatewaySide) : (s.setConnection i c).Refines hash a :=
  h.move hagreement h.tables (fun _ hj => .inr hj) h.names (fun _ _ => rfl) (fun _ _ _ _ => ⟨rfl, rfl, rfl, rfl⟩) hc
    h.registered

/-- One step of the other model is enough. -/
theorem exists_run_of_step {e : AccessEvent} (hstep : a.step baseDomain e = some a') (h : next.Refines hash a') :
    ∃ events a', run (Access.step baseDomain) a events = some a' ∧ next.Refines hash a' :=
  ⟨[e], a', by rw [run_cons, hstep, Option.bind_some, run_nil], h⟩

/-- The sessions of two connections have different IDs. -/
theorem Drawn.ne {j : Nat} {other : GoString} (h : s.Drawn i sessionID) (hother : s.Drawn j other) (hne : j ≠ i) :
    other ≠ sessionID := by
  rintro rfl
  exact hne (Option.some.inj (hother.1.symm.trans h.1))

section

variable (h : s.Refines hash a) (hagreement : s.Agreement hash)

include h hagreement

theorem Refines.dial {agent : AgentHost} (hnew : i ∉ s.connections)
    (hvalid : valid s.store.tokenRows (hash (bearer agent.authorization)) now = true) :
    ∃ events a', run (Access.step baseDomain) a events = some a' ∧
      (s.setConnection i
        { agent, rawToken := bearer agent.authorization, gatewaySide := .waiting, agentSide := .dialled, toGateway := []
          toAgent := [] }).Refines hash a' := by
  let a' := a.presented i (hash (bearer agent.authorization))
  have hstep : a.step baseDomain (.validate i (hash (bearer agent.authorization)) now) = some a' :=
    Access.step_validate (fun hmem => hnew (h.numbers i hmem)) (h.tables.tokens ▸ hvalid)
  refine exists_run_of_step hstep (h.move hagreement ⟨h.tables.tokens, h.tables.agents⟩ ?_ h.names ?_
    (fun _ _ _ _ => ⟨rfl, rfl, rfl, rfl⟩) (AList.lookup_insert _) h.registered)
  · exact fun j hj => (AList.mem_insert _).mp hj
  · exact fun j hne => AList.lookup_insert_ne hne

theorem Refines.greet (hc : s.connections.lookup i = some c) (hside : c.gatewaySide = .waiting) {rest : List Message}
    (hnew : sessionID ∉ s.drawn) : ({ s with drawn := s.drawn.insert sessionID i }.setConnection i
      { c with toGateway := rest, gatewaySide := .greeted hello sessionID }).Refines hash a := by
  have hmatches := h.sides i c hc
  rw [hside] at hmatches
  have hunused : a.hashes.lookup sessionID = none := AList.lookup_eq_none.mpr fun hmem => hnew (h.names sessionID hmem)
  exact h.move hagreement h.tables (fun _ hj => .inr hj)
    (fun other hmem => (AList.mem_insert _).mpr (.inr (h.names other hmem))) (fun _ _ => rfl)
    (fun _ _ _ _ => ⟨rfl, rfl, rfl, rfl⟩) ⟨hmatches, hunused⟩ h.registered

theorem Refines.find (hauthenticated : Authenticated a) (hc : s.connections.lookup i = some c) {tokenID : GoString}
    {token : TokenRecord} (hside : c.gatewaySide = .greeted hello sessionID)
    (hinstance : strings.trimSpace hello.instanceID ≠ []) (hhostname : strings.trimSpace hello.hostname ≠ [])
    (hfound : s.store.findToken (hash c.rawToken) now = some (tokenID, token)) :
    ∃ events a', run (Access.step baseDomain) a events = some a' ∧
      (s.setConnection i { c with gatewaySide := .found hello sessionID tokenID token.userID }).Refines hash a' := by
  obtain ⟨hvalidated, hunused⟩ : Matches a i (hash c.rawToken) (.greeted hello sessionID) := hside ▸ h.sides i c hc
  obtain ⟨rfl, hdrawn⟩ : s.Side hash i c (.greeted hello sessionID) := hside ▸ (hagreement.connections i c hc).side
  let found : Found := { hello := c.agent.hello.received, tokenID, userID := token.userID }
  let a' := a.asked i sessionID (hash c.rawToken) found
  have haccepts : Access.Accepts found.hello := ⟨rfl, hinstance, hhostname⟩
  have hstep : a.step baseDomain (.find i sessionID found.hello now) = some a' :=
    Access.step_find hvalidated (AList.lookup_eq_none.mp hunused) haccepts (h.tables.token hfound)
  have hconnection : a.gateway.connections.lookup sessionID = none := by
    refine Option.eq_none_iff_forall_ne_some.mpr fun c hc => ?_
    obtain ⟨tokenHash, -, hhash, -⟩ := hauthenticated.connected sessionID c hc
    cases hunused.symm.trans hhash
  have hsession : a.gateway.sessions.sessions.lookup sessionID = none := by
    refine Option.eq_none_iff_forall_ne_some.mpr fun session hsession => ?_
    cases hunused.symm.trans (hauthenticated.sessions sessionID session hsession)
  refine exists_run_of_step hstep (h.move hagreement ⟨h.tables.tokens, h.tables.agents⟩ ?_ ?_ ?_ ?_ ?_ h.registered)
  · exact fun j hj => .inr (AList.mem_erase.mp hj).2
  · rintro other hmem
    obtain rfl | hmem := (AList.mem_insert _).mp hmem
    · exact (Map.mem_iff_lookup _ _).mpr ⟨i, hdrawn.1⟩
    · exact h.names other hmem
  · exact fun j hne => AList.lookup_erase_ne hne
  · exact fun j other hne hother => Access.agree_asked a i _ found (hdrawn.ne hother hne)
  · exact ⟨AList.lookup_insert _, AList.lookup_insert _, haccepts, hconnection, hsession⟩

theorem Refines.upsert (hc : s.connections.lookup i = some c) {kept : ClientHelloPayload}
    {tokenID userID fresh : GoString} {used : Bool} (hside : c.gatewaySide = .found hello sessionID tokenID userID)
    (hfresh : fresh ∉ s.store.agents) (hnonempty : fresh ≠ []) (hkept : stored hello = .ok kept) :
    ∃ events a', run (Access.step baseDomain) a events = some a' ∧
      ({ s with store := if used then (s.store.upsertAgent userID tokenID kept fresh now).useToken tokenID now
                  else s.store.upsertAgent userID tokenID kept fresh now }.setConnection i
        { c with gatewaySide := .upserted sessionID (s.store.upsertedID userID kept fresh) }).Refines hash a' := by
  obtain ⟨hhash, hfound, haccepts, hconnection, hsession⟩ :
    Matches a i (hash c.rawToken) (.found hello sessionID tokenID userID) := hside ▸ h.sides i c hc
  obtain ⟨-, hdrawn, -⟩ : s.Side hash i c (.found hello sessionID tokenID userID) :=
    hside ▸ (hagreement.connections i c hc).side
  let found : Found := { hello, tokenID, userID }
  let a' := a.connected sessionID (agents.upsert a.gateway.agents (Access.agentRow found kept) fresh)
  have hstep : a.step baseDomain (.connect sessionID fresh) = some a' :=
    Access.step_connect hfound haccepts hkept (AList.lookup_eq_none.mp hconnection) (h.tables.unused hfresh) hnonempty
  obtain ⟨hid, htables⟩ := h.tables.upsert found kept fresh sessionID now used
  refine exists_run_of_step hstep (h.move hagreement htables (fun _ hj => .inr hj) h.names (fun _ _ => rfl) ?_
    ⟨hhash, ?_, hsession⟩ h.registered)
  · exact fun j other hne hother => Access.agree_connected a _ (hdrawn.ne hother hne)
  · rw [← hid]
    exact AList.lookup_insert _

theorem Refines.register (hc : s.connections.lookup i = some c) {agentID : GoString} {outbound : Chan} {now : Nat}
    (hside : c.gatewaySide = .upserted sessionID agentID) :
    ∃ events a', run (Access.step baseDomain) a events = some a' ∧
      ({ s with registered := (i, { id := sessionID, agentID, agentTokenHash := hash c.rawToken
                                    lastSeen := some now, outbound := some outbound }) :: s.registered
        }.setConnection i { c with gatewaySide := .registered sessionID }).Refines hash a' := by
  obtain ⟨hhash, hconnection, hsession⟩ : Matches a i (hash c.rawToken) (.upserted sessionID agentID) :=
    hside ▸ h.sides i c hc
  obtain ⟨hdrawn, -⟩ : s.Side hash i c (.upserted sessionID agentID) := hside ▸ (hagreement.connections i c hc).side
  let gateway := { a.gateway with
    sessions := a.gateway.sessions.register (newSession sessionID agentID (hash c.rawToken) outbound) now
    }.setPhase sessionID agentID .serving
  have hstep : a.step baseDomain (.register sessionID outbound now) = some { a with gateway } := by
    simp only [Access.step, hhash, Server.step, hconnection]
    rfl
  refine exists_run_of_step hstep (h.move hagreement ⟨h.tables.tokens, h.tables.agents⟩ (fun _ hj => .inr hj) h.names
    (fun _ _ => rfl) ?_ trivial ?_)
  · intro j other hne hother
    have hother := hdrawn.ne hother hne
    exact ⟨rfl, rfl, AList.lookup_insert_ne hother, AList.lookup_insert_ne hother⟩
  · intro j session hmem
    obtain hnew | hmem := List.mem_cons.mp hmem
    · cases hnew
      exact AList.lookup_insert _
    · have hold := h.registered j session hmem
      have hne : session.id ≠ sessionID := by
        rintro rfl
        cases hsession.symm.trans hold
      exact (AList.lookup_insert_ne hne).trans hold

theorem Refines.step (hauthenticated : Authenticated a) {e : HandshakeEvent} (hproper : e.proper = true)
    (hstep : s.step service hash e = some next) :
    ∃ events a', run (Access.step baseDomain) a events = some a' ∧ next.Refines hash a' := by
  cases step_cases hstep with
  | store hstore =>
    obtain ⟨⟨events, revokes, hrun⟩, hinstallations⟩ := follows_store baseDomain h.tables.tokens hstore hproper
    exact ⟨events, _, hrun, h.store hinstallations⟩
  | refused => exact ⟨[], a, rfl, h⟩
  | dial hnew hvalid => exact h.dial hagreement hnew hvalid
  | sendHello hc | connected hc | failed hc =>
    have hmatches := h.sides _ _ hc
    exact ⟨[], a, rfl, h.stutter hagreement hmatches⟩
  | closed | writeHello => exact ⟨[], a, rfl, h.stutter hagreement trivial⟩
  | greet hc hside _ _ _ hnew => exact ⟨[], a, rfl, h.greet hagreement hc hside hnew⟩
  | find hc hside hinstance hhostname hfound =>
    exact h.find hagreement hauthenticated hc hside hinstance hhostname hfound
  | upsert hc hside hfresh hkept hstore =>
    subst hstore
    exact h.upsert hagreement hc hside hfresh (of_decide_eq_true hproper) hkept
  | register hc hside => exact h.register hagreement hc hside

end

theorem refines_start : start.Refines hash Access.start where
  tables := ⟨rfl, rfl⟩
  numbers _ hi := hi
  names _ hmem := hmem
  sides _ _ hc := by cases hc
  registered _ _ hmem := by cases hmem

/-- Whatever the agents, the gateway and the rest of the system do, message by message and statement by statement, the
    model of the gateway that decides on access does as well. -/
theorem exists_access_run (baseDomain : GoString) {events : List HandshakeEvent}
    (hrun : run (step service hash) start events = some s) (hproper : ∀ e ∈ events, e.proper = true) :
    ∃ accessEvents a, run (Access.step baseDomain) Access.start accessEvents = some a ∧ s.Refines hash a := by
  refine run_simulation (R := fun _ s a => s.Refines hash a) (A := fun _ e => e.proper = true) refines_start ?_ hrun
    fun _ e he => hproper e (List.mem_of_getElem? he)
  intro events s e next accessEvents a hbefore hrun h hproper hstep
  exact h.step (agreement_of_run hbefore) (authenticated_of_run hrun) hproper hstep

theorem exists_access_run_laptop :
    ∃ s accessEvents a, run (step auth.plainService plainHash) start
        (oneToken ++ script 0 laptop (List.replicate 18 0) (lit "agt_1") 2 true 0 0) = some s ∧
      run (Access.step (lit "example.test")) Access.start accessEvents = some a ∧ s.Refines plainHash a ∧
      (a.gateway.sessions.sessions.lookup laptopSession).map Session.agentID = some (lit "agt_1") := by
  have hfacts : (run (step auth.plainService plainHash) start
      (oneToken ++ script 0 laptop (List.replicate 18 0) (lit "agt_1") 2 true 0 0)).map (fun s =>
        s.registered.map fun entry => (entry.2.id, entry.2.agentID)) =
      some [(laptopSession, lit "agt_1")] := by decide +kernel
  obtain ⟨s, hrun, hs⟩ := Option.map_eq_some_iff.mp hfacts
  obtain ⟨accessEvents, a, haccess, h⟩ := exists_access_run (lit "example.test") hrun (by decide +kernel)
  obtain ⟨⟨i, session⟩, hregistered, hentry⟩ : ∃ entry, entry ∈ s.registered ∧
      (entry.2.id, entry.2.agentID) = (laptopSession, lit "agt_1") :=
    List.mem_map.mp (hs ▸ List.mem_singleton_self _)
  obtain ⟨hid, hagent⟩ := Prod.mk.inj hentry
  refine ⟨s, accessEvents, a, hrun, haccess, h, ?_⟩
  rw [← hid, h.registered i session hregistered, Option.map_some, hagent]

end Handshakes

end myngrok.server
