import Myngrok.Protocol.MessageLength
import Myngrok.Server.Grants
import Myngrok.Server.HandshakeAgreement

open golang transition websocket myngrok.protocol myngrok.agents myngrok.agenttokens myngrok.gateway
open myngrok.gatewayclient (AgentHost)

namespace myngrok.gatewayclient

/-- The gateway reads the token that the agent was given. -/
theorem bearer_authorization {a : AgentHost} (htoken : a.token ≠ [])
    (hrange : ∀ b ∈ a.token, 0x2D ≤ b.toNat ∧ b.toNat ≤ 0x7A) : server.bearer a.authorization = a.token := by
  obtain ⟨init, last, hlast⟩ : ∃ init last, a.token = init ++ [last] :=
    ⟨_, _, (List.dropLast_append_getLast htoken).symm⟩
  have hblank : (decide (last = 0x20) || decide (last = 0x09)) = false := by
    have hrange' := hrange last (by rw [hlast]; exact List.mem_append_right _ List.mem_cons_self)
    rw [Bool.or_eq_false_iff, decide_eq_false_iff_not, decide_eq_false_iff_not]
    constructor
    · rintro rfl
      exact absurd hrange'.1 (by decide)
    · rintro rfl
      exact absurd hrange'.1 (by decide)
  have htrim : a.authorization = lit "Bearer " ++ a.token := by
    rw [AgentHost.authorization, textproto.trimString]
    have hfirst : (lit "Bearer " ++ a.token).dropWhile (fun b => decide (b = 0x20) || decide (b = 0x09)) =
        lit "Bearer " ++ a.token := rfl
    rw [hfirst, hlast, ← List.append_assoc, List.reverse_append, List.reverse_singleton, List.singleton_append,
      List.dropWhile_cons_of_neg (by rw [hblank]; exact Bool.false_ne_true), List.reverse_cons, List.reverse_reverse]
  have hprefix : strings.hasPrefix (lit "Bearer " ++ a.token) (lit "Bearer ") = true :=
    List.isPrefixOf_iff_prefix.mpr (List.prefix_append _ _)
  rw [server.bearer, htrim, strings.trimPrefix, if_pos hprefix, List.drop_left]
  exact strings.trimSpace_of_range hrange

end myngrok.gatewayclient

namespace myngrok.gateway

variable {random : Bytes} {sessionID : GoString}

theorem plain_newSessionID (hdrawn : newSessionID (some random) = some sessionID) : json.Plain sessionID := by
  have hsign : ∀ value < 64, (base64.sign value).toNat < 0x80 ∧ json.escapeByte (base64.sign value) = [base64.sign value] := by
    decide
  cases hdrawn
  intro b hb
  obtain hb | hb := List.mem_append.mp hb
  · have hses : ∀ b ∈ lit "ses_", b.toNat < 0x80 ∧ json.escapeByte b = [b] := by decide +kernel
    exact hses b hb
  · obtain ⟨value, hvalue, rfl⟩ := List.mem_map.mp hb
    exact hsign value (base64.pack_lt value hvalue)

/-- The answer to the hello is short. -/
theorem length_serverHelloMessage (hrandom : random.length = 18)
    (hdrawn : newSessionID (some random) = some sessionID) :
    (serverHelloMessage sessionID).data.length ≤ gatewayclient.websocketReadLimit := by
  have hplain := plain_newSessionID hdrawn
  have hlength : sessionID.length ≤ 40 := by
    cases hdrawn
    have hbase := base64.length_encodeToString_le random
    rw [List.length_append, show (lit "ses_").length = 4 from rfl]
    omega
  have hkeys : json.quotedLength serverHello = 14 ∧ (json.quote (lit "protocolVersion")).length = 17 ∧
      (json.quote (lit "sessionId")).length = 11 ∧ (json.quote (lit "heartbeatIntervalSeconds")).length = 26 ∧
      (json.writeInt version).length = 1 ∧ (json.writeInt defaultHeartbeatIntervalSeconds).length = 2 :=
    ⟨rfl, rfl, rfl, rfl, rfl, rfl⟩
  rw [serverHelloMessage, length_envelope, hkeys.1]
  simp only [ServerHelloPayload.value, json.encode, json.encodeMembers, List.length_append, List.length_cons,
    List.length_nil, hkeys, json.length_quote, json.quotedLength_of_plain hplain, gatewayclient.websocketReadLimit]
  omega

end myngrok.gateway

namespace myngrok.server.Handshakes

variable {service : auth.AccessService} {hash : GoString → GoString} {s : Handshakes} {i : Nat} {agent : AgentHost}
  {sessionID tokenID fresh : GoString} {now : Time} {kept : ClientHelloPayload} {token : TokenRecord} {used : Bool}
  {outbound : Chan}

/-- The steps of a handshake, one after the other. -/
theorem run_script {random : Bytes} {seen : Nat} (hnew : i ∉ s.connections)
    (hheader : http.validHeaderFieldValue (lit "Bearer " ++ agent.token) = true)
    (hraw : bearer agent.authorization = agent.token) (htkn : strings.hasPrefix agent.token (lit "tkn_") = true)
    (hvalid : valid s.store.tokenRows (hash agent.token) now = true)
    (hshort : agent.helloMessage.data.length ≤ gateway.websocketReadLimit) (hrandom : random.length = 18)
    (hdrawn : newSessionID (some random) = some sessionID) (hunused : sessionID ∉ s.drawn)
    (hhello : ¬ (strings.trimSpace agent.hello.received.instanceID = [] ∨
      strings.trimSpace agent.hello.received.hostname = []))
    (hfound : s.store.findToken (hash agent.token) now = some (tokenID, token))
    (hkept : stored agent.hello.received = .ok kept) (hfresh : fresh ∉ s.store.agents) :
    (run (step service hash) s (script i agent random fresh now used outbound seen)).bind (·.connections.lookup i) =
      some { agent, rawToken := agent.token, gatewaySide := .serving sessionID, agentSide := .connected sessionID
             toGateway := [], toAgent := [] } := by
  have hanswer := not_lt.mpr (length_serverHelloMessage hrandom hdrawn)
  simp only [script, run_cons, run_nil, Option.bind_some, step, if_neg hnew, dial, hraw,
    if_pos (And.intro hheader (And.intro htkn hvalid)), setConnection, AList.lookup_insert, if_true, List.nil_append,
    readHello, if_neg (not_lt.mpr hshort), readClientHello_helloMessage, hdrawn, if_neg hunused, findToken,
    if_neg hhello, hfound, if_neg hfresh, hkept, if_neg hanswer, readServerHello_serverHelloMessage hdrawn]

/-- What the agent says about its machine, and how many characters of it the columns of `agents` have room for. -/
def columns (agent : AgentHost) : List (Nat × GoString) :=
  [(255, agent.hostname), (64, agent.os), (64, agent.arch), (64, agent.version)]

theorem stored_received (hfits : ∀ column ∈ columns agent, 0 ∉ utf8.toValid column.2 ∧
    sql.characters (utf8.toValid column.2) ≤ column.1) : stored agent.hello.received = .ok agent.hello.received := by
  have hcolumn : ∀ column ∈ columns agent, sql.varchar column.1 (utf8.toValid column.2) = .ok (utf8.toValid column.2) :=
    fun column hmem => sql.varchar_of_le (hfits column hmem).1 (utf8.validString_toValid _) (hfits column hmem).2
  have hname := hcolumn (255, agent.hostname) (by simp [columns])
  have hos := hcolumn (64, agent.os) (by simp [columns])
  have harch := hcolumn (64, agent.arch) (by simp [columns])
  have hversion := hcolumn (64, agent.version) (by simp [columns])
  simp only [stored, ClientHelloPayload.received, AgentHost.hello, hname, hos, harch, hversion, bind, Except.bind, pure,
    Except.pure]

/-- An agent whose token is accepted gets into the session that is drawn for it, as long as its hello fits in a message
    and in the columns of its row and the name of its machine is not blank. -/
theorem handshake_completes {agent : AgentHost} {bytes random : Bytes} {fresh : GoString} {now : Time} {used : Bool}
    {outbound : Chan} {seen : Nat} {tokenID : GoString} {token : TokenRecord}
    (htoken : agent.token = lit "tkn_" ++ base64.encodeToString bytes)
    (haccepted : s.store.findToken (hash agent.token) now = some (tokenID, token))
    (hhost : strings.trimSpace (utf8.toValid agent.hostname) ≠ [])
    (hshort : agent.helloMessage.data.length ≤ gateway.websocketReadLimit)
    (hfits : ∀ column ∈ columns agent, 0 ∉ utf8.toValid column.2 ∧
      sql.characters (utf8.toValid column.2) ≤ column.1)
    (hrandom : random.length = 18) (hdrawn : newSessionID (some random) = some sessionID)
    (hunused : sessionID ∉ s.drawn) (hfresh : fresh ∉ s.store.agents) (hnew : i ∉ s.connections) :
    ∃ final c, run (step service hash) s (script i agent random fresh now used outbound seen) = some final ∧
      final.connections.lookup i = some c ∧ c.agentSide = .connected sessionID ∧ c.gatewaySide = .serving sessionID := by
  have hrange : ∀ b ∈ agent.token, 0x2D ≤ b.toNat ∧ b.toNat ≤ 0x7A := by
    have htkn : ∀ b ∈ lit "tkn_", 0x2D ≤ b.toNat ∧ b.toNat ≤ 0x7A := by decide +kernel
    rw [htoken]
    intro b hb
    obtain hb | hb := List.mem_append.mp hb
    · exact htkn b hb
    · exact base64.range_encodeToString bytes b hb
  have hraw : bearer agent.authorization = agent.token := by
    refine gatewayclient.bearer_authorization ?_ hrange
    rw [htoken]
    exact List.cons_ne_nil _ _
  have hheader : http.validHeaderFieldValue (lit "Bearer " ++ agent.token) = true := by
    rw [http.validHeaderFieldValue, List.all_append, Bool.and_eq_true]
    refine ⟨by decide, List.all_eq_true.mpr fun b hb => ?_⟩
    obtain ⟨hlow, hhigh⟩ := hrange b hb
    simp only [Bool.or_eq_true, Bool.and_eq_true, decide_eq_true_eq]
    omega
  have htkn : strings.hasPrefix agent.token (lit "tkn_") = true := by
    rw [htoken]
    exact List.isPrefixOf_iff_prefix.mpr (List.prefix_append _ _)
  have hvalid : valid s.store.tokenRows (hash agent.token) now = true :=
    (Store.valid_iff_findToken s.store (hash agent.token) now).mpr ⟨_, haccepted⟩
  have hhello : ¬ (strings.trimSpace agent.hello.received.instanceID = [] ∨
      strings.trimSpace agent.hello.received.hostname = []) := fun hblank => hblank.elim hhost hhost
  obtain ⟨final, hrun, hc⟩ := Option.bind_eq_some_iff.mp (run_script hnew hheader hraw htkn hvalid hshort hrandom hdrawn
    hunused hhello haccepted (stored_received hfits) hfresh)
  exact ⟨final, _, hrun, hc, rfl, rfl⟩

theorem handshake_completes_laptop :
    ∃ s final c, run (step auth.plainService plainHash) start oneToken = some s ∧
      run (step auth.plainService plainHash) s (script 7 laptop (List.replicate 18 0) (lit "agt_1") 2 false 0 0) =
        some final ∧
      final.connections.lookup 7 = some c ∧ c.agentSide = .connected laptopSession ∧
      c.gatewaySide = .serving laptopSession := by
  have hfacts : (run (step auth.plainService plainHash) start oneToken).any (fun s =>
      ((s.store.findToken (lit "hash of YQ") 2).map fun found => found.1) = some (lit "YQ") ∧
      laptopSession ∉ s.drawn ∧ lit "agt_1" ∉ s.store.agents ∧ 7 ∉ s.connections) = true := by decide +kernel
  obtain ⟨s, hrun, hs⟩ := (Option.any_eq_true _ _).mp hfacts
  obtain ⟨hfound, hunused, hfresh, hnew⟩ := of_decide_eq_true hs
  obtain ⟨⟨tokenID, token⟩, haccepted, -⟩ := Option.map_eq_some_iff.mp hfound
  have htoken : laptop.token = lit "tkn_" ++ base64.encodeToString (lit "a") := by decide
  have hshort : laptop.helloMessage.data.length ≤ gateway.websocketReadLimit := by decide +kernel
  have hdrawn : newSessionID (some (List.replicate 18 0)) = some laptopSession := rfl
  have hcompletes : ∃ final c, run (step auth.plainService plainHash) s
      (script 7 laptop (List.replicate 18 0) (lit "agt_1") 2 false 0 0) = some final ∧ _ :=
    handshake_completes htoken haccepted (by decide) hshort (by decide) (by decide) hdrawn hunused hfresh hnew
  obtain ⟨final, c, hfinal, hc⟩ := hcompletes
  exact ⟨s, final, c, hrun, hfinal, hc⟩

end myngrok.server.Handshakes
