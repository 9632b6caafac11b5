import Mathlib.Data.Set.Insert
import Myngrok.Pipeline.Arrival

open golang Result websocket transition myngrok.protocol myngrok.gateway myngrok.tunnels
open myngrok.gatewayclient hiding BinaryFrame responseBodyChunk requestBodyChunk parseBinaryFrame

namespace myngrok.pipeline

variable {n : Nat} {dec : Decoder} {localAddress : GoString} {capacity : Nat}

namespace Serving

variable {session : Session} {now : Nat} {events : List (ServingEvent n)} {s : Serving n} {sessionID : GoString}

/-- Nothing of the session is left in the session manager. -/
structure Gone (sessionID : GoString) (s : Serving n) : Prop where
  session : sessionID ∉ s.calls.manager.sessions
  requests : ∀ id entry, s.calls.manager.pending.lookup id = some entry → entry.sessionID ≠ sessionID

theorem Gone.step {next : Serving n} {e : ServingEvent n} (h : Gone sessionID s) (hinternal : e.Internal sessionID)
    (hstep : Step dec localAddress capacity sessionID s e next) : Gone sessionID next := by
  cases hstep with
  | respond => exact ⟨h.session, h.requests⟩
  | call hpermits hcalls =>
    suffices hgoal : sessionID ∉ (make sessionID s _ _).calls.manager.sessions ∧ ∀ id entry,
        (make sessionID s _ _).calls.manager.pending.lookup id = some entry → entry.sessionID ≠ sessionID from
      ⟨hgoal.1, hgoal.2⟩
    rw [make_calls]
    cases Calls.step_cases hcalls with
    | deliverFound =>
      refine ⟨h.session, ?_⟩
      intro id entry hlookup
      simp only [Calls.setThread_manager, SessionManager.cancelRequest, Map.lookup_erase_eq] at hlookup
      split at hlookup
      · cases hlookup
      · exact h.requests id entry hlookup
    | deliverMissing | deliverSend | deliverReturn | removeSend | removeReturn => exact ⟨h.session, h.requests⟩
    | registerRequest | cancelRequest | removeLocked | receive | register => cases hinternal
  | openTunnel | closeSession => cases hinternal

/-- Once the loop has returned, the deferred `Remove` takes everything of the session out. -/
theorem Settled.removes (h : s.Settled sessionID) (hclosed : s.way.responses = none) :
    ∃ next, s.step dec localAddress capacity sessionID
      (.call (.removeLocked sessionID sessionID s.calls.manager.pending.keys)) = some next ∧ Gone sessionID next := by
  have horder : s.calls.manager.pending.keys.Perm s.calls.manager.pending.keys := .refl _
  have hcalls : s.calls.step (.removeLocked sessionID sessionID s.calls.manager.pending.keys) =
      some ({ s.calls with manager := (s.calls.manager.removeLocked sessionID s.calls.manager.pending.keys).1 }.setThread
        sessionID (.removing (s.calls.manager.removeLocked sessionID s.calls.manager.pending.keys).2)) :=
    if_pos ⟨h.idle, horder⟩
  have hpermits : s.Permits sessionID (.removeLocked sessionID sessionID s.calls.manager.pending.keys) :=
    ⟨rfl, fun _ => ⟨by rw [hclosed]; rfl, h.called⟩⟩
  refine ⟨_, step_eq_some.mpr (.call hpermits hcalls), ?_, ?_⟩
  · intro hmem
    obtain ⟨session, hlookup⟩ := (Map.mem_iff_lookup _ _).mp hmem
    have hagent := s.calls.manager.agentID_removeLocked sessionID s.calls.manager.pending.keys sessionID
    rw [if_pos rfl, SessionManager.agentID, Option.map_eq_none_iff] at hagent
    exact absurd (hlookup.symm.trans hagent) (Option.some_ne_none _)
  · intro id entry hlookup
    exact ((s.calls.manager.removeLocked_pending sessionID horder id entry).mp hlookup).2

/-- A response that is not within the limits ends the session, with its other requests and its routes. -/
theorem session_ends (hcapacity : 0 < capacity) (haddress : localAddress ≠ []) (hpong : dec.ReadsPong)
    (hrun : run (Serving.step dec localAddress capacity session.id) (Serving.start session now) events = some s)
    (hattributed : Attributed dec localAddress (served events)) {job : Job} (hjob : job ∈ served events)
    (hlarge : ¬ job.Sendable dec localAddress) :
    ∃ more final, run (Serving.step dec localAddress capacity session.id) (Serving.start session now)
        (events ++ more) = some final ∧ served (events ++ more) = served events ∧ Gone session.id final ∧
      ∀ subdomain tunnel, final.registry.get subdomain = some tunnel → tunnel.sessionID ≠ session.id := by
  obtain ⟨first, t, hfirst, hbefore, _, hsettled⟩ := settles hcapacity (P := fun _ => True)
    (fun _ _ _ _ _ _ _ => trivial) hrun trivial
  have ht := run_trans hrun hbefore
  have hserved : served (events ++ first) = served events := by
    rw [served_append, served_eq_nil hfirst, List.append_nil]
  have hclosed : t.way.responses = none := by
    by_contra hopen
    rw [← hserved] at hattributed hjob
    exact hlarge (Responding.fits_of_idle haddress hpong (way_of_run ht) hattributed hopen
      (hsettled.way.resolve_left hopen) hjob).2
  -- The loop has returned: the deferred calls follow, `Remove` and then `CloseSession`.
  obtain ⟨removed, hstep, hremoved⟩ := hsettled.removes hclosed
  have hremove := run_concat_eq_some.mpr ⟨t, ht, hstep⟩
  obtain ⟨second, u, hsecond, hafter, hgone, hsettled'⟩ := settles hcapacity (P := Gone session.id)
    (fun _ _ _ _ hgone => hgone.step) hremove hremoved
  have hu := run_trans hremove hafter
  have hcloses : u.Closes session.id session.id u.registry.byID.keys :=
    ⟨.refl _, fun _ => ⟨hgone.session, hsettled'.idle⟩⟩
  have hfinal := run_concat_eq_some.mpr ⟨u, hu, step_eq_some.mpr (.closeSession hcloses)⟩
  simp only [List.append_assoc] at hfinal
  refine ⟨_, _, hfinal, ?_, ⟨hgone.session, hgone.requests⟩, ?_⟩
  · rw [served_append, served_append, served_append, served_append, served_eq_nil hfirst, served_eq_nil hsecond]
    exact List.append_nil _
  · intro subdomain tunnel hget
    have hkept := ((orderly_of_run hu).consistent.closeSession hcloses.1 session.id).2 subdomain tunnel
    exact (hkept.mp hget).2

/-- What the requests, the session and its routes keep while `work` is what the agent may get to do: the session is
    registered, its subdomains lead to it, and each pending request of the session, whether a worker has taken it or
    not, can be completed with its own response. -/
structure Unharmed (dec : Decoder) (localAddress : GoString) (capacity : Nat) (sessionID : GoString) (work : Set Job)
    (events : List (ServingEvent n)) (s : Serving n) : Prop where
  registered : sessionID ∈ s.calls.manager.sessions
  routed : ∀ tunnel, .openTunnel tunnel ∈ events → tunnel.sessionID = sessionID →
    ∃ routed, s.registry.get tunnel.subdomain = some routed ∧ routed.sessionID = sessionID
  completable : ∀ job entry, s.calls.manager.pending.lookup job.request.id = some entry →
    entry.sessionID = sessionID →
    (job ∈ served events ∨ job ∈ work ∧ ∀ other ∈ served events, other.request.id ≠ job.request.id) →
    ∃ more final, (∀ e ∈ more, e.Internal sessionID ∨ ∃ w, e = .respond (.take w job)) ∧
      run (Serving.step dec localAddress capacity sessionID) s more = some final ∧
      final.calls.buffers entry.response = [jobResponse (job.outcome localAddress)]

theorem unharmed_of_run (hsome : 0 < n) (hworkers : n ≤ 32) (hcapacity : 0 < capacity) (haddress : localAddress ≠ [])
    (hpong : dec.ReadsPong) {work : Set Job} (hwork : ∀ job ∈ work, job.Sendable dec localAddress)
    (hrun : run (Serving.step dec localAddress capacity session.id) (Serving.start session now) events = some s)
    (hids : ((served events).map (·.request.id)).Nodup) (hjobs : ∀ job ∈ served events, job ∈ work) :
    Unharmed dec localAddress capacity session.id work events s := by
  have hassigned : Assigned dec localAddress (served events) := ⟨hids, fun job hmem => hwork job (hjobs job hmem)⟩
  obtain ⟨responses, hopen, _⟩ := (delivery_of_run haddress hpong hworkers (way_of_run hrun) hassigned).receipt
  have horderly := orderly_of_run hrun
  have hregistered := horderly.registered (Option.isSome_of_eq_some hopen)
  refine ⟨hregistered, horderly.routed hregistered, ?_⟩
  rintro job entry hpending howner (hjob | ⟨hjob, hfresh⟩)
  · obtain ⟨more, final, hinternal, hmore, hbuffer⟩ :=
      response_arrives hworkers hcapacity haddress hpong hrun hassigned hjob hpending
    exact ⟨more, final, fun e hmem => .inl (hinternal e hmem), hmore, hbuffer⟩
  · refine response_arrives_later hsome hworkers hcapacity haddress hpong hrun ⟨?_, ?_⟩ hpending howner
    · rw [List.map_append, List.map_singleton, List.nodup_append]
      refine ⟨hids, List.nodup_singleton _, ?_⟩
      intro id hmem other hother
      obtain ⟨job', hjob', rfl⟩ := List.mem_map.mp hmem
      rw [List.mem_singleton.mp hother]
      exact hfresh job' hjob'
    · intro other hmem
      rw [List.mem_append, List.mem_singleton] at hmem
      obtain hmem | rfl := hmem
      · exact hassigned.sendable other hmem
      · exact hwork other hjob

/-- A request for the session comes in, and a worker takes it. -/
def requestTaken (session : Session) (w : Fin n) (job : Job) : List (ServingEvent n) :=
  [.call (.registerRequest session.id job.request.id 0), .respond (.take w job)]

theorem exists_run_requestTaken (dec : Decoder) (localAddress : GoString) (capacity : Nat) (session : Session)
    (now : Nat) (w : Fin n) (job : Job) :
    ∃ s, run (Serving.step dec localAddress capacity session.id) (Serving.start session now)
      (requestTaken session w job) = some s := by
  have hpermits : (Serving.start session now : Serving n).Permits session.id
      (.registerRequest session.id job.request.id 0) := AList.notMem_empty _
  have hregister : (Serving.start session now : Serving n).step dec localAddress capacity session.id
      (.call (.registerRequest session.id job.request.id 0)) = some _ := step_eq_some.mpr (.call hpermits rfl)
  have hready : ∀ calls, (make session.id (Serving.start session now : Serving n) calls
      (.registerRequest session.id job.request.id 0)).Ready session.id (.take w job) :=
    fun calls => AList.lookup_insert _
  have htake := fun calls => step_take dec localAddress capacity (hready calls) rfl
  apply Option.isSome_iff_exists.mp
  rw [requestTaken, run_cons, hregister, Option.bind_some, run_cons, htake]
  rfl

end Serving

/-- Among an agent's responses (of at most 32 workers), one that is too long for the gateway ends the session for all:
    the other requests of a session and its routes are safe exactly when no response has a body above 32 MiB, or a start
    above the read limit. -/
theorem requests_unharmed_iff (hsome : 0 < n) (hworkers : n ≤ 32) (hcapacity : 0 < capacity)
    (haddress : localAddress ≠ []) (hpong : dec.ReadsPong) (session : Session) (now : Nat) {work : Set Job}
    (hwork : ∀ job ∈ work, job.Heard dec localAddress) :
    (∀ (events : List (ServingEvent n)) (s : Serving n),
      run (Serving.step dec localAddress capacity session.id) (Serving.start session now) events = some s →
      ((served events).map (·.request.id)).Nodup → (∀ job ∈ served events, job ∈ work) →
      s.Unharmed dec localAddress capacity session.id work events) ↔
    ∀ job ∈ work, (jobResponse (job.outcome localAddress)).body.length ≤ maxTunnelResponseBodyBytes ∧
      (httpResponseStartMessage (jobStart job.request (job.outcome localAddress))).data.length ≤
        gateway.websocketReadLimit := by
  constructor
  · intro hall job hjob
    by_contra hlarge
    have hnot : ¬ job.Sendable dec localAddress := fun hsendable => hlarge ⟨hsendable.body, hsendable.start⟩
    obtain ⟨s, hrun⟩ := Serving.exists_run_requestTaken dec localAddress capacity session now ⟨0, hsome⟩ job
    have hserved : served (Serving.requestTaken session ⟨0, hsome⟩ job) = [job] := rfl
    obtain ⟨more, final, hmore, hsame, hgone, _⟩ := Serving.session_ends hcapacity haddress hpong hrun
      (by rw [hserved]; exact ⟨List.nodup_singleton _, fun other hmem => by
        rw [List.mem_singleton.mp hmem]; exact hwork job hjob⟩)
      (by rw [hserved]; exact List.mem_singleton_self _) hnot
    rw [hserved] at hsame
    refine hgone.session (hall _ final hmore ?_ ?_).registered
    · rw [hsame]
      exact List.nodup_singleton _
    · intro other hmem
      rw [hsame] at hmem
      rw [List.mem_singleton.mp hmem]
      exact hjob
  · intro hfits events s hrun hids hjobs
    refine Serving.unharmed_of_run hsome hworkers hcapacity haddress hpong ?_ hrun hids hjobs
    intro job hmem
    exact ⟨(hwork job hmem).id, (hwork job hmem).reads, (hfits job hmem).2, (hfits job hmem).1⟩

def laptopSession : Session :=
  { id := lit "ses_1", agentID := lit "agt_1", agentTokenHash := [], lastSeen := none, outbound := some 0 }

/-- While "hello" is the only response, its request waits safely. -/
theorem requests_unharmed_iff_hello :
    ∃ s, run (Serving.step helloDecoder (lit "8080") 1 laptopSession.id) (Serving.start laptopSession 0)
        (Serving.requestTaken laptopSession (0 : Fin 1) helloJob) = some s ∧
      s.Unharmed helloDecoder (lit "8080") 1 laptopSession.id {helloJob}
        (Serving.requestTaken laptopSession 0 helloJob) := by
  obtain ⟨s, hrun⟩ := Serving.exists_run_requestTaken helloDecoder (lit "8080") 1 laptopSession 0 (0 : Fin 1) helloJob
  have hheard : ∀ job ∈ ({helloJob} : Set Job), job.Heard helloDecoder (lit "8080") := by
    rintro job rfl
    exact ⟨fitsFrames_of_public helloRequest_public, helloDecoder_reads _ _ _⟩
  have hall := (requests_unharmed_iff (n := 1) (by decide) (by decide) Nat.one_pos (by decide)
    ⟨[], by decide +kernel⟩ laptopSession 0 hheard).mpr (by
      rintro job rfl
      exact ⟨by decide, by decide +kernel⟩)
  refine ⟨s, hrun, hall _ s hrun (List.nodup_singleton _) ?_⟩
  intro job hmem
  exact List.mem_singleton.mp hmem

/-- A body of one byte more than 32 MiB. -/
def hugeAnswer : LocalAnswer :=
  { statusCode := 200, header := ∅, pieces := List.replicate 1024 (List.replicate 32768 0), last := [0], failure := none
    fits := by
      intro piece hmem
      rw [List.mem_cons] at hmem
      obtain rfl | hmem := hmem
      · decide
      · rw [List.eq_of_mem_replicate hmem, List.length_replicate]
        decide }

def hugeJob : Job := { request := helloRequest, service := helloService hugeAnswer }

theorem LocalAnswer.length_bytes (answer : LocalAnswer) :
    answer.bytes.length = answer.pieces.flatten.length + answer.last.length := by
  rw [LocalAnswer.bytes, List.flatten_append, List.length_append, List.flatten_singleton]

theorem hugeJob_large : maxTunnelResponseBodyBytes < (jobResponse (hugeJob.outcome (lit "8080"))).body.length := by
  have houtcome : hugeJob.outcome (lit "8080") = .ok hugeAnswer := localExchange_hello hugeAnswer
  have hpieces : hugeAnswer.pieces.flatten.length = 1024 * 32768 := by
    rw [hugeAnswer, List.length_flatten, List.map_replicate, List.length_replicate, List.sum_replicate_nat]
  rw [houtcome, jobResponse, LocalAnswer.length_bytes, hpieces]
  decide

def demoTunnel : ActiveTunnel :=
  { id := lit "tun_1", subdomain := lit "demo", agentID := lit "agt_1", userID := lit "usr_1", sessionID := lit "ses_1"
    localAddress := lit "8080" }

/-- The session has a tunnel and two requests; a worker takes one of them. -/
def hugeRun : List (ServingEvent 1) :=
  [.openTunnel demoTunnel, .call (.registerRequest (lit "ses_1") (lit "req_2") 0),
    .call (.registerRequest (lit "ses_1") helloRequest.id 1), .respond (.take 0 hugeJob)]

/-- One response of more than 32 MiB: the session, its other request and its route are gone. -/
theorem large_response_ends_session :
    maxTunnelResponseBodyBytes < (jobResponse (hugeJob.outcome (lit "8080"))).body.length ∧
    ∃ more s, run (Serving.step helloDecoder (lit "8080") 1 laptopSession.id) (Serving.start laptopSession 0)
        (hugeRun ++ more) = some s ∧ served (hugeRun ++ more) = [hugeJob] ∧
      lit "ses_1" ∉ s.calls.manager.sessions ∧
      (∀ id entry, s.calls.manager.pending.lookup id = some entry → entry.sessionID ≠ lit "ses_1") ∧
      ∀ tunnel, s.registry.get (lit "demo") = some tunnel → tunnel.sessionID ≠ lit "ses_1" := by
  refine ⟨hugeJob_large, ?_⟩
  have hbegins : (run (Serving.step helloDecoder (lit "8080") 1 laptopSession.id) (Serving.start laptopSession 0)
      hugeRun).isSome = true := by decide +kernel
  obtain ⟨s, hrun⟩ := Option.isSome_iff_exists.mp hbegins
  have hattributed : Attributed helloDecoder (lit "8080") (served hugeRun) := by
    refine ⟨List.nodup_singleton _, ?_⟩
    intro job hmem
    rw [List.mem_singleton.mp hmem]
    exact ⟨fitsFrames_of_public helloRequest_public, helloDecoder_reads_of_start rfl⟩
  obtain ⟨more, final, hfinal, hserved, hgone, hroutes⟩ := Serving.session_ends Nat.one_pos (by decide)
    ⟨[], by decide +kernel⟩ hrun hattributed (List.mem_singleton_self hugeJob)
    (fun hsendable => absurd hsendable.body (Nat.not_le.mpr hugeJob_large))
  exact ⟨more, final, hfinal, hserved, hgone.session, hgone.requests, hroutes (lit "demo")⟩

end myngrok.pipeline
