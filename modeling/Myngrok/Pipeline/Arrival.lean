import Myngrok.Pipeline.Isolation

open golang Result websocket transition myngrok.protocol myngrok.gateway myngrok.tunnels
open myngrok.gatewayclient hiding BinaryFrame responseBodyChunk requestBodyChunk parseBinaryFrame

namespace myngrok.pipeline

variable {n : Nat} {dec : Decoder} {localAddress : GoString} {capacity : Nat}

/-- A response on its way from the session loop to the channel of its request. -/
inductive Awaited (sessionID id : GoString) (entry : gateway.PendingRequest) (response : Response)
    (calls : Calls GoString) : Prop where
  | pending (hlookup : calls.manager.pending.lookup id = some entry)
  | delivering (hthread : calls.threads sessionID = .delivering entry.response response)
  | arrived (hbuffer : calls.buffers entry.response = [response])

/-- The session's goroutine brings the response forward, or leaves it where it is. -/
theorem Awaited.step {sessionID id : GoString} {entry : gateway.PendingRequest} {response : Response}
    {calls next : Calls GoString} {e : CallEvent GoString} {callEvents : List (CallEvent GoString)}
    (h : Awaited sessionID id entry response calls) (hbefore : calls.buffers entry.response ≠ [response])
    (htokens : calls.Tokens callEvents) (hinternal : (ServingEvent.call e : ServingEvent n).Internal sessionID)
    (hown : ∀ delivered, e = .deliverLocked sessionID id delivered → delivered = response)
    (hcalls : calls.step e = some next) : Awaited sessionID id entry response next := by
  cases h with
  | arrived hbuffer => exact absurd hbuffer hbefore
  | pending hlookup =>
    cases Calls.step_cases hcalls with
    | @deliverFound t other found delivered hidle hfound =>
      cases hinternal
      by_cases hsame : other = id
      · subst hsame
        rw [hlookup] at hfound
        cases hfound
        rw [hown delivered rfl]
        exact .delivering (by rw [Calls.setThread_threads, if_pos rfl])
      · refine .pending ?_
        simp only [Calls.setThread_manager, SessionManager.cancelRequest]
        rw [Map.lookup_erase_eq, if_neg (Ne.symm hsame), hlookup]
    | deliverMissing | deliverSend | deliverReturn | removeSend | removeReturn => exact .pending hlookup
    | registerRequest | cancelRequest | removeLocked | receive | register => cases hinternal
  | delivering hthread =>
    have hholds : calls.Holds entry.response (.call sessionID) := by
      rw [Calls.Holds, hthread]
      rfl
    have hempty := htokens.room hholds
    cases Calls.step_cases hcalls with
    | deliverSend hsending =>
      cases hinternal
      rw [hthread] at hsending
      cases hsending
      refine .arrived ?_
      rw [Calls.setThread_buffers, Calls.setBuffer_buffers, if_pos rfl, hempty]
      rfl
    | deliverFound _ hidle | deliverMissing _ hidle =>
      cases hinternal
      rw [hthread] at hidle
      cases hidle
    | deliverReturn hother | removeSend hother | removeReturn hother =>
      cases hinternal
      rw [hthread] at hother
      cases hother
    | registerRequest | cancelRequest | removeLocked | receive | register => cases hinternal

namespace Serving

variable {session : Session} {now : Nat} {events : List (ServingEvent n)} {s : Serving n} {e : ServingEvent n}
  {job : Job} {entry : gateway.PendingRequest}

/-- The agent and the session loop get there on their own after `events`. -/
def Reached (dec : Decoder) (localAddress : GoString) (capacity : Nat) (session : Session) (now : Nat)
    (events : List (ServingEvent n)) (s : Serving n) : Prop :=
  ∃ more, (∀ e ∈ more, e.Internal session.id) ∧ served (events ++ more) = served events ∧
    run (Serving.step dec localAddress capacity session.id) (Serving.start session now) (events ++ more) = some s

theorem reached_of_run
    (hrun : run (Serving.step dec localAddress capacity session.id) (Serving.start session now) events = some s) :
    Reached dec localAddress capacity session now events s := by
  refine ⟨[], by simp, ?_⟩
  rw [List.append_nil]
  exact ⟨rfl, hrun⟩

theorem Reached.step {next : Serving n} (h : Reached dec localAddress capacity session now events s)
    (hinternal : e.Internal session.id) (hstep : s.step dec localAddress capacity session.id e = some next) :
    Reached dec localAddress capacity session now events next := by
  obtain ⟨more, hmore, _, hrun⟩ := h
  have hall : ∀ e' ∈ more ++ [e], e'.Internal session.id := by
    intro e' hmem
    rw [List.mem_append, List.mem_singleton] at hmem
    obtain hmem | rfl := hmem
    · exact hmore e' hmem
    · exact hinternal
  refine ⟨more ++ [e], hall, ?_, ?_⟩
  · rw [served_append, served_eq_nil hall, List.append_nil]
  · rw [← List.append_assoc, run_concat_eq_some]
    exact ⟨s, hrun, hstep⟩

/-- As long as something is left to do after `events`, the agent or the session loop can do it. -/
theorem Reached.progress (h : Reached dec localAddress capacity session now events s) (hcapacity : 0 < capacity) :
    s.Settled session.id ∨ ∃ e next, e.Internal session.id ∧
      s.step dec localAddress capacity session.id e = some next ∧ next.left session.id < s.left session.id := by
  obtain ⟨more, _, _, hrun⟩ := h
  exact Serving.progress hcapacity (Calls.tokens (calls_of_run hrun)) (orderly_of_run hrun).made

/-- A pending request whose response is within the limits gets it. -/
theorem response_arrives (hworkers : n ≤ 32) (hcapacity : 0 < capacity) (haddress : localAddress ≠ [])
    (hpong : dec.ReadsPong)
    (hrun : run (Serving.step dec localAddress capacity session.id) (Serving.start session now) events = some s)
    (hassigned : Assigned dec localAddress (served events)) (hjob : job ∈ served events)
    (hpending : s.calls.manager.pending.lookup job.request.id = some entry) :
    ∃ more final, (∀ e ∈ more, e.Internal session.id) ∧
      run (Serving.step dec localAddress capacity session.id) s more = some final ∧
      final.calls.buffers entry.response = [jobResponse (job.outcome localAddress)] := by
  suffices hreach : ∃ more final, (∀ e ∈ more, e.Internal session.id) ∧
      run (Serving.step dec localAddress capacity session.id) s more = some final ∧
      (Reached dec localAddress capacity session now events final ∧
        Awaited session.id job.request.id entry (jobResponse (job.outcome localAddress)) final.calls) ∧
      final.calls.buffers entry.response = [jobResponse (job.outcome localAddress)] by
    obtain ⟨more, final, hinternal, hmore, _, hbuffer⟩ := hreach
    exact ⟨more, final, hinternal, hmore, hbuffer⟩
  refine exists_run_of_measure (left session.id) ?_ ⟨reached_of_run hrun, .pending hpending⟩
  rintro t ⟨hreached, hawaited⟩
  by_cases hbuffer : t.calls.buffers entry.response = [jobResponse (job.outcome localAddress)]
  · exact .inl hbuffer
  obtain ⟨more, hmore, hserved, ht⟩ := hreached
  rw [← hserved] at hassigned hjob
  have hdelivery := delivery_of_run haddress hpong hworkers (way_of_run ht) hassigned
  obtain ⟨responses, hopen, hreceipt⟩ := hdelivery.receipt
  have hsome : t.way.responses ≠ none := by
    rw [hopen]
    exact Option.some_ne_none responses
  right
  have hreached : Reached dec localAddress capacity session now events t := ⟨more, hmore, hserved, ht⟩
  obtain hsettled | ⟨e, next, hinternal, hstep, hlt⟩ := hreached.progress hcapacity
  · -- The loop has delivered everything, so the request is not pending any more.
    have hidle := hsettled.way.resolve_left hsome
    obtain ⟨hdelivered, _⟩ := Responding.fits_of_idle haddress hpong (way_of_run ht) hassigned.attributed hsome hidle
      hjob
    cases hawaited with
    | arrived harrived => exact absurd harrived hbuffer
    | delivering hthread =>
      rw [hsettled.idle] at hthread
      cases hthread
    | pending hlookup =>
      rw [← List.take_length (l := t.way.delivered), ← hsettled.called] at hdelivered
      exact absurd ((Map.mem_iff_lookup _ _).mpr ⟨entry, hlookup⟩)
        (called_not_pending haddress hpong ht hassigned.attributed hdelivered)
  · refine ⟨e, next, hinternal, hstep, ⟨hreached.step hinternal hstep, ?_⟩, hlt⟩
    cases step_eq_some.mp hstep with
    | respond => exact hawaited
    | @call e calls hpermits hcalls =>
      rw [make_calls]
      refine hawaited.step hbuffer (Calls.tokens (calls_of_run ht)) hinternal ?_ hcalls
      rintro delivered rfl
      -- What the loop delivers for the request is the response of its job.
      have hmem : (job.request.id, delivered) ∈ deliveries job.request.id t.way.delivered :=
        List.mem_filter.mpr ⟨List.mem_of_getElem? (hpermits rfl), by simp⟩
      rw [hreceipt.whole job hjob] at hmem
      split at hmem
      · exact congrArg Prod.snd (List.mem_singleton.mp hmem)
      · cases hmem
    | openTunnel | closeSession => cases hinternal

/-- The agent and the session loop come to an end with what they have. -/
theorem settles (hcapacity : 0 < capacity) {P : Serving n → Prop}
    (hkept : ∀ t next e, Reached dec localAddress capacity session now events t → P t → e.Internal session.id →
      Step dec localAddress capacity session.id t e next → P next)
    (hrun : run (Serving.step dec localAddress capacity session.id) (Serving.start session now) events = some s)
    (hs : P s) :
    ∃ more final, (∀ e ∈ more, e.Internal session.id) ∧
      run (Serving.step dec localAddress capacity session.id) s more = some final ∧ P final ∧
      final.Settled session.id := by
  suffices hreach : ∃ more final, (∀ e ∈ more, e.Internal session.id) ∧
      run (Serving.step dec localAddress capacity session.id) s more = some final ∧
      (Reached dec localAddress capacity session now events final ∧ P final) ∧ final.Settled session.id by
    obtain ⟨more, final, hinternal, hmore, ⟨_, hfinal⟩, hsettled⟩ := hreach
    exact ⟨more, final, hinternal, hmore, hfinal, hsettled⟩
  refine exists_run_of_measure (left session.id) ?_ ⟨reached_of_run hrun, hs⟩
  rintro t ⟨hreached, ht⟩
  obtain hsettled | ⟨e, next, hinternal, hstep, hlt⟩ := hreached.progress hcapacity
  · exact .inl hsettled
  · have hnext := hkept t next e hreached ht hinternal (step_eq_some.mp hstep)
    exact .inr ⟨e, next, hinternal, hstep, ⟨hreached.step hinternal hstep, hnext⟩, hlt⟩

/-- The session loop leaves a request alone that no worker has taken. -/
theorem pending_kept (haddress : localAddress ≠ []) (hpong : dec.ReadsPong)
    (hattributed : Attributed dec localAddress (served events)) {id : GoString}
    (hfresh : ∀ other ∈ served events, other.request.id ≠ id) {t next : Serving n}
    (hreached : Reached dec localAddress capacity session now events t)
    (hpending : t.calls.manager.pending.lookup id = some entry) (hinternal : e.Internal session.id)
    (hstep : Step dec localAddress capacity session.id t e next) :
    next.calls.manager.pending.lookup id = some entry := by
  cases hstep with
  | respond => exact hpending
  | call hpermits hcalls =>
    rw [make_calls]
    cases Calls.step_cases hcalls with
    | @deliverFound thread other found response hidle hfound =>
      cases hinternal
      obtain ⟨more, _, hserved, ht⟩ := hreached
      rw [← hserved] at hattributed hfresh
      obtain ⟨job, hjob, hid⟩ := (reception_of_run haddress hpong (way_of_run ht) hattributed).own _
        (List.mem_of_getElem? (hpermits rfl))
      have hne : id ≠ other := fun hsame => hfresh job hjob (hid.trans hsame.symm)
      simp only [Calls.setThread_manager, SessionManager.cancelRequest]
      rw [Map.lookup_erase_eq, if_neg hne, hpending]
    | deliverMissing | deliverSend | deliverReturn | removeSend | removeReturn => exact hpending
    | registerRequest | cancelRequest | removeLocked | receive | register => cases hinternal
  | openTunnel | closeSession => cases hinternal

theorem step_take (dec : Decoder) (localAddress : GoString) (capacity : Nat) {sessionID : GoString} {w : Fin n}
    (hready : s.Ready sessionID (.take w job)) (hidle : s.way.workers w = none) :
    s.step dec localAddress capacity sessionID (.respond (.take w job)) =
      some { s with way := s.way.setWorker w (some { job, rest := job.messages localAddress }) } := by
  refine step_eq_some.mpr (.respond hready ?_)
  simp only [Responding.step, hidle]

/-- A pending request that no worker has taken gets its response once a worker is free to take it. -/
theorem response_arrives_later (hsome : 0 < n) (hworkers : n ≤ 32) (hcapacity : 0 < capacity)
    (haddress : localAddress ≠ []) (hpong : dec.ReadsPong)
    (hrun : run (Serving.step dec localAddress capacity session.id) (Serving.start session now) events = some s)
    (hassigned : Assigned dec localAddress (served events ++ [job]))
    (hpending : s.calls.manager.pending.lookup job.request.id = some entry) (howner : entry.sessionID = session.id) :
    ∃ more final, (∀ e ∈ more, e.Internal session.id ∨ ∃ w, e = .respond (.take w job)) ∧
      run (Serving.step dec localAddress capacity session.id) s more = some final ∧
      final.calls.buffers entry.response = [jobResponse (job.outcome localAddress)] := by
  have hearlier := hassigned.left
  obtain ⟨first, t, hfirst, hbefore, hwaiting, hsettled⟩ := settles hcapacity
    (P := fun t => t.calls.manager.pending.lookup job.request.id = some entry)
    (fun _ _ _ => pending_kept haddress hpong hearlier.attributed hassigned.attributed.fresh) hrun hpending
  have ht := run_trans hrun hbefore
  have hserved : served (events ++ first) = served events := by
    rw [served_append, served_eq_nil hfirst, List.append_nil]
  rw [← hserved] at hassigned hearlier
  obtain ⟨responses, hopen, _⟩ := (delivery_of_run haddress hpong hworkers (way_of_run ht) hearlier).receipt
  have hidle : t.way.Idle := hsettled.way.resolve_left (by rw [hopen]; exact Option.some_ne_none _)
  -- All workers are free now.
  have hready : t.Ready session.id (.take ⟨0, hsome⟩ job) := by
    rw [Ready, (orderly_of_run ht).known _ entry hwaiting, howner]
  have hstep := step_take dec localAddress capacity hready (hidle.1 _)
  have htaken : served (events ++ first ++ [.respond (.take ⟨0, hsome⟩ job)]) = served (events ++ first) ++ [job] :=
    served_append _ _
  obtain ⟨second, final, hsecond, hafter, hbuffer⟩ := response_arrives hworkers hcapacity haddress hpong
    (run_concat_eq_some.mpr ⟨t, ht, hstep⟩) (by rw [htaken]; exact hassigned)
    (by rw [htaken]; exact List.mem_append_right _ (List.mem_singleton_self _)) hwaiting
  refine ⟨first ++ .respond (.take ⟨0, hsome⟩ job) :: second, final, ?_, ?_, hbuffer⟩
  · intro e hmem
    rw [List.mem_append, List.mem_cons] at hmem
    obtain hmem | rfl | hmem := hmem
    · exact .inl (hfirst e hmem)
    · exact .inr ⟨_, rfl⟩
    · exact .inl (hsecond e hmem)
  · rw [run_append, hbefore, Option.bind_some, run_cons, hstep]
    exact hafter

end Serving

end myngrok.pipeline
