import Myngrok.Pipeline.Settling

open golang Result websocket streams transition myngrok.protocol myngrok.gateway myngrok.tunnels
open myngrok.gatewayclient hiding BinaryFrame responseBodyChunk requestBodyChunk parseBinaryFrame

namespace myngrok.pipeline

variable {n : Nat} {dec : Decoder} {localAddress : GoString} {capacity : Nat} {sessionID : GoString} {s : Responding n}
  {events : List (RespondingEvent n)}

theorem Responding.open_of_step {next : Responding n} {e : RespondingEvent n}
    (hstep : s.step dec localAddress capacity e = some next) (hopen : next.responses.isSome) : s.responses.isSome := by
  cases step_cases hstep with
  | readError | closed => cases hopen
  | inbound hresponses => exact Option.isSome_of_eq_some hresponses
  | _ => exact hopen

/-- What the gateway's read goroutine has read is within the read limit. -/
theorem Responding.read_fits (hrun : run (Responding.step dec localAddress capacity) Responding.start events = some s)
    {message : Message} (hmem : message ∈ handled events ++ s.readCh ++ s.reader.toList) :
    message.data.length ≤ gateway.websocketReadLimit := by
  refine run_induction (P := fun events s => ∀ message ∈ handled events ++ s.readCh ++ s.reader.toList,
    message.data.length ≤ gateway.websocketReadLimit) ?_ ?_ hrun message hmem
  · intro message hmem
    cases hmem
  · intro events s e next _ ih hstep
    rw [handled, filterMap_concat, ← handled]
    cases step_cases hstep with
    | read hreader _ hfits =>
      simp only [hreader, RespondingEvent.handled, Option.toList_none, Option.toList_some, List.append_nil] at ih ⊢
      intro message hmem
      rw [List.mem_append, List.mem_singleton] at hmem
      obtain hmem | rfl := hmem
      · exact ih message hmem
      · exact hfits
    | place hreader =>
      simpa only [hreader, RespondingEvent.handled, Option.toList_none, Option.toList_some, List.append_nil,
        List.append_assoc] using ih
    | inbound _ hqueue | closed _ hqueue =>
      simpa only [hqueue, RespondingEvent.handled, Option.toList_some, List.append_assoc, List.cons_append,
        List.nil_append] using ih
    | _ =>
      simp only [RespondingEvent.handled, Option.toList_none, List.append_nil]
      exact ih

/-- A job whose response went through an open session was within both limits. -/
theorem Responding.fits_of_idle (haddress : localAddress ≠ []) (hpong : dec.ReadsPong)
    (hrun : run (Responding.step dec localAddress capacity) Responding.start events = some s)
    (hattributed : Attributed dec localAddress (jobs events)) (hopen : s.responses ≠ none) (hidle : s.Idle) {job : Job}
    (hjob : job ∈ jobs events) :
    (job.request.id, jobResponse (job.outcome localAddress)) ∈ s.delivered ∧ job.Sendable dec localAddress := by
  obtain ⟨responses, hresponses⟩ := Option.ne_none_iff_exists'.mp hopen
  obtain ⟨hemission, _⟩ := emission_of_run hpong hrun hattributed
  have hreception := reception_of_run haddress hpong hrun hattributed
  have hheard := hattributed.heard job hjob
  have hall : ofRequest dec job.request.id (handled events) = job.messages localAddress := by
    rw [← hemission.finished job hjob (by simp [busyWith, hidle.1]), Responding.fifo hrun, hidle.2, List.append_nil]
  have hdelivered : (job.request.id, jobResponse (job.outcome localAddress)) ∈ s.delivered := by
    have hwhole := (hreception.receipt responses hresponses).whole job hjob
    rw [if_pos hall] at hwhole
    have hmem : (job.request.id, jobResponse (job.outcome localAddress)) ∈ deliveries job.request.id s.delivered := by
      rw [hwhole]
      exact List.mem_singleton_self _
    exact (List.mem_filter.mp hmem).1
  refine ⟨hdelivered, hheard.id, hheard.reads, ?_, hreception.within _ hdelivered⟩
  -- The start is the first message, and it has been read.
  apply Responding.read_fits hrun
  refine List.mem_append_left _ (List.mem_append_left _ ?_)
  have hstart : httpResponseStartMessage (jobStart job.request (job.outcome localAddress)) ∈
      ofRequest dec job.request.id (handled events) := by
    rw [hall, Job.messages_eq haddress hheard.id, jobMessages_eq]
    exact List.mem_cons_self
  exact (List.mem_filter.mp hstart).1

namespace Serving

variable {events : List (ServingEvent n)} {s next : Serving n} {e : ServingEvent n} {session : Session}

/-- The session that a request was registered for does not change. -/
theorem lookup_requests_make {e : CallEvent GoString} (hpermits : s.Permits sessionID e) {id owner : GoString}
    (hlookup : s.requests.lookup id = some owner) (calls : Calls GoString) :
    (s.make sessionID calls e).requests.lookup id = some owner := by
  cases e with
  | registerRequest other fresh ch =>
    have hne : id ≠ fresh := by
      rintro rfl
      exact hpermits ((Map.mem_iff_lookup _ _).mpr ⟨owner, hlookup⟩)
    simp only [make]
    rw [Map.lookup_insert_eq, if_neg hne, hlookup]
  | _ => exact hlookup

/-- A session that is still registered was so before: it does not come back. -/
theorem registered_of_step {e : CallEvent GoString} {calls : Calls GoString} (hpermits : s.Permits sessionID e)
    (hcalls : s.calls.step e = some calls) (hmem : sessionID ∈ calls.manager.sessions) :
    sessionID ∈ s.calls.manager.sessions := by
  obtain ⟨session, hlookup⟩ := (Map.mem_iff_lookup _ _).mp hmem
  obtain hbefore | ⟨given, now, rfl, hid, _⟩ := Calls.step_sessions_lookup hcalls hlookup
  · exact (Map.mem_iff_lookup _ _).mpr ⟨session, hbefore⟩
  · exact absurd hid hpermits

/-- A tunnel that may be opened belongs to its subdomain by its ID, and the other way round. -/
theorem Admits.pair {tunnel : ActiveTunnel} (h : s.Admits sessionID tunnel) (hconsistent : s.registry.Consistent)
    {subdomain : GoString} {other : ActiveTunnel} (hlookup : s.registry.bySubdomain.lookup subdomain = some other) :
    other.id = tunnel.id ↔ subdomain = tunnel.subdomain := by
  obtain ⟨hrouted, hindexed⟩ := h
  constructor
  · intro hid
    rw [← hid, (hconsistent.indexed subdomain other hlookup).2] at hindexed
    simpa using hindexed
  · rintro rfl
    rw [Registry.get, hlookup, Option.all_some, decide_eq_true_eq] at hrouted
    exact hrouted.1

/-- What holds of the session in every state: its loop makes the calls it has collected, only requests that were
    registered are pending, and the session and its routes stay as long as the loop has not returned. -/
structure Orderly (sessionID : GoString) (events : List (ServingEvent n)) (s : Serving n) : Prop where
  made : s.called ≤ s.way.delivered.length
  known : ∀ id entry, s.calls.manager.pending.lookup id = some entry →
    s.requests.lookup id = some entry.sessionID
  asked : ∀ job ∈ served events, s.requests.lookup job.request.id = some sessionID
  registered : s.way.responses.isSome → sessionID ∈ s.calls.manager.sessions
  consistent : s.registry.Consistent
  routed : sessionID ∈ s.calls.manager.sessions → ∀ tunnel, .openTunnel tunnel ∈ events →
    tunnel.sessionID = sessionID → ∃ routed, s.registry.get tunnel.subdomain = some routed ∧ routed.sessionID = sessionID

namespace Orderly

section

variable (h : Orderly sessionID events s) (hstep : Step dec localAddress capacity sessionID s e next)

include h hstep

theorem made_step : next.called ≤ next.way.delivered.length := by
  cases hstep with
  | respond hready hway =>
    obtain ⟨more, hdelivered, _⟩ := Responding.step_delivered hway
    simp only [hdelivered, List.length_append]
    exact Nat.le_trans h.made (Nat.le_add_right _ _)
  | @call e calls hpermits hcalls =>
    cases e with
    | deliverLocked t id response =>
      simp only [make]
      split
      · rename_i hown
        exact (List.getElem?_eq_some_iff.mp (hpermits hown)).1
      · exact h.made
    | _ => exact h.made
  | openTunnel | closeSession => exact h.made

theorem known_step :
    ∀ id entry, next.calls.manager.pending.lookup id = some entry →
      next.requests.lookup id = some entry.sessionID := by
  cases hstep with
  | @call e calls hpermits hcalls =>
    rintro id ⟨owner, ch⟩ hlookup
    rw [make_calls] at hlookup
    obtain rfl | ⟨hbefore, _⟩ := (Calls.step_pending hcalls owner id ch).mp hlookup
    · simp only [make]
      rw [Map.lookup_insert_eq, if_pos rfl]
    · exact lookup_requests_make hpermits (h.known id _ hbefore) calls
  | respond | openTunnel | closeSession => exact h.known

theorem asked_step : ∀ job ∈ served (events ++ [e]), next.requests.lookup job.request.id = some sessionID := by
  intro job hmem
  rw [served_append, List.mem_append] at hmem
  cases hstep with
  | @respond e way hready hway =>
    obtain hmem | hmem := hmem
    · exact h.asked job hmem
    · cases e with
      | take w taken =>
        rw [List.mem_singleton.mp hmem]
        exact hready
      | _ => cases hmem
  | @call e calls hpermits =>
    obtain hmem | hmem := hmem
    · exact lookup_requests_make hpermits (h.asked job hmem) calls
    · cases hmem
  | openTunnel | closeSession =>
    obtain hmem | hmem := hmem
    · exact h.asked job hmem
    · cases hmem

theorem registered_step (hopen : next.way.responses.isSome) : sessionID ∈ next.calls.manager.sessions := by
  cases hstep with
  | respond hready hway => exact h.registered (Responding.open_of_step hway hopen)
  | call hpermits hcalls =>
    rw [make_way] at hopen
    rw [make_calls]
    refine Calls.step_sessions hcalls (h.registered hopen) ?_
    rintro t order rfl
    rw [Option.isNone_iff_eq_none.mp (hpermits.2 hpermits.1).1] at hopen
    cases hopen
  | openTunnel | closeSession => exact h.registered hopen

theorem consistent_step : next.registry.Consistent := by
  cases hstep with
  | respond => exact h.consistent
  | call =>
    rw [make_registry]
    exact h.consistent
  | openTunnel hadmits => exact h.consistent.open fun _ _ => hadmits.pair h.consistent
  | closeSession hcloses => exact (h.consistent.closeSession hcloses.1 _).1

theorem routed_step (hmem : sessionID ∈ next.calls.manager.sessions) {tunnel : ActiveTunnel}
    (hopened : .openTunnel tunnel ∈ events ++ [e]) (hown : tunnel.sessionID = sessionID) :
    ∃ routed, next.registry.get tunnel.subdomain = some routed ∧ routed.sessionID = sessionID := by
  rw [List.mem_append, List.mem_singleton] at hopened
  cases hstep with
  | respond =>
    obtain hopened | hopened := hopened
    · exact h.routed hmem tunnel hopened hown
    · cases hopened
  | call hpermits hcalls =>
    rw [make_calls] at hmem
    rw [make_registry]
    obtain hopened | hopened := hopened
    · exact h.routed (registered_of_step hpermits hcalls hmem) tunnel hopened hown
    · cases hopened
  | @openTunnel opened hadmits =>
    simp only [Registry.get, Registry.lookup_open]
    split
    · rename_i hsame
      refine ⟨opened, rfl, ?_⟩
      obtain hbefore | hnew := hopened
      · obtain ⟨routed, hrouted, hsession⟩ := h.routed hmem tunnel hbefore hown
        have hall := hadmits.1
        rw [← hsame, hrouted, Option.all_some, decide_eq_true_eq] at hall
        exact hall.2 hsession
      · cases hnew
        exact hown
    · rename_i hother
      obtain hbefore | hnew := hopened
      · exact h.routed hmem tunnel hbefore hown
      · cases hnew
        exact absurd rfl hother
  | @closeSession id order hcloses =>
    obtain hopened | hopened := hopened
    · obtain ⟨routed, hrouted, hsession⟩ := h.routed hmem tunnel hopened hown
      refine ⟨routed, ?_, hsession⟩
      rw [Registry.get, (h.consistent.closeSession hcloses.1 id).2]
      refine ⟨hrouted, ?_⟩
      rintro rfl
      exact (hcloses.2 hsession).1 hmem
    · cases hopened

end

end Orderly

theorem orderly_of_run {now : Nat}
    (hrun : run (Serving.step dec localAddress capacity session.id) (Serving.start session now) events = some s) :
    Orderly session.id events s := by
  refine run_induction (P := fun events s => Orderly session.id events s) ?_ ?_ hrun
  · have hregistered : session.id ∈ (newSessionManager.register session now).sessions := by
      obtain ⟨stored, hsessions, _⟩ := newSessionManager.register_sessions session now
      rw [hsessions]
      exact (AList.mem_insert _).mpr (.inl rfl)
    refine ⟨Nat.le_refl _, ?_, ?_, fun _ => hregistered, Registry.consistent_new, ?_⟩
    · intro id entry hlookup
      cases hlookup
    · intro job hmem
      cases hmem
    · intro _ tunnel hmem
      cases hmem
  · intro events s e next _ ih hstep
    have hcase := step_eq_some.mp hstep
    exact ⟨ih.made_step hcase, ih.known_step hcase, ih.asked_step hcase, ih.registered_step hcase,
      ih.consistent_step hcase, fun hmem tunnel => ih.routed_step hcase hmem⟩

/-- A request for which the session loop has called `DeliverResponse` is not pending any more. -/
theorem called_not_pending (haddress : localAddress ≠ []) (hpong : dec.ReadsPong) {now : Nat}
    (hrun : run (Serving.step dec localAddress capacity session.id) (Serving.start session now) events = some s)
    (hattributed : Attributed dec localAddress (served events)) {d : GoString × Response}
    (hcalled : d ∈ s.way.delivered.take s.called) : d.1 ∉ s.calls.manager.pending := by
  refine run_induction (P := fun events s => Attributed dec localAddress (served events) →
    ∀ d ∈ s.way.delivered.take s.called, d.1 ∉ s.calls.manager.pending) ?_ ?_ hrun hattributed d hcalled
  · intro _ d hmem
    cases hmem
  · intro events s e next hbefore ih hstep hattributed d hcalled hpending
    have hearlier : Attributed dec localAddress (served events) := by
      rw [served_append] at hattributed
      exact hattributed.left
    have horderly := orderly_of_run hbefore
    cases step_eq_some.mp hstep with
    | respond hready hway =>
      obtain ⟨more, hdelivered, _⟩ := Responding.step_delivered hway
      simp only [hdelivered, List.take_append_of_le_length horderly.made] at hcalled
      exact ih hearlier d hcalled hpending
    | @call e calls hpermits hcalls =>
      rw [make_calls] at hpending
      rw [make_way] at hcalled
      obtain ⟨⟨owner, ch⟩, hlookup⟩ := (Map.mem_iff_lookup _ _).mp hpending
      have hdelivered := List.mem_of_mem_take hcalled
      obtain ⟨job, hjob, hid⟩ :=
        (reception_of_run haddress hpong (way_of_run hbefore) hearlier).own d hdelivered
      obtain rfl | ⟨hlookup, hkept⟩ := (Calls.step_pending hcalls owner d.1 ch).mp hlookup
      · exact hpermits ((Map.mem_iff_lookup _ _).mpr ⟨_, hid ▸ horderly.asked job hjob⟩)
      · have hearlierPending := (Map.mem_iff_lookup s.calls.manager.pending d.1).mpr ⟨_, hlookup⟩
        cases e with
        | deliverLocked t id response =>
          simp only [make] at hcalled
          split at hcalled
          · rename_i hown
            rw [List.take_add_one, hpermits hown, List.mem_append, Option.toList_some, List.mem_singleton] at hcalled
            obtain hcalled | rfl := hcalled
            · exact ih hearlier d hcalled hearlierPending
            · exact hkept rfl
          · exact ih hearlier d hcalled hearlierPending
        | _ => exact ih hearlier d hcalled hearlierPending
    | openTunnel | closeSession => exact ih hearlier d hcalled hpending

end Serving

end myngrok.pipeline
