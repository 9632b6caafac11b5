import Myngrok.GatewayClient.Jobs
import Myngrok.Protocol.Unmarshal

open golang Result websocket transition
open myngrok.protocol hiding requestBodyChunk responseBodyChunk binaryFrameHeader parseBinaryFrame BinaryFrame

namespace myngrok.gatewayclient

/-- What goes on without a message of the gateway, without the end of a job, and without a message that leaves the
    agent. -/
def JobsEvent.alone : JobsEvent → Bool
  | .enqueue => true
  | .take => true
  | .pong => true
  | .send _ => true
  | .fetch => true
  | _ => false

/-- The gateway takes the messages of the agent as well. -/
def JobsEvent.heard (e : JobsEvent) : Bool := e.alone || e = .written

namespace Jobs

variable {dec : Decoder} {localAddress : GoString} {maxConcurrent job : Nat} {s next : Jobs} {moves : List JobsEvent}

/-- The loop makes no job for a request whose ID a job in flight has. -/
def fresh (dec : Decoder) (s : Jobs) : JobsEvent → Bool
  | .read message =>
    match readMessage dec s.pending message with
    | ok (.continued _ [.dispatch request]) => s.inFlight.all fun job => s.requestID job != some request.id
    | _ => true
  | _ => true

/-- Every job in flight is the one that `activeCancels` has for its ID. -/
def Complete (s : Jobs) : Prop :=
  ∀ job ∈ s.inFlight, ∀ id, s.requestID job = some id → s.activeCancels.lookup id = some job

theorem Complete.of_perm (h : s.Complete) (hperm : next.inFlight.Perm s.inFlight)
    (hdispatched : next.dispatched = s.dispatched) (hactive : next.activeCancels = s.activeCancels) :
    next.Complete := by
  intro job hjob id hid
  rw [requestID, hdispatched] at hid
  rw [hactive]
  exact h job (hperm.mem_iff.mp hjob) id hid

theorem Complete.dispatch (h : s.Complete) (hsound : Sound maxConcurrent s) (pending : PendingRequests)
    (request : Request) (hidle : s.held = none) (hfresh : ∀ job ∈ s.inFlight, s.requestID job ≠ some request.id) :
    (perform { s with pending } (.dispatch request)).Complete := by
  intro job hjob id hid
  rw [inFlight_dispatch pending request hidle] at hjob
  simp only [perform, Map.lookup_insert_eq]
  obtain rfl | hjob := List.mem_cons.mp hjob
  · simp only [requestID, perform, List.getElem?_concat_length, Option.map_some, Option.some.injEq] at hid
    rw [if_pos hid.symm]
  · have hold : s.requestID job = some id := (requestID_append request (hsound.known job hjob)).symm.trans hid
    rw [if_neg]
    · exact h job hjob id hold
    · rintro rfl
      exact hfresh job hjob hold

theorem Complete.finish (h : s.Complete) (hsound : Sound maxConcurrent s) {request : Request}
    (hrequest : s.dispatched[job]? = some request) (hrunning : job ∈ s.running) :
    Complete { s with running := s.running.erase job, activeCancels := s.activeCancels.erase request.id } := by
  intro other hother id hid
  have hperm := inFlight_finish (s.activeCancels.erase request.id) hrunning
  have hjob : s.activeCancels.lookup request.id = some job :=
    h job (hperm.mem_iff.mpr List.mem_cons_self) _ (by rw [requestID, hrequest, Option.map_some])
  have hlookup := h other (hperm.mem_iff.mpr (List.mem_cons_of_mem _ hother)) id hid
  rw [Map.lookup_erase_eq, if_neg, hlookup]
  -- otherwise both jobs would be the entry of one ID
  rintro rfl
  cases hlookup.symm.trans hjob
  exact (List.nodup_cons.mp (hperm.nodup_iff.mp hsound.nodup)).1 hother

theorem Complete.step {e : JobsEvent} (h : s.Complete) (hsound : Sound maxConcurrent s) (hfresh : s.fresh dec e = true)
    (hstep : s.step dec localAddress maxConcurrent e = some next) : next.Complete := by
  cases step_cases hstep with
  | dispatch hidle _ hread =>
    simp only [fresh, hread, List.all_eq_true, bne_iff_ne] at hfresh
    exact h.dispatch hsound _ _ hidle hfresh
  | enqueue hheld => exact h.of_perm (inFlight_enqueue hheld) rfl rfl
  | take hqueued => exact h.of_perm (inFlight_take hqueued) rfl rfl
  | finish hrequest hrunning => exact h.finish hsound hrequest hrunning
  | quiet | cancel | pong | send | fetch | written => exact h.of_perm .rfl rfl rfl

theorem complete_of_run {events : List JobsEvent}
    (hrun : run (Jobs.step dec localAddress maxConcurrent) (start localAddress) events = some s)
    (hfresh : AllSteps (Jobs.step dec localAddress maxConcurrent) (fun s e => s.fresh dec e = true)
      (start localAddress) events) : s.Complete :=
  run_induction_of_steps (P := fun _ s => s.Complete) (fun _ hjob => by cases hjob)
    (fun _ _ _ _ hrun hcomplete hfresh hstep => hcomplete.step (sound_of_run hrun) hfresh hstep) hrun hfresh

/-- A `cancel_request` cancels no job but one that is in flight for a request with its ID, whatever the gateway has sent
    before; if the gateway has never reused the ID of a request in flight, it cancels this job. -/
theorem cancel_exact {events : List JobsEvent} {message : Message} {id : GoString}
    (hrun : run (Jobs.step dec localAddress maxConcurrent) (start localAddress) events = some s)
    (hitem : requestItem dec message = .cancel id)
    (hcancel : s.step dec localAddress maxConcurrent (.read message) = some next) :
    (∀ job ∈ next.cancelled, job ∈ s.cancelled ∨ job ∈ s.inFlight ∧ s.requestID job = some id) ∧
    (AllSteps (Jobs.step dec localAddress maxConcurrent) (fun s e => s.fresh dec e = true) (start localAddress) events →
      ∀ job ∈ s.inFlight, s.requestID job = some id → job ∈ next.cancelled) := by
  have hnext : next.cancelled = (s.activeCancels.lookup id).toList ++ s.cancelled := by
    cases step_cases hcancel with
    | quiet _ _ _ hother => exact absurd hitem (hother id)
    | dispatch _ _ _ hother => exact absurd hitem (hother id)
    | cancel _ hitem' =>
      cases hitem'.symm.trans hitem
      rfl
  rw [hnext]
  refine ⟨fun job hjob => ?_, fun hfresh job hjob hid => ?_⟩
  · obtain hjob | hjob := List.mem_append.mp hjob
    · exact .inr ((sound_of_run hrun).active id job (Option.mem_toList.mp hjob))
    · exact .inl hjob
  · have hlookup := complete_of_run hrun hfresh job hjob id hid
    exact List.mem_append_left _ (Option.mem_toList.mpr hlookup)

theorem Sound.len_activeCancels_le (h : Sound maxConcurrent s) : s.activeCancels.len ≤ s.inFlight.length := by
  have hsubset : s.activeCancels.keys ⊆ s.inFlight.filterMap s.requestID := by
    intro id hid
    obtain ⟨job, hlookup⟩ := (Map.mem_iff_lookup _ _).mp (AList.mem_keys.mpr hid)
    exact List.mem_filterMap.mpr ⟨job, h.active id job hlookup⟩
  calc s.activeCancels.len
      ≤ (s.inFlight.filterMap s.requestID).length :=
        (List.subperm_of_subset s.activeCancels.keys_nodup hsubset).length_le
    _ ≤ s.inFlight.length := List.length_filterMap_le _ _

theorem length_inFlight (s : Jobs) : s.inFlight.length = s.held.toList.length + s.queued.length + s.running.length := by
  rw [inFlight, List.length_append, List.length_append]

theorem Sound.length_inFlight_le (h : Sound maxConcurrent s) : s.inFlight.length ≤ 2 * maxConcurrent + 1 := by
  have hqueued := h.queued_le
  have hrunning := h.running_le
  have hheld : s.held.toList.length ≤ 1 := Option.length_toList_le
  rw [length_inFlight]
  omega

/-- The loop waits for room in `outbound`, and the writer for the gateway. -/
def choked (s : Jobs) : Bool := s.ponging && s.writing && s.outbound == outboundQueueCapacity

/-- The read loop gets to read on. -/
def ReadsAgain (dec : Decoder) (localAddress : GoString) (maxConcurrent : Nat) (allowed : JobsEvent → Bool) (s : Jobs) :
    Prop :=
  ∃ moves next, (∀ e ∈ moves, allowed e = true) ∧
    run (Jobs.step dec localAddress maxConcurrent) s moves = some next ∧ next.reads = true

theorem length_inFlight_of_moves (hrun : run (Jobs.step dec localAddress maxConcurrent) s moves = some next)
    (hmoves : ∀ e ∈ moves, e.heard = true) : next.inFlight.length = s.inFlight.length := by
  refine run_induction (P := fun moves next => (∀ e ∈ moves, e.heard = true) →
    next.inFlight.length = s.inFlight.length) (fun _ => rfl) ?_ hrun hmoves
  intro moves mid e next _ ih hstep hmoves
  rw [← ih fun e he => hmoves e (List.mem_append_left _ he)]
  have hmove := hmoves e (List.mem_append_right _ List.mem_cons_self)
  cases step_cases hstep with
  | enqueue hheld => exact (inFlight_enqueue hheld).length_eq
  | take hqueued => exact (inFlight_take hqueued).length_eq
  | pong | send | fetch | written => rfl
  | quiet | dispatch | cancel | finish => cases hmove

/-- Only the gateway can help. -/
theorem choked_of_moves (hrun : run (Jobs.step dec localAddress maxConcurrent) s moves = some next)
    (hmoves : ∀ e ∈ moves, e.alone = true) (hchoked : s.choked = true) : next.choked = true := by
  refine run_induction (P := fun moves next => (∀ e ∈ moves, e.alone = true) → next.choked = true)
    (fun _ => hchoked) ?_ hrun hmoves
  intro moves mid e next _ ih hstep hmoves
  have hmid := ih fun e he => hmoves e (List.mem_append_left _ he)
  have hmove := hmoves e (List.mem_append_right _ List.mem_cons_self)
  obtain ⟨⟨hponging, hwriting⟩, hfull⟩ : (mid.ponging = true ∧ mid.writing = true) ∧
      mid.outbound = outboundQueueCapacity := by simpa [choked] using hmid
  cases step_cases hstep with
  | enqueue | take => exact hmid
  | pong _ hroom => exact absurd hfull hroom.ne
  | send hroom => exact absurd hfull hroom.ne
  | fetch hidle => cases hidle.symm.trans hwriting
  | quiet | dispatch | cancel | finish | written => cases hmove

theorem step_enqueue (hheld : s.held = some job) (hroom : s.queued.length < maxConcurrent) :
    s.step dec localAddress maxConcurrent .enqueue = some { s with held := none, queued := s.queued ++ [job] } := by
  simp only [step, hheld, if_pos hroom]

theorem step_take {queued : List Nat} (hqueued : s.queued = job :: queued) (hidle : s.running.length < maxConcurrent) :
    s.step dec localAddress maxConcurrent .take = some { s with queued, running := job :: s.running } := by
  simp only [step, hqueued, if_pos hidle]

/-- A job that waits for `jobs` gets in once a worker has taken another. -/
theorem Sound.reads_of_held (h : Sound maxConcurrent s) (hlength : s.inFlight.length ≤ 2 * maxConcurrent)
    (hponging : s.ponging = false) : s.ReadsAgain dec localAddress maxConcurrent JobsEvent.alone := by
  cases hheld : s.held with
  | none => exact ⟨[], s, by simp, rfl, reads_iff.mpr ⟨hheld, hponging⟩⟩
  | some job =>
    by_cases hroom : s.queued.length < maxConcurrent
    · refine ⟨[.enqueue], { s with held := none, queued := s.queued ++ [job] }, by simp [JobsEvent.alone], ?_,
        reads_iff.mpr ⟨rfl, hponging⟩⟩
      rw [run_cons, step_enqueue hheld hroom]
      rfl
    · rw [length_inFlight, hheld, Option.toList_some, List.length_singleton] at hlength
      cases hqueued : s.queued with
      | nil =>
        rw [hqueued, List.length_nil] at hroom hlength
        omega
      | cons first queued =>
        have hfull := h.queued_le
        rw [hqueued, List.length_cons] at hroom hlength hfull
        have hidle : s.running.length < maxConcurrent := by omega
        have hplace : queued.length < maxConcurrent := by omega
        let taken := { s with queued, running := first :: s.running }
        refine ⟨[.take, .enqueue], { taken with held := none, queued := queued ++ [job] }, by simp [JobsEvent.alone], ?_,
          reads_iff.mpr ⟨rfl, hponging⟩⟩
        rw [run_cons, step_take hqueued hidle, Option.bind_some, run_cons, step_enqueue (s := taken) hheld hplace]
        rfl

/-- A pong that waits for `outbound` gets in once the writer has taken a message. -/
theorem Sound.reads_of_ponging (h : Sound maxConcurrent s) (hponging : s.ponging = true) (hfree : s.choked = false) :
    s.ReadsAgain dec localAddress maxConcurrent JobsEvent.alone := by
  have hidle := h.ponging hponging
  by_cases hroom : s.outbound < outboundQueueCapacity
  · refine ⟨[.pong], { s with ponging := false, outbound := s.outbound + 1 }, by simp [JobsEvent.alone], ?_,
      reads_iff.mpr ⟨hidle, rfl⟩⟩
    simp [run_cons, Jobs.step, hponging, hroom]
  · have hfull : s.outbound = outboundQueueCapacity := le_antisymm h.outbound_le (not_lt.mp hroom)
    have hwriting : s.writing = false := by simpa [choked, hponging, hfull] using hfree
    refine ⟨[.fetch, .pong], { s with ponging := false, outbound := outboundQueueCapacity, writing := true },
      by simp [JobsEvent.alone], ?_, reads_iff.mpr ⟨hidle, rfl⟩⟩
    simp [run_cons, Jobs.step, hponging, hwriting, hfull, outboundQueueCapacity]

theorem ReadsAgain.mono {allowed allowed' : JobsEvent → Bool} (h : s.ReadsAgain dec localAddress maxConcurrent allowed)
    (hle : ∀ e, allowed e = true → allowed' e = true) : s.ReadsAgain dec localAddress maxConcurrent allowed' := by
  obtain ⟨moves, next, hmoves, hrun, hreads⟩ := h
  exact ⟨moves, next, fun e he => hle e (hmoves e he), hrun, hreads⟩

theorem heard_of_alone (e : JobsEvent) (h : e.alone = true) : e.heard = true := by
  rw [JobsEvent.heard, h, Bool.true_or]

/-- Once the gateway has taken a message, so can the writer. -/
theorem Sound.reads_of_choked (h : Sound maxConcurrent s) (hchoked : s.choked = true) :
    s.ReadsAgain dec localAddress maxConcurrent JobsEvent.heard := by
  obtain ⟨⟨hponging, hwriting⟩, -⟩ : (s.ponging = true ∧ s.writing = true) ∧ s.outbound = outboundQueueCapacity := by
    simpa [choked] using hchoked
  have hwritten : s.step dec localAddress maxConcurrent .written = some { s with writing := false } := by
    rw [Jobs.step, if_pos hwriting]
  obtain ⟨moves, next, hmoves, hrun, hreads⟩ :
      ({ s with writing := false } : Jobs).ReadsAgain dec localAddress maxConcurrent JobsEvent.alone :=
    (h.step hwritten).reads_of_ponging hponging (by simp [choked])
  refine ⟨.written :: moves, next, ?_, ?_, hreads⟩
  · rintro e (_ | ⟨_, he⟩)
    · rfl
    · exact heard_of_alone e (hmoves e he)
  · rw [run_cons, hwritten]
    exact hrun

theorem Sound.length_of_reads (h : Sound maxConcurrent s) (hreads : s.reads = true) :
    s.inFlight.length ≤ 2 * maxConcurrent := by
  have hqueued := h.queued_le
  have hrunning := h.running_le
  rw [length_inFlight, (reads_iff.mp hreads).1, Option.toList_none, List.length_nil]
  omega

/-- At most `2 * maxConcurrent + 1` jobs are in flight, and `activeCancels` has no more entries. The loop gets to read
    the next message without the end of a job exactly if one job less is, as long as the gateway takes the messages of
    the agent; if it takes none, the loop must not wait for room in a full `outbound` either. -/
theorem reads_again_iff {events : List JobsEvent}
    (hrun : run (Jobs.step dec localAddress maxConcurrent) (start localAddress) events = some s) :
    s.activeCancels.len ≤ s.inFlight.length ∧ s.inFlight.length ≤ 2 * maxConcurrent + 1 ∧
    (s.ReadsAgain dec localAddress maxConcurrent JobsEvent.heard ↔ s.inFlight.length ≤ 2 * maxConcurrent) ∧
    (s.ReadsAgain dec localAddress maxConcurrent JobsEvent.alone ↔
      s.inFlight.length ≤ 2 * maxConcurrent ∧ s.choked = false) := by
  have hsound := sound_of_run hrun
  have hlength : s.ReadsAgain dec localAddress maxConcurrent JobsEvent.heard →
      s.inFlight.length ≤ 2 * maxConcurrent := by
    rintro ⟨moves, next, hmoves, hmoved, hreads⟩
    rw [← length_inFlight_of_moves hmoved hmoves]
    exact (sound_of_run (run_trans hrun hmoved)).length_of_reads hreads
  have halone : s.inFlight.length ≤ 2 * maxConcurrent → s.choked = false →
      s.ReadsAgain dec localAddress maxConcurrent JobsEvent.alone := by
    intro hle hfree
    cases hponging : s.ponging with
    | false => exact hsound.reads_of_held hle hponging
    | true => exact hsound.reads_of_ponging hponging hfree
  refine ⟨hsound.len_activeCancels_le, hsound.length_inFlight_le, ⟨hlength, fun hle => ?_⟩, fun hreads => ⟨?_, ?_⟩,
    fun h => halone h.1 h.2⟩
  · cases hchoked : s.choked with
    | false => exact (halone hle hchoked).mono heard_of_alone
    | true => exact hsound.reads_of_choked hchoked
  · exact hlength (hreads.mono heard_of_alone)
  · obtain ⟨moves, next, hmoves, hmoved, hidle⟩ := hreads
    refine Bool.eq_false_iff.mpr fun hchoked => ?_
    have hnext := choked_of_moves hmoved hmoves hchoked
    simp [choked, (reads_iff.mp hidle).2] at hnext

/-- A gateway that sends pings and reads nothing. -/
example : (run (Jobs.step (Decoder.json fun _ => []) [] 1) (start [])
    ([.read pingMessage, .pong, .fetch] ++ (List.replicate 32 [.read pingMessage, .pong]).flatten ++
      [.read pingMessage])).map (fun s => (s.inFlight, s.choked)) = some ([], true) := by decide +kernel

/-- Three requests for an agent with one worker: the first runs, the second is in the queue. -/
def threeRequests : List JobsEvent :=
  let dispatch := fun (id : GoString) =>
    let payload : HTTPRequestPayload :=
      { requestID := id, method := lit "GET", path := lit "/", headers := ∅, contentLength := 0 }
    [JobsEvent.read (httpRequestStartMessage payload), .read (httpRequestEndMessage id)]
  dispatch (lit "req_1") ++ [.enqueue, .take] ++ dispatch (lit "req_2") ++ [.enqueue] ++ dispatch (lit "req_3")

theorem cancel_exact_queued :
    let dec := Decoder.json fun _ => []
    ∃ s next, run (Jobs.step dec [] 1) (start []) (threeRequests.take 7) = some s ∧
      s.step dec [] 1 (.read (cancelRequestMessage (lit "req_2"))) = some next ∧ s.inFlight = [1, 0] ∧
      1 ∈ next.cancelled := by
  intro dec
  have hfacts : (run (Jobs.step dec [] 1) (start []) (threeRequests.take 7)).map (fun s =>
      (s.inFlight, s.requestID 1, (s.step dec [] 1 (.read (cancelRequestMessage (lit "req_2")))).isSome)) =
      some ([1, 0], some (lit "req_2"), true) := by decide +kernel
  have hfresh : AllSteps (Jobs.step dec [] 1) (fun s e => s.fresh dec e = true) (start []) (threeRequests.take 7) := by
    decide +kernel
  have hitem : requestItem dec (cancelRequestMessage (lit "req_2")) = .cancel (lit "req_2") := by
    refine requestItem_cancel ⟨{ requestID := lit "req_2", method := [], path := [], headers := ∅, contentLength := 0 },
      ?_, rfl⟩
    decide +kernel
  obtain ⟨s, hrun, hs⟩ := Option.map_eq_some_iff.mp hfacts
  simp only [Prod.mk.injEq] at hs
  obtain ⟨hinFlight, hid, hreads⟩ := hs
  obtain ⟨next, hstep⟩ := Option.isSome_iff_exists.mp hreads
  obtain ⟨-, hreaches⟩ := cancel_exact hrun hitem hstep
  exact ⟨s, next, hrun, hstep, hinFlight, hreaches hfresh 1 (by simp [hinFlight]) hid⟩

theorem reads_again_iff_blocked :
    let dec := Decoder.json fun _ => []
    ∃ s, run (Jobs.step dec [] 1) (start []) threeRequests = some s ∧ s.inFlight = [2, 1, 0] ∧
      ¬s.ReadsAgain dec [] 1 JobsEvent.heard := by
  intro dec
  have hfacts : (run (Jobs.step dec [] 1) (start []) threeRequests).map (·.inFlight) = some [2, 1, 0] := by
    decide +kernel
  obtain ⟨s, hrun, hinFlight⟩ := Option.map_eq_some_iff.mp hfacts
  refine ⟨s, hrun, hinFlight, fun hreads => ?_⟩
  have hlength := (reads_again_iff hrun).2.2.1.mp hreads
  rw [hinFlight] at hlength
  exact absurd hlength (by decide)

end Jobs

end myngrok.gatewayclient
