import Myngrok.GatewayClient.RequestStreams

open golang Result websocket transition
open myngrok.protocol hiding requestBodyChunk responseBodyChunk binaryFrameHeader parseBinaryFrame BinaryFrame

namespace myngrok.gatewayclient

/-- The jobs of a session while its context is not done, numbered in the order in which the read loop made them: the one
    that it waits to put in `jobs`, those in `jobs`, and those that workers run. The cancel function of a job is its
    number; `cancelled` are the jobs whose function the loop has called. `outbound` is the number of messages in the
    queue of this name; the loop may wait to put a pong in it, and the writer may be in `conn.Write` with one that it
    has taken. -/
structure Jobs where
  pending : PendingRequests
  dispatched : List Request
  held : Option Nat
  queued : List Nat
  running : List Nat
  activeCancels : Map GoString Nat
  cancelled : List Nat
  ponging : Bool
  outbound : Nat
  writing : Bool
  deriving DecidableEq

/-- `send` is a message of a job: a job for a local service sends as many as the answer has. -/
inductive JobsEvent where
  | read (message : Message)
  | enqueue
  | take
  | finish (job : Nat)
  | pong
  | send (job : Nat)
  | fetch
  | written
  deriving DecidableEq

namespace Jobs

/-- The session begins with an `open_tunnel` message, if there is a local address. -/
def start (localAddress : GoString) : Jobs :=
  { pending := ∅, dispatched := [], held := none, queued := [], running := [], activeCancels := ∅, cancelled := []
    ponging := false, outbound := if strings.trimSpace localAddress = [] then 0 else 1, writing := false }

/-- The read loop is at `conn.Read`. -/
def reads (s : Jobs) : Bool := s.held.isNone && !s.ponging

/-- The jobs that have been made and have not returned. -/
def inFlight (s : Jobs) : List Nat := s.held.toList ++ s.queued ++ s.running

/-- The ID of the request that a job executes. -/
def requestID (s : Jobs) (job : Nat) : Option GoString := s.dispatched[job]?.map (·.id)

/-- What the read loop does with the jobs on account of a message. -/
def perform (s : Jobs) : ReadEffect → Jobs
  | .pong => { s with ponging := true }
  | .dispatch request => { s with
      dispatched := s.dispatched ++ [request], held := some s.dispatched.length
      activeCancels := s.activeCancels.insert request.id s.dispatched.length }
  | .cancel id => { s with cancelled := (s.activeCancels.lookup id).toList ++ s.cancelled }

/-- One step of the read loop, of one of the workers or of the writer. The loop reads no message while it waits to put a
    job in `jobs` or a pong in `outbound`; a message that ends the session has no next state. -/
def step (dec : Decoder) (localAddress : GoString) (maxConcurrent : Nat) (s : Jobs) : JobsEvent → Option Jobs
  | .read message =>
    if s.reads then
      match readMessage dec s.pending message with
      | ok (.continued pending effects) => some (effects.foldl perform { s with pending })
      | _ => none
    else none
  | .enqueue =>
    match s.held with
    | some job =>
      if s.queued.length < maxConcurrent then some { s with held := none, queued := s.queued ++ [job] } else none
    | none => none
  | .take =>
    match s.queued with
    | job :: queued =>
      if s.running.length < maxConcurrent then some { s with queued, running := job :: s.running } else none
    | [] => none
  | .finish job =>
    match s.dispatched[job]? with
    | some request =>
      if job ∈ s.running then
        some { s with running := s.running.erase job, activeCancels := s.activeCancels.erase request.id }
      else none
    | none => none
  | .pong =>
    if s.ponging ∧ s.outbound < outboundQueueCapacity then some { s with ponging := false, outbound := s.outbound + 1 }
    else none
  | .send job =>
    if localAddress ≠ [] ∧ job ∈ s.running ∧ s.outbound < outboundQueueCapacity then
      some { s with outbound := s.outbound + 1 }
    else none
  | .fetch => if ¬s.writing ∧ 0 < s.outbound then some { s with outbound := s.outbound - 1, writing := true } else none
  | .written => if s.writing then some { s with writing := false } else none

variable {dec : Decoder} {localAddress : GoString} {maxConcurrent job : Nat} {s next : Jobs} {pending : PendingRequests}
  {message : Message} {effects : List ReadEffect} {e : JobsEvent}

section

variable (dec : Decoder) (maxConcurrent : Nat) (s : Jobs)

/-- The ways a step can go. -/
inductive Step : JobsEvent → Jobs → Prop where
  | quiet {message : Message} (pending : PendingRequests) (ponging : Bool) (hidle : s.held = none)
      (hitem : ∀ id, requestItem dec message ≠ .cancel id) : Step (.read message) { s with pending, ponging }
  | dispatch {message : Message} {pending : PendingRequests} {request} (hidle : s.held = none)
      (hponging : s.ponging = false)
      (hread : readMessage dec s.pending message = ok (.continued pending [.dispatch request]))
      (hitem : ∀ id, requestItem dec message ≠ .cancel id) :
    Step (.read message) (perform { s with pending } (.dispatch request))
  | cancel {message : Message} {id} (pending : PendingRequests) (hitem : requestItem dec message = .cancel id) :
    Step (.read message) (perform { s with pending } (.cancel id))
  | enqueue {job : Nat} (hheld : s.held = some job) (hroom : s.queued.length < maxConcurrent) :
    Step .enqueue { s with held := none, queued := s.queued ++ [job] }
  | take {job : Nat} {queued} (hqueued : s.queued = job :: queued) (hidle : s.running.length < maxConcurrent) :
    Step .take { s with queued, running := job :: s.running }
  | finish {job : Nat} {request : Request} (hrequest : s.dispatched[job]? = some request)
      (hrunning : job ∈ s.running) :
    Step (.finish job) { s with running := s.running.erase job, activeCancels := s.activeCancels.erase request.id }
  | pong (hponging : s.ponging = true) (hroom : s.outbound < outboundQueueCapacity) :
    Step .pong { s with ponging := false, outbound := s.outbound + 1 }
  | send {job : Nat} (hroom : s.outbound < outboundQueueCapacity) :
    Step (.send job) { s with outbound := s.outbound + 1 }
  | fetch (hidle : s.writing = false) (hsome : 0 < s.outbound) :
    Step .fetch { s with outbound := s.outbound - 1, writing := true }
  | written (hwriting : s.writing = true) : Step .written { s with writing := false }

end

theorem reads_iff : s.reads = true ↔ s.held = none ∧ s.ponging = false := by
  rw [reads, Bool.and_eq_true, Option.isNone_iff_eq_none, Bool.not_eq_true']

/-- A message that is not about a stream has at most a pong as its effect. -/
theorem effects_of_skip (hread : readMessage dec s.pending message = ok (.continued pending effects))
    (hitem : requestItem dec message = .skip) : effects = [] ∨ effects = [.pong] := by
  obtain ⟨messageType, data⟩ := message
  cases messageType with
  | binary =>
    obtain ⟨frame, entry, hparse, -⟩ | ⟨err, hfailed⟩ := readChunk_spec s.pending data
    · rw [requestItem_binary dec hparse] at hitem
      cases hitem
    · cases hfailed.symm.trans hread
  | other code => cases hread
  | text =>
    simp only [readMessage, requestItem] at hread hitem
    cases hdata : dec.requestMessage data with
    | none =>
      rw [hdata] at hread
      cases hread
    | some read =>
      obtain ⟨type, payload⟩ := read
      simp only [hdata] at hread hitem
      split at hread
      · cases hread
        exact .inr rfl
      split at hread
      · next hstart => cases (if_pos hstart).symm.trans hitem
      next hstart =>
      rw [if_neg hstart] at hitem
      split at hread
      · next hend =>
        rw [if_pos hend] at hitem
        obtain ⟨id, entry, hid, -⟩ | ⟨err, hfailed⟩ := readEnd_spec dec s.pending data
        · rw [hid] at hitem
          cases hitem
        · rw [hfailed] at hread
          cases hread
      next hend =>
      rw [if_neg hend] at hitem
      split at hread
      · next hcancel => cases (if_pos hcancel).symm.trans hitem
      · cases hread
        exact .inl rfl

theorem step_read (hreads : s.reads = true)
    (hread : readMessage dec s.pending message = ok (.continued pending effects)) :
    Step dec maxConcurrent s (.read message) (effects.foldl perform { s with pending }) := by
  obtain ⟨hidle, hponging⟩ := reads_iff.mp hreads
  obtain ⟨pending', effects', hread', hreceives⟩ | ⟨err, hfailed⟩ | ⟨-, hpanic⟩ :=
    readMessage_cases dec s.pending message
  · cases hread'.symm.trans hread
    generalize hitem : requestItem dec message = item at hreceives
    cases hreceives with
    | start => exact .quiet _ s.ponging hidle (by simp [hitem])
    | chunk => exact .quiet _ s.ponging hidle (by simp [hitem])
    | finish => exact .dispatch hidle hponging hread (by simp [hitem])
    | cancel id => exact .cancel _ hitem
    | skip =>
      obtain rfl | rfl := effects_of_skip hread hitem
      · exact .quiet _ s.ponging hidle (by simp [hitem])
      · exact .quiet _ true hidle (by simp [hitem])
  · cases hfailed.symm.trans hread
  · cases hpanic.symm.trans hread

theorem step_cases (h : s.step dec localAddress maxConcurrent e = some next) : Step dec maxConcurrent s e next := by
  cases e with
  | read message =>
    simp only [step] at h
    split at h
    · rename_i hreads
      split at h <;> cases h
      rename_i hread
      exact step_read hreads hread
    · cases h
  | enqueue =>
    simp only [step] at h
    split at h
    · rename_i hheld
      split at h <;> cases h
      rename_i hroom
      exact .enqueue hheld hroom
    · cases h
  | take =>
    simp only [step] at h
    split at h
    · rename_i hqueued
      split at h <;> cases h
      rename_i hidle
      exact .take hqueued hidle
    · cases h
  | finish job =>
    simp only [step] at h
    split at h
    · rename_i hrequest
      split at h <;> cases h
      rename_i hrunning
      exact .finish hrequest hrunning
    · cases h
  | pong =>
    simp only [step] at h
    split at h <;> cases h
    rename_i hpong
    exact .pong hpong.1 hpong.2
  | send job =>
    simp only [step] at h
    split at h <;> cases h
    rename_i hsend
    exact .send hsend.2.2
  | fetch =>
    simp only [step] at h
    split at h <;> cases h
    rename_i hfetch
    exact .fetch (Bool.eq_false_iff.mpr hfetch.1) hfetch.2
  | written =>
    simp only [step] at h
    split at h <;> cases h
    rename_i hwriting
    exact .written hwriting

theorem inFlight_enqueue (hheld : s.held = some job) :
    ({ s with held := none, queued := s.queued ++ [job] } : Jobs).inFlight.Perm s.inFlight := by
  simp only [inFlight, hheld, Option.toList_none, Option.toList_some, List.nil_append]
  exact (List.perm_append_singleton job s.queued).append_right s.running

theorem inFlight_take {queued : List Nat} (hqueued : s.queued = job :: queued) :
    ({ s with queued, running := job :: s.running } : Jobs).inFlight.Perm s.inFlight := by
  simp only [inFlight, hqueued, List.append_assoc]
  exact List.perm_middle.append_left s.held.toList

theorem inFlight_finish (activeCancels : Map GoString Nat) (hrunning : job ∈ s.running) :
    s.inFlight.Perm (job :: ({ s with running := s.running.erase job, activeCancels } : Jobs).inFlight) :=
  ((List.perm_cons_erase hrunning).append_left _).trans List.perm_middle

theorem inFlight_dispatch (pending : PendingRequests) (request : Request) (hidle : s.held = none) :
    (perform { s with pending } (.dispatch request)).inFlight = s.dispatched.length :: s.inFlight := by
  simp only [perform, inFlight, hidle, Option.toList_none, Option.toList_some, List.nil_append,
    List.cons_append]

theorem requestID_append (request : Request) (hjob : job < s.dispatched.length) :
    (s.dispatched ++ [request])[job]?.map (·.id) = s.requestID job := by
  rw [List.getElem?_append_left hjob, requestID]

/-- No job is lost or doubled on its way through the queue, each entry of `activeCancels` is the job of a request with
    this ID that has not returned, and the loop waits for one thing at a time. -/
structure Sound (maxConcurrent : Nat) (s : Jobs) : Prop where
  nodup : s.inFlight.Nodup
  known : ∀ job ∈ s.inFlight, job < s.dispatched.length
  queued_le : s.queued.length ≤ maxConcurrent
  running_le : s.running.length ≤ maxConcurrent
  active : ∀ id job, s.activeCancels.lookup id = some job → job ∈ s.inFlight ∧ s.requestID job = some id
  ponging : s.ponging = true → s.held = none
  outbound_le : s.outbound ≤ outboundQueueCapacity

theorem sound_start (maxConcurrent : Nat) (localAddress : GoString) : Sound maxConcurrent (start localAddress) where
  nodup := List.nodup_nil
  known _ hjob := by cases hjob
  queued_le := Nat.zero_le _
  running_le := Nat.zero_le _
  active _ _ hlookup := by cases hlookup
  ponging _ := rfl
  outbound_le := by
    unfold start
    dsimp only
    split <;> decide

theorem Sound.of_perm (h : Sound maxConcurrent s) (hperm : next.inFlight.Perm s.inFlight)
    (hdispatched : next.dispatched = s.dispatched) (hactive : next.activeCancels = s.activeCancels)
    (hqueued : next.queued.length ≤ maxConcurrent) (hrunning : next.running.length ≤ maxConcurrent)
    (hponging : next.ponging = true → next.held = none) (houtbound : next.outbound ≤ outboundQueueCapacity) :
    Sound maxConcurrent next where
  nodup := hperm.nodup_iff.mpr h.nodup
  known job hjob := hdispatched ▸ h.known job (hperm.mem_iff.mp hjob)
  queued_le := hqueued
  running_le := hrunning
  active id job hlookup := by
    rw [hactive] at hlookup
    obtain ⟨hjob, hid⟩ := h.active id job hlookup
    refine ⟨hperm.mem_iff.mpr hjob, ?_⟩
    rwa [requestID, hdispatched]
  ponging := hponging
  outbound_le := houtbound

theorem Sound.dispatch (h : Sound maxConcurrent s) (pending : PendingRequests) (request : Request)
    (hidle : s.held = none) (hponging : s.ponging = false) :
    Sound maxConcurrent (perform { s with pending } (.dispatch request)) where
  nodup := by
    rw [inFlight_dispatch pending request hidle, List.nodup_cons]
    exact ⟨fun hjob => lt_irrefl _ (h.known _ hjob), h.nodup⟩
  known job hjob := by
    rw [inFlight_dispatch pending request hidle] at hjob
    simp only [perform, List.length_append, List.length_singleton]
    obtain rfl | hjob := List.mem_cons.mp hjob
    · omega
    · have hknown := h.known job hjob
      omega
  queued_le := h.queued_le
  running_le := h.running_le
  active id job hlookup := by
    rw [inFlight_dispatch pending request hidle]
    simp only [perform, Map.lookup_insert_eq] at hlookup
    split at hlookup
    · next heq =>
      cases hlookup
      subst heq
      refine ⟨List.mem_cons_self, ?_⟩
      simp only [requestID, perform, List.getElem?_concat_length, Option.map_some]
    · obtain ⟨hjob, hid⟩ := h.active id job hlookup
      refine ⟨List.mem_cons_of_mem _ hjob, ?_⟩
      exact (requestID_append request (h.known job hjob)).trans hid
  ponging htrue := by cases hponging.symm.trans htrue
  outbound_le := h.outbound_le

theorem Sound.finish (h : Sound maxConcurrent s) {request : Request} (hrequest : s.dispatched[job]? = some request)
    (hrunning : job ∈ s.running) :
    Sound maxConcurrent
      { s with running := s.running.erase job, activeCancels := s.activeCancels.erase request.id } := by
  have hperm := inFlight_finish (s.activeCancels.erase request.id) hrunning
  have hid : s.requestID job = some request.id := by rw [requestID, hrequest, Option.map_some]
  refine ⟨(List.nodup_cons.mp (hperm.nodup_iff.mp h.nodup)).2, fun other hother => ?_, h.queued_le, ?_,
    fun id other hlookup => ?_, h.ponging, h.outbound_le⟩
  · exact h.known other (hperm.mem_iff.mpr (List.mem_cons_of_mem _ hother))
  · exact (List.length_erase_le).trans h.running_le
  · rw [Map.lookup_erase_eq] at hlookup
    split at hlookup
    · cases hlookup
    · next hne =>
      obtain ⟨hother, hotherID⟩ := h.active id other hlookup
      obtain rfl | hother := List.mem_cons.mp (hperm.mem_iff.mp hother)
      · rw [hid] at hotherID
        cases hotherID
        exact absurd rfl hne
      · exact ⟨hother, hotherID⟩

theorem Sound.step (h : Sound maxConcurrent s) (hstep : s.step dec localAddress maxConcurrent e = some next) :
    Sound maxConcurrent next := by
  cases step_cases hstep with
  | quiet _ _ hidle => exact h.of_perm .rfl rfl rfl h.queued_le h.running_le (fun _ => hidle) h.outbound_le
  | dispatch hidle hponging => exact h.dispatch _ _ hidle hponging
  | cancel | written => exact h.of_perm .rfl rfl rfl h.queued_le h.running_le h.ponging h.outbound_le
  | enqueue hheld hroom =>
    refine h.of_perm (inFlight_enqueue hheld) rfl rfl ?_ h.running_le (fun _ => rfl) h.outbound_le
    rw [List.length_append, List.length_singleton]
    exact hroom
  | take hqueued hidle =>
    refine h.of_perm (inFlight_take hqueued) rfl rfl ?_ hidle h.ponging h.outbound_le
    have hle := h.queued_le
    rw [hqueued, List.length_cons] at hle
    exact (Nat.le_succ _).trans hle
  | finish hrequest hrunning => exact h.finish hrequest hrunning
  | pong hponging hroom =>
    exact h.of_perm .rfl rfl rfl h.queued_le h.running_le (fun _ => h.ponging hponging) hroom
  | send hroom => exact h.of_perm .rfl rfl rfl h.queued_le h.running_le h.ponging hroom
  | fetch =>
    exact h.of_perm .rfl rfl rfl h.queued_le h.running_le h.ponging ((Nat.sub_le _ _).trans h.outbound_le)

theorem sound_of_run {events : List JobsEvent}
    (hrun : run (Jobs.step dec localAddress maxConcurrent) (start localAddress) events = some s) :
    Sound maxConcurrent s :=
  run_induction (P := fun _ => Sound maxConcurrent) (sound_start maxConcurrent localAddress)
    (fun _ _ _ _ _ hsound hstep => hsound.step hstep) hrun

end Jobs

end myngrok.gatewayclient
