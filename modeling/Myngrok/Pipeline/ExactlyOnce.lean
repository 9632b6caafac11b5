import Mathlib.Algebra.BigOperators.Group.Finset.Basic
import Mathlib.Data.Fintype.Basic
import Myngrok.Pipeline.Delivery
import Myngrok.Pipeline.Completeness

open golang Result websocket transition myngrok.protocol myngrok.gateway
open myngrok.gatewayclient hiding BinaryFrame responseBodyChunk requestBodyChunk parseBinaryFrame

namespace myngrok.pipeline

variable {n : Nat} {dec : Decoder} {localAddress : GoString} {capacity : Nat} {events more : List (RespondingEvent n)}

/-- Work that comes from outside: a new job, or a ping to answer. -/
def RespondingEvent.arrives : RespondingEvent n → Bool
  | .take _ _ => true
  | .pong => true
  | _ => false

/-- A message makes six steps from its worker to the session loop, and a worker makes one more when it is done. -/
def workLeft : Option Work → Nat
  | none => 0
  | some work => 6 * work.rest.length + 1

theorem workLeft_none : workLeft none = 0 := rfl

theorem workLeft_some (job : Job) (rest : List Message) : workLeft (some { job, rest }) = 6 * rest.length + 1 := rfl

theorem sum_workLeft_update (workers : Fin n → Option Work) (w : Fin n) (work : Option Work) :
    (∑ x, workLeft (Function.update workers w work x)) + workLeft (workers w) =
      (∑ x, workLeft (workers x)) + workLeft work := by
  have hrest : ∑ x ∈ Finset.univ.erase w, workLeft (Function.update workers w work x) =
      ∑ x ∈ Finset.univ.erase w, workLeft (workers x) := by
    apply Finset.sum_congr rfl
    intro x hx
    rw [Function.update_of_ne (Finset.ne_of_mem_erase hx)]
  rw [← Finset.add_sum_erase _ _ (Finset.mem_univ w), ← Finset.add_sum_erase Finset.univ (fun x => workLeft (workers x))
    (Finset.mem_univ w), hrest, Function.update_self]
  omega

namespace Responding

variable {s next : Responding n} {e : RespondingEvent n} {responses : Responses}

/-- An upper bound for the steps that are left. -/
def weight (s : Responding n) : Nat :=
  (∑ w, workLeft (s.workers w)) + 5 * s.outbound.length + 4 * s.writer.toList.length + 3 * s.toGateway.length +
    2 * s.reader.toList.length + s.readCh.length

theorem weight_lt (hstep : s.step dec localAddress capacity e = some next) (hold : e.arrives = false)
    (hopen : next.responses.isSome) : next.weight < s.weight := by
  cases step_cases hstep with
  | take | pong => cases hold
  | @send w job message rest hwork hroom =>
    have hsum := sum_workLeft_update s.workers w (some { job, rest })
    rw [hwork, workLeft_some, workLeft_some, List.length_cons] at hsum
    simp only [weight, setWorker, List.length_append, List.length_singleton]
    omega
  | @finish w job hwork =>
    have hsum := sum_workLeft_update s.workers w none
    rw [hwork, workLeft_some, workLeft_none, List.length_nil] at hsum
    simp only [weight, setWorker]
    omega
  | writerTake hwriter hqueue =>
    simp only [weight, hwriter, hqueue, Option.toList_some, Option.toList_none, List.length_cons, List.length_nil]
    omega
  | write hwriter =>
    simp only [weight, hwriter, Option.toList_some, Option.toList_none, List.length_append, List.length_cons,
      List.length_nil]
    omega
  | read hreader hqueue =>
    simp only [weight, hreader, hqueue, Option.toList_some, Option.toList_none, List.length_cons, List.length_nil]
    omega
  | place hreader =>
    simp only [weight, hreader, Option.toList_some, Option.toList_none, List.length_append, List.length_cons,
      List.length_nil]
    omega
  | inbound _ hqueue =>
    simp only [weight, hqueue, List.length_cons]
    omega
  | readError | closed => cases hopen

/-- Nobody has anything left to do. -/
def Idle (s : Responding n) : Prop := (∀ w, s.workers w = none) ∧ s.stream = []

/-- An open session loop can always take what is in `readCh`, whatever it is answered. -/
theorem inbound_isSome {message : Message} {rest : List Message} (hopen : s.responses = some responses)
    (hqueue : s.readCh = message :: rest) (answers : Answers) :
    (s.step dec localAddress capacity (.inbound answers message)).isSome := by
  simp only [step, hopen, hqueue, if_true]
  obtain ⟨after, effects, hserve, _⟩ | ⟨_, ⟨status, reason, hserve⟩ | hserve⟩ :=
    serveInbound_cases dec answers responses message <;> rw [hserve] <;> rfl

/-- As long as the session is open and something is left to do, somebody can do it. -/
theorem idle_of_stuck (hcapacity : 0 < capacity) (hopen : s.responses = some responses)
    (hstuck : ∀ e, e.arrives = false → s.step dec localAddress capacity e = none) : s.Idle := by
  have hreadCh : s.readCh = [] := by
    cases hqueue : s.readCh with
    | nil => rfl
    | cons message rest =>
      have h : (s.step dec localAddress capacity (.inbound quietAnswers message)).isSome :=
        inbound_isSome hopen hqueue quietAnswers
      rw [hstuck (.inbound quietAnswers message) rfl] at h
      cases h
  have hreader : s.reader = none := by
    cases hreader : s.reader with
    | none => rfl
    | some message =>
      have h := hstuck (.place message) rfl
      simp [step, hreader, hreadCh, readChCapacity] at h
  have htoGateway : s.toGateway = [] := by
    cases hqueue : s.toGateway with
    | nil => rfl
    | cons message rest =>
      have h := hstuck (.read message) rfl
      simp only [step, hreader, hqueue, if_true] at h
      split at h <;> cases h
  have hwriter : s.writer = none := by
    cases hwriter : s.writer with
    | none => rfl
    | some message =>
      have h := hstuck (.write message) rfl
      simp [step, hwriter, htoGateway, hcapacity] at h
  have houtbound : s.outbound = [] := by
    cases hqueue : s.outbound with
    | nil => rfl
    | cons message rest =>
      have h := hstuck (.writerTake message) rfl
      simp [step, hwriter, hqueue] at h
  refine ⟨?_, by simp [stream, hreadCh, hreader, htoGateway, hwriter, houtbound]⟩
  intro w
  cases hwork : s.workers w with
  | none => rfl
  | some work =>
    obtain ⟨job, rest⟩ := work
    cases rest with
    | nil =>
      have h := hstuck (.finish w) rfl
      simp [step, hwork] at h
    | cons message rest =>
      have h := hstuck (.send w message) rfl
      simp [step, hwork, houtbound, outboundQueueCapacity] at h

end Responding

theorem jobs_append_old (hold : ∀ e ∈ more, e.arrives = false) : jobs (events ++ more) = jobs events := by
  have hnone : more.filterMap RespondingEvent.job = [] := by
    rw [List.filterMap_eq_nil_iff]
    intro e hmem
    have harrives := hold e hmem
    cases e with
    | take | pong => cases harrives
    | _ => rfl
  rw [jobs, List.filterMap_append, hnone, List.append_nil, jobs]

/-- However the parties are scheduled, there is an end to what has arrived. -/
theorem length_le_weight (haddress : localAddress ≠ []) (hpong : dec.ReadsPong)
    (hworkers : n ≤ maxPendingResponseStreams) {s next : Responding n}
    (hrun : run (Responding.step dec localAddress capacity) Responding.start events = some s)
    (hassigned : Assigned dec localAddress (jobs events))
    (hmore : run (Responding.step dec localAddress capacity) s more = some next)
    (hold : ∀ e ∈ more, e.arrives = false) : more.length + next.weight ≤ s.weight := by
  induction more using List.reverseRecOn generalizing next with
  | nil =>
    cases hmore
    exact Nat.le_of_eq (Nat.zero_add _)
  | append_singleton more e ih =>
    obtain ⟨before, hbefore, hstep⟩ := run_concat_eq_some.mp hmore
    have hearlier := ih hbefore fun e' hmem => hold e' (List.mem_append_left _ hmem)
    have hall := run_trans hrun hmore
    have hdelivery := delivery_of_run haddress hpong hworkers hall (by rw [jobs_append_old hold]; exact hassigned)
    obtain ⟨responses, hopen, _⟩ := hdelivery.receipt
    have hlt := Responding.weight_lt hstep (hold e (by simp)) (by rw [hopen]; rfl)
    rw [List.length_append, List.length_singleton]
    omega

/-- The way of the responses, for an agent with at most 32 workers: the session loop never closes the session; nothing
    is delivered but the responses of jobs, each at most once, and each with exactly the bytes its worker read; without
    new jobs and pings the run ends after a bounded number of steps, and when nobody can go on, every job's response has
    been delivered. -/
theorem responses_delivered_once (hworkers : n ≤ 32) (hcapacity : 0 < capacity) (haddress : localAddress ≠ [])
    (hpong : dec.ReadsPong) {events : List (RespondingEvent n)} {s : Responding n}
    (hrun : run (Responding.step dec localAddress capacity) Responding.start events = some s)
    (hids : ((jobs events).map (·.request.id)).Nodup) (hjobs : ∀ job ∈ jobs events, job.Sendable dec localAddress) :
    s.responses.isSome ∧
    (∀ d ∈ s.delivered, ∃ job ∈ jobs events, job.request.id = d.1) ∧
    (∀ job ∈ jobs events, deliveries job.request.id s.delivered = [] ∨
      deliveries job.request.id s.delivered = [(job.request.id, jobResponse (job.outcome localAddress))]) ∧
    (∀ more next, run (Responding.step dec localAddress capacity) s more = some next →
      (∀ e ∈ more, e.arrives = false) → more.length ≤ s.weight) ∧
    ((∀ e, e.arrives = false → s.step dec localAddress capacity e = none) → ∀ job ∈ jobs events,
      deliveries job.request.id s.delivered = [(job.request.id, jobResponse (job.outcome localAddress))]) := by
  have hassigned : Assigned dec localAddress (jobs events) := ⟨hids, hjobs⟩
  have hdelivery := delivery_of_run haddress hpong hworkers hrun hassigned
  obtain ⟨responses, hopen, hreceipt⟩ := hdelivery.receipt
  refine ⟨by rw [hopen]; rfl, hreceipt.own, ?_, ?_, ?_⟩
  · intro job hjob
    rw [hreceipt.whole job hjob]
    split
    · exact .inr rfl
    · exact .inl rfl
  · intro more next hmore hold
    have hle := length_le_weight haddress hpong hworkers hrun hassigned hmore hold
    omega
  · intro hstuck job hjob
    obtain ⟨hidle, hstream⟩ := Responding.idle_of_stuck hcapacity hopen hstuck
    have hsent := hdelivery.emission.finished job hjob (by simp [busyWith, hidle])
    rw [Responding.fifo hrun, hstream, List.append_nil] at hsent
    rw [hreceipt.whole job hjob, if_pos hsent]

/-- One worker, a socket with room for one message, and the response "hello" that is read in two pieces. -/
def helloJob : Job := { request := helloRequest, service := helloService (helloAnswer (lit "llo") none (by decide)) }

-- The worker `0 : Fin 1` of the sample runs is one term in all of them.
instance neZero_one : NeZero 1 := ⟨Nat.one_ne_zero⟩

def passAlong (message : Message) : List (RespondingEvent 1) :=
  [.send 0 message, .writerTake message, .write message, .read message, .place message, .inbound quietAnswers message]

def helloRun : List (RespondingEvent 1) :=
  .take 0 helloJob :: ((helloJob.messages (lit "8080")).flatMap passAlong ++ [.finish 0])

theorem jobs_helloRun : jobs helloRun = [helloJob] := by
  have hnone : ((helloJob.messages (lit "8080")).flatMap passAlong).filterMap RespondingEvent.job = [] := by
    rw [List.filterMap_eq_nil_iff]
    intro e hmem
    obtain ⟨message, _, hstep⟩ := List.mem_flatMap.mp hmem
    simp only [passAlong, List.mem_cons] at hstep
    obtain rfl | rfl | rfl | rfl | rfl | rfl | hnil := hstep <;> first | rfl | cases hnil
  rw [jobs, helloRun, List.filterMap_cons, List.filterMap_append, hnone]
  rfl

theorem responses_delivered_once_hello :
    ∃ s, run (Responding.step helloDecoder (lit "8080") 1) Responding.start helloRun = some s ∧ s.responses.isSome ∧
      deliveries helloRequest.id s.delivered =
        [(helloRequest.id, { statusCode := 200, headers := ∅, body := lit "hello", error := [] })] := by
  have hevaluated : (run (Responding.step helloDecoder (lit "8080") 1) Responding.start helloRun).map
      (fun s => (deliveries helloRequest.id s.delivered).isEmpty) = some false := by decide +kernel
  obtain ⟨s, hrun, hnonempty⟩ := Option.map_eq_some_iff.mp hevaluated
  have hsendable : helloJob.Sendable helloDecoder (lit "8080") :=
    ⟨fitsFrames_of_public helloRequest_public, helloDecoder_reads _ _ _, by decide +kernel, by decide⟩
  obtain ⟨hopen, _, honce, _⟩ := responses_delivered_once (by decide) (by decide) (by decide)
    ⟨[], by decide +kernel⟩ hrun (by rw [jobs_helloRun]; exact List.nodup_singleton _) (by
      rw [jobs_helloRun]
      intro job hmem
      rw [List.mem_singleton.mp hmem]
      exact hsendable)
  refine ⟨s, hrun, hopen, ?_⟩
  obtain hnone | hdelivered := honce helloJob (by rw [jobs_helloRun]; exact List.mem_singleton_self _)
  · have hempty : deliveries helloRequest.id s.delivered = [] := hnone
    rw [hempty] at hnonempty
    cases hnonempty
  · exact hdelivered

end myngrok.pipeline
