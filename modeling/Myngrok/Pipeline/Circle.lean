import Myngrok.Pipeline.Duplex

open golang Result websocket transition myngrok.protocol myngrok.gateway
open myngrok.gatewayclient hiding BinaryFrame responseBodyChunk requestBodyChunk parseBinaryFrame

namespace myngrok.pipeline

variable {n : Nat} {setup : Setup} {s next : Duplex n} {e : DuplexEvent n}

/-- The steps of the parties themselves: without those that need a new message from the rest of the gateway or the
    heartbeat timer. -/
def DuplexEvent.party : DuplexEvent n → Bool
  | .enqueue _ => false
  | .tick => false
  | _ => true

namespace Responding

/-- Every place on the way from the outbound queue of the agent to the session loop is taken. -/
structure Jammed (s : Responding n) (capacity : Nat) : Prop where
  outbound : outboundQueueCapacity ≤ s.outbound.length
  writer : s.writer.isSome
  toGateway : capacity ≤ s.toGateway.length
  reader : s.reader.isSome
  readCh : readChCapacity ≤ s.readCh.length

variable {dec : Decoder} {localAddress : GoString} {capacity : Nat} {s next : Responding n} {e : RespondingEvent n}

theorem jammed_of_full (hcapacity : 0 < capacity) (hfull : outboundQueueCapacity ≤ s.outbound.length)
    (hstuck : ∀ e : RespondingEvent n, e.forwards = true → s.step dec localAddress capacity e = none) :
    s.Jammed capacity := by
  have hwriter : s.writer.isSome := by
    cases hwriter : s.writer with
    | some message => rfl
    | none =>
      cases hqueue : s.outbound with
      | nil =>
        rw [hqueue] at hfull
        cases hfull
      | cons message rest =>
        have h := hstuck (.writerTake message) rfl
        simp [step, hwriter, hqueue] at h
  have htoGateway : capacity ≤ s.toGateway.length := by
    obtain ⟨message, hmessage⟩ := Option.isSome_iff_exists.mp hwriter
    have h := hstuck (.write message) rfl
    by_contra hroom
    simp [step, hmessage, Nat.lt_of_not_le hroom] at h
  have hreader : s.reader.isSome := by
    cases hreader : s.reader with
    | some message => rfl
    | none =>
      cases hqueue : s.toGateway with
      | nil =>
        rw [hqueue, List.length_nil] at htoGateway
        omega
      | cons message rest =>
        have h := hstuck (.read message) rfl
        simp only [step, hreader, hqueue, if_true] at h
        split at h <;> cases h
  refine ⟨hfull, hwriter, htoGateway, hreader, ?_⟩
  obtain ⟨message, hmessage⟩ := Option.isSome_iff_exists.mp hreader
  have h := hstuck (.place message) rfl
  by_contra hroom
  simp [step, hmessage, Nat.lt_of_not_le hroom] at h

/-- Nothing moves any more on a way that is jammed, once every busy worker waits with a message. -/
theorem Jammed.step_eq_none (hjammed : s.Jammed capacity)
    (hworkers : ∀ w work, s.workers w = some work → work.rest ≠ []) (hforwards : e.forwards = true) :
    s.step dec localAddress capacity e = none := by
  obtain ⟨houtbound, hwriter, htoGateway, hreader, hreadCh⟩ := hjammed
  cases hstep : s.step dec localAddress capacity e with
  | none => rfl
  | some next =>
    cases step_cases hstep with
    | take | pong | inbound | closed => cases hforwards
    | send hwork hroom => omega
    | finish hwork => exact absurd rfl (hworkers _ _ hwork)
    | writerTake hnone =>
      rw [hnone] at hwriter
      cases hwriter
    | write _ hroom => omega
    | read hnone | readError hnone =>
      rw [hnone] at hreader
      cases hreader
    | place _ hroom => omega

end Responding

namespace Duplex

/-- Neither side has closed the session. -/
def Open (s : Duplex n) : Prop := s.responding.responses.isSome ∧ s.agent ≠ .ended

/-- Nothing is under way and nobody has anything in hand. -/
structure Quiet (s : Duplex n) : Prop where
  responding : s.responding.Idle
  queue : s.queue = []
  writing : s.writing = none
  toAgent : s.toAgent = []
  agent : s.agent = .reading
  jobs : s.jobs = []

/-- The circle: the session loop waits for room on the way to the agent, the agent's read loop for room in its job queue
    or its outbound queue, the workers for room in the outbound queue, and the way of the responses for the session
    loop. -/
structure Circle (setup : Setup) (s : Duplex n) : Prop where
  writing : s.writing.isSome
  toAgent : setup.toAgentCapacity ≤ s.toAgent.length
  agent : s.agent = .placingPong ∨ ∃ request, s.agent = .placingJob request ∧ n ≤ s.jobs.length
  jobs : s.jobs = [] ∨ ∀ w, (s.responding.workers w).isSome
  workers : ∀ w work, s.responding.workers w = some work → work.rest ≠ []
  jammed : s.responding.Jammed setup.toGatewayCapacity

/-- Once closed, the circle is there for good: whatever happens is a message that the rest of the gateway adds to the
    queue. -/
theorem Circle.step (hcircle : s.Circle setup) (h : s.step setup e = some next) :
    (∃ message, e = .enqueue message) ∧ next.Circle setup := by
  have hwriting : s.writing ≠ none := Option.isSome_iff_ne_none.mp hcircle.writing
  cases step_cases h with
  | enqueue => exact ⟨⟨_, rfl⟩, ⟨hcircle.writing, hcircle.toAgent, hcircle.agent, hcircle.jobs, hcircle.workers,
      hcircle.jammed⟩⟩
  | tick _ hidle | takeOutbound _ hidle | inbound _ hidle => exact absurd hidle hwriting
  | write _ _ hroom => exact absurd hroom (Nat.not_lt.mpr hcircle.toAgent)
  | agentRead hagent =>
    obtain hpong | ⟨request, hjob, _⟩ := hcircle.agent
    · rw [hpong] at hagent
      cases hagent
    · rw [hjob] at hagent
      cases hagent
  | placeJob hagent hroom =>
    obtain hpong | ⟨request, _, hfull⟩ := hcircle.agent
    · rw [hpong] at hagent
      cases hagent
    · omega
  | placePong _ hpong =>
    cases Responding.step_cases hpong with
    | pong hroom => exact absurd hroom (Nat.not_lt.mpr hcircle.jammed.outbound)
  | @take w job rest responding hjobs htake =>
    cases Responding.step_cases htake with
    | take _ hidle =>
      obtain hempty | hbusy := hcircle.jobs
      · rw [hempty] at hjobs
        cases hjobs
      · have hworker := hbusy w
        rw [hidle] at hworker
        cases hworker
  | respond hforwards hstep =>
    rw [hcircle.jammed.step_eq_none hcircle.workers hforwards] at hstep
    cases hstep

theorem Circle.run (hcircle : s.Circle setup) {more : List (DuplexEvent n)}
    (h : transition.run (Duplex.step setup) s more = some next) :
    (∀ e ∈ more, ∃ message, e = .enqueue message) ∧ next.Circle setup := by
  apply run_induction (P := fun more next => (∀ e ∈ more, ∃ message, e = .enqueue message) ∧ next.Circle setup) _ _ h
  · exact ⟨by simp, hcircle⟩
  · rintro more s e next _ ⟨hmore, hbefore⟩ hstep
    obtain ⟨henqueue, hafter⟩ := hbefore.step hstep
    refine ⟨?_, hafter⟩
    intro e' hmem
    obtain hmem | hmem := List.mem_append.mp hmem
    · exact hmore e' hmem
    · rw [List.mem_singleton.mp hmem]
      exact henqueue

/-- A local service that answers at once. -/
def readyService : LocalService := { newRequest := fun _ _ => none, perform := fun _ => .error [] }

/-- Whichever worker is idle can take a job, with whatever the local service will answer. -/
theorem take_isSome (setup : Setup) {w : Fin n} {request : Request} {rest : List Request} (hjobs : s.jobs = request :: rest)
    (hidle : s.responding.workers w = none) (service : LocalService) :
    (s.step setup (.take w { request, service })).isSome := by
  simp [Duplex.step, hjobs, Responding.step, hidle]

theorem respond_eq_none (hstuck : ∀ e : DuplexEvent n, e.party = true → s.step setup e = none)
    {e : RespondingEvent n} (hforwards : e.forwards = true) :
    s.responding.step setup.dec setup.localAddress setup.toGatewayCapacity e = none := by
  have h := hstuck (.respond e) rfl
  simp only [Duplex.step, if_pos hforwards] at h
  exact Option.map_eq_none_iff.mp h

/-- With the session loop at its `select`, only a session with nothing to do stands still. -/
theorem quiet_of_stuck (hworkers : 0 < n) (hcapacity : 0 < setup.toGatewayCapacity) (hopen : s.Open)
    (hwriting : s.writing = none) (hstuck : ∀ e : DuplexEvent n, e.party = true → s.step setup e = none) : s.Quiet := by
  obtain ⟨hresponses, hagent⟩ := hopen
  obtain ⟨responses, hresponses⟩ := Option.isSome_iff_exists.mp hresponses
  have hreadCh : s.responding.readCh = [] := by
    cases hqueue : s.responding.readCh with
    | nil => rfl
    | cons message rest =>
      have h := hstuck (.inbound quietAnswers message) rfl
      simp only [Duplex.step, hresponses, hwriting, Option.map_eq_none_iff] at h
      have hsome : (s.responding.step setup.dec setup.localAddress setup.toGatewayCapacity
          (.inbound (s.answering quietAnswers) message)).isSome :=
        Responding.inbound_isSome hresponses hqueue _
      rw [h] at hsome
      cases hsome
  have hidle : s.responding.Idle := by
    have hall : ∀ e : RespondingEvent n, e.arrives = false →
        s.responding.step setup.dec setup.localAddress setup.toGatewayCapacity e = none := by
      intro e harrives
      cases e with
      | take | pong => cases harrives
      | inbound answers message => simp [Responding.step, hresponses, hreadCh]
      | _ => exact respond_eq_none hstuck rfl
    exact Responding.idle_of_stuck hcapacity hresponses hall
  have houtbound : s.responding.outbound = [] := by
    have hstream := hidle.2
    simp only [Responding.stream, List.append_eq_nil_iff] at hstream
    exact hstream.2
  have hjobs : s.jobs = [] := by
    cases hjobs : s.jobs with
    | nil => rfl
    | cons request rest =>
      have h := take_isSome setup hjobs (hidle.1 ⟨0, hworkers⟩) readyService
      rw [hstuck _ rfl] at h
      cases h
  have hreading : s.agent = .reading := by
    cases hagent' : s.agent with
    | reading => rfl
    | ended => exact absurd hagent' hagent
    | placingJob request =>
      have h := hstuck .placeJob rfl
      simp [Duplex.step, hagent', hjobs, hworkers] at h
    | placingPong =>
      have h := hstuck .placePong rfl
      simp [Duplex.step, hagent', Responding.step, houtbound, outboundQueueCapacity] at h
  have htoAgent : s.toAgent = [] := by
    cases hqueue : s.toAgent with
    | nil => rfl
    | cons message rest =>
      have h := hstuck (.agentRead message) rfl
      simp [Duplex.step, hreading, hqueue] at h
  refine ⟨hidle, ?_, hwriting, htoAgent, hreading, hjobs⟩
  cases hqueue : s.queue with
  | nil => rfl
  | cons message rest =>
    have h := hstuck (.takeOutbound message) rfl
    simp [Duplex.step, hqueue, hresponses, hwriting] at h

/-- With a message to write, the session loop stands still only in the circle. -/
theorem circle_of_stuck (hworkers : 0 < n) (htoAgent : 0 < setup.toAgentCapacity)
    (hcapacity : 0 < setup.toGatewayCapacity) (hopen : s.Open) (hwriting : s.writing.isSome)
    (hstuck : ∀ e : DuplexEvent n, e.party = true → s.step setup e = none) : s.Circle setup := by
  obtain ⟨hresponses, hended⟩ := hopen
  obtain ⟨message, hmessage⟩ := Option.isSome_iff_exists.mp hwriting
  have hfull : setup.toAgentCapacity ≤ s.toAgent.length := by
    have h := hstuck (.write message) rfl
    by_contra hroom
    simp [Duplex.step, hresponses, hmessage, Nat.lt_of_not_le hroom] at h
  have hunfinished : ∀ w work, s.responding.workers w = some work → work.rest ≠ [] := by
    rintro w ⟨job, rest⟩ hwork rfl
    have hforwards : (RespondingEvent.finish w).forwards = true := rfl
    have h := respond_eq_none hstuck hforwards
    simp [Responding.step, hwork] at h
  have hjobs : s.jobs = [] ∨ ∀ w, (s.responding.workers w).isSome := by
    cases hjobs : s.jobs with
    | nil => exact .inl rfl
    | cons request rest =>
      right
      intro w
      cases hidle : s.responding.workers w with
      | some work => rfl
      | none =>
        have h := take_isSome setup hjobs hidle readyService
        rw [hstuck _ rfl] at h
        cases h
  have hagent : (s.agent = .placingPong ∨ ∃ request, s.agent = .placingJob request ∧ n ≤ s.jobs.length) ∧
      outboundQueueCapacity ≤ s.responding.outbound.length := by
    cases hagent : s.agent with
    | ended => exact absurd hagent hended
    | reading =>
      cases hqueue : s.toAgent with
      | nil =>
        rw [hqueue, List.length_nil] at hfull
        omega
      | cons message rest =>
        have h := hstuck (.agentRead message) rfl
        simp [Duplex.step, hagent, hqueue] at h
    | placingPong =>
      refine ⟨.inl rfl, ?_⟩
      have h := hstuck .placePong rfl
      by_contra hroom
      simp [Duplex.step, hagent, Responding.step, Nat.lt_of_not_le hroom] at h
    | placingJob request =>
      have hqueue : n ≤ s.jobs.length := by
        have h := hstuck .placeJob rfl
        by_contra hroom
        simp [Duplex.step, hagent, Nat.lt_of_not_le hroom] at h
      refine ⟨.inr ⟨request, rfl, hqueue⟩, ?_⟩
      obtain hempty | hbusy := hjobs
      · rw [hempty, List.length_nil] at hqueue
        omega
      · obtain ⟨⟨job, rest⟩, hwork⟩ := Option.isSome_iff_exists.mp (hbusy ⟨0, hworkers⟩)
        cases rest with
        | nil => exact absurd rfl (hunfinished _ _ hwork)
        | cons message rest =>
          have hforwards : (RespondingEvent.send ⟨0, hworkers⟩ message).forwards = true := rfl
          have h := respond_eq_none hstuck hforwards
          by_contra hroom
          simp [Responding.step, hwork, Nat.lt_of_not_le hroom] at h
  exact ⟨hwriting, hfull, hagent.1, hjobs, hunfinished,
    Responding.jammed_of_full hcapacity hagent.2 fun e => respond_eq_none hstuck⟩

end Duplex

/-- Public requests without a body, told apart by their number. -/
def numberedPayload (number : UInt8) : HTTPRequestPayload :=
  { requestID := tunnels.publicRequestID (List.replicate 12 number), method := lit "GET", path := lit "/", headers := ∅
    contentLength := 0 }

def numberedRequest (number : UInt8) : Request :=
  { id := (numberedPayload number).requestID, method := lit "GET", path := lit "/", headers := ∅, body := [] }

/-- A download that arrives a byte at a time: with its start and its end, 37 messages. -/
def slowDownload : LocalAnswer :=
  { statusCode := 200, header := ∅, pieces := List.replicate 34 [0x61], last := [0x61], failure := none
    fits := by decide }

def slowJob : Job :=
  { request := numberedRequest 1, service := { newRequest := fun _ _ => none, perform := fun _ => .ok slowDownload } }

/-- One worker, and room for one message in each direction of the socket. -/
def narrowSetup : Setup :=
  { dec := .knowing [numberedPayload 1, numberedPayload 2, numberedPayload 3, numberedPayload 4] []
      [(numberedPayload 1).requestID, (numberedPayload 2).requestID, (numberedPayload 3).requestID]
    localAddress := lit "8080", toAgentCapacity := 1, toGatewayCapacity := 1 }

/-- The messages of one request, all the way to the read loop of the agent. -/
def handOver (number : UInt8) : List (DuplexEvent 1) :=
  [httpRequestStartMessage (numberedPayload number), httpRequestEndMessage (numberedPayload number).requestID].flatMap
    fun message => [.enqueue message, .takeOutbound message, .write message, .agentRead message]

/-- The worker is busy with the first request, the second one is in the job queue, and the read loop waits to add the
    third. The start of the fourth fills the socket, and the session loop waits to write its end. Then the worker sends
    what it can. -/
def jammingRun : List (DuplexEvent 1) :=
  let start := httpRequestStartMessage (numberedPayload 4)
  let finish := httpRequestEndMessage (numberedPayload 4).requestID
  let forward := fun (steps : List (Message → RespondingEvent 1)) (message : Message) =>
    steps.map fun step => DuplexEvent.respond (step message)
  handOver 1 ++ [.placeJob, .take 0 slowJob] ++ handOver 2 ++ [.placeJob] ++ handOver 3 ++
  [.enqueue start, .takeOutbound start, .write start, .enqueue finish, .takeOutbound finish] ++
  (match slowJob.messages narrowSetup.localAddress with
  | first :: second :: third :: fourth :: rest =>
    forward [.send 0, .writerTake, .write, .read, .place] first ++ forward [.send 0, .writerTake, .write, .read] second ++
    forward [.send 0, .writerTake, .write] third ++ forward [.send 0, .writerTake] fourth ++
    (rest.take 32).flatMap (forward [.send 0])
  | _ => [])

/-- Each of the parties waits for the next one, and no event but new messages in the queue of the gateway can ever
    follow. -/
theorem session_stands_still :
    ∃ s, run (Duplex.step narrowSetup) Duplex.start jammingRun = some s ∧ s.Open ∧ s.toAgent ≠ [] ∧
      ∀ more next, run (Duplex.step narrowSetup) s more = some next → ∀ e ∈ more, ∃ message, e = .enqueue message := by
  have hfacts : (run (Duplex.step narrowSetup) Duplex.start jammingRun).map (fun s => decide
      (s.responding.responses.isSome ∧ s.writing.isSome ∧ 1 ≤ s.toAgent.length ∧
        s.agent = .placingJob (numberedRequest 3) ∧ 1 ≤ s.jobs.length ∧
        (s.responding.workers 0).map (fun work => work.rest.length) = some 1 ∧ 32 ≤ s.responding.outbound.length ∧
        s.responding.writer.isSome ∧ 1 ≤ s.responding.toGateway.length ∧ s.responding.reader.isSome ∧
        1 ≤ s.responding.readCh.length)) = some true := by decide +kernel
  obtain ⟨s, hrun, hstate⟩ := Option.map_eq_some_iff.mp hfacts
  obtain ⟨hopen, hwriting, htoAgent, hagent, hjobs, hworker, houtbound, hwriter, htoGateway, hreader, hreadCh⟩ :=
    of_decide_eq_true hstate
  obtain ⟨work, hwork, hrest⟩ := Option.map_eq_some_iff.mp hworker
  have hworkers : ∀ w, s.responding.workers w = some work := by
    intro w
    rw [Subsingleton.elim w 0, hwork]
  have hcircle : s.Circle narrowSetup := by
    refine ⟨hwriting, htoAgent, .inr ⟨_, hagent, hjobs⟩, .inr fun w => by rw [hworkers]; rfl, ?_,
      ⟨houtbound, hwriter, htoGateway, hreader, hreadCh⟩⟩
    rintro w other hother hempty
    rw [hworkers] at hother
    cases hother
    rw [hempty] at hrest
    cases hrest
  refine ⟨s, hrun, ⟨hopen, by rw [hagent]; exact fun h => by cases h⟩, List.ne_nil_of_length_pos htoAgent, ?_⟩
  intro more next hmore
  exact (hcircle.run hmore).1

end myngrok.pipeline
