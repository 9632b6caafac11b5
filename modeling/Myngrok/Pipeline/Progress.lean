import Myngrok.Pipeline.Circle

open golang Result websocket transition myngrok.protocol myngrok.gateway
open myngrok.gatewayclient hiding BinaryFrame responseBodyChunk requestBodyChunk parseBinaryFrame

namespace myngrok.gatewayclient

def AgentLoop.holdsJob : AgentLoop → Bool
  | .placingJob _ => true
  | _ => false

end myngrok.gatewayclient

namespace myngrok.gateway

/-- Only a ping is answered with a message that the loop writes itself. -/
theorem isPing_of_written {dec : Decoder} {answers : Answers} {responses : Responses} {message : Message}
    (h : (Outcome.effects (serveInbound dec answers responses message)).filterMap Effect.written ≠ []) :
    isPing dec message = true := by
  obtain ⟨messageType, data⟩ := message
  cases messageType with
  | binary =>
    obtain ⟨frame, a, _, _, _, hserve⟩ | ⟨_, hserve⟩ := serveBinary_spec responses data <;>
      exact absurd (by rw [serveInbound, hserve]; rfl) h
  | other code => exact absurd rfl h
  | text =>
    simp only [serveInbound] at h
    cases hdata : dec.message data with
    | none =>
      rw [hdata] at h
      exact absurd rfl h
    | some content =>
      obtain ⟨type, raw⟩ := content
      simp only [hdata] at h
      by_cases hping : type = ping
      · simp [isPing, hdata, hping]
      · exfalso
        apply h
        by_cases hstart : type = httpResponseStart
        · rw [if_pos hstart]
          cases hpayload : dec.httpResponse raw with
          | none =>
            rw [serveResponseStart, hpayload]
            rfl
          | some payload =>
            obtain ⟨_, hserve⟩ | ⟨_, status, reason, hserve⟩ := serveResponseStart_spec hpayload responses <;>
              rw [hserve] <;> rfl
        · rw [if_neg hstart]
          by_cases hopen : type = openTunnel
          · rw [if_pos hopen]
            obtain ⟨encoded, hserve⟩ | hserve := serveOpenTunnel_spec dec answers responses raw <;> rw [hserve] <;> rfl
          · rw [if_neg hopen]
            by_cases hend : type = httpResponseEnd
            · rw [if_pos hend]
              obtain ⟨id, a, _, _, _, hserve⟩ | ⟨_, hserve⟩ := serveResponseEnd_spec dec responses data <;>
                rw [hserve] <;> rfl
            · rw [if_neg hend, if_neg hping]
              split <;> rfl

end myngrok.gateway

namespace myngrok.pipeline

variable {n : Nat} {setup : Setup} {s next : Duplex n} {e : DuplexEvent n}

/-- The steps after which the session loop has a message to write. -/
def DuplexEvent.beginsWrite (dec : Decoder) : DuplexEvent n → Bool
  | .tick => true
  | .takeOutbound _ => true
  | .inbound _ message => isPing dec message
  | _ => false

/-- No worker gets a job by the steps that are not `take`. -/
theorem Responding.workers_eq_none {dec : Decoder} {localAddress : GoString} {capacity : Nat} {s next : Responding n}
    {e : RespondingEvent n} (hstep : s.step dec localAddress capacity e = some next) (hold : ∀ w job, e ≠ .take w job)
    {w : Fin n} (hidle : s.workers w = none) : next.workers w = none := by
  cases Responding.step_cases hstep with
  | take job => exact absurd rfl (hold _ job)
  | @send w' job message rest hwork =>
    have hne : w ≠ w' := by
      rintro rfl
      rw [hidle] at hwork
      cases hwork
    exact (Function.update_of_ne hne _ _).trans hidle
  | @finish w' job hwork =>
    have hne : w ≠ w' := by
      rintro rfl
      rw [hidle] at hwork
      cases hwork
    exact (Function.update_of_ne hne _ _).trans hidle
  | _ => exact hidle

namespace Duplex

/-- A message to the agent is sure to find room without the session loop: there is room now, or the read loop of the
    agent is about to make some, or it waits for room in the job queue, and there is some or a worker to make it. -/
def Clear (setup : Setup) (s : Duplex n) : Prop :=
  s.toAgent.length < setup.toAgentCapacity ∨ s.agent = .reading ∨
    (s.agent.holdsJob = true ∧ (s.jobs.length < n ∨ ∃ w, (s.responding.workers w).isNone))

instance (setup : Setup) (s : Duplex n) : Decidable (s.Clear setup) := inferInstanceAs (Decidable (_ ∨ _ ∨ _))

/-- What a session keeps whose loop begins to write only when the way is clear. -/
structure Steady (setup : Setup) (s : Duplex n) : Prop where
  toAgent : s.toAgent.length ≤ setup.toAgentCapacity
  jobs : s.jobs.length ≤ n
  clear : s.writing.isSome → s.Clear setup

theorem Steady.start : (Duplex.start : Duplex n).Steady setup :=
  ⟨Nat.zero_le _, Nat.zero_le _, fun h => by cases h⟩

/-- The way stays clear while only the workers and the way of the responses move. -/
theorem Clear.of_workers {responding : Responding n} (hclear : s.Clear setup)
    (hworkers : ∀ w, s.responding.workers w = none → responding.workers w = none) :
    ({ s with responding } : Duplex n).Clear setup := by
  obtain hroom | hreading | ⟨hjob, hjobs | ⟨w, hidle⟩⟩ := hclear
  · exact .inl hroom
  · exact .inr (.inl hreading)
  · exact .inr (.inr ⟨hjob, .inl hjobs⟩)
  · refine .inr (.inr ⟨hjob, .inr ⟨w, ?_⟩⟩)
    rw [Option.isNone_iff_eq_none] at hidle ⊢
    exact hworkers w hidle

theorem Steady.step (hsteady : s.Steady setup) (hallowed : e.beginsWrite setup.dec = true → s.Clear setup)
    (h : s.step setup e = some next) : next.Steady setup := by
  obtain ⟨htoAgent, hjobs, hclear⟩ := hsteady
  cases step_cases h with
  | enqueue => exact ⟨htoAgent, hjobs, hclear⟩
  | tick | takeOutbound => exact ⟨htoAgent, hjobs, fun _ => hallowed rfl⟩
  | write _ _ hroom =>
    refine ⟨?_, hjobs, fun hwriting => by cases hwriting⟩
    rw [List.length_append, List.length_singleton]
    exact hroom
  | @agentRead message rest hagent hqueue =>
    obtain ⟨_, _, _, hrest, hsame⟩ := received_frame { s with toAgent := rest } setup.dec message
    rw [hqueue, List.length_cons] at htoAgent
    refine ⟨?_, by rw [hsame]; exact hjobs, fun _ => .inl ?_⟩ <;> rw [hrest] <;> dsimp only <;> omega
  | placeJob _ hroom =>
    refine ⟨htoAgent, ?_, fun _ => .inr (.inl rfl)⟩
    rw [List.length_append, List.length_singleton]
    exact hroom
  | placePong => exact ⟨htoAgent, hjobs, fun _ => .inr (.inl rfl)⟩
  | take hqueue =>
    rw [hqueue, List.length_cons] at hjobs
    refine ⟨htoAgent, Nat.le_of_succ_le hjobs, ?_⟩
    intro hwriting
    obtain hroom | hreading | ⟨hjob, _⟩ := hclear hwriting
    · exact .inl hroom
    · exact .inr (.inl hreading)
    · exact .inr (.inr ⟨hjob, .inl hjobs⟩)
  | @inbound answers message responses responding effects hresponses hidle heffects hinbound =>
    refine ⟨htoAgent, hjobs, ?_⟩
    intro hwriting
    have hping : isPing setup.dec message = true := by
      have hwritten : effects.filterMap Effect.written ≠ [] := by
        intro hnone
        rw [hnone] at hwriting
        cases hwriting
      rw [heffects] at hwritten
      exact isPing_of_written hwritten
    have hkept : ({ s with responding } : Duplex n).Clear setup := by
      refine (hallowed hping).of_workers fun w => Responding.workers_eq_none hinbound ?_
      rintro w job hevent
      cases hevent
    exact hkept
  | respond hforwards hstep =>
    refine ⟨htoAgent, hjobs, ?_⟩
    intro hwriting
    refine (hclear hwriting).of_workers fun w => Responding.workers_eq_none hstep ?_
    rintro w job rfl
    cases hforwards

/-- The circle cannot close where the way was clear when the session loop began to write. -/
theorem Steady.not_circle (hworkers : 0 < n) (hsteady : s.Steady setup) : ¬ s.Circle setup := by
  intro hcircle
  obtain hroom | hreading | ⟨hjob, hjobs⟩ := hsteady.clear hcircle.writing
  · exact absurd hroom (Nat.not_lt.mpr hcircle.toAgent)
  · obtain hpong | ⟨request, hplacing, _⟩ := hcircle.agent
    · rw [hpong] at hreading
      cases hreading
    · rw [hplacing] at hreading
      cases hreading
  · obtain hpong | ⟨request, hplacing, hfull⟩ := hcircle.agent
    · rw [hpong] at hjob
      cases hjob
    · obtain hroom | ⟨w, hidle⟩ := hjobs
      · omega
      · obtain hempty | hbusy := hcircle.jobs
        · rw [hempty, List.length_nil] at hfull
          omega
        · rw [Option.isNone_iff_eq_none] at hidle
          have hworker := hbusy w
          rw [hidle] at hworker
          cases hworker

/-- Nobody waits in a circle: in every run in which the session loop begins to write only when the way to the agent is
    clear, a session that is open and has anything to do has a party that can do it, without a public timeout, a
    cancellation or the heartbeat. -/
theorem party_enabled_of_clear_writes (hworkers : 0 < n) (htoAgent : 0 < setup.toAgentCapacity)
    (htoGateway : 0 < setup.toGatewayCapacity) {events : List (DuplexEvent n)}
    (hrun : run (Duplex.step setup) Duplex.start events = some s)
    (hclear : AllSteps (Duplex.step setup) (fun s e => e.beginsWrite setup.dec = true → s.Clear setup) Duplex.start
      events) (hopen : s.Open) (hbusy : ¬ s.Quiet) : ∃ e : DuplexEvent n, e.party = true ∧ (s.step setup e).isSome := by
  have hsteady : s.Steady setup := by
    refine run_induction_of_steps (P := fun _ s => s.Steady setup) Steady.start ?_ hrun hclear
    intro _ state e next _ ih hallowed hstep
    exact ih.step hallowed hstep
  by_contra hnone
  have hstuck : ∀ e : DuplexEvent n, e.party = true → s.step setup e = none := by
    intro e hparty
    cases hstep : s.step setup e with
    | none => rfl
    | some next => exact absurd ⟨e, hparty, by rw [hstep]; rfl⟩ hnone
  cases hwriting : s.writing with
  | none => exact hbusy (quiet_of_stuck hworkers htoGateway hopen hwriting hstuck)
  | some message =>
    have hsome : s.writing.isSome := by rw [hwriting]; rfl
    exact hsteady.not_circle hworkers (circle_of_stuck hworkers htoAgent htoGateway hopen hsome hstuck)

/-- The first request of the jamming run waits for a worker. -/
theorem party_enabled_of_clear_writes_job :
    ∃ s, run (Duplex.step narrowSetup) Duplex.start (handOver 1 ++ [.placeJob]) = some s ∧ s.Open ∧ s.jobs ≠ [] ∧
      ∃ e : DuplexEvent 1, e.party = true ∧ (s.step narrowSetup e).isSome := by
  have hfacts : (run (Duplex.step narrowSetup) Duplex.start (handOver 1 ++ [.placeJob])).map (fun s => decide
      (s.responding.responses.isSome ∧ s.agent = .reading ∧ s.jobs.length = 1)) = some true := by decide +kernel
  have hclear : AllSteps (Duplex.step narrowSetup)
      (fun s e => e.beginsWrite narrowSetup.dec = true → s.Clear narrowSetup) Duplex.start
      (handOver 1 ++ [.placeJob]) := by decide +kernel
  obtain ⟨s, hrun, hstate⟩ := Option.map_eq_some_iff.mp hfacts
  obtain ⟨hresponses, hagent, hjobs⟩ := of_decide_eq_true hstate
  have hopen : s.Open := ⟨hresponses, by rw [hagent]; exact fun h => by cases h⟩
  have hne : s.jobs ≠ [] := List.ne_nil_of_length_pos (by rw [hjobs]; exact Nat.one_pos)
  exact ⟨s, hrun, hopen, hne, party_enabled_of_clear_writes Nat.one_pos Nat.one_pos Nat.one_pos hrun hclear hopen
    fun hquiet => hne hquiet.jobs⟩

end Duplex

end myngrok.pipeline
