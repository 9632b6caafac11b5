import Myngrok.Backoff.Capped
import Myngrok.GatewayClient.Connect

open golang Result websocket myngrok.protocol

namespace myngrok.gatewayclient

structure SessionMetrics where
  activeSessions : Int
  connectionsTotal : UInt64
  disconnectionsTotal : UInt64
  deriving DecidableEq

structure Client where
  reconnectInitialDelay : Duration
  reconnectMaxDelay : Duration

def Client.new : Client := { reconnectInitialDelay := second, reconnectMaxDelay := 30 * second }

/-- The variables of `Run`. -/
structure RunState where
  delay : Duration
  metrics : SessionMetrics

/-- The calls that `Run` makes, all callbacks being given. -/
inductive RunEffect where
  | onSessionMetrics (metrics : SessionMetrics)
  | connected (sessionID : GoString)
  | retrying (err : Error) (delay : Duration)
  | wait (delay : Duration)
  deriving DecidableEq

namespace Client

def start (c : Client) : RunState :=
  { delay := c.reconnectInitialDelay
    metrics := { activeSessions := 0, connectionsTotal := 0, disconnectionsTotal := 0 } }

/-- The metrics after an attempt, and the calls up to the end of its session. -/
def sessionEffects (metrics : SessionMetrics) : Option GoString → SessionMetrics × List RunEffect
  | none => (metrics, [])
  | some sessionID =>
    let online := { metrics with activeSessions := 1, connectionsTotal := metrics.connectionsTotal + 1 }
    let offline := { online with activeSessions := 0, disconnectionsTotal := online.disconnectionsTotal + 1 }
    (offline, [.onSessionMetrics online, .connected sessionID, .onSessionMetrics offline])

/-- One round of the loop: the calls, and the variables for the next round unless `Run` returns. -/
def round (c : Client) (dec : Decoder) (config : Config) (s : RunState) (a : Attempt) :
    Result (List RunEffect × Option RunState) := do
  let (session, err) ← connect dec config a
  let (metrics, effects) := sessionEffects s.metrics session
  if a.cancelled then return (effects, none)
  match err with
  | none => return (effects, some { delay := c.reconnectInitialDelay, metrics })
  | some err =>
    let effects := effects ++ [.retrying err s.delay, .wait s.delay]
    if a.interrupted then return (effects, none)
    return (effects, some { delay := backoff.next c.reconnectMaxDelay s.delay, metrics })

/-- The calls of `Run` in the rounds of some attempts; those after the round in which it returns are not made. -/
def run (c : Client) (dec : Decoder) (config : Config) : RunState → List Attempt → Result (List RunEffect)
  | _, [] => return []
  | s, a :: rest => do
    let (effects, next) ← c.round dec config s a
    match next with
    | none => return effects
    | some s => return effects ++ (← run c dec config s rest)

end Client

def waits (effects : List RunEffect) : List Duration :=
  effects.filterMap fun
    | .wait delay => some delay
    | _ => none

def reached (dec : Decoder) (config : Config) (a : Attempt) : Bool :=
  match connect dec config a with
  | ok (some _, _) => true
  | _ => false

/-- The attempt ends with an error, and `Run` goes on to wait. -/
def Retried (dec : Decoder) (config : Config) (a : Attempt) : Prop :=
  a.cancelled = false ∧ ∃ session err, connect dec config a = ok (session, some err)

variable {c : Client} {dec : Decoder} {config : Config} {a : Attempt} {s : RunState}

theorem waits_sessionEffects (metrics : SessionMetrics) (session : Option GoString) :
    waits (Client.sessionEffects metrics session).2 = [] := by
  cases session with
  | none => rfl
  | some sessionID => rfl

theorem waits_append (first second : List RunEffect) : waits (first ++ second) = waits first ++ waits second :=
  List.filterMap_append

/-- Whether or not there was a session, the delay is waited and doubled. -/
theorem round_of_retried (h : Retried dec config a) :
    ∃ effects metrics, waits effects = [s.delay] ∧ c.round dec config s a = ok (effects,
      if a.interrupted then none else some { delay := backoff.next c.reconnectMaxDelay s.delay, metrics }) := by
  obtain ⟨hcancelled, session, err, hconnect⟩ := h
  refine ⟨(Client.sessionEffects s.metrics session).2 ++ [.retrying err s.delay, .wait s.delay],
    (Client.sessionEffects s.metrics session).1, ?_, ?_⟩
  · rw [waits_append, waits_sessionEffects]
    rfl
  · rw [Client.round, hconnect, bind_tc_ok]
    dsimp only
    rw [hcancelled]
    cases a.interrupted with
    | false => rfl
    | true => rfl

theorem run_of_retried (c : Client) (attempts : List Attempt) (hretried : ∀ a ∈ attempts, Retried dec config a)
    (hwaited : ∀ a ∈ attempts.dropLast, a.interrupted = false) (s : RunState) :
    ∃ effects, c.run dec config s attempts = ok effects ∧
      waits effects = backoff.delays c.reconnectMaxDelay s.delay attempts.length := by
  induction attempts generalizing s with
  | nil => exact ⟨[], rfl, rfl⟩
  | cons a rest ih =>
    obtain ⟨effects, metrics, hwaits, hround⟩ := round_of_retried (c := c) (s := s) (hretried a List.mem_cons_self)
    rw [Client.run, hround, bind_tc_ok]
    dsimp only
    cases hinterrupted : a.interrupted with
    | true =>
      -- Nothing follows a wait that was interrupted.
      have hrest : rest = [] := by
        by_contra hne
        rw [List.dropLast_cons_of_ne_nil hne] at hwaited
        rw [hwaited a List.mem_cons_self] at hinterrupted
        cases hinterrupted
      subst hrest
      exact ⟨effects, rfl, hwaits⟩
    | false =>
      have hlater : ∀ b ∈ rest.dropLast, b.interrupted = false := by
        intro b hb
        have hne : rest ≠ [] := List.ne_nil_of_mem (List.dropLast_subset rest hb)
        rw [List.dropLast_cons_of_ne_nil hne] at hwaited
        exact hwaited b (List.mem_cons_of_mem a hb)
      obtain ⟨later, hrun, hdelays⟩ := ih (fun b hb => hretried b (List.mem_cons_of_mem a hb)) hlater
        { delay := backoff.next c.reconnectMaxDelay s.delay, metrics }
      rw [if_neg Bool.false_ne_true]
      dsimp only
      rw [hrun]
      refine ⟨effects ++ later, rfl, ?_⟩
      rw [waits_append, hwaits, hdelays]
      rfl

/-- When every attempt ends with an error, the delays that `Run` waits are those of a backoff that starts again after a
    session exactly when it waits at most once, or no delay overflows and either there never was a session or the
    maximal delay is the initial one. The last wait may be interrupted. -/
theorem reconnect_backoff_iff (c : Client) (hinitial : 0 < c.reconnectInitialDelay)
    (hmax : c.reconnectInitialDelay ≤ c.reconnectMaxDelay) (h64 : c.reconnectMaxDelay < 2 ^ 63) (dec : Decoder)
    (config : Config) (attempts : List Attempt) (hretried : ∀ a ∈ attempts, Retried dec config a)
    (hwaited : ∀ a ∈ attempts.dropLast, a.interrupted = false) :
    ∃ effects, c.run dec config c.start attempts = ok effects ∧
      (waits effects =
          backoff.restarting c.reconnectInitialDelay c.reconnectMaxDelay (attempts.map (reached dec config)) ↔
        attempts.length ≤ 1 ∨
        (c.reconnectMaxDelay = c.reconnectInitialDelay ∨ ∀ a ∈ attempts, reached dec config a = false) ∧
          backoff.capped c.reconnectInitialDelay c.reconnectMaxDelay (attempts.length - 2) < 2 ^ 62) := by
  obtain ⟨effects, hrun, hwaits⟩ := run_of_retried c attempts hretried hwaited c.start
  have hlaw := backoff.delays_eq_restarting_iff hinitial hmax h64 (attempts.map (reached dec config))
  rw [List.length_map, List.forall_mem_map] at hlaw
  refine ⟨effects, hrun, ?_⟩
  rw [hwaits]
  exact hlaw

def demoConfig : Config :=
  { gatewayURL := lit "wss://gateway", token := lit "secret", localAddress := [], maxConcurrentRequests := 0 }

def refusedAttempt : Attempt :=
  { dial := some (lit "refused"), sendHello := none, hello := .error [], opened := true, messages := []
    closed := [], cancelled := false, interrupted := false }

theorem reconnect_backoff_iff_refused :
    ∃ effects, Client.new.run (Decoder.json fun _ => []) demoConfig Client.new.start
        [refusedAttempt, refusedAttempt, refusedAttempt] = ok effects ∧
      waits effects = backoff.restarting second (30 * second) [false, false, false] := by
  have hretried : Retried (Decoder.json fun _ => []) demoConfig refusedAttempt := ⟨rfl, none, _, rfl⟩
  obtain ⟨effects, hrun, hlaw⟩ := reconnect_backoff_iff Client.new (by decide) (by decide) (by decide)
    (Decoder.json fun _ => []) demoConfig [refusedAttempt, refusedAttempt, refusedAttempt]
    (by simpa using hretried) (by simp [refusedAttempt])
  exact ⟨effects, hrun, hlaw.mpr (.inr ⟨.inr (by decide +kernel), by decide +kernel⟩)⟩

/-- A session that is opened and then lost. -/
def lostAttempt : Attempt :=
  { dial := none, sendHello := none
    hello := .ok (lit
      "\x7b\"type\":\"server_hello\",\"payload\":\x7b\"protocolVersion\":1,\"sessionId\":\"s1\"\x7d\x7d")
    opened := true, messages := [], closed := lit "EOF", cancelled := false, interrupted := false }

/-- The attempt after a lost session waits two seconds, not one. -/
theorem lost_session_keeps_backoff :
    (Client.new.run (Decoder.json fun _ => []) demoConfig Client.new.start [lostAttempt, refusedAttempt] =
      ok [.onSessionMetrics { activeSessions := 1, connectionsTotal := 1, disconnectionsTotal := 0 },
        .connected (lit "s1"),
        .onSessionMetrics { activeSessions := 0, connectionsTotal := 1, disconnectionsTotal := 1 },
        .retrying (lit "gateway connection closed: EOF") second, .wait second,
        .retrying (lit "connect to gateway: refused") (2 * second), .wait (2 * second)]) ∧
    [lostAttempt, refusedAttempt].map (reached (Decoder.json fun _ => []) demoConfig) = [true, false] ∧
    backoff.restarting second (30 * second) [true, false] = [second, second] := by
  decide +kernel

end myngrok.gatewayclient
