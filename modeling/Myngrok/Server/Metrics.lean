import Myngrok.Go.Map
import Myngrok.Go.Text
import Myngrok.Transition.Run

open golang transition

namespace myngrok.server

structure MetricValue where
  count : UInt64
  duration : Duration
  inFlight : UInt64
  deriving DecidableEq

/-- The map of `Metrics`. The source stores pointers; a change made through one is written back to the map here. -/
structure Metrics where
  values : Map GoString MetricValue
  deriving DecidableEq

namespace Metrics

/-- A key that has no value yet gets a zero one. -/
def value (m : Metrics) (key : GoString) : MetricValue :=
  (m.values.lookup key).getD { count := 0, duration := 0, inFlight := 0 }

def set (m : Metrics) (key : GoString) (value : MetricValue) : Metrics := { values := m.values.insert key value }

/-- The first critical section of `Middleware`; requests without a key pass by it. -/
def enter (m : Metrics) : Option GoString → Metrics
  | none => m
  | some key => m.set key { m.value key with inFlight := (m.value key).inFlight + 1 }

/-- The second one. -/
def leave (m : Metrics) (elapsed : Duration) : Option GoString → Metrics
  | none => m
  | some key => m.set key
    { count := (m.value key).count + 1
      duration := (m.value key).duration + elapsed
      inFlight := (m.value key).inFlight - 1 }

theorem value_set_self (m : Metrics) (key : GoString) (value : MetricValue) : (m.set key value).value key = value := by
  rw [Metrics.value, set, AList.lookup_insert, Option.getD_some]

variable {query : GoString} {key : Option GoString}

theorem value_set_ne (m : Metrics) {key : GoString} (value : MetricValue) (hne : query ≠ key) :
    (m.set key value).value query = m.value query := by
  rw [Metrics.value, set, AList.lookup_insert_ne hne, Metrics.value]

theorem value_enter_ne (m : Metrics) (hne : key ≠ some query) : (m.enter key).value query = m.value query := by
  cases key with
  | none => rfl
  | some key => exact value_set_ne m _ fun heq => hne (congrArg some heq.symm)

theorem value_leave_ne (m : Metrics) (elapsed : Duration) (hne : key ≠ some query) :
    (m.leave elapsed key).value query = m.value query := by
  cases key with
  | none => rfl
  | some key => exact value_set_ne m _ fun heq => hne (congrArg some heq.symm)

end Metrics

def metricRoute (path : GoString) : GoString :=
  if strings.hasPrefix path (lit "/api/") then lit "api"
  else if strings.hasPrefix path (lit "/health/") then lit "health"
  else lit "tunnel"

/-- The key under which a request is counted; requests for the metrics themselves are not. -/
def metricKey (method path : GoString) : Option GoString :=
  if path = lit "/metrics" then none else some (method ++ lit ":" ++ metricRoute path)

/-- Where a call of the middleware's handler stands: between the first critical section and `next.ServeHTTP`, in it,
    between its return and the second critical section, behind that, or ended by a panic, which net/http recovers. -/
inductive CallPhase where
  | entered
  | executing
  | returned
  | recorded
  | panicked
  deriving DecidableEq

/-- `started` is read when the handler is called, and zero before. -/
structure MeteredCall where
  key : Option GoString
  started : Time
  phase : CallPhase
  deriving DecidableEq

/-- The metrics and the calls made so far, the finished ones included. -/
structure Middleware where
  metrics : Metrics
  calls : Map Nat MeteredCall
  deriving DecidableEq

inductive MiddlewareEvent where
  | enter (id : Nat) (method path : GoString)
  | serve (id : Nat) (now : Time)
  | returns (id : Nat)
  | panics (id : Nat)
  | record (id : Nat) (now : Time)
  deriving DecidableEq

namespace Middleware

def start : Middleware := { metrics := { values := ∅ }, calls := ∅ }

def put (s : Middleware) (metrics : Metrics) (id : Nat) (call : MeteredCall) : Middleware :=
  { metrics, calls := s.calls.insert id call }

/-- A step of a call that stands in the phase. -/
def advance (s : Middleware) (id : Nat) (phase : CallPhase) (act : MeteredCall → Middleware) : Option Middleware :=
  match s.calls.lookup id with
  | none => none
  | some call => if call.phase = phase then some (act call) else none

def step (s : Middleware) : MiddlewareEvent → Option Middleware
  | .enter id method path =>
    if id ∈ s.calls then none
    else
      let key := metricKey method path
      some (s.put (s.metrics.enter key) id { key, started := 0, phase := .entered })
  | .serve id now => s.advance id .entered fun call =>
    s.put s.metrics id { call with started := now, phase := .executing }
  | .returns id => s.advance id .executing fun call => s.put s.metrics id { call with phase := .returned }
  -- Nothing is deferred: a panic skips the second critical section.
  | .panics id => s.advance id .executing fun call => s.put s.metrics id { call with phase := .panicked }
  | .record id now => s.advance id .returned fun call =>
    s.put (s.metrics.leave (Time.sub now call.started) call.key) id { call with phase := .recorded }

/-- How many calls with the key are in a phase that passes the test. -/
def tally (s : Middleware) (test : CallPhase → Bool) (key : GoString) : Nat :=
  s.calls.count fun call => decide (call.key = some key) && test call.phase

def inPhase (s : Middleware) (phase : CallPhase) (key : GoString) : Nat := s.tally (· == phase) key

/-- How many calls with the key are past the first critical section, but not the second. -/
def inside (s : Middleware) (key : GoString) : Nat := s.tally (· != .recorded) key

variable {s next : Middleware} {id : Nat} {key : GoString} {old call : MeteredCall} {e : MiddlewareEvent}

theorem tally_put_new (hid : id ∉ s.calls) (metrics : Metrics) (call : MeteredCall) (test : CallPhase → Bool)
    (key : GoString) :
    (s.put metrics id call).tally test key =
      s.tally test key + if call.key = some key ∧ test call.phase then 1 else 0 := by
  rw [tally, put, Map.count_insert_of_notMem _ _ _ hid, ← tally]
  simp only [Bool.and_eq_true, decide_eq_true_eq]

theorem tally_put_old (hold : s.calls.lookup id = some old) (metrics : Metrics) (call : MeteredCall)
    (test : CallPhase → Bool) (key : GoString) :
    (s.put metrics id call).tally test key + (if old.key = some key ∧ test old.phase then 1 else 0) =
      s.tally test key + if call.key = some key ∧ test call.phase then 1 else 0 := by
  have hcount := Map.count_insert_of_lookup (fun call => decide (call.key = some key) && test call.phase) s.calls call
    hold
  simp only [Bool.and_eq_true, decide_eq_true_eq] at hcount
  exact hcount

/-- Calls inside are in one phase each. -/
theorem inside_eq (s : Middleware) (key : GoString) :
    s.inside key =
      s.inPhase .entered key + s.inPhase .executing key + s.inPhase .returned key + s.inPhase .panicked key := by
  simp only [inside, inPhase, tally, Map.count]
  generalize s.calls.entries = entries
  induction entries with
  | nil => rfl
  | cons entry rest ih =>
    obtain ⟨id, callKey, started, phase⟩ := entry
    simp only [List.countP_cons, ih]
    by_cases hkey : callKey = some key
    · cases phase with
      | _ =>
        simp only [hkey, decide_true, Bool.true_and, bne_iff_ne, beq_iff_eq, ne_eq, reduceCtorEq, not_false_eq_true,
          not_true_eq_false, if_true, if_false]
        omega
    · simp only [hkey, decide_false, Bool.false_and, Bool.false_eq_true, if_false, Nat.add_zero]

/-- A call that stands in a phase is among those counted there. -/
theorem inPhase_pos (hcall : s.calls.lookup id = some call) (hkey : call.key = some key) :
    0 < s.inPhase call.phase key := by
  have hput := tally_put_old hcall s.metrics { call with key := none } (· == call.phase) key
  simp only [hkey, beq_self_eq_true, and_self, if_true, reduceCtorEq, false_and, if_false, Nat.add_zero] at hput
  exact Nat.lt_of_lt_of_eq (Nat.succ_pos _) hput

/-- What a step does to the metrics and to the calls. -/
inductive Moves (s : Middleware) : Middleware → Prop
  | enters {id : Nat} (key : Option GoString) (hid : id ∉ s.calls) :
    Moves s (s.put (s.metrics.enter key) id { key, started := 0, phase := .entered })
  | runs {id : Nat} {old : MeteredCall} (call : MeteredCall) (hold : s.calls.lookup id = some old)
    (hkey : call.key = old.key) (hinside : old.phase ≠ .recorded) (hinside' : call.phase ≠ .recorded) :
    Moves s (s.put s.metrics id call)
  | records {id : Nat} {old : MeteredCall} (elapsed : Duration) (hold : s.calls.lookup id = some old)
    (hinside : old.phase = .returned) :
    Moves s (s.put (s.metrics.leave elapsed old.key) id { old with phase := .recorded })

theorem advance_eq_some_iff {phase : CallPhase} {act : MeteredCall → Middleware} :
    s.advance id phase act = some next ↔
      ∃ call, s.calls.lookup id = some call ∧ call.phase = phase ∧ act call = next := by
  unfold advance
  cases s.calls.lookup id with
  | none => simp only [reduceCtorEq, false_and, exists_false]
  | some call => simp only [Option.ite_none_right_eq_some, Option.some.injEq, exists_eq_left']

theorem moves_of_step (hstep : s.step e = some next) : Moves s next := by
  cases e with
  | enter id method path =>
    obtain ⟨hid, hnext⟩ := Option.ite_none_left_eq_some.mp hstep
    obtain rfl := Option.some.inj hnext
    exact .enters _ hid
  | serve id now | returns id | panics id =>
    obtain ⟨call, hcall, hphase, rfl⟩ := advance_eq_some_iff.mp hstep
    exact .runs _ hcall rfl (by simp [hphase]) (by simp)
  | record id now =>
    obtain ⟨call, hcall, hphase, rfl⟩ := advance_eq_some_iff.mp hstep
    exact .records _ hcall hphase

/-- What the metrics hold under a key, whatever happens: a handler that panicked stays in the gauge, and is not
    counted. -/
structure Counted (s : Middleware) (key : GoString) : Prop where
  inFlight : (s.metrics.value key).inFlight = UInt64.ofNat (s.inside key)
  count : (s.metrics.value key).count = UInt64.ofNat (s.inPhase .recorded key)

theorem Counted.start (key : GoString) : Counted start key := ⟨rfl, rfl⟩

/-- The first critical section. -/
theorem Counted.enter (h : Counted s key) (hid : id ∉ s.calls) (callKey : Option GoString) :
    Counted (s.put (s.metrics.enter callKey) id { key := callKey, started := 0, phase := .entered }) key := by
  have hput := tally_put_new hid (s.metrics.enter callKey) { key := callKey, started := 0, phase := .entered }
  have hinside := hput (· != .recorded) key
  have hrecorded := hput (· == .recorded) key
  by_cases hkey : callKey = some key
  · subst hkey
    simp only [true_and, bne_iff_ne, beq_iff_eq, ne_eq, reduceCtorEq, not_false_eq_true, if_true, if_false,
      Nat.add_zero] at hinside hrecorded
    have hvalue : (s.put (s.metrics.enter (some key)) id
        { key := some key, started := 0, phase := .entered }).metrics.value key =
          { s.metrics.value key with inFlight := (s.metrics.value key).inFlight + 1 } :=
      Metrics.value_set_self s.metrics key _
    constructor
    · rw [hvalue, inside, hinside, UInt64.ofNat_add, h.inFlight]
      rfl
    · rw [hvalue, inPhase, hrecorded]
      exact h.count
  · simp only [hkey, false_and, if_false, Nat.add_zero] at hinside hrecorded
    constructor
    · rw [inside, hinside, put, Metrics.value_enter_ne _ hkey]
      exact h.inFlight
    · rw [inPhase, hrecorded, put, Metrics.value_enter_ne _ hkey]
      exact h.count

/-- The handler is called, or ends: the call stays inside. -/
theorem Counted.move (h : Counted s key) (hold : s.calls.lookup id = some old) (hkey : call.key = old.key)
    (hinside : old.phase ≠ .recorded) (hinside' : call.phase ≠ .recorded) : Counted (s.put s.metrics id call) key := by
  have hsame := tally_put_old hold s.metrics call (· != .recorded) key
  have hrecorded := tally_put_old hold s.metrics call (· == .recorded) key
  simp only [hkey, bne_iff_ne, beq_iff_eq, hinside, hinside', ne_eq, not_false_eq_true, and_true, and_false, if_false,
    Nat.add_right_cancel_iff, Nat.add_zero] at hsame hrecorded
  constructor
  · rw [inside, hsame]
    exact h.inFlight
  · rw [inPhase, hrecorded]
    exact h.count

/-- The second critical section. -/
theorem Counted.leave (h : Counted s key) (hold : s.calls.lookup id = some old) (hreturned : old.phase = .returned)
    (elapsed : Duration) :
    Counted (s.put (s.metrics.leave elapsed old.key) id { old with phase := .recorded }) key := by
  obtain ⟨callKey, started, phase⟩ := old
  obtain rfl : phase = .returned := hreturned
  have hput := tally_put_old hold (s.metrics.leave elapsed callKey) { key := callKey, started, phase := .recorded }
  have hinside := hput (· != .recorded) key
  have hrecorded := hput (· == .recorded) key
  by_cases hkey : callKey = some key
  · subst hkey
    simp only [true_and, bne_iff_ne, beq_iff_eq, ne_eq, reduceCtorEq, not_false_eq_true, not_true_eq_false, if_true,
      if_false, Nat.add_zero] at hinside hrecorded
    have hvalue : (s.put (s.metrics.leave elapsed (some key)) id
        { key := some key, started, phase := .recorded }).metrics.value key =
          { count := (s.metrics.value key).count + 1
            duration := (s.metrics.value key).duration + elapsed
            inFlight := (s.metrics.value key).inFlight - 1 } := Metrics.value_set_self s.metrics key _
    constructor
    · rw [hvalue, h.inFlight, inside, inside, ← hinside, UInt64.ofNat_add]
      exact UInt64.add_sub_cancel _ _
    · rw [hvalue, h.count, inPhase, inPhase, hrecorded, UInt64.ofNat_add]
      rfl
  · simp only [hkey, false_and, if_false, Nat.add_zero] at hinside hrecorded
    constructor
    · rw [inside, hinside, put, Metrics.value_leave_ne _ _ hkey]
      exact h.inFlight
    · rw [inPhase, hrecorded, put, Metrics.value_leave_ne _ _ hkey]
      exact h.count

theorem Counted.step (h : Counted s key) (hstep : s.step e = some next) : Counted next key := by
  cases moves_of_step hstep with
  | enters callKey hid => exact h.enter hid callKey
  | runs call hold hkey hinside hinside' => exact h.move hold hkey hinside hinside'
  | records elapsed hold hreturned => exact h.leave hold hreturned elapsed

theorem counted_of_run {events : List MiddlewareEvent} (hrun : run Middleware.step Middleware.start events = some s)
    (key : GoString) : Counted s key :=
  run_induction (P := fun _ s => Counted s key) (Counted.start key) (fun _ _ _ _ _ h hstep => h.step hstep) hrun

end Middleware

/-- The numbers that the metrics show under a key are those of the calls: the gauge has the handlers that execute, the
    counter those that ended. -/
def Accurate (s : Middleware) (key : GoString) : Prop :=
  (s.metrics.value key).inFlight.toNat = s.inPhase .executing key ∧
  (s.metrics.value key).count.toNat = s.inPhase .returned key + s.inPhase .recorded key + s.inPhase .panicked key

instance Accurate.decidable (s : Middleware) (key : GoString) : Decidable (Accurate s key) :=
  inferInstanceAs (Decidable (_ ∧ _))

/-- In every state of every run, the metrics of a key are accurate exactly when no handler of a call with the key has
    panicked, no such call stands between its handler and one of the two critical sections, and the numbers fit the 64
    bits of the counters. The second critical section never takes one off a gauge of zero, unless 2^64 calls are
    inside. -/
theorem metrics_accurate_iff {events : List MiddlewareEvent} {s : Middleware}
    (hrun : run Middleware.step Middleware.start events = some s) (key : GoString) :
    (Accurate s key ↔
      s.inPhase .panicked key = 0 ∧ s.inPhase .returned key = 0 ∧ s.inPhase .entered key % 2 ^ 64 = 0 ∧
      s.inPhase .executing key < 2 ^ 64 ∧ s.inPhase .recorded key < 2 ^ 64) ∧
    ∀ id now next call, s.step (.record id now) = some next → s.calls.lookup id = some call →
      call.key = some key → s.inside key < 2 ^ 64 → 0 < (s.metrics.value key).inFlight := by
  have hcounted := Middleware.counted_of_run hrun key
  have hinside := Middleware.inside_eq s key
  constructor
  · unfold Accurate
    rw [hcounted.inFlight, hcounted.count, UInt64.toNat_ofNat', UInt64.toNat_ofNat', hinside]
    omega
  · intro id now next call hstep hcall hkey hfits
    obtain ⟨_, hcall', hphase, -⟩ := Middleware.advance_eq_some_iff.mp hstep
    obtain rfl := Option.some.inj (hcall'.symm.trans hcall)
    have hpos := Middleware.inPhase_pos hcall hkey
    rw [hphase] at hpos
    rw [hcounted.inFlight, UInt64.lt_iff_toNat_lt, UInt64.toNat_ofNat', Nat.mod_eq_of_lt hfits, hinside]
    exact Nat.lt_of_lt_of_le hpos (by omega)

/-- Two calls, one of them about to be recorded. -/
def meteredCalls : List MiddlewareEvent :=
  [.enter 0 (lit "GET") (lit "/demo"), .serve 0 5, .enter 1 (lit "GET") (lit "/shop"), .serve 1 6, .returns 0]

/-- The second critical section finds a gauge above zero, and behind it the numbers are right. -/
theorem metrics_accurate_iff_two_calls :
    ∃ s next, run Middleware.step Middleware.start meteredCalls = some s ∧
      0 < (s.metrics.value (lit "GET:tunnel")).inFlight ∧
      run Middleware.step Middleware.start (meteredCalls ++ [.record 0 9]) = some next ∧
      Accurate next (lit "GET:tunnel") ∧ (next.metrics.value (lit "GET:tunnel")).inFlight = 1 ∧
      (next.metrics.value (lit "GET:tunnel")).count = 1 := by
  have hrun := (Option.some_get
    (show (run Middleware.step Middleware.start meteredCalls).isSome by decide +kernel)).symm
  have hnext := (Option.some_get
    (show (run Middleware.step Middleware.start (meteredCalls ++ [.record 0 9])).isSome by decide +kernel)).symm
  obtain ⟨_, hbefore, hstep⟩ := run_concat_eq_some.mp hnext
  obtain rfl := Option.some.inj (hrun.symm.trans hbefore)
  exact ⟨_, _, hrun,
    (metrics_accurate_iff hrun (lit "GET:tunnel")).2 0 9 _
      { key := some (lit "GET:tunnel"), started := 5, phase := .returned } hstep (by decide +kernel) rfl
      (by decide +kernel),
    hnext, (metrics_accurate_iff hnext (lit "GET:tunnel")).1.mpr (by decide +kernel), by decide +kernel⟩

def panickingCall : List MiddlewareEvent := [.enter 0 (lit "GET") (lit "/demo"), .serve 0 5, .panics 0]

/-- The handler of the only call panics: the gauge stays at one, and the call is never counted. -/
theorem panicked_call_stays_in_flight :
    ∃ s, run Middleware.step Middleware.start panickingCall = some s ∧
      s.inPhase .executing (lit "GET:tunnel") = 0 ∧ (s.metrics.value (lit "GET:tunnel")).inFlight = 1 ∧
      s.inPhase .panicked (lit "GET:tunnel") = 1 ∧ (s.metrics.value (lit "GET:tunnel")).count = 0 ∧
      ¬ Accurate s (lit "GET:tunnel") :=
  ⟨_, (Option.some_get (show (run Middleware.step Middleware.start panickingCall).isSome by decide +kernel)).symm,
    by decide +kernel⟩

end myngrok.server
