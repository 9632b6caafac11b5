import Myngrok.Tunnels.Traffic

open golang transition myngrok.tunnels

namespace myngrok.server

/-- The goroutine that flushes the traffic: in its `select`, in a flush with the deltas that are still to be added,
    where the final one is its last, or at its end. -/
inductive Flusher where
  | waiting
  | flushing (final : Bool) (left : Map GoString TrafficMetrics)
  | stopped
  deriving DecidableEq

/-- The deltas that were drained and are still to be added. -/
def Flusher.left : Flusher → Map GoString TrafficMetrics
  | .flushing _ left => left
  | _ => ∅

/-- The registry has been drained for the last time. -/
def Flusher.final : Flusher → Bool
  | .flushing final _ => final
  | .waiting => false
  | .stopped => true

/-- A public request in progress, before and after its call of `RecordTraffic`. -/
inductive RequestPhase where
  | serving
  | recorded
  deriving DecidableEq

/-- The end of `run`: its `select`, the receive from `trafficFlushDone`, `CloseAll`, the call of `Shutdown` and the wait
    in it. -/
inductive RunPhase where
  | selecting
  | awaitingFlush
  | closing
  | stopping
  | shuttingDown
  | returned (err : Option Error)
  deriving DecidableEq

/-- The final flush is over. -/
def RunPhase.afterFlush : RunPhase → Bool
  | .closing | .stopping | .shuttingDown | .returned none => true
  | _ => false

/-- What the goroutines of the server share when it is told to stop. `added` holds the deltas for which `AddDelta`
    returned nil. -/
structure Process where
  registry : Registry
  requests : Map Nat RequestPhase
  flusher : Flusher
  added : List (GoString × TrafficMetrics)
  signalled : Bool
  phase : RunPhase
  deriving DecidableEq

/-- `routing` is a call of a handler of agents; `addDelta` is one round of the loop of `flushTraffic`, in the order of
    `range`. -/
inductive ProcessEvent where
  | routing (e : RegistryEvent)
  | accept (request : Nat)
  | recordTraffic (request : Nat) (tunnelID : GoString) (requestBytes responseBytes : Int)
  | respond (request : Nat)
  | tick
  | addDelta (user : GoString) (err : Option Error)
  | flushed
  | signal
  | finalFlush
  | ctxDone
  | flushDone
  | closeAll
  | shutdown
  | shutdownReturned (err : Option Error)
  | serverFailed (err : Error)
  deriving DecidableEq

/-- What the handlers of agents do to the registry. -/
def routingCall : RegistryEvent → Bool
  | .open _ | .close _ | .closeSession .. => true
  | _ => false

namespace Process

def start : Process :=
  { registry := newRegistry, requests := ∅, flusher := .waiting, added := [], signalled := false
    phase := .selecting }

def drain (s : Process) (final : Bool) : Process :=
  { s with registry := s.registry.drainUserDeltas.2, flusher := .flushing final s.registry.drainUserDeltas.1 }

/-- `Shutdown` closes the listeners at once, and returns nil when no request is in progress. `ListenAndServe` does not
    return `ErrServerClosed` before that. -/
def next (s : Process) : ProcessEvent → Option Process
  | .routing e => if routingCall e then (s.registry.step e).map fun registry => { s with registry } else none
  | .accept request =>
    if s.phase ≠ .shuttingDown ∧ request ∉ s.requests then
      some { s with requests := s.requests.insert request .serving }
    else none
  | .recordTraffic request tunnelID requestBytes responseBytes =>
    if s.requests.lookup request = some .serving then
      some { s with
        registry := s.registry.recordTraffic tunnelID requestBytes responseBytes
        requests := s.requests.insert request .recorded }
    else none
  | .respond request =>
    if request ∈ s.requests then some { s with requests := s.requests.erase request } else none
  | .tick => if s.flusher = .waiting then some (s.drain false) else none
  | .addDelta user err =>
    match s.flusher with
    | .flushing final left => (left.lookup user).map fun delta =>
      { s with
        flusher := .flushing final (left.erase user)
        added := if err = none then s.added ++ [(user, delta)] else s.added }
    | _ => none
  | .flushed =>
    match s.flusher with
    | .flushing final left =>
      if left = ∅ then some { s with flusher := if final then .stopped else .waiting } else none
    | _ => none
  | .signal => some { s with signalled := true }
  | .finalFlush => if s.flusher = .waiting ∧ s.signalled then some (s.drain true) else none
  | .ctxDone => if s.phase = .selecting ∧ s.signalled then some { s with phase := .awaitingFlush } else none
  | .flushDone =>
    if s.phase = .awaitingFlush ∧ s.flusher = .stopped then some { s with phase := .closing } else none
  | .closeAll => if s.phase = .closing then some { s with phase := .stopping } else none
  | .shutdown => if s.phase = .stopping then some { s with phase := .shuttingDown } else none
  | .shutdownReturned none =>
    if s.phase = .shuttingDown ∧ s.requests = ∅ then some { s with phase := .returned none } else none
  | .shutdownReturned (some err) =>
    if s.phase = .shuttingDown then
      some { s with phase := .returned (some (lit "graceful shutdown failed: " ++ err)) }
    else none
  | .serverFailed err =>
    if s.phase = .selecting then
      some { s with phase := .returned (some (lit "server stopped unexpectedly: " ++ err)) }
    else none

/-- The process is at its end when `run` returns. -/
def step (s : Process) (e : ProcessEvent) : Option Process :=
  match s.phase with
  | .returned _ => none
  | _ => s.next e

/-- The traffic that a call of `RecordTraffic` puts down to the owner of its tunnel. -/
def charge (s : Process) : ProcessEvent → List (GoString × TrafficMetrics)
  | .recordTraffic _ tunnelID requestBytes responseBytes =>
    s.registry.charge (.recordTraffic tunnelID requestBytes responseBytes)
  | _ => []

/-- The ways a step can go; those that only move `run` on are together. -/
inductive Step (s : Process) : ProcessEvent → Process → Prop where
  | routing {e registry} (hrouting : routingCall e = true) (hstep : s.registry.step e = some registry) :
    Step s (.routing e) { s with registry }
  | requests {e requests} (hcharge : s.charge e = []) : Step s e { s with requests }
  | recordTraffic {request tunnelID requestBytes responseBytes} :
    Step s (.recordTraffic request tunnelID requestBytes responseBytes)
      { s with
        registry := s.registry.recordTraffic tunnelID requestBytes responseBytes
        requests := s.requests.insert request .recorded }
  | drain {e final} (hwaiting : s.flusher = .waiting) (hcharge : s.charge e = []) : Step s e (s.drain final)
  | addDelta {user err final} {left : Map GoString TrafficMetrics} {delta}
      (hflushing : s.flusher = .flushing final left) (hdelta : left.lookup user = some delta) :
    Step s (.addDelta user err)
      { s with
        flusher := .flushing final (left.erase user)
        added := if err = none then s.added ++ [(user, delta)] else s.added }
  | flushed {final} (hflushing : s.flusher = .flushing final ∅) :
    Step s .flushed { s with flusher := if final then .stopped else .waiting }
  | signal : Step s .signal { s with signalled := true }
  | phase {e} {phase : RunPhase} (hcharge : s.charge e = [])
      (hflush : phase.afterFlush = true → s.flusher = .stopped ∨ s.phase.afterFlush = true) : Step s e { s with phase }

theorem step_cases {s next : Process} {e : ProcessEvent} (h : s.step e = some next) : s.Step e next := by
  have hnext : s.next e = some next := by
    rw [step] at h
    split at h
    · cases h
    · exact h
  cases e with
  | routing e =>
    rw [Process.next, Option.ite_none_right_eq_some] at hnext
    obtain ⟨hrouting, hmap⟩ := hnext
    obtain ⟨registry, hstep, rfl⟩ := Option.map_eq_some_iff.mp hmap
    exact .routing hrouting hstep
  | accept request | respond request =>
    rw [Process.next, Option.ite_none_right_eq_some] at hnext
    cases hnext.2
    exact .requests rfl
  | recordTraffic request tunnelID requestBytes responseBytes =>
    rw [Process.next, Option.ite_none_right_eq_some] at hnext
    cases hnext.2
    exact .recordTraffic
  | tick =>
    rw [Process.next, Option.ite_none_right_eq_some] at hnext
    cases hnext.2
    exact .drain hnext.1 rfl
  | addDelta user err =>
    rw [Process.next] at hnext
    split at hnext
    · next hflushing =>
      obtain ⟨delta, hdelta, rfl⟩ := Option.map_eq_some_iff.mp hnext
      exact .addDelta hflushing hdelta
    · cases hnext
  | flushed =>
    rw [Process.next] at hnext
    split at hnext
    · next hflushing =>
      rw [Option.ite_none_right_eq_some] at hnext
      cases hnext.2
      exact .flushed (hnext.1 ▸ hflushing)
    · cases hnext
  | signal =>
    cases hnext
    exact .signal
  | finalFlush =>
    rw [Process.next, Option.ite_none_right_eq_some] at hnext
    cases hnext.2
    exact .drain hnext.1.1 rfl
  | ctxDone | serverFailed err =>
    rw [Process.next, Option.ite_none_right_eq_some] at hnext
    cases hnext.2
    exact .phase rfl nofun
  | flushDone =>
    rw [Process.next, Option.ite_none_right_eq_some] at hnext
    cases hnext.2
    exact .phase rfl fun _ => .inl hnext.1.2
  | closeAll | shutdown =>
    rw [Process.next, Option.ite_none_right_eq_some] at hnext
    cases hnext.2
    exact .phase rfl fun _ => .inr (hnext.1 ▸ rfl)
  | shutdownReturned err =>
    cases err with
    | none =>
      rw [Process.next, Option.ite_none_right_eq_some] at hnext
      cases hnext.2
      exact .phase rfl fun _ => .inr (hnext.1.1 ▸ rfl)
    | some err =>
      rw [Process.next, Option.ite_none_right_eq_some] at hnext
      cases hnext.2
      exact .phase rfl nofun

/-- What is in the process of a user's traffic: drained and not yet added, or not yet drained. -/
def pending (s : Process) (user : GoString) : TrafficMetrics :=
  userDelta user s.flusher.left + userDelta user s.registry.perUser

end Process

/-- A flush in which an `AddDelta` fails. -/
def ProcessEvent.fails : ProcessEvent → Bool
  | .addDelta _ (some _) => true
  | _ => false

/-- All traffic that was recorded for tunnels with an owner. -/
def recordedTraffic (events : List ProcessEvent) : List (GoString × TrafficMetrics) :=
  outputs Process.step Process.charge Process.start events

/-- Once the registry has been drained for the last time, no request for a tunnel that is open and has an owner is
    recorded any more. -/
def recordsInTime (s : Process) (e : ProcessEvent) : Bool := !s.flusher.final || s.charge e = []

variable {s next : Process} {e : ProcessEvent} {events : List ProcessEvent}

theorem userDelta_of_routing {r r' : Registry} {e : RegistryEvent} (hrouting : routingCall e = true)
    (hstep : r.step e = some r') (user : GoString) : userDelta user r'.perUser = userDelta user r.perUser := by
  have hbalance := Registry.balance_of_step hstep user
  have hsilent : r.drains e = [] ∧ r.charge e = [] := by
    cases e with
    | «open» | close | closeSession => exact ⟨rfl, rfl⟩
    | recordTraffic | drainUserDeltas => cases hrouting
  rw [hsilent.1, hsilent.2] at hbalance
  exact (zero_add _).symm.trans (hbalance.trans (add_zero _))

theorem userDelta_erase (left : Map GoString TrafficMetrics) {user : GoString} {delta : TrafficMetrics}
    (hdelta : left.lookup user = some delta) (other : GoString) :
    totalFor other [(user, delta)] + userDelta other (left.erase user) = userDelta other left := by
  rw [totalFor_singleton, userDelta, userDelta, Map.lookup_erase_eq]
  by_cases hsame : user = other
  · subst hsame
    rw [if_pos rfl, if_pos rfl, hdelta]
    exact add_zero _
  · rw [if_neg hsame, if_neg (Ne.symm hsame), zero_add]

/-- No step loses traffic, unless `AddDelta` fails. -/
theorem balance_of_step (hstep : s.step e = some next) (hadds : e.fails = false) (user : GoString) :
    totalFor user next.added + next.pending user =
      totalFor user s.added + s.pending user + totalFor user (s.charge e) := by
  have hsilent : ∀ {charges : List (GoString × TrafficMetrics)}, charges = [] → totalFor user s.added + s.pending user =
      totalFor user s.added + s.pending user + totalFor user charges := by
    rintro _ rfl
    exact (add_zero _).symm
  cases Process.step_cases hstep with
  | routing hrouting hregistry =>
    rw [Process.pending, userDelta_of_routing hrouting hregistry]
    exact hsilent rfl
  | requests hcharge => exact hsilent hcharge
  | recordTraffic =>
    rw [Process.pending, Registry.recordTraffic_perUser, ← add_assoc, ← add_assoc, Process.pending, ← add_assoc]
    rfl
  | drain hwaiting hcharge =>
    rw [hcharge, Process.pending, Process.pending, hwaiting]
    exact congrArg (totalFor user s.added + ·) (add_comm _ _) |>.trans (add_zero _).symm
  | @addDelta user' err final left delta hflushing hdelta =>
    cases err with
    | some err => cases hadds
    | none =>
      rw [if_pos rfl, totalFor_append, Process.pending, Process.pending, hflushing, Flusher.left, Flusher.left,
        ← userDelta_erase left hdelta user, add_assoc, ← add_assoc (totalFor user [_])]
      exact (add_zero _).symm
  | @flushed final hflushing =>
    have hleft : ∀ final : Bool, Flusher.left (if final then .stopped else .waiting) = ∅ := by decide
    rw [Process.pending, hleft]
    refine Eq.trans ?_ (hsilent rfl)
    rw [Process.pending, hflushing, Flusher.left]
  | signal => exact hsilent rfl
  | phase hcharge hflush => exact hsilent hcharge

/-- The order in which the server stops. -/
structure Settled (s : Process) : Prop where
  drained : s.flusher.final = true → ∀ user, userDelta user s.registry.perUser = 0
  stopped : s.phase.afterFlush = true → s.flusher = .stopped

theorem settled_of_step (h : Settled s) (hintime : recordsInTime s e = true) (hstep : s.step e = some next) :
    Settled next := by
  cases Process.step_cases hstep with
  | routing hrouting hregistry =>
    refine ⟨fun hfinal user => ?_, h.stopped⟩
    rw [userDelta_of_routing hrouting hregistry]
    exact h.drained hfinal user
  | requests hcharge => exact ⟨h.drained, h.stopped⟩
  | @recordTraffic request tunnelID requestBytes responseBytes =>
    refine ⟨fun hfinal user => ?_, h.stopped⟩
    have hfinal' : s.flusher.final = true := hfinal
    rw [recordsInTime, hfinal'] at hintime
    have hcharge : s.registry.charge (.recordTraffic tunnelID requestBytes responseBytes) = [] :=
      of_decide_eq_true hintime
    rw [Registry.recordTraffic_perUser, hcharge, h.drained hfinal user]
    rfl
  | drain hwaiting hcharge =>
    refine ⟨fun _ _ => rfl, fun hafter => absurd (h.stopped hafter) ?_⟩
    rw [hwaiting]
    exact nofun
  | addDelta hflushing hdelta =>
    have hfinal : s.flusher.final = _ := congrArg Flusher.final hflushing
    refine ⟨fun hlast => h.drained (hfinal.trans hlast), fun hafter => absurd (h.stopped hafter) ?_⟩
    rw [hflushing]
    exact nofun
  | @flushed final hflushing =>
    have hfinal : s.flusher.final = final := congrArg Flusher.final hflushing
    refine ⟨fun hlast => h.drained ?_, fun hafter => absurd (h.stopped hafter) ?_⟩
    · rw [hfinal]
      cases final with
      | true => rfl
      | false => cases hlast
    · rw [hflushing]
      exact nofun
  | signal => exact ⟨h.drained, h.stopped⟩
  | phase hcharge hflush =>
    refine ⟨h.drained, fun hafter => ?_⟩
    obtain hstopped | hearlier := hflush hafter
    · exact hstopped
    · exact h.stopped hearlier

section

variable (hrun : run Process.step Process.start events = some s)

include hrun

theorem recordedTraffic_concat (e : ProcessEvent) :
    recordedTraffic (events ++ [e]) = recordedTraffic events ++ s.charge e :=
  outputs_concat hrun e

/-- What was recorded is what was added and what is still in the process. -/
theorem balance_of_run (hadds : ∀ e ∈ events, e.fails = false) (user : GoString) :
    totalFor user s.added + s.pending user = totalFor user (recordedTraffic events) := by
  revert hadds
  apply run_induction (P := fun events s => (∀ e ∈ events, e.fails = false) →
    totalFor user s.added + s.pending user = totalFor user (recordedTraffic events)) _ _ hrun
  · intro _
    rfl
  · intro events s e next hrun ih hstep hadds
    have hlast := hadds e (List.mem_append_right _ List.mem_cons_self)
    have hearlier := ih fun e hmem => hadds e (List.mem_append_left _ hmem)
    rw [balance_of_step hstep hlast, hearlier, recordedTraffic_concat hrun, totalFor_append]

theorem settled_of_run (hintime : AllSteps Process.step (fun s e => recordsInTime s e = true) Process.start events) :
    Settled s := by
  apply run_induction_of_steps (P := fun _ s => Settled s) _ _ hrun hintime
  · exact ⟨nofun, nofun⟩
  · intro events s e next _ ih hallowed hstep
    exact settled_of_step ih hallowed hstep

end

/-- When `run` returns nil, every user has been credited with all the traffic recorded for the user's tunnels, if none
    was recorded after the registry was drained for the last time. -/
theorem shutdown_persists_traffic (hrun : run Process.step Process.start events = some s)
    (hadds : ∀ e ∈ events, e.fails = false)
    (hintime : AllSteps Process.step (fun s e => recordsInTime s e = true) Process.start events)
    (hreturned : s.phase = .returned none) (user : GoString) :
    totalFor user s.added = totalFor user (recordedTraffic events) := by
  have hsettled := settled_of_run hrun hintime
  have hstopped : s.flusher = .stopped := hsettled.stopped (by rw [hreturned]; rfl)
  have hpending : s.pending user = 0 := by
    rw [Process.pending, hsettled.drained (by rw [hstopped]; rfl), hstopped]
    rfl
  rw [← balance_of_run hrun hadds, hpending, add_zero]

/-- One request is answered before a periodic flush, and one after the signal. -/
def answeredInTime : List ProcessEvent :=
  [.routing (.open blogTunnel), .accept 1, .accept 2, .recordTraffic 1 (lit "t-1") 100 2000, .tick,
    .addDelta (lit "anna") none, .flushed, .signal, .ctxDone, .recordTraffic 2 (lit "t-1") 7 500, .finalFlush,
    .respond 1, .addDelta (lit "anna") none, .flushed, .flushDone, .closeAll, .shutdown, .respond 2,
    .shutdownReturned none]

theorem shutdown_persists_answeredInTime :
    ∃ s, run Process.step Process.start answeredInTime = some s ∧ s.phase = .returned none ∧
      totalFor (lit "anna") s.added = totalFor (lit "anna") (recordedTraffic answeredInTime) := by
  have hreturns : (run Process.step Process.start answeredInTime).any (fun s => s.phase = .returned none) = true := by
    decide +kernel
  obtain ⟨s, hrun, hphase⟩ := (Option.any_eq_true _ _).mp hreturns
  have hreturned := of_decide_eq_true hphase
  exact ⟨s, hrun, hreturned, shutdown_persists_traffic hrun (by decide) (by decide +kernel) hreturned _⟩

/-- A request that is in progress when the signal comes is answered while `Shutdown` waits for it: the flush that was to
    be the final one is over by then. -/
def answeredLate : List ProcessEvent :=
  [.routing (.open blogTunnel), .accept 1, .signal, .ctxDone, .finalFlush, .flushed, .flushDone, .closeAll, .shutdown,
    .recordTraffic 1 (lit "t-1") 100 2000, .respond 1, .shutdownReturned none]

theorem shutdown_loses_traffic :
    (∀ e ∈ answeredLate, e.fails = false) ∧
    ∃ s, run Process.step Process.start answeredLate = some s ∧ s.phase = .returned none ∧
      totalFor (lit "anna") (recordedTraffic answeredLate) = .ofRequest 100 2000 ∧
      totalFor (lit "anna") s.added = 0 ∧
      totalFor (lit "anna") s.added ≠ totalFor (lit "anna") (recordedTraffic answeredLate) := by
  have hreturns : (run Process.step Process.start answeredLate).any
      (fun s => s.phase = .returned none && s.added = []) = true := by decide +kernel
  obtain ⟨s, hrun, hboth⟩ := (Option.any_eq_true _ _).mp hreturns
  rw [Bool.and_eq_true, decide_eq_true_eq, decide_eq_true_eq] at hboth
  have hrecorded : totalFor (lit "anna") (recordedTraffic answeredLate) = .ofRequest 100 2000 := by decide +kernel
  rw [hrecorded]
  refine ⟨by decide, s, hrun, hboth.1, rfl, ?_⟩
  rw [hboth.2]
  decide

end myngrok.server
