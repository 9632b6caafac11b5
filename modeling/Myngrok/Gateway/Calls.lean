import Myngrok.Gateway.SessionManager
import Myngrok.Transition.Run
import Mathlib.Logic.Function.Basic

open golang

namespace myngrok.gateway

variable {Thread : Type}

/-- Where a goroutine stands in a `DeliverResponse` or `Remove` call. Both take entries under the lock and send after
    releasing it. -/
inductive CallState where
  | idle
  | delivering (ch : Chan) (response : Response)
  | returning (result : Bool)
  | removing (cancelled : List Chan)
  deriving DecidableEq

/-- The session manager, the response channels made so far with their buffers, and the calls in progress. -/
structure Calls (Thread : Type) where
  manager : SessionManager
  made : Nat
  buffers : Chan → List Response
  threads : Thread → CallState

/-- The atomic actions of the calls: a critical section, one channel operation, or a return. `receive` is whoever reads
    the channel. -/
inductive CallEvent (Thread : Type) where
  | registerRequest (sessionID id : GoString) (ch : Chan)
  | cancelRequest (id : GoString)
  | deliverLocked (t : Thread) (id : GoString) (response : Response)
  | deliverSend (t : Thread) (ch : Chan) (response : Response)
  | deliverReturn (t : Thread) (result : Bool)
  | removeLocked (t : Thread) (sessionID : GoString) (order : List GoString)
  | removeSend (t : Thread) (ch : Chan)
  | removeReturn (t : Thread)
  | receive (ch : Chan) (response : Response)
  | register (session : Session) (now : Nat)
  deriving DecidableEq

namespace Calls

def start : Calls Thread :=
  { manager := newSessionManager, made := 0, buffers := fun _ => [], threads := fun _ => .idle }

/-- Capacity of the channel that `RegisterRequest` makes. -/
def responseCapacity : Nat := 1

def setBuffer (s : Calls Thread) (ch : Chan) (buffer : List Response) : Calls Thread :=
  { s with buffers := Function.update s.buffers ch buffer }

@[simp] theorem setBuffer_manager (s : Calls Thread) (ch : Chan) (buffer : List Response) :
    (s.setBuffer ch buffer).manager = s.manager := rfl

@[simp] theorem setBuffer_made (s : Calls Thread) (ch : Chan) (buffer : List Response) :
    (s.setBuffer ch buffer).made = s.made := rfl

@[simp] theorem setBuffer_threads (s : Calls Thread) (ch : Chan) (buffer : List Response) :
    (s.setBuffer ch buffer).threads = s.threads := rfl

theorem setBuffer_buffers (s : Calls Thread) (ch : Chan) (buffer : List Response) (query : Chan) :
    (s.setBuffer ch buffer).buffers query = if query = ch then buffer else s.buffers query := by
  simp [setBuffer, Function.update_apply]

variable [DecidableEq Thread]

def setThread (s : Calls Thread) (t : Thread) (state : CallState) : Calls Thread :=
  { s with threads := Function.update s.threads t state }

/-- One atomic action. A send on a full channel is not enabled: it blocks. -/
def step (s : Calls Thread) : CallEvent Thread → Option (Calls Thread)
  | .registerRequest sessionID id ch =>
    if ch = s.made then
      some { s with manager := s.manager.registerRequest sessionID id ch, made := s.made + 1 }
    else none
  | .cancelRequest id => some { s with manager := s.manager.cancelRequest id }
  | .deliverLocked t id response =>
    if s.threads t = .idle then
      match s.manager.deliverLocked id with
      | (some pending, manager) =>
        some ({ s with manager }.setThread t (.delivering pending.response response))
      | (none, manager) => some ({ s with manager }.setThread t (.returning false))
    else none
  | .deliverSend t ch response =>
    if s.threads t = .delivering ch response ∧ (s.buffers ch).length < responseCapacity then
      some ((s.setBuffer ch (s.buffers ch ++ [response])).setThread t (.returning true))
    else none
  | .deliverReturn t result =>
    if s.threads t = .returning result then some (s.setThread t .idle) else none
  | .removeLocked t sessionID order =>
    if s.threads t = .idle ∧ order.Perm s.manager.pending.keys then
      let (manager, cancelled) := s.manager.removeLocked sessionID order
      some ({ s with manager }.setThread t (.removing cancelled))
    else none
  | .removeSend t ch =>
    match s.threads t with
    | .removing (next :: rest) =>
      if next = ch ∧ (s.buffers ch).length < responseCapacity then
        some ((s.setBuffer ch (s.buffers ch ++ [disconnected])).setThread t (.removing rest))
      else none
    | _ => none
  | .removeReturn t =>
    if s.threads t = .removing [] then some (s.setThread t .idle) else none
  | .receive ch response =>
    match s.buffers ch with
    | first :: rest => if first = response then some (s.setBuffer ch rest) else none
    | [] => none
  | .register session now => some { s with manager := s.manager.register session now }

@[simp] theorem setThread_manager (s : Calls Thread) (t : Thread) (state : CallState) :
    (s.setThread t state).manager = s.manager := rfl

@[simp] theorem setThread_made (s : Calls Thread) (t : Thread) (state : CallState) :
    (s.setThread t state).made = s.made := rfl

@[simp] theorem setThread_buffers (s : Calls Thread) (t : Thread) (state : CallState) :
    (s.setThread t state).buffers = s.buffers := rfl

theorem setThread_threads (s : Calls Thread) (t : Thread) (state : CallState) (u : Thread) :
    (s.setThread t state).threads u = if u = t then state else s.threads u := by
  simp [setThread, Function.update_apply]

/-- What each action needs and does, one case for each way it can go. -/
inductive Step (s : Calls Thread) : CallEvent Thread → Calls Thread → Prop where
  | registerRequest (sessionID id : GoString) :
    Step s (.registerRequest sessionID id s.made)
      { s with manager := s.manager.registerRequest sessionID id s.made, made := s.made + 1 }
  | cancelRequest (id : GoString) :
    Step s (.cancelRequest id) { s with manager := s.manager.cancelRequest id }
  | deliverFound {t id} {entry : PendingRequest} (response : Response) (hidle : s.threads t = .idle)
      (hlookup : s.manager.pending.lookup id = some entry) :
    Step s (.deliverLocked t id response)
      ({ s with manager := s.manager.cancelRequest id }.setThread t (.delivering entry.response response))
  | deliverMissing {t id} (response : Response) (hidle : s.threads t = .idle)
      (hlookup : s.manager.pending.lookup id = none) :
    Step s (.deliverLocked t id response) (s.setThread t (.returning false))
  | deliverSend {t ch response} (hthread : s.threads t = .delivering ch response)
      (hroom : (s.buffers ch).length < responseCapacity) :
    Step s (.deliverSend t ch response)
      ((s.setBuffer ch (s.buffers ch ++ [response])).setThread t (.returning true))
  | deliverReturn {t result} (hthread : s.threads t = .returning result) :
    Step s (.deliverReturn t result) (s.setThread t .idle)
  | removeLocked {t} (sessionID : GoString) {order : List GoString} (hidle : s.threads t = .idle)
      (horder : order.Perm s.manager.pending.keys) :
    Step s (.removeLocked t sessionID order)
      ({ s with manager := (s.manager.removeLocked sessionID order).1 }.setThread t
        (.removing (s.manager.removeLocked sessionID order).2))
  | removeSend {t ch rest} (hthread : s.threads t = .removing (ch :: rest))
      (hroom : (s.buffers ch).length < responseCapacity) :
    Step s (.removeSend t ch)
      ((s.setBuffer ch (s.buffers ch ++ [disconnected])).setThread t (.removing rest))
  | removeReturn {t} (hthread : s.threads t = .removing []) : Step s (.removeReturn t) (s.setThread t .idle)
  | receive {ch response rest} (hbuffer : s.buffers ch = response :: rest) :
    Step s (.receive ch response) (s.setBuffer ch rest)
  | register (session : Session) (now : Nat) :
    Step s (.register session now) { s with manager := s.manager.register session now }

/-- The executable step function does nothing but these. -/
theorem step_cases {s next : Calls Thread} {e : CallEvent Thread} (h : s.step e = some next) : s.Step e next := by
  cases e with
  | registerRequest sessionID id ch =>
    simp only [step] at h
    split at h <;> cases h
    rename_i hfresh
    subst hfresh
    exact .registerRequest sessionID id
  | cancelRequest id =>
    cases h
    exact .cancelRequest id
  | deliverLocked t id response =>
    simp only [step, SessionManager.deliverLocked] at h
    split at h
    · rename_i hidle
      cases hlookup : s.manager.pending.lookup id with
      | none =>
        simp only [hlookup] at h
        cases h
        exact .deliverMissing response hidle hlookup
      | some entry =>
        simp only [hlookup] at h
        cases h
        exact .deliverFound response hidle hlookup
    · cases h
  | deliverSend t ch response =>
    simp only [step] at h
    split at h <;> cases h
    rename_i hguard
    exact .deliverSend hguard.1 hguard.2
  | deliverReturn t result =>
    simp only [step] at h
    split at h <;> cases h
    rename_i hthread
    exact .deliverReturn hthread
  | removeLocked t sessionID order =>
    simp only [step] at h
    split at h <;> cases h
    rename_i hguard
    exact .removeLocked sessionID hguard.1 hguard.2
  | removeSend t ch =>
    simp only [step] at h
    split at h
    · rename_i first rest hthread
      split at h <;> cases h
      rename_i hguard
      obtain ⟨rfl, hroom⟩ := hguard
      exact .removeSend hthread hroom
    · cases h
  | removeReturn t =>
    simp only [step] at h
    split at h <;> cases h
    rename_i hthread
    exact .removeReturn hthread
  | receive ch response =>
    simp only [step] at h
    split at h
    · rename_i first rest hbuffer
      split at h <;> cases h
      rename_i hfirst
      subst hfirst
      exact .receive hbuffer
    · cases h
  | register session now =>
    cases h
    exact .register session now

end Calls

end myngrok.gateway
