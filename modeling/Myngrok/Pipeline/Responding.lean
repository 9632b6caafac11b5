import Myngrok.GatewayClient.ReadLoop
import Myngrok.Pipeline.ResponseStream

open golang Result websocket myngrok.protocol myngrok.gateway
open myngrok.gatewayclient hiding BinaryFrame responseBodyChunk requestBodyChunk parseBinaryFrame

namespace myngrok.gatewayclient

/-- A request in the hands of a worker, and the local side as this request meets it. -/
structure Job where
  request : Request
  service : LocalService

def Job.outcome (localAddress : GoString) (job : Job) : Except Error LocalAnswer :=
  localExchange job.service localAddress job.request

/-- What the job puts in the outbound queue while the session is open. -/
def Job.messages (localAddress : GoString) (job : Job) : List Message :=
  sentBy localAddress job.service job.request

/-- A job that runs, with the messages it has still to send. -/
structure Work where
  job : Job
  rest : List Message

end myngrok.gatewayclient

namespace myngrok.gateway

/-- The `DeliverResponse` call that an effect is, if it is one. -/
def Effect.delivery : Effect → Option (GoString × Response)
  | .deliver id response => some (id, response)
  | _ => none

end myngrok.gateway

namespace myngrok.pipeline

/-- The way of the responses: the agent's workers, its outbound queue and its writer, the socket, the gateway's read
    goroutine with its channel, and the streams of the session loop, which are gone once the loop has returned.
    `delivered` are the `DeliverResponse` calls so far. The `open_tunnel` message that the agent sends before it starts
    its workers is behind already. -/
structure Responding (n : Nat) where
  workers : Fin n → Option Work
  outbound : List Message
  writer : Option Message
  toGateway : List Message
  reader : Option Message
  readCh : List Message
  responses : Option Responses
  delivered : List (GoString × Response)

inductive RespondingEvent (n : Nat) where
  | take (w : Fin n) (job : Job)
  | send (w : Fin n) (message : Message)
  | finish (w : Fin n)
  | pong
  | writerTake (message : Message)
  | write (message : Message)
  | read (message : Message)
  | place (message : Message)
  | inbound (answers : Answers) (message : Message)

/-- The capacity of `readCh`. -/
def readChCapacity : Nat := 1

namespace Responding

variable {n : Nat}

def start : Responding n :=
  { workers := fun _ => none, outbound := [], writer := none, toGateway := [], reader := none, readCh := []
    responses := some ∅, delivered := [] }

def setWorker (s : Responding n) (w : Fin n) (work : Option Work) : Responding n :=
  { s with workers := Function.update s.workers w work }

/-- The messages under way, the oldest first. -/
def stream (s : Responding n) : List Message :=
  s.readCh ++ s.reader.toList ++ s.toGateway ++ s.writer.toList ++ s.outbound

/-- One step of one of the parties; `capacity` is that of the socket. A message above the read limit makes `conn.Read`
    fail, and with it the session loop. -/
def step (dec : Decoder) (localAddress : GoString) (capacity : Nat) (s : Responding n) :
    RespondingEvent n → Option (Responding n)
  | .take w job =>
    match s.workers w with
    | none => some (s.setWorker w (some { job, rest := job.messages localAddress }))
    | some _ => none
  | .send w message =>
    match s.workers w with
    | some { job, rest := next :: rest } =>
      if next = message ∧ s.outbound.length < outboundQueueCapacity then
        some ({ s with outbound := s.outbound ++ [message] }.setWorker w (some { job, rest }))
      else none
    | _ => none
  | .finish w =>
    match s.workers w with
    | some { rest := [], .. } => some (s.setWorker w none)
    | _ => none
  | .pong =>
    if s.outbound.length < outboundQueueCapacity then some { s with outbound := s.outbound ++ [pongMessage] }
    else none
  | .writerTake message =>
    match s.writer, s.outbound with
    | none, next :: rest =>
      if next = message then some { s with writer := some message, outbound := rest } else none
    | _, _ => none
  | .write message =>
    if s.writer = some message ∧ s.toGateway.length < capacity then
      some { s with writer := none, toGateway := s.toGateway ++ [message] }
    else none
  | .read message =>
    match s.reader, s.toGateway with
    | none, next :: rest =>
      if next = message then
        if message.data.length ≤ gateway.websocketReadLimit then
          some { s with reader := some message, toGateway := rest }
        else some { s with responses := none }
      else none
    | _, _ => none
  | .place message =>
    if s.reader = some message ∧ s.readCh.length < readChCapacity then
      some { s with reader := none, readCh := s.readCh ++ [message] }
    else none
  | .inbound answers message =>
    match s.responses, s.readCh with
    | some responses, next :: rest =>
      if next = message then
        match serveInbound dec answers responses message with
        | ok (.continued next effects) => some { s with
            readCh := rest, responses := some next
            delivered := s.delivered ++ effects.filterMap Effect.delivery }
        | ok _ => some { s with readCh := rest, responses := none }
        | .panic => none
      else none
    | _, _ => none

section

variable (dec : Decoder) (localAddress : GoString) (capacity : Nat) (s : Responding n)

/-- The ways a step can go. -/
inductive Step : RespondingEvent n → Responding n → Prop where
  | take {w} (job : Job) (hidle : s.workers w = none) :
    Step (.take w job) (s.setWorker w (some { job, rest := job.messages localAddress }))
  | send {w job message rest} (hwork : s.workers w = some { job, rest := message :: rest })
      (hroom : s.outbound.length < outboundQueueCapacity) :
    Step (.send w message) ({ s with outbound := s.outbound ++ [message] }.setWorker w (some { job, rest }))
  | finish {w job} (hwork : s.workers w = some { job, rest := [] }) : Step (.finish w) (s.setWorker w none)
  | pong (hroom : s.outbound.length < outboundQueueCapacity) :
    Step .pong { s with outbound := s.outbound ++ [pongMessage] }
  | writerTake {message rest} (hwriter : s.writer = none) (hqueue : s.outbound = message :: rest) :
    Step (.writerTake message) { s with writer := some message, outbound := rest }
  | write {message} (hwriter : s.writer = some message) (hroom : s.toGateway.length < capacity) :
    Step (.write message) { s with writer := none, toGateway := s.toGateway ++ [message] }
  | read {message : Message} {rest} (hreader : s.reader = none) (hqueue : s.toGateway = message :: rest)
      (hfits : message.data.length ≤ gateway.websocketReadLimit) :
    Step (.read message) { s with reader := some message, toGateway := rest }
  | readError {message : Message} {rest} (hreader : s.reader = none) (hqueue : s.toGateway = message :: rest)
      (hlong : ¬ message.data.length ≤ gateway.websocketReadLimit) : Step (.read message) { s with responses := none }
  | place {message} (hreader : s.reader = some message) (hroom : s.readCh.length < readChCapacity) :
    Step (.place message) { s with reader := none, readCh := s.readCh ++ [message] }
  | inbound {answers message rest responses next} {effects : List Effect} (hresponses : s.responses = some responses)
      (hqueue : s.readCh = message :: rest)
      (hserve : serveInbound dec answers responses message = ok (.continued next effects)) :
    Step (.inbound answers message)
      { s with readCh := rest, responses := some next, delivered := s.delivered ++ effects.filterMap Effect.delivery }
  | closed {answers message rest responses} (hresponses : s.responses = some responses)
      (hqueue : s.readCh = message :: rest)
      (hserve : ∀ next effects, serveInbound dec answers responses message ≠ ok (.continued next effects)) :
    Step (.inbound answers message) { s with readCh := rest, responses := none }

end

theorem step_cases {dec : Decoder} {localAddress : GoString} {capacity : Nat} {s next : Responding n}
    {e : RespondingEvent n} (h : s.step dec localAddress capacity e = some next) :
    Step dec localAddress capacity s e next := by
  cases e with
  | take w job =>
    simp only [step] at h
    split at h <;> cases h
    rename_i hidle
    exact .take job hidle
  | send w message =>
    simp only [step] at h
    split at h
    · rename_i job first rest hwork
      split at h <;> cases h
      rename_i hguard
      obtain ⟨rfl, hroom⟩ := hguard
      exact .send hwork hroom
    · cases h
  | finish w =>
    simp only [step] at h
    split at h <;> cases h
    rename_i job hwork
    exact .finish hwork
  | pong =>
    simp only [step] at h
    split at h <;> cases h
    rename_i hroom
    exact .pong hroom
  | writerTake message =>
    simp only [step] at h
    split at h
    · rename_i first rest hwriter hqueue
      split at h <;> cases h
      rename_i hfirst
      subst hfirst
      exact .writerTake hwriter hqueue
    · cases h
  | write message =>
    simp only [step] at h
    split at h <;> cases h
    rename_i hguard
    exact .write hguard.1 hguard.2
  | read message =>
    simp only [step] at h
    split at h
    · rename_i first rest hreader hqueue
      split at h
      · rename_i hfirst
        subst hfirst
        split at h <;> cases h
        · rename_i hfits
          exact .read hreader hqueue hfits
        · rename_i hlong
          exact .readError hreader hqueue hlong
      · cases h
    · cases h
  | place message =>
    simp only [step] at h
    split at h <;> cases h
    rename_i hguard
    exact .place hguard.1 hguard.2
  | inbound answers message =>
    simp only [step] at h
    split at h
    · rename_i responses first rest hresponses hqueue
      split at h
      · rename_i hfirst
        subst hfirst
        split at h
        · rename_i next effects hserve
          cases h
          exact .inbound hresponses hqueue hserve
        · rename_i outcome hnot hserve
          cases h
          refine .closed hresponses hqueue ?_
          intro next effects hcontinued
          rw [hserve] at hcontinued
          cases hcontinued
          exact hnot _ _ rfl
        · cases h
      · cases h
    · cases h

end Responding

end myngrok.pipeline
