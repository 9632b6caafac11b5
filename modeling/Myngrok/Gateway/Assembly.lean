import Myngrok.Gateway.ResponseStreams
import Myngrok.Streams.Table
import Myngrok.Transition.Run

open golang Result websocket streams transition myngrok.protocol

namespace myngrok.gateway

/-- The session loop as a transition system over its map of open streams; a round that ends the loop has no
    successor. -/
def sessionStep (dec : Decoder) (responses : Responses) (e : LoopEvent) : Option Responses :=
  match serveSession dec responses e with
  | ok (.continued next _) => some next
  | _ => none

def LoopEvent.item (dec : Decoder) : LoopEvent → Option ResponseItem
  | .inbound _ message => some (responseItem dec message)
  | _ => none

/-- What the loop has read so far, message by message. -/
def inboundItems (dec : Decoder) (events : List LoopEvent) : List ResponseItem :=
  events.filterMap (LoopEvent.item dec)

/-- `a` is the assembly of a stream that started with its payload and then got exactly `parts`. -/
structure ResponseAssembly.Holds (a : ResponseAssembly) (parts : List BinaryFrame) : Prop where
  body : a.body = chunkBytes parts
  next : a.next = UInt32.ofNat parts.length

/-- The lengths that the loop never lets a stream exceed. -/
structure ResponseAssembly.Bounded (a : ResponseAssembly) : Prop where
  limit : a.body.length ≤ maxTunnelResponseBodyBytes
  announced : 0 ≤ a.payload.contentLength → (a.body.length : Int) ≤ a.payload.contentLength

/-- The open streams are those that the messages read so far left open. -/
structure Assembled (items : List ResponseItem) (responses : Responses) : Prop where
  streams : ∀ id a, responses.lookup id = some a ↔ ∃ parts, Open items id a.payload parts ∧ a.Holds parts
  bounded : ∀ id a, responses.lookup id = some a → a.Bounded
  count : responses.len ≤ maxPendingResponseStreams

/-- The assembly of a stream that got `frames`. -/
def assemblyOf (payload : HTTPResponsePayload) (frames : List BinaryFrame) : ResponseAssembly :=
  { payload, next := UInt32.ofNat frames.length, body := chunkBytes frames }

theorem assemblyOf_append (payload : HTTPResponsePayload) (frames : List BinaryFrame) (frame : BinaryFrame) :
    (assemblyOf payload frames).append frame = assemblyOf payload (frames ++ [frame]) := by
  rw [assemblyOf, assemblyOf, ResponseAssembly.append, chunkBytes_concat, List.length_append, List.length_singleton,
    UInt32.ofNat_add]
  rfl

theorem ResponseAssembly.holds_iff {a : ResponseAssembly} {parts : List BinaryFrame} :
    a.Holds parts ↔ a = assemblyOf a.payload parts := by
  constructor
  · rintro ⟨hbody, hnext⟩
    rw [assemblyOf, ← hbody, ← hnext]
  · intro h
    rw [h]
    exact ⟨rfl, rfl⟩

variable {responses next : Responses} {items : List ResponseItem} {effects : List Effect} {dec : Decoder}
  {e : LoopEvent}

/-- The map of the session loop keeps exactly the open streams. -/
theorem Assembled.tracks (h : Assembled items responses) : Tracks assemblyOf items fun id => responses.lookup id := by
  intro id a
  rw [h.streams]
  constructor
  · rintro ⟨parts, hopen, hholds⟩
    exact ⟨a.payload, parts, hopen, ResponseAssembly.holds_iff.mp hholds⟩
  · rintro ⟨payload, parts, hopen, rfl⟩
    exact ⟨parts, hopen, rfl, rfl⟩

theorem assembled_of_tracks (htracks : Tracks assemblyOf items fun id => responses.lookup id)
    (hbounded : ∀ id a, responses.lookup id = some a → a.Bounded) (hcount : responses.len ≤ maxPendingResponseStreams) :
    Assembled items responses := by
  refine ⟨?_, hbounded, hcount⟩
  intro id a
  rw [htracks id a]
  constructor
  · rintro ⟨payload, parts, hopen, rfl⟩
    exact ⟨parts, hopen, rfl, rfl⟩
  · rintro ⟨parts, hopen, hholds⟩
    exact ⟨a.payload, parts, hopen, ResponseAssembly.holds_iff.mp hholds⟩

theorem assembled_nil : Assembled [] ∅ := by
  refine assembled_of_tracks tracks_nil ?_ (Nat.zero_le _)
  intro id a h
  cases h

/-- The invariant of the loop: one accepted message keeps it. -/
theorem Assembled.step {item : ResponseItem} (h : Assembled items responses)
    (hserves : Serves responses item next effects) : Assembled (items ++ [item]) next := by
  cases hserves with
  | @start id payload hid hlow hhigh hroom =>
    refine assembled_of_tracks (h.tracks.start fun query => Map.lookup_insert_eq responses id _ query) ?_ ?_
    · intro query a hlookup
      rw [Map.lookup_insert_eq] at hlookup
      split at hlookup
      · cases hlookup
        exact ⟨Nat.zero_le _, fun hlength => hlength⟩
      · exact h.bounded query a hlookup
    · by_cases hknown : id ∈ responses
      · rw [Map.len_insert_of_mem responses _ hknown]
        exact h.count
      · rw [Map.len_insert_of_notMem responses _ hknown]
        exact Nat.succ_le_of_lt (hroom.resolve_left hknown)
  | @chunk id frame a hlookup haccepts =>
    have hnext : ∀ payload parts, a = assemblyOf payload parts →
        a.append frame = assemblyOf payload (parts ++ [frame]) := by
      rintro payload parts rfl
      exact assemblyOf_append payload parts frame
    refine assembled_of_tracks (h.tracks.chunk hlookup hnext fun query => Map.lookup_insert_eq responses id _ query) ?_ ?_
    · intro query b hfound
      rw [Map.lookup_insert_eq] at hfound
      split at hfound
      · cases hfound
        obtain ⟨_, _, hlimit, hannounced⟩ := haccepts
        refine ⟨?_, ?_⟩
        · simpa [ResponseAssembly.append] using hlimit
        · intro hlength
          simpa [ResponseAssembly.append] using hannounced hlength
      · exact h.bounded query b hfound
    · rw [Map.len_insert_of_mem responses _ ((Map.mem_iff_lookup responses id).mpr ⟨a, hlookup⟩)]
      exact h.count
  | @close id a hlookup hcomplete =>
    refine assembled_of_tracks (h.tracks.close fun query => Map.lookup_erase_eq responses id query) ?_
      (Nat.le_trans (Map.len_erase_le responses id) h.count)
    intro query b hfound
    rw [Map.lookup_erase_eq] at hfound
    split at hfound
    · cases hfound
    · exact h.bounded query b hfound
  | skip => exact assembled_of_tracks h.tracks.skip h.bounded h.count

theorem serveSession_continued (h : serveSession dec responses e = ok (.continued next effects)) :
    (∃ item, e.item dec = some item ∧ Serves responses item next effects) ∨
      (e.item dec = none ∧ next = responses ∧ ∀ id response, Effect.deliver id response ∉ effects) := by
  cases e with
  | inbound answers message => exact .inl ⟨_, rfl, serveInbound_continued h⟩
  | tick write =>
    cases write <;> cases h
    exact .inr ⟨rfl, rfl, by simp⟩
  | outbound message write =>
    cases write <;> cases h
    exact .inr ⟨rfl, rfl, by simp⟩
  | ctxDone | readError => cases h

theorem sessionStep_eq_some :
    sessionStep dec responses e = some next ↔
      ∃ effects, serveSession dec responses e = ok (.continued next effects) := by
  unfold sessionStep
  split
  · rename_i responses' effects hserve
    constructor
    · intro h
      cases h
      exact ⟨effects, hserve⟩
    · rintro ⟨effects', hserve'⟩
      rw [hserve] at hserve'
      cases hserve'
      rfl
  · rename_i hnot
    constructor
    · intro h
      cases h
    · rintro ⟨effects, hserve⟩
      exact absurd hserve (hnot next effects)

theorem inboundItems_concat (dec : Decoder) (events : List LoopEvent) (e : LoopEvent) :
    inboundItems dec (events ++ [e]) = inboundItems dec events ++ (e.item dec).toList := by
  rw [inboundItems, filterMap_concat, ← inboundItems]

/-- Whatever the agent sends, the map of open streams is the one that the messages read so far describe. -/
theorem assembled_of_run (dec : Decoder) {events : List LoopEvent}
    (h : run (sessionStep dec) ∅ events = some responses) : Assembled (inboundItems dec events) responses := by
  apply run_induction (P := fun events responses => Assembled (inboundItems dec events) responses) assembled_nil _ h
  intro events state e next _ hassembled hstep
  obtain ⟨effects, hserve⟩ := sessionStep_eq_some.mp hstep
  rw [inboundItems_concat]
  obtain ⟨item, hitem, hserves⟩ | ⟨hitem, rfl, _⟩ := serveSession_continued hserve
  · rw [hitem]
    exact hassembled.step hserves
  · rw [hitem]
    simpa using hassembled

/-- No event makes the loop follow a nil assembly. -/
theorem serveSession_ne_panic (dec : Decoder) (responses : Responses) (e : LoopEvent) :
    serveSession dec responses e ≠ panic := by
  intro hpanic
  cases e with
  | inbound answers message =>
    have hserve : serveInbound dec answers responses message = panic := hpanic
    obtain ⟨next, effects, h, _⟩ | ⟨_, ⟨status, reason, h⟩ | h⟩ := serveInbound_cases dec answers responses message <;>
      rw [h] at hserve <;> cases hserve
  | ctxDone | readError | tick | outbound => cases hpanic

/-- A delivery hands over a stream that has just been ended, and that has the length it announced. -/
theorem serveSession_delivers {id : GoString} {response : Response}
    (hserve : serveSession dec responses e = ok (.continued next effects))
    (hdeliver : Effect.deliver id response ∈ effects) :
    ∃ a, e.item dec = some (.close id) ∧ responses.lookup id = some a ∧ response = a.response ∧ a.Complete := by
  obtain ⟨item, hitem, hserves⟩ | ⟨_, _, hsilent⟩ := serveSession_continued hserve
  · cases hserves with
    | start | chunk => cases hdeliver
    | @close id' a hlookup hcomplete =>
      rw [List.mem_singleton] at hdeliver
      cases hdeliver
      exact ⟨a, hitem, hlookup, rfl, hcomplete⟩
    | skip hsilent => exact absurd hdeliver (hsilent id response)
  · exact absurd hdeliver (hsilent id response)

/-- The gateway's assembly of response streams against any agent: at most 32 open streams; each holds the chunks it got
    since its latest start, in order, with their number as the next sequence number, within 32 MiB and within the
    announced length; what is delivered has exactly the announced length; and no message makes the loop use a missing
    assembly. -/
theorem serveSession_assembles (dec : Decoder) {events : List LoopEvent} {responses : Responses}
    (h : run (sessionStep dec) ∅ events = some responses) :
    responses.len ≤ 32 ∧
    (∀ id a, responses.lookup id = some a →
      (∃ parts, Open (inboundItems dec events) id a.payload parts ∧ a.body = chunkBytes parts ∧
        a.next.toNat = parts.length % 2 ^ 32) ∧
      a.body.length ≤ 32 * 1024 * 1024 ∧
      (0 ≤ a.payload.contentLength → (a.body.length : Int) ≤ a.payload.contentLength)) ∧
    (∀ e, serveSession dec responses e ≠ panic) ∧
    (∀ e next effects id response, serveSession dec responses e = ok (.continued next effects) →
      Effect.deliver id response ∈ effects →
      ∃ a, responses.lookup id = some a ∧ response = a.response ∧
        (0 ≤ a.payload.contentLength → (response.body.length : Int) = a.payload.contentLength)) := by
  have hassembled := assembled_of_run dec h
  refine ⟨hassembled.count, ?_, serveSession_ne_panic dec responses, ?_⟩
  · intro id a hlookup
    obtain ⟨parts, hopen, hholds⟩ := (hassembled.streams id a).mp hlookup
    have hbounded := hassembled.bounded id a hlookup
    refine ⟨⟨parts, hopen, hholds.body, ?_⟩, hbounded.limit, hbounded.announced⟩
    rw [hholds.next]
    exact UInt32.toNat_ofNat'
  · intro e next effects id response hserve hdeliver
    obtain ⟨a, _, hlookup, rfl, hcomplete⟩ := serveSession_delivers hserve hdeliver
    exact ⟨a, hlookup, rfl, hcomplete⟩

def quietAnswers : Answers := { agentID := none, openTunnel := none, send := true, write := true }

def chunkMessage (frame : BinaryFrame) : Message := { messageType := .binary, data := frame.wire }

/-- A response of unknown length that is started, gets a chunk, is started again and gets another chunk under the
    sequence number 0. -/
def restartedResponse : HTTPResponsePayload :=
  { requestID := lit "req_1", statusCode := 200, headers := ∅, contentLength := -1, error := [] }

def restartRun : List LoopEvent :=
  [.inbound quietAnswers (httpResponseStartMessage restartedResponse),
    .inbound quietAnswers (chunkMessage
      { type := responseBodyChunk, requestID := lit "req_1", sequence := 0, payload := lit "first" }),
    .tick true,
    .inbound quietAnswers (httpResponseStartMessage restartedResponse),
    .inbound quietAnswers (chunkMessage
      { type := responseBodyChunk, requestID := lit "req_1", sequence := 0, payload := lit "second" })]

theorem serveSession_assembles_restart :
    ∃ responses a parts, run (sessionStep (.knowing [] [restartedResponse] [lit "req_1"])) ∅ restartRun = some responses ∧
      responses.len ≤ 32 ∧ responses.lookup (lit "req_1") = some a ∧ a.body = lit "second" ∧
      Open (inboundItems (.knowing [] [restartedResponse] [lit "req_1"]) restartRun) (lit "req_1") a.payload parts ∧
      a.body = chunkBytes parts := by
  let final : ResponseAssembly := { payload := restartedResponse, next := 1, body := lit "second" }
  have hrun : run (sessionStep (.knowing [] [restartedResponse] [lit "req_1"])) ∅ restartRun =
      some ((∅ : Responses).insert (lit "req_1") final) := by decide +kernel
  have hlookup : AList.lookup (lit "req_1") ((∅ : Responses).insert (lit "req_1") final) = some final := by decide
  obtain ⟨hlen, hstreams, _⟩ := serveSession_assembles _ hrun
  obtain ⟨⟨parts, hopen, hbody, _⟩, _⟩ := hstreams _ _ hlookup
  exact ⟨_, final, parts, hrun, hlen, hlookup, rfl, hopen, hbody⟩

end myngrok.gateway
