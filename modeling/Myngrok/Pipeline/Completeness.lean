import Myngrok.Pipeline.ResponseStream
import Myngrok.Tunnels.RequestID

open golang Result websocket streams transition myngrok.protocol myngrok.gateway myngrok.tunnels
open myngrok.gatewayclient hiding BinaryFrame responseBodyChunk requestBodyChunk parseBinaryFrame

namespace myngrok.pipeline

/-- `conn.Read` fails on a message above the limit, so that the loop never sees it. -/
def Readable : LoopEvent → Prop
  | .inbound _ message => message.data.length ≤ gateway.websocketReadLimit
  | _ => True

def inboundMessage : LoopEvent → Option Message
  | .inbound _ message => some message
  | _ => none

/-- The messages about one request that the gateway has read, among all others. -/
def messagesAbout (dec : Decoder) (id : GoString) (events : List LoopEvent) : List Message :=
  (events.filterMap inboundMessage).filter fun message => (responseItem dec message).about id

theorem about_inboundItems (dec : Decoder) (id : GoString) (events : List LoopEvent) :
    about id (inboundItems dec events) = (messagesAbout dec id events).map (responseItem dec) := by
  have hitems : inboundItems dec events = (events.filterMap inboundMessage).map (responseItem dec) := by
    rw [inboundItems, List.map_filterMap]
    apply List.filterMap_congr
    intro e _
    cases e <;> rfl
  rw [about, hitems, List.filter_map]
  rfl

/-- Whatever else the gateway reads in between: when the messages about a request are the given ones, and it hands a
    response without an error to `DeliverResponse`, that response has the whole body. -/
def DeliversWhole (dec : Decoder) (id : GoString) (messages : List Message) (body : Bytes) : Prop :=
  ∀ events responses e next effects response,
    run (sessionStep dec) ∅ events = some responses → (∀ e' ∈ events ++ [e], Readable e') →
    messagesAbout dec id (events ++ [e]) <+: messages →
    serveSession dec responses e = ok (.continued next effects) →
    Effect.deliver id response ∈ effects → response.error = [] → response.body = body

variable {dec : Decoder} {request : Request} {outcome : Except Error LocalAnswer} {events : List LoopEvent}
  {id : GoString} {message : Message} {first rest : List Message}

/-- When the gateway delivers, it has read all messages of the job, and what it delivers is what the job read. -/
theorem delivered_eq_jobResponse (hid : request.Framable) (hreads : Reads dec request outcome)
    {responses next : Responses} {e : LoopEvent} {effects : List Effect} {response : Response}
    (hrun : run (sessionStep dec) ∅ events = some responses)
    (habout : messagesAbout dec request.id (events ++ [e]) <+: jobMessages request outcome)
    (hserve : serveSession dec responses e = ok (.continued next effects))
    (hdeliver : Effect.deliver request.id response ∈ effects) :
    response = jobResponse outcome ∧ messagesAbout dec request.id (events ++ [e]) = jobMessages request outcome := by
  obtain ⟨a, hitem, hlookup, rfl, _⟩ := serveSession_delivers hserve hdeliver
  obtain ⟨rest, hsplit⟩ := habout
  have hitems : about request.id (inboundItems dec events) ++ .close request.id :: rest.map (responseItem dec) =
      jobItems request outcome := by
    rw [← jobMessages_items hid hreads, ← hsplit, List.map_append, ← about_inboundItems, inboundItems_concat,
      hitem, Option.toList_some, about_concat, if_pos (by simp [Item.about])]
    simp
  -- The end is the last message of the job, so all its frames have been read.
  obtain ⟨_, hstart, _⟩ | ⟨_, _, _, _, _, hchunk, _⟩ | ⟨hsent, _, hrest⟩ := jobItems_split hitems
  · cases hstart
  · cases hchunk
  · have hfound := lookup_of_about (assembled_of_run dec hrun) hsent
    rw [hlookup] at hfound
    cases hfound
    rw [List.map_eq_nil_iff.mp hrest, List.append_nil] at hsplit
    exact ⟨assemblyOf_response request outcome, hsplit⟩

/-- A message that has been read was within the limit. -/
theorem readable_of_about (hreadable : ∀ e ∈ events, Readable e) (h : message ∈ messagesAbout dec id events) :
    message.data.length ≤ gateway.websocketReadLimit := by
  obtain ⟨e, hmem, hmessage⟩ := List.mem_filterMap.mp (List.mem_of_mem_filter h)
  have hlimit := hreadable e hmem
  cases e with
  | inbound answers other =>
    cases hmessage
    exact hlimit
  | _ => cases hmessage

/-- The bytes that were read are the beginning of the local body, and `io.EOF` comes at its end. -/
def ReadFrom (body : Bytes) : Except Error LocalAnswer → Prop
  | .error _ => True
  | .ok answer => answer.bytes <+: body ∧ (answer.failure = none → answer.bytes = body)

/-- The exchanges after which nothing is cut short: no response was started, its body was read to `io.EOF` or failed
    only after its last byte, or the gateway refuses the response as too long or its start as too large. -/
def NotCutShort (request : Request) (body : Bytes) : Except Error LocalAnswer → Prop
  | .error _ => True
  | .ok answer => answer.failure = none ∨ answer.bytes = body ∨
      maxTunnelResponseBodyBytes < answer.bytes.length ∨
      gateway.websocketReadLimit < (httpResponseStartMessage (responseStart request answer.response)).data.length

theorem framable_of_public (hid : IsPublicRequestID request.id) : request.Framable := by
  have hlength := hid.length_eq
  exact ⟨by omega, by omega⟩

theorem fitsFrames_of_public (hid : IsPublicRequestID id) : FitsFrames id := by
  refine ⟨hid.ne_nil, ?_⟩
  rw [hid.length_eq]
  decide

theorem messagesAbout_inbound {messages : List Message}
    (h : ∀ message ∈ messages, (responseItem dec message).about id = true) (answers : Answers) :
    messagesAbout dec id (messages.map (.inbound answers)) = messages := by
  have hsome : (inboundMessage ∘ fun message => LoopEvent.inbound answers message) = some := rfl
  rw [messagesAbout, List.filterMap_map, hsome, List.filterMap_some, List.filter_eq_self]
  exact h

section

variable (hid : IsPublicRequestID request.id) (hreads : Reads dec request outcome)

include hid hreads

/-- The gateway that has read the first messages of a job, and nothing else, takes the next one. -/
theorem serve_next (hlimit : (jobResponse outcome).body.length ≤ maxTunnelResponseBodyBytes)
    (h : jobMessages request outcome = first ++ message :: rest) {responses : Responses}
    (hrun : run (sessionStep dec) ∅ (first.map (.inbound quietAnswers)) = some responses) :
    ∃ next, serveSession dec responses (.inbound quietAnswers message) = ok (.continued next
      (if rest = [] then [.deliver request.id (jobResponse outcome)] else [])) := by
  have hitems : jobItems request outcome =
      first.map (responseItem dec) ++ responseItem dec message :: rest.map (responseItem dec) := by
    rw [← jobMessages_items (framable_of_public hid) hreads, h]
    simp
  have hjob : ∀ m ∈ first ++ message :: rest, (responseItem dec m).about request.id = true := by
    intro m hmem
    rw [← h] at hmem
    exact jobMessages_about (framable_of_public hid) hreads hmem
  have hinbound : messagesAbout dec request.id (first.map (.inbound quietAnswers)) = first :=
    messagesAbout_inbound (fun m hmem => hjob m (List.mem_append_left _ hmem)) quietAnswers
  have hroom : first.map (responseItem dec) = [] → responses.len < maxPendingResponseStreams := by
    intro hnil
    rw [List.map_eq_nil_iff.mp hnil] at hrun
    cases hrun
    decide
  obtain ⟨next, hserves⟩ := accepts_next (assembled_of_run dec hrun)
    (by rw [about_inboundItems, hinbound]) hitems.symm hid.ne_nil hroom hlimit
  simp only [List.map_eq_nil_iff] at hserves
  refine ⟨next, hserves.serveInbound ?_ quietAnswers⟩
  intro hskip
  have hmessage := hjob message (by simp)
  rw [hskip] at hmessage
  cases hmessage

/-- Reading the messages of a job one after the other, the gateway gets to its end and delivers. -/
theorem run_job (hlimit : (jobResponse outcome).body.length ≤ maxTunnelResponseBodyBytes)
    (h : jobMessages request outcome = first ++ message :: rest) :
    ∃ responses, run (sessionStep dec) ∅ (first.map (.inbound quietAnswers)) = some responses := by
  induction first using List.reverseRecOn generalizing message rest with
  | nil => exact ⟨∅, rfl⟩
  | append_singleton first last ih =>
    have hsplit : jobMessages request outcome = first ++ last :: (message :: rest) := by simp [h]
    obtain ⟨responses, hrun⟩ := ih hsplit
    obtain ⟨next, hserve⟩ := serve_next hid hreads hlimit hsplit hrun
    refine ⟨next, ?_⟩
    rw [List.map_append, List.map_singleton, run_concat_eq_some]
    exact ⟨responses, hrun, sessionStep_eq_some.mpr ⟨_, hserve⟩⟩

/-- A response within the limits is delivered with the bytes that were read, whatever ended the reading. -/
theorem job_delivers (hlimit : (jobResponse outcome).body.length ≤ maxTunnelResponseBodyBytes)
    (hstart : (httpResponseStartMessage (jobStart request outcome)).data.length ≤ gateway.websocketReadLimit)
    {body : Bytes} (hwhole : DeliversWhole dec request.id (jobMessages request outcome) body)
    (herror : (jobResponse outcome).error = []) : (jobResponse outcome).body = body := by
  have hsplit : jobMessages request outcome =
      (httpResponseStartMessage (jobStart request outcome) :: (jobFrames request outcome).map frameMessage) ++
        httpResponseEndMessage request.id :: [] := by
    rw [jobMessages_eq]
    simp
  obtain ⟨responses, hrun⟩ := run_job hid hreads hlimit hsplit
  obtain ⟨next, hserve⟩ := serve_next hid hreads hlimit hsplit hrun
  refine hwhole _ responses _ next _ (jobResponse outcome) hrun ?_ ?_ hserve (by simp) herror
  · intro e hmem
    have hmapped : e ∈ (jobMessages request outcome).map (.inbound quietAnswers) := by
      rw [hsplit, List.map_append]
      exact hmem
    obtain ⟨message, hmessage, rfl⟩ := List.mem_map.mp hmapped
    exact jobMessages_readable (fitsFrames_of_public hid) hstart hmessage
  · have hjob : ∀ m ∈ jobMessages request outcome, (responseItem dec m).about request.id = true :=
      fun m hmem => jobMessages_about (framable_of_public hid) hreads hmem
    have hall := messagesAbout_inbound hjob quietAnswers
    rw [hsplit, List.map_append] at hall
    rw [hsplit]
    exact hall ▸ List.prefix_rfl

end

/-- An error before the response starts has a text. -/
theorem localExchange_error_ne_nil {service : LocalService} {localAddress : GoString} {err : Error}
    (h : localExchange service localAddress request = .error err) : err ≠ [] := by
  intro hnil
  subst hnil
  unfold localExchange at h
  split at h
  · rename_i err hnormalize
    cases h
    cases normalizeLocalAddress_error hnormalize
  · split at h
    · cases h
    · split at h <;> cases h

/-- The gateway delivers whole bodies only, exactly when the local exchange did not fail in the middle of the body. -/
theorem response_complete_iff (dec : Decoder) (service : LocalService) (localAddress : GoString) {request : Request}
    (hid : IsPublicRequestID request.id) (hreads : Reads dec request (localExchange service localAddress request))
    {body : Bytes} (hbody : ReadFrom body (localExchange service localAddress request)) :
    DeliversWhole dec request.id (sentBy localAddress service request) body ↔
      NotCutShort request body (localExchange service localAddress request) := by
  have hframable := framable_of_public hid
  have hsent := sentBy_eq hframable localAddress service
  constructor
  · intro hwhole
    cases hlocal : localExchange service localAddress request with
    | error err => trivial
    | ok answer =>
      have haddress : localAddress ≠ [] := by
        rintro rfl
        cases hlocal
      rw [hsent, if_neg haddress, hlocal] at hwhole
      rw [hlocal] at hreads
      by_contra hcut
      simp only [NotCutShort, not_or, Nat.not_lt] at hcut
      obtain ⟨_, hne, hlimit, hstart⟩ := hcut
      exact hne (job_delivers hid hreads hlimit hstart hwhole rfl)
  · intro hintact events responses e next effects response hrun hreadable habout hserve hdeliver herror
    have hfirst : messagesAbout dec request.id (events ++ [e]) <+:
        jobMessages request (localExchange service localAddress request) := by
      rw [hsent] at habout
      split at habout
      · rw [List.prefix_nil.mp habout]
        exact List.nil_prefix
      · exact habout
    obtain ⟨rfl, hall⟩ := delivered_eq_jobResponse hframable hreads hrun hfirst hserve hdeliver
    cases hlocal : localExchange service localAddress request with
    | error err =>
      rw [hlocal] at herror
      exact absurd herror (localExchange_error_ne_nil hlocal)
    | ok answer =>
      rw [hlocal] at hintact hbody hall hdeliver
      obtain hfailure | hbytes | hlong | hlarge := hintact
      · exact hbody.2 hfailure
      · exact hbytes
      · obtain ⟨a, _, hlookup, hresponse, _⟩ := serveSession_delivers hserve hdeliver
        have hbounded := ((assembled_of_run dec hrun).bounded _ _ hlookup).limit
        have hsame : answer.bytes = a.body := congrArg Response.body hresponse
        rw [hsame] at hlong
        exact absurd hbounded (Nat.not_le.mpr hlong)
      · have hstart : httpResponseStartMessage (responseStart request answer.response) ∈
            messagesAbout dec request.id (events ++ [e]) := by
          rw [hall]
          exact List.mem_cons_self
        exact absurd (readable_of_about hreadable hstart) (Nat.not_le.mpr hlarge)

/-- A request, and a local service that answers it with the first two bytes of "hello" and then ends the body in the
    given way. -/
def helloRequest : Request :=
  { id := publicRequestID (List.replicate 12 0), method := lit "GET", path := lit "/", headers := ∅, body := [] }

def helloAnswer (last : Bytes) (failure : Option Error) (hlast : last.length ≤ 3) : LocalAnswer :=
  { statusCode := 200, header := ∅, pieces := [lit "he"], last, failure,
    fits := by
      intro piece hmem
      rw [List.mem_cons, List.mem_singleton] at hmem
      rcases hmem with rfl | rfl
      · exact Nat.le_trans hlast (by decide)
      · decide }

def helloService (answer : LocalAnswer) : LocalService :=
  { newRequest := fun _ _ => none, perform := fun _ => .ok answer }

def helloStart : HTTPResponsePayload :=
  { requestID := helloRequest.id, statusCode := 200, headers := ∅, contentLength := -1, error := [] }

def helloDecoder : Decoder := .knowing [] [helloStart] [helloRequest.id]

theorem localExchange_hello (answer : LocalAnswer) :
    localExchange (helloService answer) (lit "8080") helloRequest = .ok answer := rfl

theorem helloRequest_public : IsPublicRequestID helloRequest.id := ⟨List.replicate 12 0, rfl, rfl⟩

theorem helloDecoder_reads_of_start (hstart : jobStart helloRequest outcome = helloStart) :
    Reads helloDecoder helloRequest outcome := by
  refine ⟨?_, ⟨json.encode (requestIDValue helloRequest.id), by decide +kernel⟩, by decide +kernel⟩
  rw [hstart]
  exact ⟨json.encode helloStart.value, by decide +kernel, by decide +kernel⟩

theorem helloDecoder_reads (last : Bytes) (failure : Option Error) (hlast : last.length ≤ 3) :
    Reads helloDecoder helloRequest (.ok (helloAnswer last failure hlast)) := helloDecoder_reads_of_start rfl

/-- Read to the end, the body arrives whole. -/
theorem response_complete_iff_hello :
    DeliversWhole helloDecoder helloRequest.id
      (sentBy (lit "8080") (helloService (helloAnswer (lit "llo") none (by decide))) helloRequest) (lit "hello") := by
  have hlocal := localExchange_hello (helloAnswer (lit "llo") none (by decide))
  refine (response_complete_iff helloDecoder (helloService _) (lit "8080") helloRequest_public ?_ ?_).mpr ?_
  · rw [hlocal]
    exact helloDecoder_reads _ _ _
  · rw [hlocal]
    exact ⟨List.prefix_rfl, fun _ => rfl⟩
  · rw [hlocal]
    exact .inl rfl

/-- The local service drops the connection after "he": the agent still sends the end of the response, and the gateway
    takes it for complete. -/
theorem truncated_response_delivered :
    ¬ ∀ (dec : Decoder) (service : LocalService) (localAddress : GoString) (request : Request) (body : Bytes),
      IsPublicRequestID request.id → Reads dec request (localExchange service localAddress request) →
      ReadFrom body (localExchange service localAddress request) →
      DeliversWhole dec request.id (sentBy localAddress service request) body := by
  intro hall
  let answer := helloAnswer [] (some (lit "unexpected EOF")) (by decide)
  have hlocal := localExchange_hello answer
  have hreads : Reads helloDecoder helloRequest (.ok answer) := helloDecoder_reads _ _ _
  have hwhole := hall helloDecoder (helloService answer) (lit "8080") helloRequest (lit "hello") helloRequest_public
    (by rw [hlocal]; exact hreads) (by rw [hlocal]; exact ⟨⟨lit "llo", rfl⟩, fun h => by cases h⟩)
  rw [sentBy_eq (framable_of_public helloRequest_public), if_neg (by decide), hlocal] at hwhole
  have hbody := job_delivers helloRequest_public hreads (by decide) (by decide +kernel) hwhole rfl
  exact absurd hbody (by decide)

end myngrok.pipeline
