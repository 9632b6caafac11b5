import Myngrok.GatewayClient.LocalHttp
import Myngrok.Protocol.Decoding
import Myngrok.Protocol.WireAgreement

open golang Result websocket myngrok.protocol

namespace myngrok.gatewayclient

/-- The local variables of a job, with the messages that its calls of `send` have put in the outbound queue so far and
    the number of these calls. -/
structure JobState where
  sequence : UInt32
  responseStarted : Bool
  sent : List Message
  attempts : Nat

def JobState.start : JobState := { sequence := 0, responseStarted := false, sent := [], attempts := 0 }

abbrev JobM := StateT JobState Result

/-- The closure `send`. `accepts n` says whether the n-th call finds room in the outbound queue before the session ends;
    it waits until one of the two happens. -/
def send (accepts : Nat → Bool) (message : Message) : JobM Bool := fun s =>
  if accepts s.attempts then ok (true, { s with sent := s.sent ++ [message], attempts := s.attempts + 1 })
  else ok (false, { s with attempts := s.attempts + 1 })

/-- The body of a response is announced with an unknown length. -/
def responseStart (request : Request) (response : LocalResponse) : HTTPResponsePayload :=
  { requestID := request.id, statusCode := response.statusCode, headers := response.headers,
    contentLength := -1, error := [] }

/-- The start that reports a local error. -/
def responseError (request : Request) (err : Error) : HTTPResponsePayload :=
  { requestID := request.id, statusCode := 502, headers := ∅, contentLength := 0, error := err }

def responseFrame (request : Request) (sequence : UInt32) (payload : Bytes) : BinaryFrame :=
  { type := responseBodyChunk, requestID := request.id, sequence, payload }

def sendStart (accepts : Nat → Bool) (request : Request) (response : LocalResponse) : JobM (Option Error) := do
  if !(← send accepts (httpResponseStartMessage (responseStart request response))) then
    return some (lit "gateway connection closed")
  modify fun s => { s with responseStarted := true }
  return none

def sendChunk (accepts : Nat → Bool) (request : Request) (payload : Bytes) : JobM (Option Error) := do
  match ← marshalBinary (responseFrame request (← get).sequence payload) with
  | .error err => return some err
  | .ok encoded =>
    if !(← send accepts { messageType := .binary, data := encoded }) then
      return some (lit "gateway connection closed")
    modify fun s => { s with sequence := s.sequence + 1 }
    return none

/-- The job of one request. After a failure in the middle of the body nothing tells the gateway: the end is sent as
    after a success. -/
def job (accepts : Nat → Bool) (localAddress : GoString) (service : LocalService) (request : Request) : JobM Unit := do
  if localAddress ≠ [] then
    let localErr ← streamLocal service localAddress request (sendStart accepts request) (sendChunk accepts request)
    if let some err := localErr then
      if !(← get).responseStarted then
        let _ ← send accepts (httpResponseStartMessage (responseError request err))
    let _ ← send accepts (httpResponseEndMessage request.id)

/-- The session stays open while the job runs. -/
def always : Nat → Bool := fun _ => true

/-- The messages of a job that runs while the session is open. -/
def sentBy (localAddress : GoString) (service : LocalService) (request : Request) : List Message :=
  match job always localAddress service request JobState.start with
  | ok (_, final) => final.sent
  | .panic => []

/-- The reads of a local answer that carry bytes. -/
def LocalAnswer.reads (answer : LocalAnswer) : List Bytes :=
  (answer.pieces ++ [answer.last]).filter fun piece => 0 < piece.length

/-- The frames of a sequence of reads, numbered from `sequence` on. -/
def responseFrames (request : Request) (sequence : UInt32) : List Bytes → List BinaryFrame
  | [] => []
  | payload :: rest => responseFrame request sequence payload :: responseFrames request (sequence + 1) rest

def frameMessage (frame : BinaryFrame) : Message := { messageType := .binary, data := frame.wire }

/-- What a job puts in the outbound queue when the session stays open. -/
def jobMessages (request : Request) : Except Error LocalAnswer → List Message
  | .error err => [httpResponseStartMessage (responseError request err), httpResponseEndMessage request.id]
  | .ok answer => httpResponseStartMessage (responseStart request answer.response) ::
      ((responseFrames request 0 answer.reads).map frameMessage ++ [httpResponseEndMessage request.id])

/-- A request ID that fits in a frame. -/
def Request.Framable (request : Request) : Prop := 1 ≤ request.id.length ∧ request.id.length ≤ 65535

variable {request : Request} {payload : Bytes}

theorem responseFrame_wellFormed (hid : request.Framable) (sequence : UInt32)
    (hpayload : payload.length ≤ localBufferSize) : (responseFrame request sequence payload).WellFormed :=
  ⟨.inr rfl, hid.1, hid.2, hpayload⟩

theorem sendStart_always (request : Request) (response : LocalResponse) (s : JobState) :
    sendStart always request response s = ok (none,
      { s with sent := s.sent ++ [httpResponseStartMessage (responseStart request response)],
               attempts := s.attempts + 1, responseStarted := true }) := rfl

theorem sendChunk_always (hid : request.Framable) (hpayload : payload.length ≤ localBufferSize) (s : JobState) :
    sendChunk always request payload s = ok (none,
      { s with sent := s.sent ++ [frameMessage (responseFrame request s.sequence payload)],
               attempts := s.attempts + 1, sequence := s.sequence + 1 }) := by
  have hmarshal : marshalBinary (responseFrame request s.sequence payload) =
      ok (.ok (responseFrame request s.sequence payload).wire) := by
    rw [marshalBinary_eq]
    exact BinaryFrame.marshalBinary_of_wellFormed (responseFrame_wellFormed hid s.sequence hpayload)
  have hget : (get : JobM JobState) s = ok (s, s) := rfl
  have hlift : (liftM (marshalBinary (responseFrame request s.sequence payload)) : JobM _) s =
      ok (.ok (responseFrame request s.sequence payload).wire, s) := by
    show (marshalBinary (responseFrame request s.sequence payload) >>= fun r => ok (r, s)) = _
    rw [hmarshal]
    rfl
  unfold sendChunk
  rw [stateT_bind_ok hget, stateT_bind_ok hlift]
  rfl

/-- The body of the answer is sent frame by frame, and its failure is the result. -/
theorem readLocalBody_always (hid : request.Framable) (last : Bytes) (failure : Option Error) (pieces : List Bytes)
    (hfits : ∀ piece ∈ last :: pieces, piece.length ≤ localBufferSize) (s : JobState) :
    ∃ next, readLocalBody (sendChunk always request) last failure pieces s =
        ok (failure.map (lit "read local response: " ++ ·), next) ∧
      next.responseStarted = s.responseStarted ∧
      next.sent = s.sent ++ (responseFrames request s.sequence
        ((pieces ++ [last]).filter fun piece => 0 < piece.length)).map frameMessage := by
  induction pieces generalizing s with
  | nil =>
    unfold readLocalBody
    by_cases hempty : last.length > 0
    · have hchunk := sendChunk_always hid (hfits last List.mem_cons_self) s
      rw [if_pos hempty, stateT_bind_ok hchunk]
      refine ⟨_, rfl, rfl, ?_⟩
      simp [List.filter, hempty, responseFrames]
    · rw [if_neg hempty]
      refine ⟨s, rfl, rfl, ?_⟩
      simp [List.filter, hempty, responseFrames]
  | cons piece rest ih =>
    have hrest : ∀ piece ∈ last :: rest, piece.length ≤ localBufferSize := by
      intro other hmem
      apply hfits
      simp only [List.mem_cons] at hmem ⊢
      tauto
    unfold readLocalBody
    by_cases hempty : piece.length > 0
    · have hchunk := sendChunk_always hid (hfits piece (by simp)) s
      rw [if_pos hempty, stateT_bind_ok hchunk]
      obtain ⟨next, hrun, hstarted, hsent⟩ := ih hrest { s with
        sent := s.sent ++ [frameMessage (responseFrame request s.sequence piece)],
        attempts := s.attempts + 1, sequence := s.sequence + 1 }
      refine ⟨next, hrun, hstarted, ?_⟩
      rw [hsent]
      simp [List.filter_cons, hempty, responseFrames]
    · rw [if_neg hempty]
      obtain ⟨next, hrun, hstarted, hsent⟩ := ih hrest s
      refine ⟨next, hrun, hstarted, ?_⟩
      rw [hsent]
      simp [List.filter_cons, hempty]

theorem streamLocal_always (hid : request.Framable) (service : LocalService) (localAddress : GoString) :
    ∃ localErr next, streamLocal service localAddress request (sendStart always request) (sendChunk always request)
        JobState.start = ok (localErr, next) ∧
      match localExchange service localAddress request with
      | .error err => localErr = some err ∧ next = JobState.start
      | .ok answer => next.responseStarted = true ∧
          next.sent = httpResponseStartMessage (responseStart request answer.response) ::
            (responseFrames request 0 answer.reads).map frameMessage := by
  rw [streamLocal_eq]
  cases localExchange service localAddress request with
  | error err => exact ⟨some err, JobState.start, rfl, rfl, rfl⟩
  | ok answer =>
    obtain ⟨next, hrun, hstarted, hsent⟩ := readLocalBody_always hid answer.last answer.failure answer.pieces
      answer.fits { JobState.start with
        sent := [httpResponseStartMessage (responseStart request answer.response)],
        attempts := 1, responseStarted := true }
    refine ⟨answer.failure.map (lit "read local response: " ++ ·), next, ?_, hstarted, hsent⟩
    dsimp only
    unfold streamAnswer
    rw [stateT_bind_ok (sendStart_always request answer.response JobState.start)]
    exact hrun

/-- With the session open, a job sends the start and the end of a response, and between them the bytes it read, whatever
    ended the body. -/
theorem job_sends (hid : request.Framable) {localAddress : GoString} (haddress : localAddress ≠ [])
    (service : LocalService) :
    ∃ final, job always localAddress service request JobState.start = ok ((), final) ∧
      final.sent = jobMessages request (localExchange service localAddress request) := by
  obtain ⟨localErr, next, hrun, hexchange⟩ := streamLocal_always hid service localAddress
  unfold job
  rw [if_pos haddress, stateT_bind_ok hrun]
  cases hlocal : localExchange service localAddress request with
  | error err =>
    simp only [hlocal] at hexchange
    obtain ⟨rfl, rfl⟩ := hexchange
    exact ⟨_, rfl, rfl⟩
  | ok answer =>
    simp only [hlocal] at hexchange
    obtain ⟨hstarted, hsent⟩ := hexchange
    have hget : (get : JobM JobState) next = ok (next, next) := rfl
    cases localErr with
    | none =>
      refine ⟨_, rfl, ?_⟩
      simp [hsent, jobMessages]
    | some err =>
      refine ⟨{ next with sent := next.sent ++ [httpResponseEndMessage request.id], attempts := next.attempts + 1 },
        ?_, ?_⟩
      · dsimp only
        rw [stateT_bind_ok hget, if_neg (by simp [hstarted])]
        rfl
      · simp [hsent, jobMessages]

theorem sentBy_eq (hid : request.Framable) (localAddress : GoString) (service : LocalService) :
    sentBy localAddress service request =
      if localAddress = [] then [] else jobMessages request (localExchange service localAddress request) := by
  unfold sentBy
  split_ifs with haddress
  · subst haddress
    rfl
  · obtain ⟨final, hjob, hsent⟩ := job_sends hid haddress service
    rw [hjob]
    exact hsent

end myngrok.gatewayclient
