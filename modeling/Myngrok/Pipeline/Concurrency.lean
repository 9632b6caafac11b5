import Myngrok.GatewayClient.Connect
import Myngrok.Pipeline.Delivery

open golang Result websocket streams transition myngrok.protocol myngrok.gateway
open myngrok.gatewayclient hiding BinaryFrame responseBodyChunk requestBodyChunk parseBinaryFrame

namespace myngrok.gatewayclient

theorem Config.maxConcurrent_le_iff {config : Config} {n : Nat} (h : config.maxConcurrent = .ok n) :
    n ≤ 32 ↔ config.maxConcurrentRequests ≤ 32 := by
  simp only [Config.maxConcurrent] at h
  split at h
  · cases h
  · split at h
    · rename_i hdefault
      cases h
      exact iff_of_true (by decide) (Int.le_trans hdefault (by decide))
    · split at h <;> cases h
      omega

end myngrok.gatewayclient

namespace myngrok.gateway

/-- The session loop closes a connection for its number of streams only on the start of a stream that would be one more
    than 32. -/
theorem serveInbound_tooMany {dec : Decoder} {answers : Answers} {responses : Responses} {message : Message}
    {status : Nat}
    (h : serveInbound dec answers responses message = ok (.closed status (lit "too many response streams"))) :
    ∃ payload : HTTPResponsePayload, responseItem dec message = .start payload.requestID payload ∧
      payload.requestID ∉ responses ∧ maxPendingResponseStreams ≤ responses.len := by
  -- No other reason is the same text.
  have hother : ∀ {outcome : Outcome} {status' reason}, ok outcome = ok (.closed status (lit "too many response streams")) →
      outcome = .closed status' reason → reason ≠ lit "too many response streams" → False := by
    rintro outcome status' reason houtcome rfl hne
    exact hne (Outcome.closed.inj (Result.ok.inj houtcome)).2
  obtain ⟨messageType, data⟩ := message
  cases messageType with
  | binary =>
    obtain ⟨_, _, _, _, _, hserve⟩ | ⟨_, hserve⟩ := serveBinary_spec responses data
    · cases h.symm.trans hserve
    · exact (hother (hserve.symm.trans h) rfl (by decide)).elim
  | other code => exact (hother h rfl (by decide)).elim
  | text =>
    simp only [serveInbound, responseItem] at h ⊢
    cases hmessage : dec.message data with
    | none =>
      rw [hmessage] at h
      exact (hother h rfl (by decide)).elim
    | some decoded =>
      obtain ⟨type, raw⟩ := decoded
      simp only [hmessage] at h ⊢
      by_cases hstart : type = httpResponseStart
      · rw [if_pos hstart] at h ⊢
        cases hpayload : dec.httpResponse raw with
        | none =>
          simp only [serveResponseStart, hpayload] at h
          exact (hother h rfl (by decide)).elim
        | some payload =>
          simp only [serveResponseStart, hpayload] at h
          split at h
          · exact (hother h rfl (by decide)).elim
          · split at h
            · rename_i hfull
              exact ⟨payload, rfl, hfull⟩
            · cases h
      · rw [if_neg hstart] at h
        split at h
        · obtain ⟨_, hserve⟩ | hserve := serveOpenTunnel_spec dec answers responses raw
          · rw [hserve] at h
            cases h
          · rw [hserve] at h
            cases h
        · split at h
          · obtain ⟨_, _, _, _, _, hserve⟩ | ⟨_, hserve⟩ := serveResponseEnd_spec dec responses data
            · cases h.symm.trans hserve
            · cases h.symm.trans hserve
          · split at h
            · cases h
            · split at h
              · split at h <;> cases h
              · cases h

end myngrok.gateway

namespace myngrok.pipeline

variable {n : Nat} {dec : Decoder} {localAddress : GoString} {capacity : Nat} {events : List (RespondingEvent n)}
  {s next : Responding n} {e : RespondingEvent n} {responses : Responses}

/-- The message that the agent's writer writes. -/
def RespondingEvent.written : RespondingEvent n → Option Message
  | .write message => some message
  | _ => none

def written (events : List (RespondingEvent n)) : List Message := events.filterMap RespondingEvent.written

/-- The messages that wait at the agent. -/
def Responding.unwritten (s : Responding n) : List Message := s.writer.toList ++ s.outbound

theorem Responding.step_unwritten (h : s.step dec localAddress capacity e = some next) :
    s.unwritten ++ e.sent.toList = e.written.toList ++ next.unwritten := by
  cases step_cases h with
  | send | pong => simp [unwritten, setWorker, RespondingEvent.sent, RespondingEvent.written]
  | writerTake hwriter hqueue => simp [unwritten, hwriter, hqueue, RespondingEvent.sent, RespondingEvent.written]
  | write hwriter => simp [unwritten, hwriter, RespondingEvent.sent, RespondingEvent.written]
  | _ => exact List.append_nil _

/-- The writer writes what was sent, in that order. -/
theorem written_le_sent (hrun : run (Responding.step dec localAddress capacity) Responding.start events = some s) :
    written events <+: sent events := by
  have hall : sent events = written events ++ s.unwritten := by
    refine run_induction (P := fun events s => sent events = written events ++ s.unwritten) rfl ?_ hrun
    intro events s e next _ ih hstep
    rw [sent, written, filterMap_concat, filterMap_concat, List.append_assoc, ← Responding.step_unwritten hstep,
      ← List.append_assoc]
    exact congrArg (· ++ e.sent.toList) ih
  exact ⟨s.unwritten, hall.symm⟩

/-- As long as the session loop runs, its streams are those that are open after what it took. -/
theorem assembled_of_handled (hrun : run (Responding.step dec localAddress capacity) Responding.start events = some s)
    (hresponses : s.responses = some responses) : Assembled ((handled events).map (responseItem dec)) responses := by
  refine run_induction (P := fun events s => ∀ responses, s.responses = some responses →
    Assembled ((handled events).map (responseItem dec)) responses) ?_ ?_ hrun responses hresponses
  · rintro responses ⟨⟩
    exact assembled_nil
  · intro events s e next _ ih hstep responses hresponses
    rw [handled, filterMap_concat, ← handled]
    cases Responding.step_cases hstep with
    | inbound hbefore hqueue hserve =>
      cases hresponses
      simp only [RespondingEvent.handled, Option.toList_some, List.map_append, List.map_singleton]
      exact (ih _ hbefore).step (serveInbound_continued hserve)
    | readError | closed => cases hresponses
    | _ =>
      simp only [RespondingEvent.handled, Option.toList_none, List.append_nil]
      exact ih responses hresponses

theorem ne_tooMany_of_openAtMost {items : List ResponseItem} {message : Message}
    (hassembled : Assembled items responses)
    (hbound : OpenAtMost maxPendingResponseStreams (items ++ [responseItem dec message])) (answers : Answers)
    (status : Nat) :
    serveInbound dec answers responses message ≠ ok (.closed status (lit "too many response streams")) := by
  intro hclosed
  obtain ⟨payload, hitem, hnew, hfull⟩ := serveInbound_tooMany hclosed
  rw [hitem] at hbound
  exact absurd (Receipt.assembled_len_lt hassembled hbound hnew) (Nat.not_lt.mpr hfull)

/-- Without a local address the workers send nothing. -/
theorem openAtMost_of_no_address (hpong : dec.ReadsPong)
    (hrun : run (Responding.step dec [] capacity) Responding.start events = some s)
    (hattributed : Attributed dec [] (jobs events)) (limit : Nat) {first : List Message} (hfirst : first <+: sent events) :
    OpenAtMost limit (first.map (responseItem dec)) := by
  obtain ⟨hemission, _⟩ := emission_of_run hpong hrun hattributed
  have hskip : ∀ message ∈ first, responseItem dec message = .skip := by
    intro message hmem
    obtain rfl | ⟨job, hjob, hmessage⟩ := hemission.known message (hfirst.subset hmem)
    · exact responseItem_pong hpong
    · rw [Job.messages, sentBy_eq (hattributed.heard job hjob).id.framable, if_pos rfl] at hmessage
      cases hmessage
  intro ids _ hopen
  cases ids with
  | nil => exact Nat.zero_le _
  | cons id ids =>
    obtain ⟨head, parts, before, after, hsplit, _⟩ := hopen id List.mem_cons_self
    have hmem : Item.start id head ∈ first.map (responseItem dec) := by
      rw [hsplit]
      simp
    obtain ⟨message, hmessage, hitem⟩ := List.mem_map.mp hmem
    rw [hskip message hmessage] at hitem
    cases hitem

/-- Whatever the workers do, no beginning of what the agent writes opens more streams than the gateway allows, and the
    gateway does not close the session for their number. -/
def KeepsStreamLimit (config : Config) (n : Nat) : Prop :=
  ∀ (dec : Decoder) (capacity : Nat) (events : List (RespondingEvent n)) (s : Responding n), dec.ReadsPong →
    run (Responding.step dec config.localAddress capacity) Responding.start events = some s →
    Attributed dec config.localAddress (jobs events) →
    (∀ first, first <+: written events →
      OpenAtMost maxPendingResponseStreams (first.map (responseItem dec))) ∧
    ∀ answers message rest responses status, s.responses = some responses → s.readCh = message :: rest →
      serveInbound dec answers responses message ≠ ok (.closed status (lit "too many response streams"))

end myngrok.pipeline
