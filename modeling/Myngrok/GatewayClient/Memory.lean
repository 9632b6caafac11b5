import Mathlib.Algebra.Order.BigOperators.Group.List
import Mathlib.Algebra.Order.Ring.Nat
import Mathlib.Algebra.Group.Action.Defs
import Myngrok.GatewayClient.RequestAssembly

open golang Result websocket transition
open myngrok.protocol hiding requestBodyChunk responseBodyChunk binaryFrameHeader parseBinaryFrame BinaryFrame

namespace myngrok.gatewayclient

/-- The documented limit for the body of a request, 32 MiB. -/
def requestBodyLimit : Nat := 32 * 1024 * 1024

/-- The bytes that a pending stream holds, or has reserved for the length it announced. -/
def PendingRequest.held (p : PendingRequest) : Nat := max p.assembler.expected.toNat p.assembler.body.length

def PendingRequests.held (pending : PendingRequests) : Nat := (pending.entries.map fun entry => entry.2.held).sum

/-- A start announces no more than the limit, and a chunk does not take a stream of unknown length beyond it. -/
def withinLimit (dec : Decoder) (reading : Reading) (message : Message) : Bool :=
  match requestItem dec message with
  | .start payload => payload.contentLength ≤ requestBodyLimit
  | .chunk frame =>
    match reading.pending.lookup frame.requestID with
    | some entry =>
      entry.assembler.expected < 0 → entry.assembler.body.length + frame.payload.length ≤ requestBodyLimit
    | none => true
  | _ => true

variable {dec : Decoder} {messages : List Message} {message : Message} {reading next : Reading}

/-- Every single stream is within the limit. -/
def Limited (reading : Reading) : Prop :=
  ∀ id entry, reading.pending.lookup id = some entry → entry.held ≤ requestBodyLimit

/-- A chunk that the assembler takes leaves the announced length alone and stays within it. -/
theorem PendingRequest.held_append {entry : PendingRequest} {frame : BinaryFrame}
    (haccepts : entry.assembler.Accepts frame) (hheld : entry.held ≤ requestBodyLimit)
    (hunknown : entry.assembler.expected < 0 →
      entry.assembler.body.length + frame.payload.length ≤ requestBodyLimit) :
    (entry.append frame).held ≤ requestBodyLimit := by
  obtain ⟨_, _, hfits⟩ := haccepts
  simp only [PendingRequest.held, PendingRequest.append, List.length_append] at hheld ⊢
  by_cases hknown : 0 ≤ entry.assembler.expected
  · have hlength := hfits hknown
    omega
  · have hlength := hunknown (not_le.mp hknown)
    omega

theorem Limited.step (h : Limited reading) (hlimit : withinLimit dec reading message = true)
    (hstep : reading.step dec message = some next) : Limited next := by
  obtain ⟨effects, hreceives, _⟩ := Reading.step_receives hstep
  obtain ⟨after, dispatched⟩ := next
  intro id entry hlookup
  dsimp only at hreceives hlookup
  unfold withinLimit at hlimit
  generalize requestItem dec message = item at hreceives hlimit
  cases hreceives with
  | @start payload =>
    rw [Map.lookup_insert_eq] at hlookup
    split at hlookup
    · cases hlookup
      have hannounced := of_decide_eq_true hlimit
      have hempty : (chunkBytes []).length = 0 := rfl
      simp only [PendingRequest.held, pendingOf, hempty]
      omega
    · exact h id entry hlookup
  | @chunk frame old hold haccepts =>
    rw [Map.lookup_insert_eq] at hlookup
    split at hlookup
    · cases hlookup
      simp only [hold] at hlimit
      exact PendingRequest.held_append haccepts (h _ old hold) (of_decide_eq_true hlimit)
    · exact h id entry hlookup
  | finish | cancel =>
    rw [Map.lookup_erase_eq] at hlookup
    split at hlookup
    · cases hlookup
    · exact h id entry hlookup
  | skip => exact h id entry hlookup

theorem Limited.held_le (h : Limited reading) (hlen : reading.pending.len ≤ maxPendingRequestStreams) :
    reading.pending.held ≤ maxPendingRequestStreams * requestBodyLimit := by
  have hsum : reading.pending.held ≤ (reading.pending.entries.map fun entry => entry.2.held).length • requestBodyLimit := by
    apply List.sum_le_card_nsmul
    intro bytes hmem
    obtain ⟨⟨id, entry⟩, hentry, rfl⟩ := List.mem_map.mp hmem
    exact h id entry (AList.mem_lookup_iff.mpr hentry)
  have hcount : (reading.pending.entries.map fun entry => entry.2.held).length = reading.pending.len := by
    rw [List.length_map, Map.len, AList.keys, List.keys, List.length_map]
  rw [hcount, smul_eq_mul] at hsum
  exact Nat.le_trans hsum (Nat.mul_le_mul_right _ hlen)

/-- A gateway that keeps to the documented limit, whatever else it sends, makes the agent hold or reserve at most 32
    times 32 MiB, and no such start makes it panic. -/
theorem pending_bytes_bounded (hread : run (Reading.step dec) Reading.start messages = some reading)
    (hlimit : AllSteps (Reading.step dec) (fun reading message => withinLimit dec reading message = true) Reading.start
      messages) :
    reading.pending.held ≤ 32 * (32 * 1024 * 1024) ∧
      ∀ message, withinLimit dec reading message = true → readMessage dec reading.pending message ≠ .panic := by
  have hlimited : Limited reading := by
    refine run_induction_of_steps (P := fun _ reading => Limited reading) ?_ ?_ hread hlimit
    · intro id entry hlookup
      cases hlookup
    · intro _ reading message next _ ih hallowed hstep
      exact ih.step hallowed hstep
  refine ⟨hlimited.held_le (orderly_of_run hread).count, ?_⟩
  intro message hallowed hpanic
  obtain ⟨_, _, hread', _⟩ | ⟨_, hread'⟩ | ⟨⟨payload, hitem, hlarge⟩, _⟩ :=
    readMessage_cases dec reading.pending message
  · rw [hpanic] at hread'
    cases hread'
  · rw [hpanic] at hread'
    cases hread'
  · rw [withinLimit, hitem] at hallowed
    have hannounced := of_decide_eq_true hallowed
    simp only [maxAlloc, requestBodyLimit] at hlarge hannounced
    omega

/-- The restarted stream of two bytes. -/
theorem pending_bytes_bounded_restarted :
    ∃ reading, run (Reading.step (.knowing [restartedPayload] [] [lit "req_1"])) Reading.start
        (restartedMessages.take 5) = some reading ∧ reading.pending.len = 1 ∧
      reading.pending.held ≤ 32 * (32 * 1024 * 1024) := by
  have hfacts : (run (Reading.step (.knowing [restartedPayload] [] [lit "req_1"])) Reading.start
      (restartedMessages.take 5)).map (fun reading => reading.pending.len) = some 1 := by decide +kernel
  have hlimit : AllSteps (Reading.step (.knowing [restartedPayload] [] [lit "req_1"]))
      (fun reading message => withinLimit (.knowing [restartedPayload] [] [lit "req_1"]) reading message = true)
      Reading.start (restartedMessages.take 5) := by decide +kernel
  obtain ⟨reading, hread, hlen⟩ := Option.map_eq_some_iff.mp hfacts
  exact ⟨reading, hread, hlen, (pending_bytes_bounded hread hlimit).1⟩

/-- A start that announces no length, and the chunks that may follow it without end. -/
def endlessPayload : HTTPRequestPayload :=
  { requestID := lit "req_1", method := lit "POST", path := lit "/", headers := ∅, contentLength := -1 }

def endlessDecoder : Decoder := .knowing [endlessPayload] [] []

def endlessChunk : Bytes := List.replicate 32768 0

theorem length_endlessChunk : endlessChunk.length = 32768 := List.length_replicate

def endlessFrame (i : Nat) : BinaryFrame :=
  { type := requestBodyChunk, requestID := lit "req_1", sequence := UInt32.ofNat i, payload := endlessChunk }

def endlessMessages (k : Nat) : List Message :=
  httpRequestStartMessage endlessPayload ::
    (List.range k).map fun i => { messageType := .binary, data := (endlessFrame i).wire }

theorem endlessFrame_wellFormed (i : Nat) : (endlessFrame i).WellFormed :=
  ⟨.inl rfl, Nat.le_of_ble_eq_true rfl, Nat.le_of_ble_eq_true rfl, Nat.le_of_eq length_endlessChunk⟩

/-- The read loop takes them all. -/
theorem run_endlessMessages (k : Nat) :
    run (Reading.step endlessDecoder) Reading.start (endlessMessages k) =
      some { pending := (∅ : PendingRequests).insert (lit "req_1")
               (pendingOf endlessPayload ((List.range k).map endlessFrame))
             dispatched := [] } := by
  induction k with
  | zero =>
    have hitem : requestItem endlessDecoder (httpRequestStartMessage endlessPayload) = .start endlessPayload :=
      requestItem_start (by decide +kernel)
    have hreceives : Receives Reading.start.pending
        (requestItem endlessDecoder (httpRequestStartMessage endlessPayload))
        (Reading.start.pending.insert (lit "req_1") (pendingOf endlessPayload [])) [] := by
      rw [hitem]
      exact .start (by decide) (by decide) (by decide) (by decide)
    have hmessages : endlessMessages 0 = [] ++ [httpRequestStartMessage endlessPayload] := by
      simp [endlessMessages]
    rw [hmessages, run_concat_eq_some]
    refine ⟨Reading.start, run_nil, ?_⟩
    rw [Reading.step_of_receives (by decide +kernel) hreceives (by rw [hitem]; exact fun h => by cases h)]
    · rfl
    · rw [hitem]
      rintro payload ⟨⟩
      decide
  | succ k ih =>
    have hmessages : endlessMessages (k + 1) =
        endlessMessages k ++ [{ messageType := .binary, data := (endlessFrame k).wire }] := by
      simp [endlessMessages, List.range_succ]
    have hitem := requestItem_wire endlessDecoder (endlessFrame_wellFormed k)
    have hfits : (endlessFrame k).wire.length ≤ websocketReadLimit := by
      have hlength := (endlessFrame k).length_wire
      have hid : (endlessFrame k).requestID.length = 5 := rfl
      have hpayload : (endlessFrame k).payload.length = 32768 := length_endlessChunk
      simp only [websocketReadLimit, protocol.binaryFrameHeader] at hlength ⊢
      omega
    rw [hmessages, run_concat_eq_some]
    refine ⟨_, ih, ?_⟩
    have hreceives : Receives ((∅ : PendingRequests).insert (lit "req_1")
        (pendingOf endlessPayload ((List.range k).map endlessFrame)))
        (requestItem endlessDecoder { messageType := .binary, data := (endlessFrame k).wire })
        (((∅ : PendingRequests).insert (lit "req_1") (pendingOf endlessPayload ((List.range k).map endlessFrame))).insert
          (lit "req_1") ((pendingOf endlessPayload ((List.range k).map endlessFrame)).append (endlessFrame k))) [] := by
      rw [hitem]
      have hunknown : (pendingOf endlessPayload ((List.range k).map endlessFrame)).assembler.expected = -1 := rfl
      refine .chunk (AList.lookup_insert _) ⟨rfl, ?_, fun hknown => by rw [hunknown] at hknown; omega⟩
      simp [pendingOf, endlessFrame]
    rw [Reading.step_of_receives hfits hreceives (by rw [hitem]; exact fun h => by cases h)]
    · rw [AList.insert_insert, pendingOf_append, List.range_succ, List.map_append, List.map_singleton]
      rfl
    · rw [hitem]
      rintro payload ⟨⟩

theorem held_endless (k : Nat) :
    PendingRequests.held ((∅ : PendingRequests).insert (lit "req_1")
      (pendingOf endlessPayload ((List.range k).map endlessFrame))) = k * 32768 := by
  have hlength : (chunkBytes ((List.range k).map endlessFrame)).length = k * 32768 := by
    induction k with
    | zero => rfl
    | succ k ih =>
      rw [List.range_succ, List.map_append, List.map_singleton, chunkBytes_concat, List.length_append, ih, endlessFrame,
        length_endlessChunk, Nat.succ_mul]
  have hheld : (pendingOf endlessPayload ((List.range k).map endlessFrame)).held = k * 32768 := by
    simp only [PendingRequest.held, pendingOf, hlength, endlessPayload]
    omega
  simpa [PendingRequests.held, AList.entries_insert] using hheld

/-- Chunks without a length make the agent hold more than 32 times 32 MiB in one stream, and a start that announces the
    largest length makes it panic. -/
theorem pending_bytes_unbounded :
    (∃ reading, run (Reading.step endlessDecoder) Reading.start (endlessMessages (32 * 1024 + 1)) = some reading ∧
      32 * (32 * 1024 * 1024) < reading.pending.held) ∧
    readMessage (.knowing [{ endlessPayload with contentLength := 2 ^ 63 - 1 }] [] []) ∅
      (httpRequestStartMessage { endlessPayload with contentLength := 2 ^ 63 - 1 }) = .panic := by
  refine ⟨⟨_, run_endlessMessages _, ?_⟩, by decide +kernel⟩
  rw [held_endless]
  decide

end myngrok.gatewayclient
