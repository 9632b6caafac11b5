import Myngrok.GatewayClient.Frame

open golang Result

namespace myngrok.protocol

/-- A buffer that holds at least the fixed header, spelled out byte by byte. -/
theorem exists_header_bytes {data : Bytes} (h : binaryFrameHeader ≤ data.length) :
    ∃ b0 b1 b2 b3 b4 b5 b6 b7 b8 b9 b10 b11 rest,
      data = b0 :: b1 :: b2 :: b3 :: b4 :: b5 :: b6 :: b7 :: b8 :: b9 :: b10 :: b11 :: rest := by
  rcases data with _ | ⟨b0, _ | ⟨b1, _ | ⟨b2, _ | ⟨b3, _ | ⟨b4, _ | ⟨b5, _ | ⟨b6, _ | ⟨b7, _ | ⟨b8,
    _ | ⟨b9, _ | ⟨b10, _ | ⟨b11, rest⟩⟩⟩⟩⟩⟩⟩⟩⟩⟩⟩⟩
  all_goals first
    | exact ⟨_, _, _, _, _, _, _, _, _, _, _, _, _, rfl⟩
    | (simp [binaryFrameHeader] at h)

/-- Filling the buffer field by field produces the documented layout. -/
theorem fill_eq_wire {B : Type} (f : BinaryFrame) (finish : Bytes → Result B) :
    (do
      let data := List.replicate (binaryFrameHeader + f.requestID.length + f.payload.length) 0
      let data ← setIndex data 0 binaryFrameVersion
      let data ← setIndex data 1 f.type
      let data ← binary.putUint16 data 2 4 (UInt16.ofNat f.requestID.length)
      let data ← binary.putUint32 data 4 8 f.sequence
      let data ← binary.putUint32 data 8 12 (UInt32.ofNat f.payload.length)
      let data ← copyFrom data 12 f.requestID
      let data ← copyFrom data (12 + f.requestID.length) f.payload
      finish data) = finish f.wire := by
  generalize hid : UInt16.ofNat f.requestID.length = idField
  generalize hpl : UInt32.ofNat f.payload.length = payloadField
  have hzero : List.replicate (binaryFrameHeader + f.requestID.length + f.payload.length) (0 : UInt8) =
      0 :: 0 :: List.replicate (2 + (4 + (4 + (f.requestID.length + (f.payload.length + 0))))) 0 := by
    rw [show binaryFrameHeader + f.requestID.length + f.payload.length =
      2 + (4 + (4 + (f.requestID.length + (f.payload.length + 0)))) + 1 + 1 by
        simp only [binaryFrameHeader]; omega]
    rfl
  -- The zeroed part shrinks from the left by the width of each field in turn.
  set room := 2 + (4 + (4 + (f.requestID.length + (f.payload.length + 0)))) with hroom
  let header : Bytes := [binaryFrameVersion, f.type]
  have hversion : setIndex (0 :: 0 :: List.replicate room (0 : UInt8)) 0 binaryFrameVersion =
      ok (binaryFrameVersion :: 0 :: List.replicate room 0) := by simp [setIndex]
  have htype : setIndex (binaryFrameVersion :: 0 :: List.replicate room (0 : UInt8)) 1 f.type =
      ok (header ++ List.replicate room 0) := by simp [setIndex, header]
  simp only [hzero, hversion, htype, bind_tc_ok]
  rw [hroom, binary.putUint16_front idField (show header.length = 2 from rfl) rfl]
  simp only [bind_tc_ok]
  rw [binary.putUint32_front f.sequence (show (header ++ binary.bytes16 idField).length = 4 from rfl) rfl]
  simp only [bind_tc_ok]
  rw [binary.putUint32_front payloadField
    (show (header ++ binary.bytes16 idField ++ binary.bytes32 f.sequence).length = 8 from rfl) rfl]
  simp only [bind_tc_ok]
  rw [copyFrom_front 0 (show (header ++ binary.bytes16 idField ++ binary.bytes32 f.sequence ++
    binary.bytes32 payloadField).length = 12 from rfl)]
  simp only [bind_tc_ok]
  rw [copyFrom_front 0 (by simp [header]; omega)]
  simp [BinaryFrame.wire, hid, hpl, header]

variable {f : BinaryFrame}

theorem BinaryFrame.marshalBinary_of_wellFormed (hf : f.WellFormed) : f.marshalBinary = ok (.ok f.wire) := by
  obtain ⟨htype, hpos, hid, hpayload⟩ := hf
  have hknown : ¬ (f.type ≠ requestBodyChunk ∧ f.type ≠ responseBodyChunk) := by tauto
  have hlength : ¬ (f.requestID.length = 0 ∨ f.requestID.length > 65535) := by omega
  have hfit : ¬ f.payload.length > maxBinaryFramePayload := by omega
  simp only [BinaryFrame.marshalBinary, if_neg hknown, if_neg hlength, if_neg hfit]
  exact fill_eq_wire f (fun data => pure (Except.ok data))

/-- Outside the well-formed frames the gateway's marshaler reports an error. -/
theorem BinaryFrame.marshalBinary_of_not_wellFormed (hf : ¬ f.WellFormed) : ∃ e, f.marshalBinary = ok (.error e) := by
  unfold BinaryFrame.marshalBinary
  split
  · exact ⟨_, rfl⟩
  · rename_i hknown
    split
    · exact ⟨_, rfl⟩
    · rename_i hlength
      split
      · exact ⟨_, rfl⟩
      · rename_i hfit
        exact absurd ⟨by tauto, by omega, by omega, by omega⟩ hf

end myngrok.protocol

namespace myngrok.gatewayclient

open protocol

/-- The two marshalers are the same program written twice. -/
theorem marshalBinary_eq (f : BinaryFrame) : marshalBinary f = f.marshalBinary := rfl

end myngrok.gatewayclient

namespace myngrok.protocol

/-- What both parsers compute once the fixed header is there and has the right version: the announced lengths decide
    where the request ID and the payload lie, and the guards keep every slice inside the buffer. -/
def parseBody (frameType : UInt8) (idWord : UInt16) (sequence payloadWord : UInt32) (rest : Bytes) :
    Option BinaryFrame :=
  if (frameType = requestBodyChunk ∨ frameType = responseBodyChunk) ∧
      payloadWord.toNat ≤ maxBinaryFramePayload ∧ 1 ≤ idWord.toNat ∧
      rest.length = idWord.toNat + payloadWord.toNat then
    some { type := frameType, requestID := rest.take idWord.toNat, sequence,
           payload := rest.drop idWord.toNat }
  else none

/-- The header fields of a buffer: its first twelve bytes hold the version, a type, the two lengths and the sequence
    number, and `rest` follows. -/
structure Header (data : Bytes) (version frameType : UInt8) (idWord : UInt16)
    (sequence payloadWord : UInt32) (rest : Bytes) : Prop where
  length_eq : data.length = binaryFrameHeader + rest.length
  version_eq : index data 0 = ok version
  type_eq : index data 1 = ok frameType
  id_eq : (slice data 2 4 >>= binary.uint16) = ok idWord
  sequence_eq : (slice data 4 8 >>= binary.uint32) = ok sequence
  payload_eq : (slice data 8 12 >>= binary.uint32) = ok payloadWord
  rest_eq : data.drop binaryFrameHeader = rest
  front_eq : data.take binaryFrameHeader = [version, frameType] ++ binary.bytes16 idWord ++
    binary.bytes32 sequence ++ binary.bytes32 payloadWord

theorem exists_header {data : Bytes} (h : binaryFrameHeader ≤ data.length) :
    ∃ version frameType idWord sequence payloadWord rest,
      Header data version frameType idWord sequence payloadWord rest := by
  obtain ⟨b0, b1, b2, b3, b4, b5, b6, b7, b8, b9, b10, b11, rest, rfl⟩ := exists_header_bytes h
  obtain ⟨idWord, hid⟩ : ∃ w, binary.uint16 [b2, b3] = ok w := ⟨_, rfl⟩
  obtain ⟨sequence, hsequence⟩ : ∃ w, binary.uint32 [b4, b5, b6, b7] = ok w := ⟨_, rfl⟩
  obtain ⟨payloadWord, hpayload⟩ : ∃ w, binary.uint32 [b8, b9, b10, b11] = ok w := ⟨_, rfl⟩
  refine ⟨b0, b1, idWord, sequence, payloadWord, rest, ?_, rfl, rfl, ?_, ?_, ?_, rfl, ?_⟩
  · simp only [List.length_cons, binaryFrameHeader]
    omega
  · rw [slice_eq_ok (by decide) (by simp)]
    exact hid
  · rw [slice_eq_ok (by decide) (by simp)]
    exact hsequence
  · rw [slice_eq_ok (by decide) (by simp)]
    exact hpayload
  · rw [binary.bytes16_of_uint16 hid, binary.bytes32_of_uint32 hsequence, binary.bytes32_of_uint32 hpayload]
    rfl

/-- Once the announced lengths add up, both body slices lie inside the buffer. -/
theorem Header.body_slices {data rest : Bytes} {version frameType : UInt8} {idWord : UInt16}
    {sequence payloadWord : UInt32} (h : Header data version frameType idWord sequence payloadWord rest)
    (hrest : idWord.toNat ≤ rest.length) :
    slice data 12 (12 + idWord.toNat) = ok (rest.take idWord.toNat) ∧
      sliceFrom data (12 + idWord.toNat) = ok (rest.drop idWord.toNat) := by
  have hlength : data.length = 12 + rest.length := h.length_eq
  have hdrop : data.drop 12 = rest := h.rest_eq
  rw [slice_eq_ok (by omega) (by omega), sliceFrom_eq_ok (by omega), List.drop_take,
    ← List.drop_drop, hdrop]
  simp

/-- The common specification of the two parsers, by the part of the buffer that decides: too short, a foreign version,
    or a complete header. -/
structure ParsesFrames (parse : Bytes → Result (Except Error BinaryFrame)) : Prop where
  short : ∀ data, data.length < binaryFrameHeader → ∃ e, parse data = ok (.error e)
  version : ∀ {data rest version frameType idWord sequence payloadWord},
    Header data version frameType idWord sequence payloadWord rest → version ≠ binaryFrameVersion →
      ∃ e, parse data = ok (.error e)
  body : ∀ {data rest frameType idWord sequence payloadWord},
    Header data binaryFrameVersion frameType idWord sequence payloadWord rest →
      (∃ f, parseBody frameType idWord sequence payloadWord rest = some f ∧ parse data = ok (.ok f)) ∨
      (parseBody frameType idWord sequence payloadWord rest = none ∧ ∃ e, parse data = ok (.error e))

theorem parseBinaryFrame_parsesFrames : ParsesFrames parseBinaryFrame := by
  refine ⟨?_, ?_, ?_⟩
  · intro data hshort
    exact ⟨_, by simp [parseBinaryFrame, hshort]; rfl⟩
  · intro data rest version frameType idWord sequence payloadWord h hversion
    have hlong : ¬ data.length < binaryFrameHeader := by
      rw [h.length_eq]
      omega
    exact ⟨_, by simp [parseBinaryFrame, hlong, h.version_eq, hversion]; rfl⟩
  · intro data rest frameType idWord sequence payloadWord h
    obtain ⟨idBytes, hidBytes, hid⟩ := bind_eq_ok_iff.mp h.id_eq
    obtain ⟨sequenceBytes, hsequenceBytes, hsequence⟩ := bind_eq_ok_iff.mp h.sequence_eq
    obtain ⟨payloadBytes, hpayloadBytes, hpayload⟩ := bind_eq_ok_iff.mp h.payload_eq
    have hlength := h.length_eq
    have hlong : ¬ data.length < binaryFrameHeader := by omega
    simp only [parseBinaryFrame, hlong, decide_false, Result.or_false, h.version_eq, h.type_eq, hidBytes,
      hid, hpayloadBytes, hpayload, hsequenceBytes, hsequence, bind_tc_ok, pure_eq_ok, ne_eq,
      not_true_eq_false, Bool.false_eq_true, if_false]
    by_cases hbody : (frameType = requestBodyChunk ∨ frameType = responseBodyChunk) ∧
        payloadWord.toNat ≤ maxBinaryFramePayload ∧ 1 ≤ idWord.toNat ∧ rest.length = idWord.toNat + payloadWord.toNat
    · obtain ⟨hslice, htail⟩ := h.body_slices (by omega)
      refine .inl ⟨_, if_pos hbody, ?_⟩
      rw [if_neg (by tauto), if_neg (by omega), if_neg (by omega), hslice, htail]
      rfl
    · refine .inr ⟨if_neg hbody, ?_⟩
      split
      · exact ⟨_, rfl⟩
      · split
        · exact ⟨_, rfl⟩
        · rw [if_pos]
          · exact ⟨_, rfl⟩
          · by_contra hnot
            exact hbody ⟨by tauto, by omega, by omega, by omega⟩

end myngrok.protocol

namespace myngrok.gatewayclient

open protocol (ParsesFrames parseBody)

/-- The agent checks the same conditions in another order, so it rejects the same buffers, though not always with the
    same message. -/
theorem parseBinaryFrame_parsesFrames : ParsesFrames parseBinaryFrame := by
  refine ⟨?_, ?_, ?_⟩
  · intro data hshort
    have hshort' : data.length < binaryFrameHeader := hshort
    exact ⟨_, by simp [parseBinaryFrame, hshort']; rfl⟩
  · intro data rest version frameType idWord sequence payloadWord h hversion
    have hlong : ¬ data.length < binaryFrameHeader := by
      rw [h.length_eq]
      simp [protocol.binaryFrameHeader, binaryFrameHeader]
    have hversion' : version ≠ binaryFrameVersion := hversion
    exact ⟨_, by simp [parseBinaryFrame, hlong, h.version_eq, hversion']; rfl⟩
  · intro data rest frameType idWord sequence payloadWord h
    obtain ⟨idBytes, hidBytes, hid⟩ := bind_eq_ok_iff.mp h.id_eq
    obtain ⟨sequenceBytes, hsequenceBytes, hsequence⟩ := bind_eq_ok_iff.mp h.sequence_eq
    obtain ⟨payloadBytes, hpayloadBytes, hpayload⟩ := bind_eq_ok_iff.mp h.payload_eq
    have hlength : data.length = binaryFrameHeader + rest.length := h.length_eq
    have hlong : ¬ data.length < binaryFrameHeader := by omega
    have hversion : index data 0 = ok binaryFrameVersion := h.version_eq
    simp only [parseBinaryFrame, hlong, decide_false, Result.or_false, hversion, h.type_eq, hidBytes,
      hid, hpayloadBytes, hpayload, hsequenceBytes, hsequence, bind_tc_ok, pure_eq_ok, ne_eq,
      not_true_eq_false, Bool.false_eq_true, if_false]
    by_cases hbody : (frameType = requestBodyChunk ∨ frameType = responseBodyChunk) ∧
        payloadWord.toNat ≤ maxBinaryFramePayload ∧ 1 ≤ idWord.toNat ∧ rest.length = idWord.toNat + payloadWord.toNat
    · obtain ⟨hslice, htail⟩ := h.body_slices (by omega)
      refine .inl ⟨_, if_pos hbody, ?_⟩
      rw [if_neg (by omega), if_neg (by rintro (hunknown | hzero | hne) <;> [tauto; omega; omega]), hslice, htail]
      rfl
    · refine .inr ⟨if_neg hbody, ?_⟩
      split
      · exact ⟨_, rfl⟩
      · rw [if_pos]
        · exact ⟨_, rfl⟩
        · by_contra hnot
          push Not at hnot
          exact hbody ⟨by tauto, by omega, by omega, by omega⟩

end myngrok.gatewayclient

namespace myngrok.protocol

/-- The wire form of a well-formed frame starts with the header of its fields. -/
theorem BinaryFrame.header_wire (f : BinaryFrame) :
    Header f.wire binaryFrameVersion f.type (UInt16.ofNat f.requestID.length) f.sequence
      (UInt32.ofNat f.payload.length) (f.requestID ++ f.payload) := by
  have hlength := f.length_wire
  have hlong : 12 ≤ f.wire.length := by
    rw [hlength, binaryFrameHeader]
    omega
  refine ⟨?_, rfl, rfl, ?_, ?_, ?_, ?_, ?_⟩
  · rw [hlength, List.length_append]
    omega
  · rw [slice_eq_ok (by decide) (by omega)]
    exact binary.uint16_bytes16 _ []
  · rw [slice_eq_ok (by decide) (by omega)]
    exact binary.uint32_bytes32 _ []
  · rw [slice_eq_ok (by decide) (by omega)]
    exact binary.uint32_bytes32 _ []
  · simp [BinaryFrame.wire, binary.bytes16, binary.bytes32, binaryFrameHeader]
  · simp [BinaryFrame.wire, binary.bytes16, binary.bytes32, binaryFrameHeader]

variable {f : BinaryFrame} {data : Bytes} {parse : Bytes → Result (Except Error BinaryFrame)}

theorem BinaryFrame.parseBody_wire (hf : f.WellFormed) :
    parseBody f.type (UInt16.ofNat f.requestID.length) f.sequence (UInt32.ofNat f.payload.length)
      (f.requestID ++ f.payload) = some f := by
  obtain ⟨htype, hpos, hid, hpayload⟩ := hf
  have hidNat : (UInt16.ofNat f.requestID.length).toNat = f.requestID.length := by
    rw [UInt16.toNat_ofNat']
    omega
  have hpayloadNat : (UInt32.ofNat f.payload.length).toNat = f.payload.length := by
    rw [UInt32.toNat_ofNat']
    simp only [maxBinaryFramePayload] at hpayload
    omega
  rw [parseBody, hidNat, hpayloadNat, if_pos ⟨htype, hpayload, hpos, by simp⟩]
  simp

/-- Whatever a complete header parses to is well formed, and the buffer is its wire form: nothing of the input is
    ignored. -/
theorem Header.eq_wire {rest : Bytes} {frameType : UInt8} {idWord : UInt16} {sequence payloadWord : UInt32}
    (h : Header data binaryFrameVersion frameType idWord sequence payloadWord rest)
    (hbody : parseBody frameType idWord sequence payloadWord rest = some f) : f.WellFormed ∧ data = f.wire := by
  unfold parseBody at hbody
  split at hbody
  · rename_i hguard
    obtain ⟨htype, hfit, hpos, hlen⟩ := hguard
    cases hbody
    have hidLength : (rest.take idWord.toNat).length = idWord.toNat := by
      rw [List.length_take]
      omega
    have hpayloadLength : (rest.drop idWord.toNat).length = payloadWord.toNat := by
      rw [List.length_drop]
      omega
    have hidBound := idWord.toNat_lt
    refine ⟨⟨htype, by simpa only [hidLength] using hpos, ?_, by simpa only [hpayloadLength] using hfit⟩, ?_⟩
    · simp only [hidLength]
      omega
    · have hdata : data = data.take binaryFrameHeader ++ data.drop binaryFrameHeader :=
        (List.take_append_drop _ _).symm
      rw [h.front_eq, h.rest_eq] at hdata
      simp only [BinaryFrame.wire, hidLength, hpayloadLength, UInt16.ofNat_toNat, UInt32.ofNat_toNat]
      rw [List.append_assoc, List.take_append_drop]
      exact hdata
  · cases hbody

/-- A parser meeting the common specification accepts exactly the wire forms of the well-formed frames, and never reads
    outside the buffer. -/
theorem ParsesFrames.spec (hparse : ParsesFrames parse) (data : Bytes) :
    (∃ f : BinaryFrame, f.WellFormed ∧ data = f.wire ∧ parse data = ok (.ok f)) ∨
      ((∀ f : BinaryFrame, f.WellFormed → data ≠ f.wire) ∧ ∃ e, parse data = ok (.error e)) := by
  by_cases himage : ∃ f : BinaryFrame, f.WellFormed ∧ data = f.wire
  · obtain ⟨f, hf, rfl⟩ := himage
    left
    obtain ⟨g, hg, hparsed⟩ | ⟨hnone, _⟩ := hparse.body f.header_wire
    · rw [f.parseBody_wire hf] at hg
      cases hg
      exact ⟨f, hf, rfl, hparsed⟩
    · rw [f.parseBody_wire hf] at hnone
      cases hnone
  · right
    refine ⟨fun f hf heq => himage ⟨f, hf, heq⟩, ?_⟩
    by_cases hshort : data.length < binaryFrameHeader
    · exact hparse.short data hshort
    · obtain ⟨version, frameType, idWord, sequence, payloadWord, rest, h⟩ := exists_header (by omega : _ ≤ data.length)
      by_cases hversion : version = binaryFrameVersion
      · subst hversion
        obtain ⟨f, hbody, _⟩ | ⟨_, herror⟩ := hparse.body h
        · exact absurd ⟨f, h.eq_wire hbody⟩ himage
        · exact herror
      · exact hparse.version h hversion

theorem BinaryFrame.marshalBinary_eq_ok_iff : f.marshalBinary = ok (.ok data) ↔ f.WellFormed ∧ data = f.wire := by
  by_cases hf : f.WellFormed
  · rw [f.marshalBinary_of_wellFormed hf]
    constructor
    · intro h
      cases h
      exact ⟨hf, rfl⟩
    · rintro ⟨_, rfl⟩
      rfl
  · obtain ⟨e, he⟩ := f.marshalBinary_of_not_wellFormed hf
    rw [he]
    constructor
    · intro h
      cases h
    · intro h
      exact absurd h.1 hf

theorem ParsesFrames.eq_ok_iff (hparse : ParsesFrames parse) :
    parse data = ok (.ok f) ↔ f.marshalBinary = ok (.ok data) := by
  rw [BinaryFrame.marshalBinary_eq_ok_iff]
  obtain ⟨g, hg, hdata, hparsed⟩ | ⟨himage, e, herror⟩ := hparse.spec data
  · constructor
    · intro h
      rw [hparsed] at h
      cases h
      exact ⟨hg, hdata⟩
    · rintro ⟨hf, rfl⟩
      -- Two frames of one wire form are equal, since the parser is a function.
      have hback := hparse.body f.header_wire
      rw [f.parseBody_wire hf] at hback
      simpa using hback
  · constructor
    · intro h
      rw [herror] at h
      cases h
    · rintro ⟨hf, hdata⟩
      exact absurd hdata (himage f hf)

/-- The two hand-written codecs are one codec. They reject the same buffers and agree on the others, without ever
    indexing outside the buffer; they marshal exactly the frames of a known type with a request ID of 1 to 65535 bytes
    and a payload of at most 32768 bytes; and parsing is the inverse of marshaling on both sides. -/
theorem wire_codecs_agree :
    (∀ data : Bytes,
      (∃ f, parseBinaryFrame data = ok (.ok f) ∧ gatewayclient.parseBinaryFrame data = ok (.ok f)) ∨
      (∃ e e', parseBinaryFrame data = ok (.error e) ∧ gatewayclient.parseBinaryFrame data = ok (.error e'))) ∧
    (∀ f : BinaryFrame,
      (∃ data, f.marshalBinary = ok (.ok data) ∧ gatewayclient.marshalBinary f = ok (.ok data)) ∨
      (∃ e e', f.marshalBinary = ok (.error e) ∧ gatewayclient.marshalBinary f = ok (.error e'))) ∧
    (∀ f : BinaryFrame, (∃ data, f.marshalBinary = ok (.ok data)) ↔
      (f.type = 1 ∨ f.type = 2) ∧ 1 ≤ f.requestID.length ∧ f.requestID.length ≤ 65535 ∧
        f.payload.length ≤ 32768) ∧
    (∀ (f : BinaryFrame) (data : Bytes), f.marshalBinary = ok (.ok data) →
      parseBinaryFrame data = ok (.ok f) ∧ gatewayclient.parseBinaryFrame data = ok (.ok f)) ∧
    (∀ (data : Bytes) (f : BinaryFrame),
      (parseBinaryFrame data = ok (.ok f) → f.marshalBinary = ok (.ok data)) ∧
      (gatewayclient.parseBinaryFrame data = ok (.ok f) → gatewayclient.marshalBinary f = ok (.ok data))) := by
  have hgateway := parseBinaryFrame_parsesFrames
  have hagent := gatewayclient.parseBinaryFrame_parsesFrames
  refine ⟨?_, ?_, ?_, ?_, ?_⟩
  · intro data
    obtain ⟨f, hf, hdata, hparsed⟩ | ⟨himage, e, herror⟩ := hgateway.spec data
    · left
      refine ⟨f, hparsed, ?_⟩
      rw [hagent.eq_ok_iff, ← hgateway.eq_ok_iff]
      exact hparsed
    · right
      obtain ⟨f, hf, hdata, _⟩ | ⟨_, e', herror'⟩ := hagent.spec data
      · exact absurd hdata (himage f hf)
      · exact ⟨e, e', herror, herror'⟩
  · intro f
    rw [gatewayclient.marshalBinary_eq]
    by_cases hf : f.WellFormed
    · exact .inl ⟨f.wire, f.marshalBinary_of_wellFormed hf, f.marshalBinary_of_wellFormed hf⟩
    · obtain ⟨e, he⟩ := f.marshalBinary_of_not_wellFormed hf
      exact .inr ⟨e, e, he, he⟩
  · intro f
    constructor
    · rintro ⟨data, hdata⟩
      obtain ⟨⟨htype, hpos, hid, hpayload⟩, _⟩ := BinaryFrame.marshalBinary_eq_ok_iff.mp hdata
      exact ⟨htype, hpos, hid, hpayload⟩
    · rintro ⟨htype, hpos, hid, hpayload⟩
      exact ⟨f.wire, f.marshalBinary_of_wellFormed ⟨htype, hpos, hid, hpayload⟩⟩
  · intro f data hdata
    exact ⟨hgateway.eq_ok_iff.mpr hdata, hagent.eq_ok_iff.mpr hdata⟩
  · intro data f
    refine ⟨hgateway.eq_ok_iff.mp, ?_⟩
    rw [gatewayclient.marshalBinary_eq]
    exact hagent.eq_ok_iff.mp

example : parseBinaryFrame [1, 2, 0, 2, 0, 0, 0, 7, 0, 0, 0, 1, 114, 49, 255] =
    ok (.ok { type := 2, requestID := lit "r1", sequence := 7, payload := [255] }) := by decide

end myngrok.protocol
