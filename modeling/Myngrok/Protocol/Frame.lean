import Myngrok.Go.BigEndian

open golang Result

namespace myngrok.protocol

def binaryFrameVersion : UInt8 := 1
def requestBodyChunk : UInt8 := 1
def responseBodyChunk : UInt8 := 2
def binaryFrameHeader : Nat := 12
def maxBinaryFramePayload : Nat := 32 * 1024

/-- One body chunk of a WebSocket binary message. The agent declares a struct of its own with the same four fields; both
    codecs use this one here. -/
structure BinaryFrame where
  type : UInt8
  requestID : GoString
  sequence : UInt32
  payload : Bytes
  deriving DecidableEq, Repr

/-- The gateway's `BinaryFrame.MarshalBinary`. -/
def BinaryFrame.marshalBinary (f : BinaryFrame) : Result (Except Error Bytes) := do
  if f.type ≠ requestBodyChunk ∧ f.type ≠ responseBodyChunk then
    return .error (lit "unsupported binary frame type " ++ itoa f.type.toNat)
  if f.requestID.length = 0 ∨ f.requestID.length > 65535 then
    return .error (lit "invalid request ID length " ++ itoa f.requestID.length)
  if f.payload.length > maxBinaryFramePayload then
    return .error (lit "binary frame payload exceeds " ++ itoa maxBinaryFramePayload ++ lit " bytes")
  let data := List.replicate (binaryFrameHeader + f.requestID.length + f.payload.length) 0
  let data ← setIndex data 0 binaryFrameVersion
  let data ← setIndex data 1 f.type
  let data ← binary.putUint16 data 2 4 (UInt16.ofNat f.requestID.length)
  let data ← binary.putUint32 data 4 8 f.sequence
  let data ← binary.putUint32 data 8 12 (UInt32.ofNat f.payload.length)
  let data ← copyFrom data 12 f.requestID
  let data ← copyFrom data (12 + f.requestID.length) f.payload
  return .ok data

/-- The gateway's `ParseBinaryFrame`: the type is checked before the lengths. -/
def parseBinaryFrame (data : Bytes) : Result (Except Error BinaryFrame) := do
  if ← Result.or (ok (data.length < binaryFrameHeader))
      (do return (← index data 0) ≠ binaryFrameVersion) then
    return .error (lit "invalid binary frame")
  let frameType ← index data 1
  if frameType ≠ requestBodyChunk ∧ frameType ≠ responseBodyChunk then
    return .error (lit "unsupported binary frame type " ++ itoa frameType.toNat)
  let idLength := (← binary.uint16 (← slice data 2 4)).toNat
  let payloadLength := (← binary.uint32 (← slice data 8 12)).toNat
  if payloadLength > maxBinaryFramePayload then
    return .error (lit "binary frame payload exceeds " ++ itoa maxBinaryFramePayload ++ lit " bytes")
  if idLength = 0 ∨ data.length ≠ binaryFrameHeader + idLength + payloadLength then
    return .error (lit "invalid binary frame length")
  let requestID ← slice data 12 (12 + idLength)
  let sequence ← binary.uint32 (← slice data 4 8)
  let payload ← sliceFrom data (12 + idLength)
  return .ok { type := frameType, requestID, sequence, payload }

/-- What a frame must satisfy to have a wire form. -/
structure BinaryFrame.WellFormed (f : BinaryFrame) : Prop where
  type_known : f.type = requestBodyChunk ∨ f.type = responseBodyChunk
  requestID_pos : 1 ≤ f.requestID.length
  requestID_le : f.requestID.length ≤ 65535
  payload_le : f.payload.length ≤ maxBinaryFramePayload

instance (f : BinaryFrame) : Decidable f.WellFormed :=
  decidable_of_iff ((f.type = requestBodyChunk ∨ f.type = responseBodyChunk) ∧
    1 ≤ f.requestID.length ∧ f.requestID.length ≤ 65535 ∧ f.payload.length ≤ maxBinaryFramePayload)
    ⟨fun ⟨h1, h2, h3, h4⟩ => ⟨h1, h2, h3, h4⟩, fun ⟨h1, h2, h3, h4⟩ => ⟨h1, h2, h3, h4⟩⟩

/-- The documented layout: version(1), type(1), requestIDLength(2), sequence(4), payloadLength(4), requestID,
    payload. -/
def BinaryFrame.wire (f : BinaryFrame) : Bytes :=
  [binaryFrameVersion, f.type] ++ binary.bytes16 (UInt16.ofNat f.requestID.length) ++
    binary.bytes32 f.sequence ++ binary.bytes32 (UInt32.ofNat f.payload.length) ++
    f.requestID ++ f.payload

theorem BinaryFrame.length_wire (f : BinaryFrame) :
    f.wire.length = binaryFrameHeader + f.requestID.length + f.payload.length := by
  simp only [wire, List.length_append, binary.length_bytes16, binary.length_bytes32,
    List.length_cons, List.length_nil, binaryFrameHeader]

/-- The bytes of a stream that got these chunks. -/
def chunkBytes (parts : List BinaryFrame) : Bytes := (parts.map BinaryFrame.payload).flatten

theorem chunkBytes_concat (parts : List BinaryFrame) (frame : BinaryFrame) :
    chunkBytes (parts ++ [frame]) = chunkBytes parts ++ frame.payload := by
  simp [chunkBytes]

end myngrok.protocol
