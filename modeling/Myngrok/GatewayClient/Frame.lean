import Myngrok.Protocol.Frame

open golang Result

namespace myngrok.gatewayclient

def binaryFrameVersion : UInt8 := 1
def requestBodyChunk : UInt8 := 1
def responseBodyChunk : UInt8 := 2
def binaryFrameHeader : Nat := 12
def maxBinaryFramePayload : Nat := 32 * 1024

abbrev BinaryFrame := protocol.BinaryFrame

/-- The agent's `binaryFrame.marshalBinary`. -/
def marshalBinary (f : BinaryFrame) : Result (Except Error Bytes) := do
  if f.type ≠ requestBodyChunk ∧ f.type ≠ responseBodyChunk then
    return .error (lit "unsupported binary frame type " ++ itoa f.type.toNat)
  if f.requestID.length = 0 ∨ f.requestID.length > 65535 then
    return .error (lit "invalid request ID length " ++ itoa f.requestID.length)
  if f.payload.length > maxBinaryFramePayload then
    return .error (lit "binary frame payload exceeds " ++ itoa maxBinaryFramePayload ++ lit " bytes")
  let data := List.replicate (binaryFrameHeader + f.requestID.length + f.payload.length) 0
  let data ← setIndex data 0 binaryFrameVersion
  let data ← setIndex data 1 f.type
  let data ← binary.putUint16 data 2 4 (UInt16.ofNat f.requestID.length)
  let data ← binary.putUint32 data 4 8 f.sequence
  let data ← binary.putUint32 data 8 12 (UInt32.ofNat f.payload.length)
  let data ← copyFrom data 12 f.requestID
  let data ← copyFrom data (12 + f.requestID.length) f.payload
  return .ok data

/-- The agent's `parseBinaryFrame`: the payload length is checked first, and an unknown type is reported together with a
    wrong length. -/
def parseBinaryFrame (data : Bytes) : Result (Except Error BinaryFrame) := do
  if ← Result.or (ok (data.length < binaryFrameHeader))
      (do return (← index data 0) ≠ binaryFrameVersion) then
    return .error (lit "invalid binary frame")
  let idLength := (← binary.uint16 (← slice data 2 4)).toNat
  let payloadLength := (← binary.uint32 (← slice data 8 12)).toNat
  if payloadLength > maxBinaryFramePayload then
    return .error (lit "binary frame payload exceeds " ++ itoa maxBinaryFramePayload ++ lit " bytes")
  let frameType ← index data 1
  if (frameType ≠ requestBodyChunk ∧ frameType ≠ responseBodyChunk) ∨ idLength = 0 ∨
      data.length ≠ binaryFrameHeader + idLength + payloadLength then
    return .error (lit "invalid binary frame length")
  let requestID ← slice data 12 (12 + idLength)
  let sequence ← binary.uint32 (← slice data 4 8)
  let payload ← sliceFrom data (12 + idLength)
  return .ok { type := frameType, requestID, sequence, payload }

end myngrok.gatewayclient
