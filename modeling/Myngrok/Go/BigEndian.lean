import Myngrok.Go.Runtime

open golang Result

namespace golang.binary

/-- The two bytes of a 16-bit word, most significant first. -/
def bytes16 (value : UInt16) : Bytes :=
  [UInt8.ofNat (value.toNat / 256), UInt8.ofNat value.toNat]

/-- The four bytes of a 32-bit word, most significant first. -/
def bytes32 (value : UInt32) : Bytes :=
  [UInt8.ofNat (value.toNat / 16777216), UInt8.ofNat (value.toNat / 65536),
    UInt8.ofNat (value.toNat / 256), UInt8.ofNat value.toNat]

/-- `binary.BigEndian.Uint16`, which reads two bytes and panics on fewer. -/
def uint16 : Bytes → Result UInt16
  | b0 :: b1 :: _ => ok (UInt16.ofNat (b0.toNat * 256 + b1.toNat))
  | _ => panic

/-- `binary.BigEndian.Uint32`, which reads four bytes and panics on fewer. -/
def uint32 : Bytes → Result UInt32
  | b0 :: b1 :: b2 :: b3 :: _ =>
    ok (UInt32.ofNat (b0.toNat * 16777216 + b1.toNat * 65536 + b2.toNat * 256 + b3.toNat))
  | _ => panic

/-- `binary.BigEndian.PutUint16(data[lo:hi], value)`. -/
def putUint16 (data : Bytes) (lo hi : Nat) (value : UInt16) : Result Bytes := do
  let target ← slice data lo hi
  if target.length < 2 then panic else ok (overwrite data lo (bytes16 value))

/-- `binary.BigEndian.PutUint32(data[lo:hi], value)`. -/
def putUint32 (data : Bytes) (lo hi : Nat) (value : UInt32) : Result Bytes := do
  let target ← slice data lo hi
  if target.length < 4 then panic else ok (overwrite data lo (bytes32 value))

@[simp] theorem length_bytes16 (value : UInt16) : (bytes16 value).length = 2 := rfl

@[simp] theorem length_bytes32 (value : UInt32) : (bytes32 value).length = 4 := rfl

variable {front tail : Bytes} {hi lo room : Nat}

theorem putUint16_front (value : UInt16) (hlo : front.length = lo) (hhi : hi = lo + 2) :
    putUint16 (front ++ List.replicate (2 + room) 0) lo hi value =
      ok ((front ++ bytes16 value) ++ List.replicate room 0) := by
  subst hhi
  have hlen : lo + 2 ≤ (front ++ List.replicate (2 + room) (0 : UInt8)).length := by
    simp [hlo]
  have htarget : (((front ++ List.replicate (2 + room) (0 : UInt8)).take (lo + 2)).drop lo).length = 2 := by
    rw [List.length_drop, List.length_take_of_le hlen]
    omega
  rw [putUint16, slice_eq_ok (by omega) hlen]
  simp only [bind_tc_ok, htarget, Nat.lt_irrefl, if_false]
  rw [← length_bytes16 value, overwrite_front 0 hlo]

theorem putUint32_front (value : UInt32) (hlo : front.length = lo) (hhi : hi = lo + 4) :
    putUint32 (front ++ List.replicate (4 + room) 0) lo hi value =
      ok ((front ++ bytes32 value) ++ List.replicate room 0) := by
  subst hhi
  have hlen : lo + 4 ≤ (front ++ List.replicate (4 + room) (0 : UInt8)).length := by
    simp [hlo]
  have htarget : (((front ++ List.replicate (4 + room) (0 : UInt8)).take (lo + 4)).drop lo).length = 4 := by
    rw [List.length_drop, List.length_take_of_le hlen]
    omega
  rw [putUint32, slice_eq_ok (by omega) hlen]
  simp only [bind_tc_ok, htarget, Nat.lt_irrefl, if_false]
  rw [← length_bytes32 value, overwrite_front 0 hlo]

theorem uint16_bytes16 (value : UInt16) (tail : Bytes) : uint16 (bytes16 value ++ tail) = ok value := by
  have hlt := value.toNat_lt
  simp only [bytes16, List.cons_append, List.nil_append, uint16, ok.injEq]
  apply UInt16.toNat_inj.mp
  simp only [UInt8.toNat_ofNat', UInt16.toNat_ofNat']
  omega

theorem uint32_bytes32 (value : UInt32) (tail : Bytes) : uint32 (bytes32 value ++ tail) = ok value := by
  have hlt := value.toNat_lt
  simp only [bytes32, List.cons_append, List.nil_append, uint32, ok.injEq]
  apply UInt32.toNat_inj.mp
  simp only [UInt8.toNat_ofNat', UInt32.toNat_ofNat']
  omega

/-- Every two-byte string is the encoding of the word it decodes to. -/
theorem bytes16_of_uint16 {b0 b1 : UInt8} {value : UInt16} (h : uint16 (b0 :: b1 :: tail) = ok value) :
    bytes16 value = [b0, b1] := by
  have h0 := b0.toNat_lt
  have h1 := b1.toNat_lt
  simp only [uint16, ok.injEq] at h
  subst value
  simp only [bytes16, List.cons.injEq, and_true]
  constructor <;> apply UInt8.toNat_inj.mp <;>
    simp only [UInt8.toNat_ofNat', UInt16.toNat_ofNat'] <;> omega

/-- Every four-byte string is the encoding of the word it decodes to. -/
theorem bytes32_of_uint32 {b0 b1 b2 b3 : UInt8} {value : UInt32}
    (h : uint32 (b0 :: b1 :: b2 :: b3 :: tail) = ok value) : bytes32 value = [b0, b1, b2, b3] := by
  have h0 := b0.toNat_lt
  have h1 := b1.toNat_lt
  have h2 := b2.toNat_lt
  have h3 := b3.toNat_lt
  simp only [uint32, ok.injEq] at h
  subst value
  simp only [bytes32, List.cons.injEq, and_true]
  refine ⟨?_, ?_, ?_, ?_⟩ <;> apply UInt8.toNat_inj.mp <;>
    simp only [UInt8.toNat_ofNat', UInt32.toNat_ofNat'] <;> omega

end golang.binary
