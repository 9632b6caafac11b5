import Myngrok.Go.Text

namespace golang.base64

/-- The sign of a six-bit number in the alphabet of `base64.URLEncoding`. -/
def sign (value : Nat) : UInt8 :=
  if value < 26 then UInt8.ofNat (0x41 + value)
  else if value < 52 then UInt8.ofNat (0x61 + (value - 26))
  else if value < 62 then UInt8.ofNat (0x30 + (value - 52))
  else if value = 62 then 0x2D
  else 0x5F

def signValue (b : UInt8) : Option Nat :=
  if utf8.within 0x41 0x5A b then some (b.toNat - 0x41)
  else if utf8.within 0x61 0x7A b then some (b.toNat - 0x61 + 26)
  else if utf8.within 0x30 0x39 b then some (b.toNat - 0x30 + 52)
  else if b = 0x2D then some 62
  else if b = 0x5F then some 63
  else none

/-- Three bytes are four numbers of six bits; without padding, one byte left over is two of them and two bytes are
    three. -/
def pack : Bytes → List Nat
  | [] => []
  | [x] => [x.toNat / 4, x.toNat % 4 * 16]
  | [x, y] => [x.toNat / 4, x.toNat % 4 * 16 + y.toNat / 16, y.toNat % 16 * 4]
  | x :: y :: z :: rest =>
    x.toNat / 4 :: (x.toNat % 4 * 16 + y.toNat / 16) :: (y.toNat % 16 * 4 + z.toNat / 64) :: z.toNat % 64 :: pack rest

/-- The bits that the last number has too many are ignored. -/
def unpack : List Nat → Option Bytes
  | [] => some []
  | [_] => none
  | [a, b] => some [UInt8.ofNat (a * 4 + b / 16)]
  | [a, b, c] => some [UInt8.ofNat (a * 4 + b / 16), UInt8.ofNat (b % 16 * 16 + c / 4)]
  | a :: b :: c :: d :: rest =>
    (unpack rest).map fun more =>
      UInt8.ofNat (a * 4 + b / 16) :: UInt8.ofNat (b % 16 * 16 + c / 4) :: UInt8.ofNat (c % 4 * 64 + d) :: more

/-- `base64.RawURLEncoding.EncodeToString`. -/
def encodeToString (data : Bytes) : GoString := (pack data).map sign

/-- `base64.RawURLEncoding.DecodeString`: line breaks are skipped wherever they stand. -/
def decodeString (s : GoString) : Option Bytes :=
  ((s.filter fun b => b ≠ 0x0A ∧ b ≠ 0x0D).mapM signValue).bind unpack

theorem pack_lt {data : Bytes} : ∀ value ∈ pack data, value < 64 := by
  fun_induction pack data with
  | case1 => simp
  | case2 x =>
    have hx := x.toNat_lt
    simp only [List.forall_mem_cons, List.not_mem_nil, false_imp_iff, implies_true, and_true]
    omega
  | case3 x y =>
    have hx := x.toNat_lt
    have hy := y.toNat_lt
    simp only [List.forall_mem_cons, List.not_mem_nil, false_imp_iff, implies_true, and_true]
    omega
  | case4 x y z rest ih =>
    have hx := x.toNat_lt
    have hy := y.toNat_lt
    have hz := z.toNat_lt
    simp only [List.forall_mem_cons]
    exact ⟨by omega, by omega, by omega, by omega, ih⟩

theorem unpack_pack (data : Bytes) : unpack (pack data) = some data := by
  have hbyte : ∀ {b : UInt8} {n : Nat}, n = b.toNat → UInt8.ofNat n = b := by
    rintro b n rfl
    exact UInt8.ofNat_toNat
  fun_induction pack data with
  | case1 => rfl
  | case2 x =>
    have hx := x.toNat_lt
    rw [unpack, hbyte (b := x) (by omega)]
  | case3 x y =>
    have hx := x.toNat_lt
    have hy := y.toNat_lt
    rw [unpack, hbyte (b := x) (by omega), hbyte (b := y) (by omega)]
  | case4 x y z rest ih =>
    have hx := x.toNat_lt
    have hy := y.toNat_lt
    have hz := z.toNat_lt
    rw [unpack, ih, Option.map_some, hbyte (b := x) (by omega), hbyte (b := y) (by omega), hbyte (b := z) (by omega)]

variable {value : Nat}

theorem signValue_sign (h : value < 64) : signValue (sign value) = some value := by
  revert value
  decide

/-- The alphabet has neither line breaks nor dots. -/
theorem sign_ne (h : value < 64) : sign value ≠ 0x0A ∧ sign value ≠ 0x0D ∧ sign value ≠ 0x2E := by
  revert value
  decide

theorem decodeString_encodeToString (data : Bytes) : decodeString (encodeToString data) = some data := by
  have hfilter : ((pack data).map sign).filter (fun b => decide (b ≠ 0x0A ∧ b ≠ 0x0D)) = (pack data).map sign := by
    rw [List.filter_eq_self]
    intro b hb
    obtain ⟨value, hvalue, rfl⟩ := List.mem_map.mp hb
    obtain ⟨hline, hreturn, -⟩ := sign_ne (pack_lt value hvalue)
    exact decide_eq_true ⟨hline, hreturn⟩
  have hvalues : ∀ values : List Nat, (∀ value ∈ values, value < 64) →
      (values.map sign).mapM signValue = some values := by
    intro values hvalues
    induction values with
    | nil => rfl
    | cons value rest ih =>
      rw [List.forall_mem_cons] at hvalues
      rw [List.map_cons, List.mapM_cons, signValue_sign hvalues.1, ih hvalues.2]
      rfl
  rw [decodeString, encodeToString, hfilter, hvalues _ pack_lt, Option.bind_some, unpack_pack]

theorem dot_notMem_encodeToString (data : Bytes) : 0x2E ∉ encodeToString data := by
  intro hmem
  obtain ⟨value, hvalue, hdot⟩ := List.mem_map.mp hmem
  exact (sign_ne (pack_lt value hvalue)).2.2 hdot

/-- The alphabet lies between the hyphen and the letters. -/
theorem range_encodeToString (data : Bytes) : ∀ b ∈ encodeToString data, 0x2D ≤ b.toNat ∧ b.toNat ≤ 0x7A := by
  have hsign : ∀ value < 64, 0x2D ≤ (sign value).toNat ∧ (sign value).toNat ≤ 0x7A := by decide
  intro b hb
  obtain ⟨value, hvalue, rfl⟩ := List.mem_map.mp hb
  exact hsign value (pack_lt value hvalue)

theorem length_encodeToString_le (data : Bytes) : (encodeToString data).length ≤ 2 * data.length := by
  rw [encodeToString, List.length_map]
  fun_induction pack data with
  | case1 => simp
  | case2 => simp
  | case3 => simp
  | case4 x y z rest ih =>
    simp only [List.length_cons]
    omega

example : encodeToString (lit "a?>") = lit "YT8-" ∧ decodeString (lit "YT\n8-Yh") = some (lit "a?>b") := by decide

end golang.base64
