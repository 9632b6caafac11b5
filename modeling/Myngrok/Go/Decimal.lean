import Myngrok.Go.Json

namespace golang

/-- The values of Go's `int64`. -/
def IsInt64 (value : Int) : Prop := -2 ^ 63 ≤ value ∧ value < 2 ^ 63

instance (value : Int) : Decidable (IsInt64 value) := inferInstanceAs (Decidable (_ ∧ _))

def isDigit (b : UInt8) : Bool := utf8.within 0x30 0x39 b

variable {n : Nat}

theorem itoa_of_lt (h : n < 10) : itoa n = [UInt8.ofNat (0x30 + n)] := by
  revert n
  decide

theorem itoa_of_ge (h : 10 ≤ n) : itoa n = itoa (n / 10) ++ [UInt8.ofNat (0x30 + n % 10)] := by
  rw [← itoa_of_lt (Nat.mod_lt n (by decide)), itoa, lit, Nat.repr_eq_repr_append_repr h, String.toList_append,
    List.flatMap_append]
  rfl

/-- Numbers by their decimal digits. -/
@[elab_as_elim]
theorem decimal_induction {motive : Nat → Prop} (digit : ∀ n < 10, motive n)
    (more : ∀ n, 10 ≤ n → motive (n / 10) → motive n) (n : Nat) : motive n := by
  induction n using Nat.strongRecOn with
  | ind n ih =>
    by_cases h : n < 10
    · exact digit n h
    · exact more n (Nat.not_lt.mp h) (ih (n / 10) (by omega))

theorem toNat_digit (h : n < 10) : (UInt8.ofNat (0x30 + n)).toNat = 0x30 + n := by
  rw [UInt8.toNat_ofNat', Nat.mod_eq_of_lt (by omega)]

theorem isDigit_digit (h : n < 10) : isDigit (UInt8.ofNat (0x30 + n)) = true := by
  simp only [isDigit, utf8.within, toNat_digit h, Bool.and_eq_true, decide_eq_true_eq]
  omega

theorem all_isDigit_itoa (n : Nat) : (itoa n).all isDigit = true := by
  induction n using decimal_induction with
  | digit n h => rw [itoa_of_lt h, List.all_cons, isDigit_digit h, List.all_nil, Bool.and_true]
  | more n h ih =>
    rw [itoa_of_ge h, List.all_append, ih, List.all_cons, isDigit_digit (Nat.mod_lt n (by decide)), List.all_nil]
    rfl

/-- A number is written without a zero in front. -/
theorem itoa_head (h : n ≠ 0) : ∃ b rest, itoa n = b :: rest ∧ utf8.within 0x31 0x39 b = true := by
  induction n using decimal_induction with
  | digit n hlt =>
    refine ⟨_, [], itoa_of_lt hlt, ?_⟩
    simp only [utf8.within, toNat_digit hlt, Bool.and_eq_true, decide_eq_true_eq]
    omega
  | more n hge ih =>
    obtain ⟨b, rest, hrest, hb⟩ := ih (by omega)
    refine ⟨b, rest ++ [UInt8.ofNat (0x30 + n % 10)], ?_, hb⟩
    rw [itoa_of_ge hge, hrest, List.cons_append]

theorem itoa_ne_nil (n : Nat) : itoa n ≠ [] := by
  by_cases h : n = 0
  · subst h
    decide
  · obtain ⟨b, rest, hrest, -⟩ := itoa_head h
    rw [hrest]
    exact List.cons_ne_nil b rest

namespace strconv

theorem foldl_itoa (n : Nat) : (itoa n).foldl (fun value b => value * 10 + (b.toNat - 0x30)) 0 = n := by
  induction n using decimal_induction with
  | digit n h =>
    rw [itoa_of_lt h, List.foldl_cons, List.foldl_nil, toNat_digit h]
    omega
  | more n h ih =>
    rw [itoa_of_ge h, List.foldl_append, ih, List.foldl_cons, List.foldl_nil, toNat_digit (Nat.mod_lt n (by decide))]
    omega

theorem parseUint_itoa {n bits : Nat} (h : n < 2 ^ bits) : parseUint (itoa n) bits = some n := by
  have hdigits : ¬((itoa n).isEmpty = true ∨ ((itoa n).any fun b => !utf8.within 0x30 0x39 b) = true) := by
    rintro (hempty | hany)
    · exact itoa_ne_nil n (List.isEmpty_iff.mp hempty)
    · obtain ⟨b, hb, hother⟩ := List.any_eq_true.mp hany
      have hdigit := List.all_eq_true.mp (all_isDigit_itoa n) b hb
      rw [isDigit] at hdigit
      rw [hdigit] at hother
      exact absurd hother (by decide)
  rw [parseUint, if_neg hdigits, foldl_itoa]
  exact if_pos h

/-- `strconv.ParseInt(s, 10, 64)`. -/
def parseInt (s : GoString) : Option Int :=
  match s with
  | [] => none
  | first :: rest =>
    if first = 0x2D then (parseUint rest 64).bind fun n => if n ≤ 2 ^ 63 then some (-(n : Int)) else none
    else (parseUint (if first = 0x2B then rest else s) 64).bind fun n => if n < 2 ^ 63 then some (n : Int) else none

theorem parseInt_itoa {n : Nat} (h : n < 2 ^ 63) : parseInt (itoa n) = some (n : Int) := by
  have hparse : parseUint (itoa n) 64 = some n := parseUint_itoa (Nat.lt_trans h (by decide))
  have hdigits := all_isDigit_itoa n
  unfold parseInt
  split
  · next hempty => exact absurd hempty (itoa_ne_nil n)
  · next first rest hcons =>
    rw [hcons, List.all_cons, Bool.and_eq_true] at hdigits
    have hminus : first ≠ 0x2D := by
      rintro rfl
      exact absurd hdigits.1 (by decide)
    have hplus : first ≠ 0x2B := by
      rintro rfl
      exact absurd hdigits.1 (by decide)
    rw [if_neg hminus, if_neg hplus, hparse, Option.bind_some, if_pos h]

end strconv

/-- An `int64` is read as it was written. -/
theorem strconv.parseInt_writeInt {value : Int} (h : IsInt64 value) :
    strconv.parseInt (json.writeInt value) = some value := by
  unfold IsInt64 at h
  rw [json.writeInt]
  split
  · next hneg =>
    have hparse : strconv.parseUint (itoa value.natAbs) 64 = some value.natAbs := strconv.parseUint_itoa (by omega)
    rw [List.singleton_append, strconv.parseInt, if_pos rfl, hparse, Option.bind_some, if_pos (by omega)]
    congr 1
    omega
  · next hpos =>
    rw [strconv.parseInt_itoa (by omega)]
    congr 1
    omega

end golang
