import Mathlib.Algebra.Group.Int.Defs
import Mathlib.Algebra.GroupWithZero.Nat
import Mathlib.Data.List.Basic
import Mathlib.Tactic.Common

namespace golang

/-- Byte sequences. A Go `string` is one as well: nothing makes it valid UTF-8. -/
abbrev Bytes := List UInt8

abbrev GoString := Bytes

instance (s : GoString) (list : List GoString) : Decidable (s ∈ list) := inferInstance

/-- The bytes of a string literal. -/
def lit (text : String) : GoString := text.toList.flatMap String.utf8EncodeChar

/-- The decimal digits of a number, as `%d` prints them. -/
def itoa (n : Nat) : GoString := lit n.repr

/-- The text of a Go `error` value. -/
abbrev Error := GoString

/-- An instant, in nanoseconds since Go's zero time. -/
abbrev Time := Int

/-- A length of time in nanoseconds; Go's type has 64 bits. -/
abbrev Duration := Int

def second : Duration := 1000000000
def minute : Duration := 60 * second

/-- `Time.Sub`, which stops at the ends of `Duration`. -/
def Time.sub (t u : Time) : Duration := max (-2 ^ 63) (min (2 ^ 63 - 1) (t - u))

variable {t u : Time} {lo room : Nat}

/-- `Sub` stops too late to matter for a comparison with a positive `Duration`. -/
theorem Time.sub_lt_iff {d : Duration} (hpos : 0 < d) (hd : d < 2 ^ 63) : Time.sub t u < d ↔ t - u < d := by
  simp only [Time.sub, Duration, Time] at *
  omega

theorem Time.sub_eq (hlow : -2 ^ 63 ≤ t - u) (hhigh : t - u < 2 ^ 63) : Time.sub t u = t - u := by
  simp only [Time.sub, Duration, Time] at *
  omega

/-- Outcome of a Go expression: a value, or a run-time panic (an index or a slice bound out of range, a nil
    dereference). -/
inductive Result (A : Type) where
  | ok (value : A)
  | panic
  deriving DecidableEq, Repr

namespace Result

/-- Sequencing stops at the first panic. -/
def bind {A B : Type} (x : Result A) (f : A → Result B) : Result B :=
  match x with
  | ok value => f value
  | panic => panic

instance : Monad Result where
  pure := ok
  bind := bind

@[simp] theorem pure_eq_ok {A : Type} (value : A) : (pure value : Result A) = ok value := rfl

@[simp] theorem bind_tc_ok {A B : Type} (value : A) (f : A → Result B) : (ok value >>= f) = f value := rfl

@[simp] theorem bind_tc_panic {A B : Type} (f : A → Result B) : ((panic : Result A) >>= f) = panic := rfl

theorem bind_eq_ok_iff {A B : Type} {x : Result A} {f : A → Result B} {y : B} :
    (x >>= f) = ok y ↔ ∃ a, x = ok a ∧ f a = ok y := by
  cases x <;> simp

/-- A step of stateful code that succeeds hands its value and state to the rest. -/
theorem stateT_bind_ok {S A B : Type} {x : StateT S Result A} {f : A → StateT S Result B} {s next : S}
    {value : A} (h : x s = ok (value, next)) : (x >>= f) s = f value next := by
  show (x s >>= fun r => f r.1 r.2) = _
  rw [h]
  rfl

/-- Go's `||` evaluates its right operand only when the left one is false, so a guard on the left keeps a panic on the
    right from happening. -/
def or (left right : Result Bool) : Result Bool := do
  if ← left then ok true else right

@[simp] theorem or_true (right : Result Bool) : or (ok true) right = ok true := rfl

@[simp] theorem or_false (right : Result Bool) : or (ok false) right = right := rfl

end Result

open Result

/-- `data[i]`. -/
def index {A : Type} (data : List A) (i : Nat) : Result A :=
  match data[i]? with
  | some value => ok value
  | none => panic

/-- `data[lo:hi]`. -/
def slice {A : Type} (data : List A) (lo hi : Nat) : Result (List A) :=
  if lo ≤ hi ∧ hi ≤ data.length then ok ((data.take hi).drop lo) else panic

/-- `data[lo:]`. -/
def sliceFrom {A : Type} (data : List A) (lo : Nat) : Result (List A) :=
  slice data lo data.length

/-- The contents of `data` once `source` has been copied over the part that starts at `lo`; like Go's `copy`, it never
    runs past the end. -/
def overwrite {A : Type} (data : List A) (lo : Nat) (source : List A) : List A :=
  data.take lo ++ source.take (data.length - lo) ++ data.drop (lo + source.length)

/-- `data[i] = value`. -/
def setIndex {A : Type} (data : List A) (i : Nat) (value : A) : Result (List A) :=
  if i < data.length then ok (data.set i value) else panic

/-- `copy(data[lo:], source)`. -/
def copyFrom {A : Type} (data : List A) (lo : Nat) (source : List A) : Result (List A) := do
  let _ ← sliceFrom data lo
  ok (overwrite data lo source)

/-- Following a pointer, `none` being nil. -/
def deref {A : Type} (pointer : Option A) : Result A :=
  match pointer with
  | some value => ok value
  | none => panic

@[simp] theorem deref_some {A : Type} (value : A) : deref (some value) = ok value := rfl

theorem slice_eq_ok {A : Type} {data : List A} {hi : Nat} (hle : lo ≤ hi) (hhi : hi ≤ data.length) :
    slice data lo hi = ok ((data.take hi).drop lo) := by
  simp [slice, hle, hhi]

theorem sliceFrom_eq_ok {A : Type} {data : List A} (hlo : lo ≤ data.length) :
    sliceFrom data lo = ok (data.drop lo) := by
  simp [sliceFrom, slice, hlo]

/-- Writing `source` where a known front part ends extends that part: a zeroed buffer is filled from left to right this
    way. -/
theorem overwrite_front {A : Type} {front source : List A} (zero : A) (hlo : front.length = lo) :
    overwrite (front ++ List.replicate (source.length + room) zero) lo source =
      (front ++ source) ++ List.replicate room zero := by
  subst hlo
  have hroom : source.take ((front ++ List.replicate (source.length + room) zero).length - front.length) =
      source := by
    apply List.take_of_length_le
    simp
  rw [overwrite, hroom, List.take_left, List.drop_append]
  simp

theorem copyFrom_front {A : Type} {front source : List A} (zero : A) (hlo : front.length = lo) :
    copyFrom (front ++ List.replicate (source.length + room) zero) lo source =
      ok ((front ++ source) ++ List.replicate room zero) := by
  rw [copyFrom, sliceFrom_eq_ok (by simp [hlo]), overwrite_front zero hlo]
  rfl

end golang
