import Mathlib.Algebra.Order.Ring.Int
import Mathlib.Data.List.DropRight
import Mathlib.Logic.Function.Iterate
import Mathlib.Tactic.Common
import Mathlib.Tactic.Ring

namespace backoff

/-- The delay that follows one in a 64-bit integer: twice as long, but no longer than `max`. -/
def next (max delay : Int) : Int :=
  let delay := (delay * 2).bmod (2 ^ 64)
  if delay > max then max else delay

/-- `n` delays in a row, from the first on. -/
def delays (max : Int) : Int → Nat → List Int
  | _, 0 => []
  | delay, n + 1 => delay :: delays max (next max delay) n

/-- The delay after `failures` failures in a row. -/
def capped (initial max : Int) (failures : Nat) : Int := min max (initial * 2 ^ failures)

/-- How many attempts failed since the last one that succeeded; the history has the oldest first. -/
def failuresSince (history : List Bool) : Nat := (history.rtakeWhile fun succeeded => !succeeded).length

/-- The delays of a backoff that a success restarts: one after each attempt, by the failures before it. -/
def restarting (initial max : Int) (attempts : List Bool) : List Int :=
  attempts.mapIdx fun i succeeded => capped initial max (if succeeded then 0 else failuresSince (attempts.take i))

variable {initial max delay : Int} {attempts : List Bool} {n i : Nat}

theorem length_delays (max delay : Int) (n : Nat) : (delays max delay n).length = n := by
  induction n generalizing delay with
  | zero => rfl
  | succ n ih => rw [delays, List.length_cons, ih]

theorem getElem?_delays (h : i < n) : (delays max delay n)[i]? = some ((next max)^[i] delay) := by
  induction n generalizing delay i with
  | zero => exact absurd h (Nat.not_lt_zero i)
  | succ n ih =>
    cases i with
    | zero => rfl
    | succ i => exact ih (Nat.lt_of_succ_lt_succ h)

/-- Below half of the range, doubling does not overflow. -/
theorem next_of_lt (hpos : 0 < delay) (hlt : delay < 2 ^ 62) : next max delay = min max (delay * 2) := by
  have hfits : (delay * 2).bmod (2 ^ 64) = delay * 2 := Int.bmod_eq_of_le (by omega) (by omega)
  rw [next, hfits]
  split
  · omega
  · omega

/-- From there on it does, and the delay gets negative. -/
theorem next_neg (hge : 2 ^ 62 ≤ delay) (hlt : delay < 2 ^ 63) (hmax : 0 < max) : next max delay < 0 := by
  have hwrap : (delay * 2).bmod (2 ^ 64) = delay * 2 - 2 ^ 64 := by
    rw [Int.bmod_def, if_neg (by omega)]
    omega
  rw [next, hwrap, if_neg (by omega)]
  omega

theorem capped_zero (hmax : initial ≤ max) : capped initial max 0 = initial := by
  rw [capped, Int.pow_zero, Int.mul_one, min_eq_right hmax]

theorem capped_self (hinitial : 0 < initial) (failures : Nat) : capped initial initial failures = initial :=
  min_eq_left (le_mul_of_one_le_right (Int.le_of_lt hinitial) (one_le_pow₀ (by decide)))

theorem capped_mono (hinitial : 0 < initial) {first second : Nat} (hle : first ≤ second) :
    capped initial max first ≤ capped initial max second :=
  min_le_min_left max (Int.mul_le_mul_of_nonneg_left (pow_le_pow_right₀ (by decide) hle) (Int.le_of_lt hinitial))

section

variable (hinitial : 0 < initial) (hmax : initial ≤ max)

include hinitial hmax

theorem capped_pos (failures : Nat) : 0 < capped initial max failures :=
  lt_min (lt_of_lt_of_le hinitial hmax) (Int.mul_pos hinitial (Int.pow_pos (by decide)))

/-- Where there is room below the maximum, a second delay is longer than the first. -/
theorem initial_lt_capped (hne : max ≠ initial) (hi : 0 < i) : initial < capped initial max i := by
  refine lt_of_lt_of_le ?_ (capped_mono hinitial hi)
  rw [capped]
  omega

theorem next_capped (hlt : capped initial max i < 2 ^ 62) :
    next max (capped initial max i) = capped initial max (i + 1) := by
  have hdouble : initial * 2 ^ (i + 1) = initial * 2 ^ i * 2 := by ring
  rw [next_of_lt (capped_pos hinitial hmax i) hlt, capped, capped, hdouble]
  omega

/-- As long as nothing overflows, the delays are those of an endless row of failures. -/
theorem iterate_next (hfits : ∀ j < i, capped initial max j < 2 ^ 62) :
    (next max)^[i] initial = capped initial max i := by
  induction i with
  | zero => exact (capped_zero hmax).symm
  | succ i ih =>
    rw [Function.iterate_succ_apply', ih fun j hj => hfits j (Nat.lt_succ_of_lt hj),
      next_capped hinitial hmax (hfits i (Nat.lt_succ_self i))]

/-- Delays that stay positive have not overflowed. -/
theorem capped_lt_of_pos (h64 : max < 2 ^ 63) (hpos : ∀ j, j < n → 0 < (next max)^[j] initial) (hi : i + 1 < n) :
    capped initial max i < 2 ^ 62 := by
  induction i using Nat.strong_induction_on with
  | _ i ih =>
    have hvalue := iterate_next hinitial hmax fun j hj => ih j hj (by omega)
    by_contra hge
    have hnext := hpos (i + 1) hi
    have hle : capped initial max i ≤ max := min_le_left _ _
    rw [Function.iterate_succ_apply', hvalue] at hnext
    have hneg := next_neg (not_lt.mp hge) (lt_of_le_of_lt hle h64) (lt_of_lt_of_le hinitial hmax)
    omega

end

theorem failuresSince_take_of_forall (h : ∀ succeeded ∈ attempts, succeeded = false) (hi : i ≤ attempts.length) :
    failuresSince (attempts.take i) = i := by
  have hfailed : ∀ succeeded ∈ attempts.take i, (!succeeded) = true := by
    intro succeeded hmem
    rw [h succeeded (List.mem_of_mem_take hmem)]
    rfl
  rw [failuresSince, List.rtakeWhile_eq_self_iff.mpr hfailed, List.length_take, min_eq_left hi]

theorem delays_eq_restarting_iff_iterate {attempts : List Bool} :
    delays max initial attempts.length = restarting initial max attempts ↔
      ∀ i succeeded, attempts[i]? = some succeeded → (next max)^[i] initial =
        capped initial max (if succeeded then 0 else failuresSince (attempts.take i)) := by
  rw [List.ext_getElem?_iff]
  refine forall_congr' fun i => ?_
  rw [restarting, List.getElem?_mapIdx]
  by_cases hi : i < attempts.length
  · rw [getElem?_delays hi, List.getElem?_eq_getElem hi]
    simp only [Option.map_some, Option.some.injEq, forall_eq']
  · rw [List.getElem?_eq_none ((length_delays _ _ _).trans_le (not_lt.mp hi)),
      List.getElem?_eq_none (not_lt.mp hi)]
    simp only [Option.map_none, reduceCtorEq, false_implies, implies_true]

/-- With room below the maximum, a success among several attempts gives a delay that has grown and should not have. -/
theorem all_failed_of_iterate (hinitial : 0 < initial) (hmax : initial ≤ max) (hne : max ≠ initial)
    (hmany : 1 < attempts.length) (hvalue : ∀ i < attempts.length, (next max)^[i] initial = capped initial max i)
    (h : ∀ i succeeded, attempts[i]? = some succeeded → (next max)^[i] initial =
      capped initial max (if succeeded then 0 else failuresSince (attempts.take i))) :
    ∀ succeeded ∈ attempts, succeeded = false := by
  have hgrown : ∀ i, 0 < i → i < attempts.length → (next max)^[i] initial ≠ capped initial max 0 := by
    intro i hi hlt heq
    have hlonger := initial_lt_capped hinitial hmax hne hi
    rw [hvalue i hlt, capped_zero hmax] at heq
    omega
  intro succeeded hmem
  by_contra htrue
  obtain ⟨i, hi⟩ := List.getElem?_of_mem hmem
  have hlt : i < attempts.length := (List.getElem?_eq_some_iff.mp hi).1
  cases i with
  | succ i =>
    refine hgrown (i + 1) (Nat.succ_pos i) hlt ?_
    rw [h (i + 1) succeeded hi, if_pos (Bool.eq_true_of_not_eq_false htrue)]
  | zero =>
    -- The attempt after the first one has no failure before it, whether it succeeds or not.
    refine hgrown 1 Nat.one_pos hmany ?_
    obtain _ | ⟨first, _ | ⟨second, rest⟩⟩ := attempts
    · cases hi
    · exact absurd hmany (Nat.lt_irrefl 1)
    · obtain rfl : first = true := by simpa [Option.some.inj hi] using htrue
      rw [h 1 second rfl]
      cases second with
      | false => rfl
      | true => rfl

/-- Delays that a success does not restart are those of a backoff that it does restart exactly when there is at most one
    attempt, or none of the delays overflows and either no attempt succeeds or all delays are equal. -/
theorem delays_eq_restarting_iff (hinitial : 0 < initial) (hmax : initial ≤ max) (h64 : max < 2 ^ 63)
    (attempts : List Bool) :
    delays max initial attempts.length = restarting initial max attempts ↔
      attempts.length ≤ 1 ∨
      (max = initial ∨ ∀ succeeded ∈ attempts, succeeded = false) ∧
        capped initial max (attempts.length - 2) < 2 ^ 62 := by
  rw [delays_eq_restarting_iff_iterate]
  constructor
  · intro h
    by_cases hone : attempts.length ≤ 1
    · exact .inl hone
    have hpos : ∀ j, j < attempts.length → 0 < (next max)^[j] initial := by
      intro j hj
      rw [h j _ (List.getElem?_eq_getElem hj)]
      exact capped_pos hinitial hmax _
    have hfits : ∀ j, j + 1 < attempts.length → capped initial max j < 2 ^ 62 :=
      fun j hj => capped_lt_of_pos hinitial hmax h64 hpos hj
    have hvalue : ∀ j, j < attempts.length → (next max)^[j] initial = capped initial max j :=
      fun j hj => iterate_next hinitial hmax fun k hk => hfits k (by omega)
    refine .inr ⟨?_, hfits _ (by omega)⟩
    by_cases heq : max = initial
    · exact .inl heq
    · exact .inr (all_failed_of_iterate hinitial hmax heq (not_le.mp hone) hvalue h)
  · rintro (hone | ⟨hsame, hfits⟩) i succeeded hi
    · have hlt : i < attempts.length := (List.getElem?_eq_some_iff.mp hi).1
      obtain rfl : i = 0 := by omega
      cases succeeded with
      | false => exact (capped_zero hmax).symm
      | true => exact (capped_zero hmax).symm
    · have hlt : i < attempts.length := (List.getElem?_eq_some_iff.mp hi).1
      rw [iterate_next hinitial hmax fun j hj => lt_of_le_of_lt (capped_mono hinitial (by omega)) hfits]
      rcases hsame with rfl | hfailed
      · rw [capped_self hinitial, capped_self hinitial]
      · rw [hfailed succeeded (List.mem_of_getElem? hi), if_neg Bool.false_ne_true,
          failuresSince_take_of_forall hfailed (Nat.le_of_lt hlt)]

end backoff
