import Mathlib.Data.Int.Log
import Mathlib.Data.Rat.Floor
import Mathlib.Tactic.Linarith
import Mathlib.Tactic.NormNum
import Mathlib.Tactic.Positivity
import Mathlib.Tactic.Ring
import Myngrok.Go.Runtime

namespace golang.float64

/-- The nearest whole number, the even one of two. -/
def roundEven (x : ℚ) : ℤ :=
  if x - ⌊x⌋ < 1 / 2 then ⌊x⌋
  else if 1 / 2 < x - ⌊x⌋ then ⌊x⌋ + 1
  else if ⌊x⌋ % 2 = 0 then ⌊x⌋ else ⌊x⌋ + 1

/-- The distance of the `float64` values next to `q`: they have 53 binary digits. Subnormal numbers and overflow are not
    modelled. -/
def ulp (q : ℚ) : ℚ := 2 ^ (Int.log 2 |q| - 52)

/-- What a `float64` operation yields whose exact result is `q`. -/
def ofRat (q : ℚ) : ℚ := roundEven (q / ulp q) * ulp q

/-- The conversion `int(x)`, which drops the fraction. -/
def toInt (x : ℚ) : ℤ := if 0 ≤ x then ⌊x⌋ else ⌈x⌉

variable {q x : ℚ} {n m e : ℤ}

theorem roundEven_bounds (x : ℚ) : x - 1 / 2 ≤ roundEven x ∧ (roundEven x : ℚ) ≤ x + 1 / 2 := by
  have hlow := Int.floor_le x
  have hhigh := Int.lt_floor_add_one x
  unfold roundEven
  split
  · constructor <;> linarith
  · split
    · push_cast
      constructor <;> linarith
    · split
      · constructor <;> linarith
      · push_cast
        constructor <;> linarith

theorem le_roundEven (h : (m : ℚ) ≤ x) : m ≤ roundEven x := by
  have hclose : (m : ℚ) < roundEven x + 1 := by
    linarith [(roundEven_bounds x).1]
  exact Int.lt_add_one_iff.mp (by exact_mod_cast hclose)

theorem roundEven_le (h : x ≤ m) : roundEven x ≤ m := by
  have hclose : (roundEven x : ℚ) < m + 1 := by
    linarith [(roundEven_bounds x).2]
  exact Int.lt_add_one_iff.mp (by exact_mod_cast hclose)

theorem ulp_pos (q : ℚ) : 0 < ulp q := zpow_pos (by norm_num) _

theorem log_lt_of_abs_lt (he : 0 < e) (h : |q| < 2 ^ e) : Int.log 2 |q| < e := by
  rcases eq_or_ne q 0 with rfl | hq
  · simpa using he
  · exact (Int.lt_zpow_iff_log_lt (by norm_num) (abs_pos.mpr hq)).mp (by exact_mod_cast h)

theorem ulp_le (he : 0 < e) (h : |q| < 2 ^ e) : ulp q ≤ 2 ^ (e - 53) := by
  have hlog := log_lt_of_abs_lt he h
  exact zpow_le_zpow_right₀ (by norm_num) (by omega)

/-- Where the distance is at most one, every whole number is a `float64`. -/
theorem intCast_eq_mul_ulp (hq : |q| < 2 ^ 53) (n : ℤ) : ∃ k : ℤ, (n : ℚ) = k * ulp q := by
  have hlog : Int.log 2 |q| < 53 := log_lt_of_abs_lt (by norm_num) (by exact_mod_cast hq)
  obtain ⟨places, hplaces⟩ : ∃ places : ℕ, Int.log 2 |q| - 52 = -(places : ℤ) :=
    ⟨(52 - Int.log 2 |q|).toNat, by omega⟩
  refine ⟨n * 2 ^ places, ?_⟩
  rw [ulp, hplaces, zpow_neg, zpow_natCast]
  push_cast
  field_simp

theorem intCast_le_ofRat (hq : |q| < 2 ^ 53) (h : (n : ℚ) ≤ q) : (n : ℚ) ≤ ofRat q := by
  obtain ⟨k, hk⟩ := intCast_eq_mul_ulp hq n
  have hround : k ≤ roundEven (q / ulp q) := by
    apply le_roundEven
    rw [le_div_iff₀ (ulp_pos q), ← hk]
    exact h
  rw [hk, ofRat]
  exact mul_le_mul_of_nonneg_right (by exact_mod_cast hround) (ulp_pos q).le

theorem ofRat_le_intCast (hq : |q| < 2 ^ 53) (h : q ≤ n) : ofRat q ≤ n := by
  obtain ⟨k, hk⟩ := intCast_eq_mul_ulp hq n
  have hround : roundEven (q / ulp q) ≤ k := by
    apply roundEven_le
    rw [div_le_iff₀ (ulp_pos q), ← hk]
    exact h
  rw [hk, ofRat]
  exact mul_le_mul_of_nonneg_right (by exact_mod_cast hround) (ulp_pos q).le

theorem ofRat_intCast (hn : |(n : ℚ)| < 2 ^ 53) : ofRat n = n :=
  le_antisymm (ofRat_le_intCast hn le_rfl) (intCast_le_ofRat hn le_rfl)

/-- Rounding moves by at most half the distance. -/
theorem ofRat_le_add (q : ℚ) : ofRat q ≤ q + ulp q / 2 := by
  have hround := mul_le_mul_of_nonneg_right (roundEven_bounds (q / ulp q)).2 (ulp_pos q).le
  rw [add_mul, div_mul_cancel₀ _ (ulp_pos q).ne'] at hround
  rw [ofRat]
  linarith

end golang.float64

namespace golang

open float64

/-- `Duration.Seconds`. -/
def Duration.seconds (d : Duration) : ℚ :=
  let sec := d.tdiv second
  let nsec := d.tmod second
  ofRat (ofRat sec + ofRat (ofRat nsec / 1000000000))

variable {d : Duration}

/-- The sum that `Seconds` rounds: the fraction has been rounded before. -/
theorem Duration.seconds_eq (hnonneg : 0 ≤ d) (hd : d < 2 ^ 63) :
    ∃ fraction : ℚ, Duration.seconds d = ofRat ((d / second : ℤ) + fraction) ∧ 0 ≤ fraction ∧
      fraction ≤ 1 - 1 / 1000000000 + 1 / 2 ^ 53 ∧ (second ∣ d → fraction = 0) := by
  have hsec : 0 ≤ d / second ∧ d / second < 2 ^ 53 := by
    simp only [Duration, second] at *
    omega
  have hnsec : 0 ≤ d % second ∧ d % second ≤ 999999999 := by
    simp only [Duration, second] at *
    omega
  have hexact : ∀ {n : ℤ}, 0 ≤ n → n < 2 ^ 53 → ofRat n = n := by
    intro n hlow hhigh
    exact ofRat_intCast (by rw [abs_of_nonneg (by exact_mod_cast hlow)]; exact_mod_cast hhigh)
  have hlow : (0 : ℚ) ≤ (d % second : ℤ) / 1000000000 := by
    have : (0 : ℚ) ≤ (d % second : ℤ) := by exact_mod_cast hnsec.1
    positivity
  have hhigh : ((d % second : ℤ) : ℚ) / 1000000000 ≤ 1 - 1 / 1000000000 := by
    have : ((d % second : ℤ) : ℚ) ≤ 999999999 := by exact_mod_cast hnsec.2
    rw [div_le_iff₀ (by norm_num)]
    linarith
  have habs : |((d % second : ℤ) : ℚ) / 1000000000| < 2 := by
    rw [abs_of_nonneg hlow]
    linarith
  refine ⟨ofRat ((d % second : ℤ) / 1000000000), ?_, ?_, ?_, ?_⟩
  · rw [Duration.seconds, Int.tdiv_eq_ediv_of_nonneg hnonneg, Int.tmod_eq_emod_of_nonneg hnonneg,
      hexact hsec.1 hsec.2, hexact hnsec.1 (lt_of_le_of_lt hnsec.2 (by norm_num))]
  · have hround := @intCast_le_ofRat _ 0 (lt_trans habs (by norm_num)) (by rw [Int.cast_zero]; exact hlow)
    rwa [Int.cast_zero] at hround
  · have hulp : ulp ((d % second : ℤ) / 1000000000) ≤ 2 ^ ((1 : ℤ) - 53) := ulp_le (by norm_num) (by simpa using habs)
    have hround := ofRat_le_add ((d % second : ℤ) / 1000000000)
    norm_num at hulp ⊢
    linarith
  · intro hwhole
    rw [Int.emod_eq_zero_of_dvd hwhole, Int.cast_zero, zero_div]
    exact_mod_cast @hexact 0 le_rfl (by norm_num)

/-- `Seconds` is off by less than a second, and may reach the next whole number. -/
theorem Duration.seconds_bounds (hnonneg : 0 ≤ d) (hd : d < 2 ^ 63) :
    ((d / second : ℤ) : ℚ) ≤ Duration.seconds d ∧ Duration.seconds d ≤ (d / second + 1 : ℤ) ∧
      (second ∣ d → Duration.seconds d = (d / second : ℤ)) := by
  obtain ⟨fraction, heq, hlow, hhigh, hwhole⟩ := Duration.seconds_eq hnonneg hd
  have hsec : 0 ≤ d / second ∧ d / second < 2 ^ 52 := by
    simp only [Duration, second] at *
    omega
  have hcast : (0 : ℚ) ≤ (d / second : ℤ) ∧ ((d / second : ℤ) : ℚ) < 2 ^ 52 :=
    ⟨by exact_mod_cast hsec.1, by exact_mod_cast hsec.2⟩
  have hfraction : fraction ≤ 1 := by
    norm_num at hhigh
    linarith
  have habs : |((d / second : ℤ) : ℚ) + fraction| < 2 ^ 53 := by
    rw [abs_of_nonneg (by linarith [hcast.1])]
    linarith [hcast.2]
  rw [heq]
  refine ⟨intCast_le_ofRat habs (by linarith), ofRat_le_intCast habs ?_, fun hdvd => ?_⟩
  · push_cast
    linarith
  · rw [hwhole hdvd, add_zero] at habs ⊢
    exact ofRat_intCast habs

/-- Below some 194 days the digits suffice. -/
theorem Duration.seconds_lt (hnonneg : 0 ≤ d) (hd : d < 2 ^ 24 * second) :
    Duration.seconds d < (d / second + 1 : ℤ) := by
  obtain ⟨fraction, heq, hlow, hhigh, _⟩ := Duration.seconds_eq hnonneg (lt_trans hd (by decide))
  have hsec : 0 ≤ d / second ∧ d / second ≤ 2 ^ 24 - 1 := by
    simp only [Duration, second] at *
    omega
  have hcast : (0 : ℚ) ≤ (d / second : ℤ) ∧ ((d / second : ℤ) : ℚ) ≤ 2 ^ 24 - 1 :=
    ⟨by exact_mod_cast hsec.1, by exact_mod_cast hsec.2⟩
  have habs : |((d / second : ℤ) : ℚ) + fraction| < 2 ^ (24 : ℤ) := by
    rw [abs_of_nonneg (by linarith [hcast.1])]
    norm_num at hhigh hcast ⊢
    linarith [hcast.2]
  have hulp := ulp_le (by norm_num) habs
  have hround := ofRat_le_add ((d / second : ℤ) + fraction)
  rw [heq]
  push_cast
  norm_num at hulp hhigh
  linarith

theorem toInt_seconds (hnonneg : 0 ≤ d) (hd : d < 2 ^ 63) :
    toInt (Duration.seconds d) =
      if Duration.seconds d = (d / second + 1 : ℤ) then d / second + 1 else d / second := by
  obtain ⟨hlow, hhigh, _⟩ := Duration.seconds_bounds hnonneg hd
  have hsec : (0 : ℚ) ≤ (d / second : ℤ) := by
    have : 0 ≤ d / second := Int.ediv_nonneg hnonneg (by decide)
    exact_mod_cast this
  rw [toInt, if_pos (hsec.trans hlow)]
  split
  · next hnext => rw [hnext, Int.floor_intCast]
  · next hnext =>
    rw [Int.floor_eq_iff]
    refine ⟨hlow, ?_⟩
    have hlt := lt_of_le_of_ne hhigh hnext
    push_cast at hlt
    exact hlt

end golang
