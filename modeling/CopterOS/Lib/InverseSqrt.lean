import CopterOS.Lib.Number
import Mathlib.Data.Int.Log
import Mathlib.Data.Rat.Floor
import Mathlib.Tactic.FieldSimp
import Mathlib.Tactic.Linarith
import Mathlib.Tactic.LinearCombination

open number

namespace inverse_sqrt

section Newton

variable {K : Type} [Field K]

/-- One step of Newton's iteration toward the inverse of the square root of `x`. -/
def newton (x y : K) : K := y * (3 / 2 - x / 2 * y * y)

variable [LinearOrder K] [IsStrictOrderedRing K]

/-- The quality of the result is a polynomial of the quality of the guess. -/
theorem mul_newton_sq (x y : K) :
    x * newton x y ^ 2 = 1 - (x * y ^ 2 - 1) ^ 2 * (4 - x * y ^ 2) / 4 := by
  unfold newton
  ring

/-- A step never leaves the result above the inverse root. -/
theorem mul_newton_sq_le {x y : K} (hquality : x * y ^ 2 ≤ 4) : x * newton x y ^ 2 ≤ 1 := by
  have hfactor : 0 ≤ (x * y ^ 2 - 1) ^ 2 * (4 - x * y ^ 2) :=
    mul_nonneg (sq_nonneg _) (sub_nonneg.mpr hquality)
  rw [mul_newton_sq]
  linarith

/-- A guess that is off by a small part leaves a much smaller one. -/
theorem le_mul_newton_sq {x y part : K} (hpart : |x * y ^ 2 - 1| ≤ part) :
    1 - part ^ 2 * (3 + part) / 4 ≤ x * newton x y ^ 2 := by
  obtain ⟨hlow, hhigh⟩ := abs_le.mp hpart
  have hsquare : (x * y ^ 2 - 1) ^ 2 ≤ part ^ 2 := sq_le_sq' hlow hhigh
  have hrest : 4 - x * y ^ 2 ≤ 3 + part := by linarith
  have hpos : 0 ≤ 3 + part := by linarith [abs_nonneg (x * y ^ 2 - 1)]
  have hproduct := mul_le_mul_of_nonneg_left hrest (sq_nonneg (x * y ^ 2 - 1))
  have hbound := mul_le_mul_of_nonneg_right hsquare hpos
  rw [mul_newton_sq]
  linarith

theorem newton_pos {x y : K} (hy : 0 < y) (hquality : x * y ^ 2 < 3) : 0 < newton x y := by
  have hfactor : 3 / 2 - x / 2 * y * y = (3 - x * y ^ 2) / 2 := by ring
  unfold newton
  rw [hfactor]
  exact mul_pos hy (half_pos (sub_pos.mpr hquality))

end Newton

/-- The bit pattern of the binary32 number nearest to a positive one, without
    bounds of the exponent. -/
def toBits (x : ℚ) : ℤ :=
  (Int.log 2 x + 127) * 2 ^ 23 + roundEven ((x / 2 ^ Int.log 2 x - 1) * 2 ^ 23)

/-- The number of a bit pattern, without bounds of the exponent. -/
def ofBits (bits : ℤ) : ℚ := (1 + (bits % 2 ^ 23 : ℤ) / 2 ^ 23) * 2 ^ (bits / 2 ^ 23 - 127)

/-- The first guess: half the exponent and the fraction, subtracted from a constant. -/
def guess (magic : ℤ) (x : ℚ) : ℚ := ofBits (magic - toBits x >>> (1 : ℕ))

theorem ofBits_pos (bits : ℤ) : 0 < ofBits bits := by
  have hfraction : (0 : ℚ) ≤ (bits % 2 ^ 23 : ℤ) := by exact_mod_cast Int.emod_nonneg bits (by norm_num)
  have hsignificand : (0 : ℚ) < 1 + (bits % 2 ^ 23 : ℤ) / 2 ^ 23 :=
    add_pos_of_pos_of_nonneg one_pos (div_nonneg hfraction (by norm_num))
  exact mul_pos hsignificand (zpow_pos (by norm_num) _)

/-- A pattern given by its exponent and its fraction. -/
theorem ofBits_eq {exponent fraction : ℤ} (hlow : 0 ≤ fraction) (hhigh : fraction < 2 ^ 23) :
    ofBits (exponent * 2 ^ 23 + fraction) = (1 + fraction / 2 ^ 23) * 2 ^ (exponent - 127) := by
  have hdiv : (exponent * 2 ^ 23 + fraction) / 2 ^ 23 = exponent := by omega
  have hmod : (exponent * 2 ^ 23 + fraction) % 2 ^ 23 = fraction := by omega
  unfold ofBits
  rw [hdiv, hmod]

/-- A positive number has an exponent and a fraction. -/
theorem exists_fraction {x : ℚ} (hx : 0 < x) :
    ∃ fraction : ℚ, 0 ≤ fraction ∧ fraction < 1 ∧ x = (1 + fraction) * 2 ^ Int.log 2 x ∧
      x / 2 ^ Int.log 2 x - 1 = fraction := by
  have hpow : (0 : ℚ) < 2 ^ Int.log 2 x := zpow_pos (by norm_num) _
  have hlow : (2 : ℚ) ^ Int.log 2 x ≤ x := by exact_mod_cast Int.zpow_log_le_self (by norm_num : 1 < 2) hx
  have hhigh : x < (2 : ℚ) ^ (Int.log 2 x + 1) := by
    exact_mod_cast Int.lt_zpow_succ_log_self (by norm_num : 1 < 2) x
  rw [zpow_add_one₀ (by norm_num)] at hhigh
  refine ⟨x / 2 ^ Int.log 2 x - 1, ?_, ?_, ?_, rfl⟩
  · rw [sub_nonneg, le_div_iff₀ hpow]
    linarith
  · rw [sub_lt_iff_lt_add, div_lt_iff₀ hpow]
    linarith
  · field_simp
    ring

/-- Every pattern is that of its number. -/
theorem toBits_ofBits (bits : ℤ) : toBits (ofBits bits) = bits := by
  have hfraction : 0 ≤ bits % 2 ^ 23 ∧ bits % 2 ^ 23 < 2 ^ 23 := by omega
  have hlow : (0 : ℚ) ≤ (bits % 2 ^ 23 : ℤ) / 2 ^ 23 :=
    div_nonneg (by exact_mod_cast hfraction.1) (by norm_num)
  have hhigh : ((bits % 2 ^ 23 : ℤ) : ℚ) / 2 ^ 23 < 1 := by
    rw [div_lt_one (by norm_num)]
    exact_mod_cast hfraction.2
  have hpow : (0 : ℚ) < 2 ^ (bits / 2 ^ 23 - 127) := zpow_pos (by norm_num) _
  have hlog : Int.log 2 (ofBits bits) = bits / 2 ^ 23 - 127 := by
    apply le_antisymm
    · rw [← Int.lt_add_one_iff, ← Int.lt_zpow_iff_log_lt (by norm_num) (ofBits_pos bits)]
      push_cast
      rw [zpow_add_one₀ (by norm_num)]
      unfold ofBits
      nlinarith
    · rw [← Int.zpow_le_iff_le_log (by norm_num) (ofBits_pos bits)]
      push_cast
      unfold ofBits
      nlinarith
  have hround : (ofBits bits / 2 ^ Int.log 2 (ofBits bits) - 1) * 2 ^ 23 = ((bits % 2 ^ 23 : ℤ) : ℚ) := by
    rw [hlog]
    unfold ofBits
    field_simp
    ring
  unfold toBits
  rw [hround, roundEven_intCast, hlog]
  omega

/-- The halved pattern of an even exponent, subtracted from the constant. -/
theorem abs_quality_even_le {u m : ℚ} (hlow : 0 ≤ u) (hhigh : u ≤ 1 / 2) (hm : |m - 2 * u| ≤ 1 / 2 ^ 22) :
    |(1 + m) * (1 + 0x7759df / 2 ^ 23 - u) ^ 2 / 4 - 1| ≤ 141 / 2000 := by
  obtain ⟨hbelow, habove⟩ := abs_le.mp hm
  have hs : 0 < 1 + 0x7759df / 2 ^ 23 - u := by linarith
  have hsquare := sq_nonneg (1 + 0x7759df / 2 ^ 23 - u)
  have hbetween := mul_nonneg hlow (sub_nonneg.mpr hhigh)
  rw [abs_le]
  constructor
  · nlinarith [mul_nonneg hbetween hs.le]
  · -- the cubic is largest at a third of the way
    have hfactor : 0 ≤ 2 * (1 + 0x7759df / 2 ^ 23 - u) + 81 / 50 := by linarith
    nlinarith [mul_nonneg hfactor (sq_nonneg (u - 311 / 1000)), sq_nonneg (u - 311 / 1000)]

/-- The same for an odd exponent, as long as nothing is borrowed from the exponent. -/
theorem abs_quality_odd_le {u m : ℚ} (hlow : 0 ≤ u) (hhigh : u ≤ 0x3759df / 2 ^ 23)
    (hm : |m - 2 * u| ≤ 1 / 2 ^ 22) : |(1 + m) * (1 + 0x3759df / 2 ^ 23 - u) ^ 2 / 2 - 1| ≤ 141 / 2000 := by
  obtain ⟨hbelow, habove⟩ := abs_le.mp hm
  have hs : 0 < 1 + 0x3759df / 2 ^ 23 - u := by linarith
  have hsquare := sq_nonneg (1 + 0x3759df / 2 ^ 23 - u)
  have hbetween := mul_nonneg hlow (sub_nonneg.mpr hhigh)
  rw [abs_le]
  constructor
  · nlinarith [mul_nonneg hbetween hs.le]
  · have hfactor : 0 ≤ 2 * (1 + 0x3759df / 2 ^ 23 - u) + 1 := by linarith
    nlinarith [mul_nonneg hfactor (sq_nonneg (u - 1441 / 10000)), sq_nonneg (u - 1441 / 10000)]

theorem abs_quality_borrow_le {u m : ℚ} (hlow : 0x3759df / 2 ^ 23 ≤ u) (hhigh : u ≤ 1 / 2)
    (hm : |m - 2 * u| ≤ 1 / 2 ^ 22) : |(1 + m) * (2 + 0x3759df / 2 ^ 23 - u) ^ 2 / 8 - 1| ≤ 141 / 2000 := by
  obtain ⟨hbelow, habove⟩ := abs_le.mp hm
  have hs : 0 < 2 + 0x3759df / 2 ^ 23 - u := by linarith
  have hsquare := sq_nonneg (2 + 0x3759df / 2 ^ 23 - u)
  have hbetween := mul_nonneg (sub_nonneg.mpr hlow) (sub_nonneg.mpr hhigh)
  rw [abs_le]
  constructor <;> nlinarith [mul_nonneg hbetween hs.le]

/-- Half the pattern of a positive number: half the exponent beside half the
    fraction, rounded. -/
theorem exists_half {x : ℚ} (hx : 0 < x) :
    ∃ (e h : ℤ) (m : ℚ), x = (1 + m) * 2 ^ e ∧ 0 ≤ h ∧ h ≤ 2 ^ 22 ∧ |m - 2 * (h / 2 ^ 23)| ≤ 1 / 2 ^ 22 ∧
      toBits x >>> (1 : ℕ) = (e + 127) * 2 ^ 22 + h := by
  obtain ⟨m, hm0, hm1, hxm, hfraction⟩ := exists_fraction hx
  obtain ⟨hbelow, habove⟩ := abs_le.mp (roundEven_error (m * 2 ^ 23))
  have hbits : toBits x = (Int.log 2 x + 127) * 2 ^ 23 + roundEven (m * 2 ^ 23) := by
    unfold toBits
    rw [hfraction]
  have hshift : toBits x >>> (1 : ℕ) = toBits x / 2 := Int.shiftRight_eq_div_pow _ _
  generalize roundEven (m * 2 ^ 23) = r at hbelow habove hbits
  have hr0 : 0 ≤ r := by
    have hlt : (-1 : ℚ) < r := by linarith
    have hlt : -1 < r := by exact_mod_cast hlt
    omega
  have hr1 : r ≤ 2 ^ 23 := by
    have hlt : (r : ℚ) < 2 ^ 23 + 1 := by linarith
    have hlt : r < 2 ^ 23 + 1 := by exact_mod_cast hlt
    omega
  have hhalf : (2 * (r / 2 : ℤ) : ℚ) ≤ r ∧ (r : ℚ) ≤ 2 * (r / 2 : ℤ) + 1 := by
    have hdiv : 2 * (r / 2) ≤ r ∧ r ≤ 2 * (r / 2) + 1 := by omega
    exact_mod_cast hdiv
  refine ⟨Int.log 2 x, r / 2, m, hxm, by omega, by omega, ?_, ?_⟩
  · rw [abs_le]
    constructor <;> linarith [hhalf.1, hhalf.2]
  · rw [hshift, hbits]
    omega

/-- The quality of a guess by its exponent and its fraction. -/
theorem mul_ofBits_sq {x m : ℚ} {e exponent fraction : ℤ} (hx : x = (1 + m) * 2 ^ e) (hlow : 0 ≤ fraction)
    (hhigh : fraction < 2 ^ 23) :
    x * ofBits (exponent * 2 ^ 23 + fraction) ^ 2 =
      (1 + m) * (1 + fraction / 2 ^ 23) ^ 2 * 2 ^ (e + 2 * (exponent - 127)) := by
  have hpow : (2 : ℚ) ^ (e + 2 * (exponent - 127)) = 2 ^ e * (2 ^ (exponent - 127)) ^ 2 := by
    rw [zpow_add₀ (by norm_num), mul_comm 2 (exponent - 127), zpow_mul]
    norm_cast
  rw [ofBits_eq hlow hhigh, hpow]
  nth_rewrite 1 [hx]
  ring

/-- The guess is off by at most about seven hundredths. -/
theorem abs_guess_quality_le {x : ℚ} (hx : 0 < x) : |x * guess 0x5f3759df x ^ 2 - 1| ≤ 141 / 2000 := by
  obtain ⟨e, h, m, hxm, hh0, hh1, hline, hshift⟩ := exists_half hx
  have hu0 : (0 : ℚ) ≤ h / 2 ^ 23 := div_nonneg (by exact_mod_cast hh0) (by norm_num)
  have hu1 : (h : ℚ) / 2 ^ 23 ≤ 1 / 2 := by
    have hle : (h : ℚ) ≤ 2 ^ 22 := by exact_mod_cast hh1
    rw [div_le_iff₀ (by norm_num)]
    linarith
  unfold guess
  rw [hshift]
  obtain ⟨p, rfl | rfl⟩ := Int.even_or_odd' e
  · have hpattern : 0x5f3759df - ((2 * p + 127) * 2 ^ 22 + h) = (126 - p) * 2 ^ 23 + (0x7759df - h) := by ring
    have hpow : 2 * p + 2 * (126 - p - 127) = -2 := by ring
    have hquality := abs_quality_even_le hu0 hu1 hline
    rw [hpattern, mul_ofBits_sq hxm (by omega) (by omega), hpow]
    convert hquality using 2
    push_cast
    ring
  · by_cases hborrow : h ≤ 0x3759df
    · have hpattern : 0x5f3759df - ((2 * p + 1 + 127) * 2 ^ 22 + h) = (126 - p) * 2 ^ 23 + (0x3759df - h) := by ring
      have hpow : 2 * p + 1 + 2 * (126 - p - 127) = -1 := by ring
      have hu : (h : ℚ) / 2 ^ 23 ≤ 0x3759df / 2 ^ 23 :=
        div_le_div_of_nonneg_right (by exact_mod_cast hborrow) (by norm_num)
      have hquality := abs_quality_odd_le hu0 hu hline
      rw [hpattern, mul_ofBits_sq hxm (by omega) (by omega), hpow]
      convert hquality using 2
      push_cast
      ring
    · have hpattern : 0x5f3759df - ((2 * p + 1 + 127) * 2 ^ 22 + h) =
          (125 - p) * 2 ^ 23 + (2 ^ 23 + 0x3759df - h) := by ring
      have hpow : 2 * p + 1 + 2 * (125 - p - 127) = -3 := by ring
      have hu : 0x3759df / 2 ^ 23 ≤ (h : ℚ) / 2 ^ 23 :=
        div_le_div_of_nonneg_right (by exact_mod_cast (not_le.mp hborrow).le) (by norm_num)
      have hquality := abs_quality_borrow_le hu hu1 hline
      rw [hpattern, mul_ofBits_sq hxm (by omega) (by omega), hpow]
      convert hquality using 2
      push_cast
      ring

theorem guess_pos (magic : ℤ) (x : ℚ) : 0 < guess magic x := ofBits_pos _

/-- After one step of the iteration the result is below the inverse root, by less
    than two thousandths of it. -/
theorem newton_guess_bounds {x : ℚ} (hx : 0 < x) :
    0 < newton x (guess 0x5f3759df x) ∧ 249 / 250 ≤ x * newton x (guess 0x5f3759df x) ^ 2 ∧
      x * newton x (guess 0x5f3759df x) ^ 2 ≤ 1 := by
  have hquality := abs_guess_quality_le hx
  obtain ⟨_, habove⟩ := abs_le.mp hquality
  refine ⟨newton_pos (guess_pos _ x) (by linarith), ?_, mul_newton_sq_le (by linarith)⟩
  exact le_trans (by norm_num) (le_mul_newton_sq hquality)

end inverse_sqrt
