import CopterOS.Lib.Run
import Mathlib.Algebra.Order.Ring.Int
import Mathlib.Tactic.Linarith
import Mathlib.Tactic.Ring

open transition

namespace low_pass

/-- A first-order low-pass filter in fixed-point arithmetic. Stored values are
    scaled samples, and a fraction `gain / scale` of the floored difference is
    added in each step. -/
structure Filter where
  scale : ℤ
  gain : ℤ
  gain_pos : 0 < gain
  gain_le : gain ≤ scale

namespace Filter

/-- The number of whole samples from the stored value up to a new one. -/
def difference (filter : Filter) (stored sample : ℤ) : ℤ := (filter.scale * sample - stored) / filter.scale

def next (filter : Filter) (stored sample : ℤ) : ℤ := stored + filter.difference stored sample * filter.gain

theorem scale_pos (filter : Filter) : 0 < filter.scale := filter.gain_pos.trans_le filter.gain_le

theorem difference_bounds (filter : Filter) (stored sample : ℤ) :
    filter.scale * filter.difference stored sample ≤ filter.scale * sample - stored ∧
      filter.scale * sample - stored < filter.scale * (filter.difference stored sample + 1) := by
  have hpos := filter.scale_pos
  have hdiv := Int.mul_ediv_add_emod (filter.scale * sample - stored) filter.scale
  have hlow := Int.emod_nonneg (filter.scale * sample - stored) hpos.ne'
  have hhigh := Int.emod_lt_of_pos (filter.scale * sample - stored) hpos
  unfold difference
  rw [mul_add, mul_one]
  constructor <;> linarith

theorem difference_eq_iff (filter : Filter) (stored sample whole : ℤ) :
    filter.difference stored sample = whole ↔
      filter.scale * whole ≤ filter.scale * sample - stored ∧
        filter.scale * sample - stored < filter.scale * (whole + 1) := by
  constructor
  · rintro rfl
    exact filter.difference_bounds stored sample
  · rintro ⟨hlow, hhigh⟩
    obtain ⟨hfloor, hceil⟩ := filter.difference_bounds stored sample
    have hle := lt_of_mul_lt_mul_left (hfloor.trans_lt hhigh) filter.scale_pos.le
    have hge := lt_of_mul_lt_mul_left (hlow.trans_lt hceil) filter.scale_pos.le
    omega

/-- From below the filter neither falls nor passes the sample. -/
theorem next_of_le {filter : Filter} {stored sample : ℤ} (hbelow : stored ≤ filter.scale * sample) :
    stored ≤ filter.next stored sample ∧ filter.next stored sample ≤ filter.scale * sample := by
  have hdifference : 0 ≤ filter.difference stored sample :=
    Int.ediv_nonneg (by linarith) filter.scale_pos.le
  have hstep : filter.difference stored sample * filter.gain ≤ filter.difference stored sample * filter.scale :=
    mul_le_mul_of_nonneg_left filter.gain_le hdifference
  have hrise : 0 ≤ filter.difference stored sample * filter.gain :=
    mul_nonneg hdifference filter.gain_pos.le
  obtain ⟨hfloor, _⟩ := filter.difference_bounds stored sample
  unfold next
  constructor <;> linarith

/-- From above it falls, and by less than its gain below the sample. -/
theorem next_of_lt {filter : Filter} {stored sample : ℤ} (habove : filter.scale * sample < stored) :
    filter.next stored sample < stored ∧
      filter.scale * sample - filter.gain < filter.next stored sample := by
  have hdifference : filter.difference stored sample + 1 ≤ 0 := by
    have hneg : filter.difference stored sample < 0 :=
      Int.ediv_neg_of_neg_of_pos (by linarith) filter.scale_pos
    omega
  have hstep : (filter.difference stored sample + 1) * filter.scale ≤
      (filter.difference stored sample + 1) * filter.gain :=
    mul_le_mul_of_nonpos_left filter.gain_le hdifference
  have hfall : (filter.difference stored sample + 1) * filter.gain ≤ 0 :=
    mul_nonpos_of_nonpos_of_nonneg hdifference filter.gain_pos.le
  have hpos := filter.gain_pos
  obtain ⟨_, hceil⟩ := filter.difference_bounds stored sample
  rw [add_mul, one_mul] at hstep hfall
  unfold next
  constructor <;> linarith

/-- The filter rests just below the sample. -/
theorem next_eq_iff (filter : Filter) (stored sample : ℤ) :
    filter.next stored sample = stored ↔
      stored ≤ filter.scale * sample ∧ filter.scale * sample < stored + filter.scale := by
  have hrest : filter.next stored sample = stored ↔ filter.difference stored sample = 0 := by
    unfold next
    rw [add_eq_left, mul_eq_zero, or_iff_left filter.gain_pos.ne']
  rw [hrest]
  obtain ⟨hfloor, hceil⟩ := filter.difference_bounds stored sample
  constructor
  · intro hzero
    rw [hzero] at hfloor hceil
    constructor <;> linarith
  · rintro ⟨hle, hlt⟩
    exact Int.ediv_eq_zero_of_lt (by linarith) (by linarith)

theorem gain_dvd_next {filter : Filter} {stored : ℤ} (hdvd : filter.gain ∣ stored) (sample : ℤ) :
    filter.gain ∣ filter.next stored sample :=
  Int.dvd_add hdvd (Dvd.intro_left _ rfl)

/-- The stored values that samples between two bounds can lead to. -/
def Within (filter : Filter) (low high stored : ℤ) : Prop :=
  filter.scale * low - filter.gain < stored ∧ stored ≤ filter.scale * high

theorem Within.next {filter : Filter} {low high stored sample : ℤ} (hwithin : filter.Within low high stored)
    (hlow : low ≤ sample) (hhigh : sample ≤ high) : filter.Within low high (filter.next stored sample) := by
  obtain ⟨hover, hunder⟩ := hwithin
  have hscaleLow : filter.scale * low ≤ filter.scale * sample :=
    mul_le_mul_of_nonneg_left hlow filter.scale_pos.le
  have hscaleHigh : filter.scale * sample ≤ filter.scale * high :=
    mul_le_mul_of_nonneg_left hhigh filter.scale_pos.le
  obtain hbelow | habove := le_or_gt stored (filter.scale * sample)
  · obtain ⟨hrise, hstop⟩ := next_of_le hbelow
    constructor <;> linarith
  · obtain ⟨hfall, hstop⟩ := next_of_lt habove
    constructor <;> linarith

/-- Wider bounds allow more. -/
theorem Within.mono {filter : Filter} {low low' high high' stored : ℤ} (hwithin : filter.Within low high stored)
    (hlow : low' ≤ low) (hhigh : high ≤ high') : filter.Within low' high' stored := by
  obtain ⟨hover, hunder⟩ := hwithin
  have hscaleLow : filter.scale * low' ≤ filter.scale * low :=
    mul_le_mul_of_nonneg_left hlow filter.scale_pos.le
  have hscaleHigh : filter.scale * high ≤ filter.scale * high' :=
    mul_le_mul_of_nonneg_left hhigh filter.scale_pos.le
  constructor <;> linarith

/-- How far the multiples of the gain miss the lowest sample. -/
def residue (filter : Filter) (low : ℤ) : ℤ := filter.scale * low % filter.gain

/-- The highest multiple of the gain that is not above the lowest sample. -/
def bottom (filter : Filter) (low : ℤ) : ℤ := filter.scale * low - filter.residue low

theorem residue_nonneg (filter : Filter) (low : ℤ) : 0 ≤ filter.residue low :=
  Int.emod_nonneg _ filter.gain_pos.ne'

theorem residue_lt (filter : Filter) (low : ℤ) : filter.residue low < filter.gain :=
  Int.emod_lt_of_pos _ filter.gain_pos

theorem gain_dvd_bottom (filter : Filter) (low : ℤ) : filter.gain ∣ filter.bottom low :=
  Int.dvd_self_sub_emod

/-- No stored value is between the bottom and the lowest sample. -/
theorem eq_bottom_or_lt {filter : Filter} {stored low : ℤ} (hdvd : filter.gain ∣ stored)
    (hover : filter.scale * low - filter.gain < stored) :
    stored = filter.bottom low ∨ filter.scale * low < stored := by
  have hresidue := filter.residue_nonneg low
  have hgain := filter.residue_lt low
  obtain ⟨count, hcount⟩ := Int.dvd_sub hdvd (filter.gain_dvd_bottom low)
  have hbottom : filter.bottom low = filter.scale * low - filter.residue low := rfl
  have hpositive : -1 < count := by
    apply lt_of_mul_lt_mul_left _ filter.gain_pos.le
    linarith
  obtain hzero | hone : count = 0 ∨ 1 ≤ count := by omega
  · rw [hzero, mul_zero] at hcount
    exact .inl (sub_eq_zero.mp hcount)
  · have hstep := mul_le_mul_of_nonneg_left hone filter.gain_pos.le
    right
    linarith

/-- A sample above the lowest one leads above it. -/
theorem lt_next_of_lt {filter : Filter} {stored sample low : ℤ} (hdvd : filter.gain ∣ stored)
    (hover : filter.scale * low - filter.gain < stored) (hsample : low < sample) :
    filter.scale * low < filter.next stored sample := by
  have hscale : filter.scale * (low + 1) ≤ filter.scale * sample :=
    mul_le_mul_of_nonneg_left hsample filter.scale_pos.le
  rw [mul_add, mul_one] at hscale
  have hgain := filter.gain_le
  obtain hbelow | habove := le_or_gt stored (filter.scale * sample)
  · obtain ⟨hrise, _⟩ := next_of_le hbelow
    obtain rfl | hlow := eq_bottom_or_lt hdvd hover
    · have hnext := gain_dvd_next hdvd sample
      obtain hsame | hlt := eq_bottom_or_lt hnext (hover.trans_le hrise)
      · have hresidue := filter.residue_nonneg low
        have hbottom : filter.bottom low = filter.scale * low - filter.residue low := rfl
        have hrest := (filter.next_eq_iff _ _).mp hsame
        linarith
      · exact hlt
    · exact hlow.trans_le hrise
  · obtain ⟨_, hstop⟩ := next_of_lt habove
    linarith

/-- The bottom is reached from where the fall is just as many whole samples as
    gains. -/
theorem next_low_eq_bottom_iff {filter : Filter} {stored low : ℤ} (hdvd : filter.gain ∣ stored)
    (hover : filter.scale * low - filter.gain < stored) :
    filter.next stored low = filter.bottom low ↔
      (stored - filter.bottom low) * (filter.scale - filter.gain) <
        filter.gain * (filter.scale - filter.residue low) := by
  have hresidue := filter.residue_nonneg low
  have hpos := filter.gain_pos
  have hbottom : filter.bottom low = filter.scale * low - filter.residue low := rfl
  obtain ⟨count, hcount⟩ := Int.dvd_sub hdvd (filter.gain_dvd_bottom low)
  have hnonneg : 0 ≤ count := by
    have hlt := filter.residue_lt low
    have hless : -1 < count := by
      apply lt_of_mul_lt_mul_left _ hpos.le
      linarith
    omega
  have hnext : filter.next stored low = filter.bottom low ↔ filter.difference stored low = -count := by
    have hsum : filter.next stored low - filter.bottom low =
        filter.gain * (filter.difference stored low + count) := by
      unfold next
      rw [mul_add, ← hcount]
      ring
    rw [← sub_eq_zero, hsum, mul_eq_zero, or_iff_right hpos.ne', add_eq_zero_iff_eq_neg]
  have hsmall : 0 ≤ count * (filter.scale - filter.gain) :=
    mul_nonneg hnonneg (by linarith [filter.gain_le])
  rw [hnext, difference_eq_iff, hcount, mul_assoc, mul_lt_mul_iff_right₀ hpos]
  constructor
  · rintro ⟨_, hhigh⟩
    linarith
  · intro hless
    constructor <;> linarith

/-- How far the stored value is from the place where it rests. Once it has come
    down below the sample it rests at once, however far it went. -/
def distance (filter : Filter) (sample stored : ℤ) : ℕ :=
  if stored ≤ filter.scale * sample ∧ filter.scale * sample < stored + filter.scale then 0
  else (filter.scale * sample - stored).natAbs

theorem next_eq_or_distance_lt (filter : Filter) (stored sample : ℤ) :
    filter.next stored sample = stored ∨
      filter.distance sample (filter.next stored sample) < filter.distance sample stored := by
  by_cases hrest : stored ≤ filter.scale * sample ∧ filter.scale * sample < stored + filter.scale
  · exact .inl ((filter.next_eq_iff stored sample).mpr hrest)
  · right
    have hmoves := mt (filter.next_eq_iff stored sample).mp hrest
    have hgain := filter.gain_le
    have hpos := filter.gain_pos
    unfold distance
    rw [if_neg hrest]
    obtain hbelow | habove := le_or_gt stored (filter.scale * sample)
    · obtain ⟨hrise, hstop⟩ := next_of_le hbelow
      split <;> omega
    · obtain ⟨hfall, hstop⟩ := next_of_lt habove
      split <;> omega

/-- Under a constant sample the filter settles. -/
theorem settles (filter : Filter) (stored sample : ℤ) :
    ∃ n, filter.next (run filter.next stored (List.replicate n sample)) sample =
      run filter.next stored (List.replicate n sample) :=
  run_replicate_settles (filter.distance sample) (fun state => filter.next_eq_or_distance_lt state sample) stored

end Filter

end low_pass
