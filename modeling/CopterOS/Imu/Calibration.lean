import CopterOS.Imu
import Mathlib.Algebra.Order.Chebyshev

open ring_buffer latch transition number

namespace copter.imu

/-- The buffer as a ring. -/
def BiasObj.ring (bias : BiasObj) : Ring IMU_NBR_OF_BIAS_SAMPLES Axis3i16 := ⟨bias.buffer, bias.bufHead⟩

/-- One axis of a sample, as an integer. -/
def reading (axis : Axis) (sample : Axis3i16) : ℤ := (sample.get axis).toInt

def total (axis : Axis) (samples : List Axis3i16) : ℤ := (samples.map (reading axis)).sum

def totalSq (axis : Axis) (samples : List Axis3i16) : ℤ :=
  (samples.map fun sample => reading axis sample * reading axis sample).sum

/-- The energy of one axis over 128 samples, in exact integers. -/
def energy (axis : Axis) (samples : List Axis3i16) : ℤ :=
  totalSq axis samples - total axis samples * total axis samples / 128

/-- The truncated mean of one axis over 128 samples, in exact integers. -/
def mean (samples : List Axis3i16) (axis : Axis) : ℤ := (total axis samples).tdiv 128

/-- The last 128 samples. -/
def window (reads : List Read) : List Axis3i16 := (reads.map Read.gyroMpu).rtake IMU_NBR_OF_BIAS_SAMPLES

/-- The time of the last calibration starts at `-GYRO_MIN_BIAS_TIMEOUT_MS + 1`, so
    that the timeout has passed after tick 1. -/
def MinBiasTimePassed (reads : List Read) : Prop := ∃ read ∈ reads.getLast?, 1 < read.tick

/-- At the last of the reads the copter is at rest. -/
def AtRest (reads : List Read) : Prop :=
  IMU_NBR_OF_BIAS_SAMPLES ≤ reads.length ∧ (∀ axis, energy axis (window reads) < 2000) ∧ MinBiasTimePassed reads

/-- A number whose 32-bit field is below the threshold. -/
def BelowInField (n : ℤ) : Prop := n % 2 ^ 32 < 2000 ∨ 2 ^ 31 ≤ n % 2 ^ 32

/-- At the last of the reads the energies are below the threshold after wrapping. -/
def PassesWrapped (reads : List Read) : Prop :=
  IMU_NBR_OF_BIAS_SAMPLES ≤ reads.length ∧ (∀ axis, BelowInField (energy axis (window reads))) ∧
    MinBiasTimePassed reads

instance (reads : List Read) : Decidable (MinBiasTimePassed reads) :=
  inferInstanceAs (Decidable (∃ read ∈ reads.getLast?, 1 < read.tick))

instance (reads : List Read) : Decidable (AtRest reads) :=
  inferInstanceAs (Decidable (_ ∧ _ ∧ _))

instance (n : ℤ) : Decidable (BelowInField n) :=
  inferInstanceAs (Decidable (_ ∨ _))

instance (reads : List Read) : Decidable (PassesWrapped reads) :=
  inferInstanceAs (Decidable (_ ∧ _ ∧ _))

/-- The unit after a sequence of reads from its initialization on. -/
def imuAfter (CONFIG_TICK_RATE_HZ : ℕ) (reads : List Read) : Imu :=
  run (fun imu read => (imu6Read CONFIG_TICK_RATE_HZ read imu).2) (imu6Init CONFIG_TICK_RATE_HZ imu0) reads

/-- The bias once it is found. -/
def calibration (imu : Imu) : Option (Axis → ℤ) :=
  if imu6IsCalibrated imu then some fun axis => reading axis imu.gyroBias.bias else none

/-- After every read the calibration is the mean of the first window at rest. -/
def Calibrates (CONFIG_TICK_RATE_HZ : ℕ) (reads : List Read) : Prop :=
  ∀ before, before <+: reads →
    calibration (imuAfter CONFIG_TICK_RATE_HZ before) =
      (firstPrefix (fun first => decide (AtRest first)) before).map fun first => mean (window first)

theorem ring_imuAddBiasValue (bias : BiasObj) (dVal : Axis3i16) :
    (imuAddBiasValue dVal bias).ring = bias.ring.push dVal := by
  unfold imuAddBiasValue BiasObj.ring Ring.push next
  dsimp only
  split <;> rfl

theorem reading_bounds (axis : Axis) (sample : Axis3i16) :
    -2 ^ 15 ≤ reading axis sample ∧ reading axis sample < 2 ^ 15 :=
  ⟨Int16.le_toInt _, Int16.toInt_lt _⟩

theorem reading_mul_self_bounds (axis : Axis) (sample : Axis3i16) :
    0 ≤ reading axis sample * reading axis sample ∧ reading axis sample * reading axis sample ≤ 2 ^ 30 := by
  obtain ⟨hlow, hhigh⟩ := reading_bounds axis sample
  constructor <;> nlinarith

/-- A bounded quantity summed over the buffer. -/
theorem sum_buffer_bounds {term : Fin IMU_NBR_OF_BIAS_SAMPLES → ℤ} {low high : ℤ}
    (hterm : ∀ i, low ≤ term i ∧ term i ≤ high) : 128 * low ≤ ∑ i, term i ∧ ∑ i, term i ≤ 128 * high := by
  have hlow := Finset.card_nsmul_le_sum Finset.univ term low (fun i _ => (hterm i).1)
  have hhigh := Finset.sum_le_card_nsmul Finset.univ term high (fun i _ => (hterm i).2)
  rw [Finset.card_univ, Fintype.card_fin, nsmul_eq_mul] at hlow hhigh
  exact ⟨by exact_mod_cast hlow, by exact_mod_cast hhigh⟩

theorem sum_reading_bounds (bias : BiasObj) (axis : Axis) :
    -2 ^ 22 ≤ ∑ i, reading axis (bias.buffer i) ∧ ∑ i, reading axis (bias.buffer i) ≤ 2 ^ 22 - 128 := by
  have hterm : ∀ i, -2 ^ 15 ≤ reading axis (bias.buffer i) ∧ reading axis (bias.buffer i) ≤ 2 ^ 15 - 1 := by
    intro i
    have hsample := reading_bounds axis (bias.buffer i)
    omega
  have hsum := sum_buffer_bounds hterm
  omega

theorem sum_toInt (bias : BiasObj) (axis : Axis) :
    (bias.sum axis).toInt = ∑ i, reading axis (bias.buffer i) := by
  obtain ⟨hlow, hhigh⟩ := sum_reading_bounds bias axis
  unfold BiasObj.sum
  rw [toInt_foldl_int32]
  simp only [Int16.toInt_toInt32, Int32.toInt_zero, zero_add]
  change Int.bmod ((List.finRange IMU_NBR_OF_BIAS_SAMPLES).map fun i => reading axis (bias.buffer i)).sum _ = _
  rw [← Fin.sum_univ_def]
  exact Int.bmod_eq_of_le (by omega) (by omega)

theorem sum_reading_mul_self_bounds (bias : BiasObj) (axis : Axis) :
    0 ≤ ∑ i, reading axis (bias.buffer i) * reading axis (bias.buffer i) ∧
      ∑ i, reading axis (bias.buffer i) * reading axis (bias.buffer i) ≤ 2 ^ 37 := by
  have hbounds := sum_buffer_bounds (fun i => reading_mul_self_bounds axis (bias.buffer i))
  omega

theorem sumSq_toInt (bias : BiasObj) (axis : Axis) :
    (bias.sumSq axis).toInt = ∑ i, reading axis (bias.buffer i) * reading axis (bias.buffer i) := by
  obtain ⟨hlow, hhigh⟩ := sum_reading_mul_self_bounds bias axis
  have hterm : ∀ i, ((((bias.buffer i).get axis).toInt32 * ((bias.buffer i).get axis).toInt32).toInt64).toInt =
      reading axis (bias.buffer i) * reading axis (bias.buffer i) := by
    intro i
    obtain ⟨hnonneg, hsmall⟩ := reading_mul_self_bounds axis (bias.buffer i)
    rw [Int32.toInt_toInt64, Int32.toInt_mul, Int16.toInt_toInt32]
    exact Int.bmod_eq_of_le (by unfold reading at *; omega) (by unfold reading at *; omega)
  unfold BiasObj.sumSq
  rw [toInt_foldl_int64]
  simp only [hterm, Int64.toInt_zero, zero_add]
  rw [← Fin.sum_univ_def]
  exact Int.bmod_eq_of_le (by omega) (by omega)

/-- The samples of a full buffer are the last ones that were added. -/
structure Fed (bias : BiasObj) (samples : List Axis3i16) : Prop where
  ring : bias.ring.Holds samples
  isBufferFilled : bias.isBufferFilled = true ↔ IMU_NBR_OF_BIAS_SAMPLES ≤ samples.length

theorem Fed.imuAddBiasValue {bias : BiasObj} {samples : List Axis3i16} (hfed : Fed bias samples)
    (dVal : Axis3i16) : Fed (imuAddBiasValue dVal bias) (samples ++ [dVal]) where
  ring := by
    rw [ring_imuAddBiasValue]
    exact hfed.ring.push dVal
  isBufferFilled := by
    have hhead : bias.bufHead.val = samples.length % 128 := hfed.ring.head
    have hfilled : bias.isBufferFilled = true ↔ 128 ≤ samples.length := hfed.isBufferFilled
    rw [List.length_append, List.length_singleton]
    unfold copter.imu.imuAddBiasValue
    dsimp only
    split
    case isTrue hroom =>
      have hnext : bias.bufHead.val + 1 < 128 := hroom
      change bias.isBufferFilled = true ↔ 128 ≤ samples.length + 1
      rw [hfilled]
      omega
    case isFalse hroom =>
      have hnext : ¬ bias.bufHead.val + 1 < 128 := hroom
      change true = true ↔ 128 ≤ samples.length + 1
      exact ⟨fun _ => by omega, fun _ => rfl⟩

/-- The sums over a full buffer are those over the last 128 samples. -/
theorem Fed.total {bias : BiasObj} {samples : List Axis3i16} (hfed : Fed bias samples)
    (hfull : IMU_NBR_OF_BIAS_SAMPLES ≤ samples.length) (axis : Axis) :
    ∑ i, reading axis (bias.buffer i) = total axis (samples.rtake IMU_NBR_OF_BIAS_SAMPLES) :=
  hfed.ring.sum hfull (reading axis)

theorem Fed.totalSq {bias : BiasObj} {samples : List Axis3i16} (hfed : Fed bias samples)
    (hfull : IMU_NBR_OF_BIAS_SAMPLES ≤ samples.length) (axis : Axis) :
    ∑ i, reading axis (bias.buffer i) * reading axis (bias.buffer i) =
      totalSq axis (samples.rtake IMU_NBR_OF_BIAS_SAMPLES) :=
  hfed.ring.sum hfull fun sample => reading axis sample * reading axis sample

/-- By the inequality of Cauchy no energy is negative. -/
theorem Fed.energy_nonneg {bias : BiasObj} {samples : List Axis3i16} (hfed : Fed bias samples)
    (hfull : IMU_NBR_OF_BIAS_SAMPLES ≤ samples.length) (axis : Axis) :
    0 ≤ energy axis (samples.rtake IMU_NBR_OF_BIAS_SAMPLES) := by
  have hcauchy := sq_sum_le_card_mul_sum_sq (s := Finset.univ) (f := fun i => reading axis (bias.buffer i))
  simp only [Finset.card_univ, Fintype.card_fin, sq] at hcauchy
  rw [hfed.totalSq hfull axis, hfed.total hfull axis] at hcauchy
  unfold energy
  push_cast at hcauchy
  omega

/-- The field of the variance holds the energy up to wrapping. -/
theorem Fed.varOut {bias : BiasObj} {samples : List Axis3i16} (hfed : Fed bias samples)
    (hfull : IMU_NBR_OF_BIAS_SAMPLES ≤ samples.length) (axis : Axis) :
    (bias.varOut axis).toInt = (energy axis (samples.rtake IMU_NBR_OF_BIAS_SAMPLES)).bmod (2 ^ 32) := by
  obtain ⟨hsumLow, hsumHigh⟩ := sum_reading_bounds bias axis
  have hsquare : ((bias.sum axis).toInt64 * (bias.sum axis).toInt64).toInt =
      (∑ i, reading axis (bias.buffer i)) * ∑ i, reading axis (bias.buffer i) := by
    rw [Int64.toInt_mul, Int32.toInt_toInt64, sum_toInt]
    have hbound : (∑ i, reading axis (bias.buffer i)) * ∑ i, reading axis (bias.buffer i) ≤ 2 ^ 44 := by
      nlinarith
    have hnonneg := mul_self_nonneg (∑ i, reading axis (bias.buffer i))
    exact Int.bmod_eq_of_le (by omega) (by omega)
  have hquotient : ((bias.sum axis).toInt64 * (bias.sum axis).toInt64 / 128).toInt =
      (∑ i, reading axis (bias.buffer i)) * (∑ i, reading axis (bias.buffer i)) / 128 := by
    rw [Int64.toInt_div_of_ne_right _ _ (by decide), hsquare]
    exact Int.tdiv_eq_ediv_of_nonneg (mul_self_nonneg _)
  unfold BiasObj.varOut
  rw [Int64.toInt_toInt32, Int64.toInt_sub, sumSq_toInt, hquotient, hfed.total hfull, hfed.totalSq hfull]
  exact Int.bmod_bmod_of_dvd (Nat.pow_dvd_pow 2 (by decide))

/-- The mean fits the field of the bias. -/
theorem Fed.meanOut {bias : BiasObj} {samples : List Axis3i16} (hfed : Fed bias samples)
    (hfull : IMU_NBR_OF_BIAS_SAMPLES ≤ samples.length) (axis : Axis) :
    (bias.meanOut axis).toInt16.toInt = mean (samples.rtake IMU_NBR_OF_BIAS_SAMPLES) axis := by
  have hbounds := sum_reading_bounds bias axis
  unfold BiasObj.meanOut
  rw [Int32.toInt_toInt16, Int32.toInt_div_of_ne_right _ _ (by decide), sum_toInt]
  rw [hfed.total hfull] at hbounds ⊢
  have hdiv := Int.mul_tdiv_add_tmod (copter.imu.total axis (samples.rtake IMU_NBR_OF_BIAS_SAMPLES)) 128
  have hlow := Int.lt_tmod_of_pos (copter.imu.total axis (samples.rtake IMU_NBR_OF_BIAS_SAMPLES))
    (b := 128) (by omega)
  have hhigh := Int.tmod_lt_of_pos (copter.imu.total axis (samples.rtake IMU_NBR_OF_BIAS_SAMPLES))
    (b := 128) (by omega)
  change Int.bmod (Int.tdiv _ 128) _ = Int.tdiv _ 128
  exact Int.bmod_eq_of_le (by omega) (by omega)

/-- A field is below the threshold as its number says. -/
theorem bmod_lt_iff (n : ℤ) : n.bmod (2 ^ 32) < 2000 ↔ BelowInField n := by
  unfold BelowInField
  rw [Int.bmod_def]
  split <;> omega

theorem belowInField_of_lt {n : ℤ} (hlow : 0 ≤ n) (hhigh : n < 2000) : BelowInField n := by
  unfold BelowInField
  omega

theorem toUInt32_varianceSampleTime (CONFIG_TICK_RATE_HZ : ℕ) :
    ((-GYRO_MIN_BIAS_TIMEOUT_MS CONFIG_TICK_RATE_HZ + 1).toInt32).toUInt32 +
      GYRO_MIN_BIAS_TIMEOUT_MS CONFIG_TICK_RATE_HZ = 1 := by
  rw [UInt32.toUInt32_toInt32]
  grind

/-- The comparison of a variance with its threshold. -/
theorem Fed.varOut_lt_iff {bias : BiasObj} {reads : List Read} (hfed : Fed bias (reads.map Read.gyroMpu))
    (hfull : IMU_NBR_OF_BIAS_SAMPLES ≤ reads.length) (axis : Axis) :
    bias.varOut axis < GYRO_VARIANCE_BASE ↔ BelowInField (energy axis (window reads)) := by
  rw [Int32.lt_iff_toInt_lt, hfed.varOut (by rwa [List.length_map]), ← bmod_lt_iff]
  rfl

theorem minBiasTimePassed_concat_iff (reads : List Read) (read : Read) :
    MinBiasTimePassed (reads ++ [read]) ↔ 1 < read.tick := by
  simp [MinBiasTimePassed]

/-- The condition of the search over a unit whose time still is the initial one. -/
theorem passesWrapped_iff {CONFIG_TICK_RATE_HZ : ℕ} {reads : List Read} {read : Read} {imu : Imu}
    (hfed : Fed imu.gyroBias ((reads ++ [read]).map Read.gyroMpu))
    (htime : imu.varianceSampleTime = (-GYRO_MIN_BIAS_TIMEOUT_MS CONFIG_TICK_RATE_HZ + 1).toInt32) :
    PassesWrapped (reads ++ [read]) ↔
      imu.gyroBias.isBufferFilled = true ∧ imu.gyroBias.varOut .x < GYRO_VARIANCE_THRESHOLD_X ∧
        imu.gyroBias.varOut .y < GYRO_VARIANCE_THRESHOLD_Y ∧
        imu.gyroBias.varOut .z < GYRO_VARIANCE_THRESHOLD_Z ∧
        imu.varianceSampleTime.toUInt32 + GYRO_MIN_BIAS_TIMEOUT_MS CONFIG_TICK_RATE_HZ < read.tick := by
  unfold PassesWrapped
  rw [hfed.isBufferFilled, List.length_map, Axis.forall_iff, minBiasTimePassed_concat_iff, htime,
    toUInt32_varianceSampleTime, and_assoc, and_assoc]
  refine and_congr_right fun hfull => ?_
  exact and_congr (hfed.varOut_lt_iff hfull .x).symm (and_congr (hfed.varOut_lt_iff hfull .y).symm
    (and_congr_left fun _ => (hfed.varOut_lt_iff hfull .z).symm))

/-- A search that succeeds keeps the samples and latches their mean. -/
theorem imuFindBiasValue_of_passes {CONFIG_TICK_RATE_HZ : ℕ} {reads : List Read} {read : Read} {imu : Imu}
    (hfed : Fed imu.gyroBias ((reads ++ [read]).map Read.gyroMpu))
    (htime : imu.varianceSampleTime = (-GYRO_MIN_BIAS_TIMEOUT_MS CONFIG_TICK_RATE_HZ + 1).toInt32)
    (hpasses : PassesWrapped (reads ++ [read])) :
    Fed (imuFindBiasValue CONFIG_TICK_RATE_HZ read imu).2.gyroBias ((reads ++ [read]).map Read.gyroMpu) ∧
      calibration (imuFindBiasValue CONFIG_TICK_RATE_HZ read imu).2 =
        some (mean (window (reads ++ [read]))) := by
  obtain ⟨hfilled, hthresholds⟩ := (passesWrapped_iff hfed htime).mp hpasses
  have hfull := hfed.isBufferFilled.mp hfilled
  simp only [imuFindBiasValue, hfilled, if_true, imuCalculateVarianceAndMean, if_pos hthresholds]
  refine ⟨⟨hfed.ring, fun _ => hfull, fun _ => rfl⟩, ?_⟩
  simp only [calibration, imu6IsCalibrated, if_true, Option.some.injEq]
  funext axis
  rw [window, ← hfed.meanOut hfull axis]
  cases axis <;> rfl

/-- One that fails changes neither the samples nor the time. -/
theorem imuFindBiasValue_of_not_passes {CONFIG_TICK_RATE_HZ : ℕ} {reads : List Read} {read : Read} {imu : Imu}
    (hfed : Fed imu.gyroBias ((reads ++ [read]).map Read.gyroMpu))
    (htime : imu.varianceSampleTime = (-GYRO_MIN_BIAS_TIMEOUT_MS CONFIG_TICK_RATE_HZ + 1).toInt32)
    (hfails : ¬ PassesWrapped (reads ++ [read])) :
    (imuFindBiasValue CONFIG_TICK_RATE_HZ read imu).2.gyroBias = imu.gyroBias ∧
      (imuFindBiasValue CONFIG_TICK_RATE_HZ read imu).2.varianceSampleTime = imu.varianceSampleTime := by
  unfold imuFindBiasValue
  dsimp only [imuCalculateVarianceAndMean]
  split
  case isTrue hfilled =>
    rw [if_neg (fun hthresholds => hfails ((passesWrapped_iff hfed htime).mpr ⟨hfilled, hthresholds⟩))]
    exact ⟨rfl, rfl⟩
  case isFalse => exact ⟨rfl, rfl⟩

theorem calibration_eq_none_iff (imu : Imu) : calibration imu = none ↔ imu6IsCalibrated imu = false := by
  unfold calibration
  split <;> simp_all

theorem isBiasValueFound_imuAddBiasValue (dVal : Axis3i16) (bias : BiasObj) :
    (imuAddBiasValue dVal bias).isBiasValueFound = bias.isBiasValueFound := by
  unfold imuAddBiasValue
  dsimp only
  split <;> rfl

/-- A new sample changes no calibration. -/
theorem calibration_imuAddBiasValue (imu : Imu) (dVal : Axis3i16) :
    calibration { imu with gyroBias := imuAddBiasValue dVal imu.gyroBias } = calibration imu := by
  unfold calibration imu6IsCalibrated imuAddBiasValue
  dsimp only
  split <;> rfl

/-- A calibrated unit only takes the sample. -/
theorem imu6Read_of_calibrated {imu : Imu} (hfound : imu6IsCalibrated imu = true) (CONFIG_TICK_RATE_HZ : ℕ)
    (read : Read) :
    (imu6Read CONFIG_TICK_RATE_HZ read imu).2 =
      { imu with gyroBias := imuAddBiasValue read.gyroMpu imu.gyroBias } := by
  unfold imu6Read
  dsimp only
  rw [isBiasValueFound_imuAddBiasValue]
  exact if_pos hfound

/-- Any other one also searches for its bias. -/
theorem imu6Read_of_not_calibrated {imu : Imu} (hunfound : imu6IsCalibrated imu = false)
    (CONFIG_TICK_RATE_HZ : ℕ) (read : Read) :
    (imu6Read CONFIG_TICK_RATE_HZ read imu).2 =
      (imuFindBiasValue CONFIG_TICK_RATE_HZ read
        { imu with gyroBias := imuAddBiasValue read.gyroMpu imu.gyroBias }).2 := by
  unfold imu6Read
  dsimp only
  rw [isBiasValueFound_imuAddBiasValue]
  apply if_neg
  rw [Bool.not_eq_true]
  exact hunfound

/-- A unit that has been read so often: the buffer, the latched bias and, until it
    is found, the time it counts from. -/
structure HasRead (CONFIG_TICK_RATE_HZ : ℕ) (reads : List Read) (imu : Imu) : Prop where
  fed : Fed imu.gyroBias (reads.map Read.gyroMpu)
  latched : calibration imu =
    (firstPrefix (fun first => decide (PassesWrapped first)) reads).map fun first => mean (window first)
  clock : imu6IsCalibrated imu = false →
    imu.varianceSampleTime = (-GYRO_MIN_BIAS_TIMEOUT_MS CONFIG_TICK_RATE_HZ + 1).toInt32

theorem HasRead.imu6Read {CONFIG_TICK_RATE_HZ : ℕ} {reads : List Read} {imu : Imu}
    (hread : HasRead CONFIG_TICK_RATE_HZ reads imu) (read : Read) :
    HasRead CONFIG_TICK_RATE_HZ (reads ++ [read]) (imu6Read CONFIG_TICK_RATE_HZ read imu).2 := by
  let added : Imu := { imu with gyroBias := imuAddBiasValue read.gyroMpu imu.gyroBias }
  have hfed : Fed added.gyroBias ((reads ++ [read]).map Read.gyroMpu) := by
    rw [List.map_append, List.map_singleton]
    exact hread.fed.imuAddBiasValue read.gyroMpu
  obtain ⟨_, hlatch, htime⟩ := hread
  cases hfound : imu6IsCalibrated imu with
  | true =>
    rw [imu6Read_of_calibrated hfound]
    refine ⟨hfed, ?_, ?_⟩
    · have hset : calibration imu = some fun axis => reading axis imu.gyroBias.bias := if_pos hfound
      rw [calibration_imuAddBiasValue, firstPrefix_concat, hlatch]
      obtain ⟨first, hfirst, _⟩ := Option.map_eq_some_iff.mp (hlatch.symm.trans hset)
      rw [hfirst, Option.some_or]
    · intro hnot
      have hkept := (isBiasValueFound_imuAddBiasValue read.gyroMpu imu.gyroBias).trans hfound
      exact absurd (hkept.symm.trans hnot) (by decide)
  | false =>
    have hnone : firstPrefix (fun first => decide (PassesWrapped first)) reads = none :=
      Option.map_eq_none_iff.mp (hlatch.symm.trans ((calibration_eq_none_iff imu).mpr hfound))
    rw [imu6Read_of_not_calibrated hfound]
    by_cases hpasses : PassesWrapped (reads ++ [read])
    · obtain ⟨hafter, hbias⟩ := imuFindBiasValue_of_passes hfed (htime hfound) hpasses
      refine ⟨hafter, ?_, ?_⟩
      · rw [hbias, firstPrefix_concat, hnone, Option.none_or, if_pos (decide_eq_true hpasses), Option.map_some]
      · intro hnot
        rw [← calibration_eq_none_iff, hbias] at hnot
        contradiction
    · obtain ⟨hsamples, hclock⟩ := imuFindBiasValue_of_not_passes hfed (htime hfound) hpasses
      refine ⟨by rwa [hsamples], ?_, fun _ => hclock.trans (htime hfound)⟩
      rw [firstPrefix_concat, hnone, Option.none_or, if_neg (by simpa using hpasses), Option.map_none,
        calibration_eq_none_iff, imu6IsCalibrated, hsamples]
      exact (isBiasValueFound_imuAddBiasValue read.gyroMpu imu.gyroBias).trans hfound

theorem imuAfter_hasRead (CONFIG_TICK_RATE_HZ : ℕ) (reads : List Read) :
    HasRead CONFIG_TICK_RATE_HZ reads (imuAfter CONFIG_TICK_RATE_HZ reads) := by
  induction reads using List.reverseRecOn with
  | nil =>
    refine ⟨⟨Ring.holds_nil rfl, by simp [imuAfter, imu6Init, imu0, imuBiasInit]⟩, ?_, fun _ => rfl⟩
    rw [firstPrefix_nil]
    rfl
  | append_singleton reads read ih =>
    unfold imuAfter
    rw [run_append]
    exact ih.imu6Read read

/-- A window at rest passes. -/
theorem passesWrapped_of_atRest {reads : List Read} (hrest : AtRest reads) : PassesWrapped reads := by
  obtain ⟨hfull, henergy, htime⟩ := hrest
  refine ⟨hfull, ?_, htime⟩
  intro axis
  apply belowInField_of_lt _ (henergy axis)
  exact (imuAfter_hasRead 0 reads).fed.energy_nonneg (by rwa [List.length_map]) axis

/-- The calibration is right along a run if and only if no window passes by
    wrapping before the first one at rest. -/
theorem calibrates_iff (CONFIG_TICK_RATE_HZ : ℕ) (reads : List Read) :
    Calibrates CONFIG_TICK_RATE_HZ reads ↔
      ∀ before, before <+: reads → PassesWrapped before → ∃ first, first <+: before ∧ AtRest first := by
  have hstrict : ∀ history, decide (AtRest history) = true → decide (PassesWrapped history) = true := by
    intro history hrest
    exact decide_eq_true (passesWrapped_of_atRest (of_decide_eq_true hrest))
  have hlatch := firstPrefix_map_eq_iff hstrict (fun first => mean (window first)) reads
  simp only [decide_eq_true_iff] at hlatch
  rw [← hlatch]
  unfold Calibrates
  simp only [(imuAfter_hasRead CONFIG_TICK_RATE_HZ _).latched]

/-- Right or wrong, a calibration that is found stays. -/
theorem calibration_stays (CONFIG_TICK_RATE_HZ : ℕ) {before reads : List Read} (hbefore : before <+: reads)
    {bias : Axis → ℤ} (hfound : calibration (imuAfter CONFIG_TICK_RATE_HZ before) = some bias) :
    calibration (imuAfter CONFIG_TICK_RATE_HZ reads) = some bias := by
  rw [(imuAfter_hasRead CONFIG_TICK_RATE_HZ _).latched] at hfound ⊢
  obtain ⟨first, hfirst, hbias⟩ := Option.map_eq_some_iff.mp hfound
  rw [firstPrefix_stays hbefore hfirst, Option.map_some, hbias]

/-- A copter that is shaken about its x axis, to both sides in turn. -/
def shaking : List Read :=
  (List.range IMU_NBR_OF_BIAS_SAMPLES).map fun i =>
    { gyroMpu := ⟨if i % 2 = 0 then 5000 else -5000, 0, 0⟩
      tick := UInt32.ofNat (1000 + 2 * i)
      sampleTick := UInt32.ofNat (1000 + 2 * i) }

/-- The shaken copter passes for one at rest, since the energy of 3200000000 makes a
    negative 32-bit number. -/
theorem not_calibrates_shaking : ¬ Calibrates 1000 shaking := by
  intro hcalibrates
  have henergy : energy .x (window shaking) = 3200000000 := by decide +kernel
  have hpasses : PassesWrapped shaking := by decide +kernel
  have hnone : firstPrefix (fun first => decide (AtRest first)) shaking = none := by
    rw [firstPrefix_eq_none_iff]
    intro first hfirst
    apply decide_eq_false
    rintro ⟨hfull, hrest, _⟩
    have hlength : shaking.length = IMU_NBR_OF_BIAS_SAMPLES := by decide +kernel
    obtain rfl := hfirst.eq_of_length_le (hlength.trans_le hfull)
    have hx := hrest .x
    omega
  have hsame := hcalibrates shaking List.prefix_rfl
  rw [hnone, (imuAfter_hasRead 1000 shaking).latched, Option.map_none, Option.map_eq_none_iff,
    firstPrefix_eq_none_iff] at hsame
  exact of_decide_eq_false (hsame shaking List.prefix_rfl) hpasses

end copter.imu
