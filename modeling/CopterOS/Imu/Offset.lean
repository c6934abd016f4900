import CopterOS.Imu.Calibration
import Mathlib.Tactic.NormNum

open latch number transition copter.stabilizer

namespace copter.imu

/-- A sample of a gyroscope that shows `offset` more. -/
def Axis3i16.shift (offset sample : Axis3i16) : Axis3i16 where
  x := sample.x + offset.x
  y := sample.y + offset.y
  z := sample.z + offset.z

def Read.shift (offset : Axis3i16) (read : Read) : Read := { read with gyroMpu := offset.shift read.gyroMpu }

/-- The offset does not bring the sample out of the range of the sensor. -/
def Read.Fits (offset : Axis3i16) (read : Read) : Prop :=
  ∀ axis, -2 ^ 15 ≤ reading axis read.gyroMpu + reading axis offset ∧
    reading axis read.gyroMpu + reading axis offset < 2 ^ 15

theorem Read.Fits.reading {offset : Axis3i16} {read : Read} (hfits : read.Fits offset) (axis : Axis) :
    reading axis (read.shift offset).gyroMpu =
      copter.imu.reading axis read.gyroMpu + copter.imu.reading axis offset := by
  have hsum : copter.imu.reading axis (read.shift offset).gyroMpu =
      Int.bmod (copter.imu.reading axis read.gyroMpu + copter.imu.reading axis offset) (2 ^ 16) := by
    cases axis <;> exact Int16.toInt_add _ _
  obtain ⟨hlow, hhigh⟩ := hfits axis
  rw [hsum]
  exact Int.bmod_eq_of_le (by omega) (by omega)

/-- Every sample adds the offset once. -/
theorem total_shift {offset : Axis3i16} {reads : List Read} (hfits : ∀ read ∈ reads, read.Fits offset)
    (axis : Axis) :
    total axis ((reads.map (Read.shift offset)).map Read.gyroMpu) =
      total axis (reads.map Read.gyroMpu) + reads.length * reading axis offset := by
  induction reads with
  | nil => simp [total]
  | cons read reads ih =>
    rw [List.forall_mem_cons] at hfits
    have hrest := ih hfits.2
    unfold total at hrest ⊢
    simp only [List.map_cons, List.sum_cons, List.length_cons, Nat.cast_add, Nat.cast_one] at hrest ⊢
    rw [hrest, hfits.1.reading axis]
    ring

theorem totalSq_shift {offset : Axis3i16} {reads : List Read} (hfits : ∀ read ∈ reads, read.Fits offset)
    (axis : Axis) :
    totalSq axis ((reads.map (Read.shift offset)).map Read.gyroMpu) =
      totalSq axis (reads.map Read.gyroMpu) + 2 * reading axis offset * total axis (reads.map Read.gyroMpu) +
        reads.length * (reading axis offset * reading axis offset) := by
  induction reads with
  | nil => simp [total, totalSq]
  | cons read reads ih =>
    rw [List.forall_mem_cons] at hfits
    have hrest := ih hfits.2
    unfold totalSq total at hrest ⊢
    simp only [List.map_cons, List.sum_cons, List.length_cons, Nat.cast_add, Nat.cast_one] at hrest ⊢
    rw [hrest, hfits.1.reading axis]
    ring

theorem window_eq_map (reads : List Read) :
    window reads = (reads.rtake IMU_NBR_OF_BIAS_SAMPLES).map Read.gyroMpu := by
  unfold window List.rtake
  rw [List.length_map, List.map_drop]

theorem length_rtake {reads : List Read} (hfull : IMU_NBR_OF_BIAS_SAMPLES ≤ reads.length) :
    (reads.rtake IMU_NBR_OF_BIAS_SAMPLES).length = IMU_NBR_OF_BIAS_SAMPLES := by
  unfold List.rtake
  rw [List.length_drop, Nat.sub_sub_self hfull]

/-- The sums over a full window and over the shifted one. -/
structure Moves (offset : Axis3i16) (reads : List Read) : Prop where
  sum (axis : Axis) : total axis (window (reads.map (Read.shift offset))) =
    total axis (window reads) + 128 * reading axis offset
  sumSq (axis : Axis) : totalSq axis (window (reads.map (Read.shift offset))) =
    totalSq axis (window reads) + 2 * reading axis offset * total axis (window reads) +
      128 * (reading axis offset * reading axis offset)

theorem moves_of_fits {offset : Axis3i16} {reads : List Read} (hfits : ∀ read ∈ reads, read.Fits offset)
    (hfull : IMU_NBR_OF_BIAS_SAMPLES ≤ reads.length) : Moves offset reads := by
  have hmap : (reads.map (Read.shift offset)).rtake IMU_NBR_OF_BIAS_SAMPLES =
      (reads.rtake IMU_NBR_OF_BIAS_SAMPLES).map (Read.shift offset) := by
    unfold List.rtake
    rw [List.length_map, List.map_drop]
  have hlast : ∀ read ∈ reads.rtake IMU_NBR_OF_BIAS_SAMPLES, read.Fits offset :=
    fun read hread => hfits read (List.mem_of_mem_drop hread)
  constructor
  · intro axis
    have htotal := total_shift hlast axis
    rw [length_rtake hfull] at htotal
    rw [window_eq_map, window_eq_map, hmap]
    exact htotal
  · intro axis
    have htotalSq := totalSq_shift hlast axis
    rw [length_rtake hfull] at htotalSq
    rw [window_eq_map, window_eq_map, hmap]
    exact htotalSq

/-- The energy does not depend on where zero is. -/
theorem Moves.energy {offset : Axis3i16} {reads : List Read} (hmoves : Moves offset reads) (axis : Axis) :
    energy axis (window (reads.map (Read.shift offset))) = copter.imu.energy axis (window reads) := by
  have hsquare : (total axis (window reads) + 128 * reading axis offset) *
      (total axis (window reads) + 128 * reading axis offset) =
      total axis (window reads) * total axis (window reads) +
        128 * (2 * reading axis offset * total axis (window reads) +
          128 * (reading axis offset * reading axis offset)) := by
    ring
  unfold copter.imu.energy
  rw [hmoves.sum, hmoves.sumSq, hsquare, Int.add_mul_ediv_left _ _ (by norm_num)]
  ring

/-- The mean moves with the offset, up to the truncation of both. -/
theorem Moves.mean {offset : Axis3i16} {reads : List Read} (hmoves : Moves offset reads) (axis : Axis) :
    |mean (window (reads.map (Read.shift offset))) axis -
      (copter.imu.mean (window reads) axis + reading axis offset)| ≤ 1 := by
  have hplain := Int.mul_tdiv_add_tmod (total axis (window reads)) 128
  have hshifted := Int.mul_tdiv_add_tmod (total axis (window reads) + 128 * reading axis offset) 128
  have hplainLow := Int.lt_tmod_of_pos (total axis (window reads)) (b := 128) (by norm_num)
  have hplainHigh := Int.tmod_lt_of_pos (total axis (window reads)) (b := 128) (by norm_num)
  have hshiftedLow :=
    Int.lt_tmod_of_pos (total axis (window reads) + 128 * reading axis offset) (b := 128) (by norm_num)
  have hshiftedHigh :=
    Int.tmod_lt_of_pos (total axis (window reads) + 128 * reading axis offset) (b := 128) (by norm_num)
  unfold copter.imu.mean
  rw [hmoves.sum, abs_le]
  constructor <;> omega

theorem passesWrapped_shift {offset : Axis3i16} {reads : List Read} (hfits : ∀ read ∈ reads, read.Fits offset) :
    PassesWrapped (reads.map (Read.shift offset)) ↔ PassesWrapped reads := by
  unfold PassesWrapped
  rw [List.length_map]
  refine and_congr_right fun hfull => and_congr ?_ ?_
  · simp only [(moves_of_fits hfits hfull).energy]
  · simp [MinBiasTimePassed, Read.shift]

/-- With the offset the search succeeds at the same read. -/
theorem firstPrefix_shift {offset : Axis3i16} {reads : List Read} (hfits : ∀ read ∈ reads, read.Fits offset) :
    firstPrefix (fun first => decide (PassesWrapped first)) (reads.map (Read.shift offset)) =
      (firstPrefix (fun first => decide (PassesWrapped first)) reads).map (List.map (Read.shift offset)) := by
  apply firstPrefix_map
  intro earlier hearlier
  rw [decide_eq_decide]
  exact passesWrapped_shift fun read hread => hfits read (hearlier.subset hread)

/-- The two calibrations of a copter with and without the offset. -/
theorem calibration_shift (CONFIG_TICK_RATE_HZ : ℕ) {offset : Axis3i16} {reads : List Read}
    (hfits : ∀ read ∈ reads, read.Fits offset) :
    (calibration (imuAfter CONFIG_TICK_RATE_HZ reads) = none ∧
      calibration (imuAfter CONFIG_TICK_RATE_HZ (reads.map (Read.shift offset))) = none) ∨
    ∃ bias bias' : Axis → ℤ, calibration (imuAfter CONFIG_TICK_RATE_HZ reads) = some bias ∧
      calibration (imuAfter CONFIG_TICK_RATE_HZ (reads.map (Read.shift offset))) = some bias' ∧
        ∀ axis, |bias' axis - (bias axis + reading axis offset)| ≤ 1 := by
  rw [(imuAfter_hasRead _ _).latched, (imuAfter_hasRead _ _).latched, firstPrefix_shift hfits]
  cases hfound : firstPrefix (fun first => decide (PassesWrapped first)) reads with
  | none => exact .inl ⟨rfl, rfl⟩
  | some first =>
    obtain ⟨hearlier, hpasses, _⟩ := isFirst_of_firstPrefix hfound
    obtain ⟨hfull, _⟩ := of_decide_eq_true hpasses
    have hmoves := moves_of_fits (fun read hread => hfits read (hearlier.subset hread)) hfull
    exact .inr ⟨_, _, rfl, rfl, hmoves.mean⟩

theorem of_calibration_eq_some {imu : Imu} {bias : Axis → ℤ} (hbias : calibration imu = some bias) :
    imu6IsCalibrated imu = true ∧ ∀ axis, reading axis imu.gyroBias.bias = bias axis := by
  unfold calibration at hbias
  rw [Option.ite_none_right_eq_some, Option.some.injEq] at hbias
  exact ⟨hbias.1, fun axis => congrFun hbias.2 axis⟩

/-- A copter whose gyroscope does not move is calibrated to what it shows. -/
theorem HasRead.bias_of_constant {CONFIG_TICK_RATE_HZ : ℕ} {reads : List Read} {imu : Imu}
    (hread : HasRead CONFIG_TICK_RATE_HZ reads imu) {sample : Axis3i16}
    (hconstant : ∀ read ∈ reads, read.gyroMpu = sample) (hcalibrated : imu6IsCalibrated imu = true) (axis : Axis) :
    reading axis imu.gyroBias.bias = reading axis sample := by
  have hset : calibration imu = some fun axis => reading axis imu.gyroBias.bias := if_pos hcalibrated
  obtain ⟨first, hfirst, hmean⟩ := Option.map_eq_some_iff.mp (hread.latched.symm.trans hset)
  obtain ⟨hearlier, hpasses, _⟩ := isFirst_of_firstPrefix hfirst
  obtain ⟨hfull, _⟩ := of_decide_eq_true hpasses
  have hwindow : window first = List.replicate 128 sample := by
    rw [window_eq_map, List.eq_replicate_iff, List.length_map, length_rtake hfull]
    refine ⟨rfl, ?_⟩
    intro shown hshown
    obtain ⟨read, hlast, rfl⟩ := List.mem_map.mp hshown
    exact hconstant read (hearlier.subset (List.mem_of_mem_drop hlast))
  have htotal : total axis (window first) = 128 * reading axis sample := by
    rw [hwindow, total, List.map_replicate, List.sum_replicate, nsmul_eq_mul]
    rfl
  have hvalue : mean (window first) axis = reading axis sample := by
    unfold mean
    rw [htotal]
    exact Int.mul_tdiv_cancel_left _ (by norm_num)
  rw [← hvalue, hmean]

theorem rate_close {left right : ℤ} (hclose : |left - right| ≤ 1) :
    |(left : ℚ) * IMU_DEG_PER_LSB_CFG - (right : ℚ) * IMU_DEG_PER_LSB_CFG| ≤ IMU_DEG_PER_LSB_CFG := by
  have hpos : 0 ≤ IMU_DEG_PER_LSB_CFG := by norm_num [IMU_DEG_PER_LSB_CFG]
  have hunit : |(left : ℚ) - right| ≤ 1 := by exact_mod_cast hclose
  rw [← sub_mul, abs_mul, abs_of_nonneg hpos]
  exact mul_le_of_le_one_left hpos hunit

/-- Readings with biases that follow the offset differ by a step at most. -/
theorem remap_shift {offset : Axis3i16} {read : Read} (hfits : read.Fits offset) {bias bias' : Axis3i16}
    (hbias : ∀ axis, |reading axis bias' - (reading axis bias + reading axis offset)| ≤ 1) :
    |(remap (read.shift offset).gyroMpu bias').x - (remap read.gyroMpu bias).x| ≤ IMU_DEG_PER_LSB_CFG ∧
      |(remap (read.shift offset).gyroMpu bias').y - (remap read.gyroMpu bias).y| ≤ IMU_DEG_PER_LSB_CFG ∧
      |(remap (read.shift offset).gyroMpu bias').z - (remap read.gyroMpu bias).z| ≤ IMU_DEG_PER_LSB_CFG := by
  have hclose : ∀ axis, |(reading axis (read.shift offset).gyroMpu - reading axis bias') -
      (reading axis read.gyroMpu - reading axis bias)| ≤ 1 := by
    intro axis
    have hfollows := hbias axis
    rw [hfits.reading, abs_le]
    rw [abs_le] at hfollows
    constructor <;> omega
  refine ⟨rate_close ?_, rate_close (hclose .y), rate_close (hclose .z)⟩
  -- the x axis is mounted the other way
  rw [neg_sub_neg, abs_sub_comm]
  exact hclose .x

/-- The calibration takes out the offset of the gyroscope: with any offset that leaves
    the samples in the range of the sensor the copter is calibrated at the same read,
    and then every rate is the one without the offset, up to one step of the sensor. -/
theorem offset_rejected (CONFIG_TICK_RATE_HZ : ℕ) {offset : Axis3i16} {reads : List Read} {read : Read}
    (hfits : ∀ taken ∈ reads ++ [read], taken.Fits offset) :
    let plain := imu6Read CONFIG_TICK_RATE_HZ read (imuAfter CONFIG_TICK_RATE_HZ reads)
    let shifted := imu6Read CONFIG_TICK_RATE_HZ (read.shift offset)
      (imuAfter CONFIG_TICK_RATE_HZ (reads.map (Read.shift offset)))
    imu6IsCalibrated shifted.2 = imu6IsCalibrated plain.2 ∧
      (imu6IsCalibrated plain.2 = true →
        |shifted.1.x - plain.1.x| ≤ IMU_DEG_PER_LSB_CFG ∧ |shifted.1.y - plain.1.y| ≤ IMU_DEG_PER_LSB_CFG ∧
          |shifted.1.z - plain.1.z| ≤ IMU_DEG_PER_LSB_CFG) := by
  intro plain shifted
  have hplain : plain.2 = imuAfter CONFIG_TICK_RATE_HZ (reads ++ [read]) := by
    unfold imuAfter
    rw [run_concat]
    rfl
  have hshifted : shifted.2 = imuAfter CONFIG_TICK_RATE_HZ ((reads ++ [read]).map (Read.shift offset)) := by
    unfold imuAfter
    rw [List.map_append, List.map_singleton, run_concat]
    rfl
  obtain ⟨hnone, hnone'⟩ | ⟨bias, bias', hbias, hbias', hclose⟩ := calibration_shift CONFIG_TICK_RATE_HZ hfits
  · rw [← hplain, calibration_eq_none_iff] at hnone
    rw [← hshifted, calibration_eq_none_iff] at hnone'
    refine ⟨hnone'.trans hnone.symm, ?_⟩
    intro hcalibrated
    rw [hnone] at hcalibrated
    contradiction
  · rw [← hplain] at hbias
    rw [← hshifted] at hbias'
    obtain ⟨hcalibrated, hvalue⟩ := of_calibration_eq_some hbias
    obtain ⟨hcalibrated', hvalue'⟩ := of_calibration_eq_some hbias'
    refine ⟨hcalibrated'.trans hcalibrated.symm, ?_⟩
    have hfollows : ∀ axis, |reading axis shifted.2.gyroBias.bias -
        (reading axis plain.2.gyroBias.bias + reading axis offset)| ≤ 1 := by
      intro axis
      rw [hvalue, hvalue']
      exact hclose axis
    intro _
    exact remap_shift (hfits read (by simp)) hfollows

/-- The last read of a long rest, with a gyroscope that shows an offset. -/
theorem offset_rejected_resting :
    let read : Read := { gyroMpu := ⟨1, -2, 0⟩, tick := 2, sampleTick := 2 }
    let reads := List.replicate 127 read
    let offset : Axis3i16 := ⟨-37, 12, 5⟩
    let plain := imu6Read 1000 read (imuAfter 1000 reads)
    let shifted := imu6Read 1000 (read.shift offset) (imuAfter 1000 (reads.map (Read.shift offset)))
    (∀ taken ∈ reads ++ [read], taken.Fits offset) ∧ imu6IsCalibrated shifted.2 = imu6IsCalibrated plain.2 ∧
      (imu6IsCalibrated plain.2 = true →
        |shifted.1.x - plain.1.x| ≤ IMU_DEG_PER_LSB_CFG ∧ |shifted.1.y - plain.1.y| ≤ IMU_DEG_PER_LSB_CFG ∧
          |shifted.1.z - plain.1.z| ≤ IMU_DEG_PER_LSB_CFG) := by
  intro read reads offset plain shifted
  have hfits : ∀ taken ∈ reads ++ [read], taken.Fits offset := by
    intro taken htaken
    rw [List.mem_append, List.mem_replicate, List.mem_singleton] at htaken
    obtain ⟨_, rfl⟩ | rfl := htaken <;> exact Axis.forall_iff.mpr (by decide)
  exact ⟨hfits, offset_rejected 1000 hfits⟩

end copter.imu
