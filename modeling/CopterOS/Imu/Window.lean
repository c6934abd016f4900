import CopterOS.Imu.Calibration

open ring_buffer transition

namespace copter.imu

/-- The samples of a sensor after a sequence of calls from the initialization on. -/
def biasAfter (start : BiasObj) (samples : List Axis3i16) : BiasObj :=
  run (fun bias dVal => imuAddBiasValue dVal bias) (imuBiasInit start) samples

/-- The buffer is the window over the last samples: in circular order before the
    write position, and as a multiset of the slots written so far. -/
structure SlidingWindow (start bias : BiasObj) (samples : List Axis3i16) : Prop where
  bufHead : bias.bufHead.val = samples.length % IMU_NBR_OF_BIAS_SAMPLES
  isBufferFilled : bias.isBufferFilled = true ↔ IMU_NBR_OF_BIAS_SAMPLES ≤ samples.length
  recent : bias.ring.recent (min samples.length IMU_NBR_OF_BIAS_SAMPLES) =
    samples.rtake IMU_NBR_OF_BIAS_SAMPLES
  written : ((List.ofFn bias.buffer).take (min samples.length IMU_NBR_OF_BIAS_SAMPLES)).Perm
    (samples.rtake IMU_NBR_OF_BIAS_SAMPLES)
  unwritten : ∀ i, samples.length ≤ i.val → bias.buffer i = start.buffer i
  sum : IMU_NBR_OF_BIAS_SAMPLES ≤ samples.length → ∀ axis,
    (bias.sum axis).toInt = total axis (samples.rtake IMU_NBR_OF_BIAS_SAMPLES)
  sumSq : IMU_NBR_OF_BIAS_SAMPLES ≤ samples.length → ∀ axis,
    (bias.sumSq axis).toInt = totalSq axis (samples.rtake IMU_NBR_OF_BIAS_SAMPLES)

theorem buffer_imuAddBiasValue (dVal : Axis3i16) (bias : BiasObj) :
    (imuAddBiasValue dVal bias).buffer = Function.update bias.buffer bias.bufHead dVal := by
  unfold imuAddBiasValue
  dsimp only
  split <;> rfl

theorem biasAfter_concat (start : BiasObj) (samples : List Axis3i16) (dVal : Axis3i16) :
    biasAfter start (samples ++ [dVal]) = imuAddBiasValue dVal (biasAfter start samples) := by
  unfold biasAfter
  rw [run_concat]

theorem biasAfter_fed (start : BiasObj) (samples : List Axis3i16) : Fed (biasAfter start samples) samples := by
  induction samples using List.reverseRecOn with
  | nil => exact ⟨Ring.holds_nil rfl, by simp [biasAfter, imuBiasInit]⟩
  | append_singleton samples dVal ih =>
    rw [biasAfter_concat]
    exact ih.imuAddBiasValue dVal

/-- A slot keeps what it held until it is its turn. -/
theorem biasAfter_unwritten (start : BiasObj) (samples : List Axis3i16) (i : Fin IMU_NBR_OF_BIAS_SAMPLES)
    (hlater : samples.length ≤ i.val) : (biasAfter start samples).buffer i = start.buffer i := by
  induction samples using List.reverseRecOn with
  | nil => rfl
  | append_singleton samples dVal ih =>
    rw [List.length_append, List.length_singleton] at hlater
    have hhead : (biasAfter start samples).bufHead.val = samples.length % IMU_NBR_OF_BIAS_SAMPLES :=
      (biasAfter_fed start samples).ring.head
    have hturn : i ≠ (biasAfter start samples).bufHead := by
      intro hsame
      rw [← hsame, Nat.mod_eq_of_lt (by omega)] at hhead
      omega
    rw [biasAfter_concat, buffer_imuAddBiasValue, Function.update_of_ne hturn]
    exact ih (by omega)

/-- The slots written so far hold the last samples, in some order. -/
theorem Fed.written {bias : BiasObj} {samples : List Axis3i16} (hfed : Fed bias samples) :
    ((List.ofFn bias.buffer).take (min samples.length IMU_NBR_OF_BIAS_SAMPLES)).Perm
      (samples.rtake IMU_NBR_OF_BIAS_SAMPLES) := by
  obtain hroom | hfull := Nat.le_total samples.length IMU_NBR_OF_BIAS_SAMPLES
  · have hall : samples.rtake IMU_NBR_OF_BIAS_SAMPLES = samples := by
      rw [List.rtake, Nat.sub_eq_zero_of_le hroom, List.drop_zero]
    rw [min_eq_left hroom, hall]
    exact List.Perm.of_eq (hfed.ring.take_eq hroom)
  · rw [min_eq_right hfull, List.take_of_length_le List.length_ofFn.le]
    exact hfed.ring.perm hfull

/-- After any calls the buffer is the window over the last samples, and once it is
    filled the sums are those over just the last 128. -/
theorem slidingWindow (start : BiasObj) (samples : List Axis3i16) :
    SlidingWindow start (biasAfter start samples) samples := by
  have hfed := biasAfter_fed start samples
  refine ⟨hfed.ring.head, hfed.isBufferFilled, hfed.ring.recent_eq, hfed.written,
    biasAfter_unwritten start samples, ?_, ?_⟩
  · intro hfull axis
    rw [sum_toInt, hfed.total hfull]
  · intro hfull axis
    rw [sumSq_toInt, hfed.totalSq hfull]

end copter.imu
