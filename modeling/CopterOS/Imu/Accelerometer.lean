import CopterOS.Filter.Wrap
import CopterOS.Imu.Alignment

open low_pass number transition copter.filter copter.stabilizer

namespace copter.imu

def IMU_ACC_WANTED_LPF_CUTOFF_HZ : ℚ := 4
def IMU_ACC_IIR_LPF_ATTENUATION : ℚ := 500 / (2 * (31415 / 10000) * IMU_ACC_WANTED_LPF_CUTOFF_HZ)
def IMU_ACC_IIR_LPF_ATT_FACTOR : Int32 := Int32.ofInt (truncate (2 ^ 8 / IMU_ACC_IIR_LPF_ATTENUATION + 1 / 2))

/-- The constant `MPU6500_G_PER_LSB_8`. -/
def IMU_G_PER_LSB_CFG : ℚ := 16 / 65536

theorem IMU_ACC_IIR_LPF_ATT_FACTOR_eq : IMU_ACC_IIR_LPF_ATT_FACTOR = 13 := by decide +kernel

/-- The three axes filtered, each with its own stored value. -/
def imuAccIIRLPFilter (input : Axis3i16) (storedValues : Axis3i32) (attenuation : Int32) : Axis3i16 × Axis3i32 :=
  let x := iirLPFilterSingle input.x.toInt32 attenuation storedValues.x
  let y := iirLPFilterSingle input.y.toInt32 attenuation storedValues.y
  let z := iirLPFilterSingle input.z.toInt32 attenuation storedValues.z
  (⟨x.1, y.1, z.1⟩, ⟨x.2, y.2, z.2⟩)

/-- Conversion to a 16-bit integer. It is defined only for numbers whose integer part
    fits. -/
def toInt16 (undefined : ℚ → Int16) (q : ℚ) : Int16 :=
  if -2 ^ 15 ≤ truncate q ∧ truncate q < 2 ^ 15 then Int16.ofInt (truncate q) else undefined q

/-- A number after its assignment to a variable of 16 bits. -/
def narrow (undefined : ℚ → Int16) (q : ℚ) : ℚ := (toInt16 undefined q).toInt

def Axis3i16.toNumbers (values : Axis3i16) : Axis3f ℚ := ⟨values.x.toInt, values.y.toInt, values.z.toInt⟩

/-- The aligned acceleration in units of gravity. -/
def remapAcc (accelLPFAligned : Axis3f ℚ) : Axis3f ℚ where
  x := -accelLPFAligned.x * IMU_G_PER_LSB_CFG
  y := accelLPFAligned.y * IMU_G_PER_LSB_CFG
  z := accelLPFAligned.z * IMU_G_PER_LSB_CFG

/-- The accelerometer part of a read. -/
def readAcc (undefined : ℚ → Int16) (alignment : AccAlignment) (accelMpu : Axis3i16) (storedValues : Axis3i32) :
    Axis3f ℚ × Axis3i32 :=
  let (accelLPF, storedValues) := imuAccIIRLPFilter accelMpu storedValues IMU_ACC_IIR_LPF_ATT_FACTOR
  (remapAcc (imuAccAlignToGravity (narrow undefined) alignment accelLPF.toNumbers), storedValues)

/-- The stored values after a sequence of samples from power-up. -/
def storedAfter (samples : List Axis3i16) : Axis3i32 :=
  run (fun stored sample => (imuAccIIRLPFilter sample stored IMU_ACC_IIR_LPF_ATT_FACTOR).2) ⟨0, 0, 0⟩ samples

/-- A sample whose axes are all within the given number of steps. -/
def Axis3i16.Within (bound : ℤ) (sample : Axis3i16) : Prop := ∀ axis, |(sample.get axis).toInt| ≤ bound

def Axis3i32.get (values : Axis3i32) : Axis → Int32
  | .x => values.x
  | .y => values.y
  | .z => values.z

theorem storedAfter_get (samples : List Axis3i16) (axis : Axis) :
    (storedAfter samples).get axis = filtAfter 13 0 (samples.map fun sample => sample.get axis) := by
  induction samples using List.reverseRecOn with
  | nil => cases axis <;> rfl
  | append_singleton samples sample ih =>
    unfold storedAfter at ih ⊢
    rw [run_concat, List.map_append, List.map_singleton, filtAfter_concat, ← ih, IMU_ACC_IIR_LPF_ATT_FACTOR_eq]
    cases axis <;> rfl

theorem abs_truncate_le (q : ℚ) : |(truncate q : ℚ)| ≤ |q| := by
  unfold truncate
  split
  case isTrue hq =>
    have hfloor : (0 : ℚ) ≤ ⌊q⌋ := by exact_mod_cast Int.floor_nonneg.mpr hq
    rw [abs_of_nonneg hq, abs_of_nonneg hfloor]
    exact Int.floor_le q
  case isFalse hq =>
    have hceil : (⌈q⌉ : ℚ) ≤ 0 := by exact_mod_cast Int.ceil_le.mpr (by push_cast; linarith)
    rw [abs_of_neg (not_le.mp hq), abs_of_nonpos hceil]
    linarith [Int.le_ceil q]

/-- A number in the range is cut down to its integer part. -/
theorem narrow_of_abs_le {q : ℚ} (hq : |q| ≤ 32767) (undefined : ℚ → Int16) : narrow undefined q = truncate q := by
  obtain ⟨hlow, hhigh⟩ := abs_le.mp hq
  have hbounds := truncate_mem_of_mem q 32767 (by exact_mod_cast hlow) (by exact_mod_cast hhigh)
  unfold narrow toInt16
  rw [if_pos ⟨by omega, by omega⟩, Int16.toInt_ofInt_of_le (by omega) (by omega)]

/-- By how much the values of an angle may miss the circle after their rounding. -/
def stretch : ℚ := 1 + 1 / 2 ^ 19

/-- The values are the cosines and sines of two angles, up to their rounding. -/
structure AccAlignment.OfAngles (alignment : AccAlignment) : Prop where
  roll : alignment.cosRoll ^ 2 + alignment.sinRoll ^ 2 ≤ stretch
  pitch : alignment.cosPitch ^ 2 + alignment.sinPitch ^ 2 ≤ stretch

/-- Each coordinate of a turned point is bounded by the length of the point. -/
theorem turn_sq_le {cos sin : ℚ} (hcircle : cos ^ 2 + sin ^ 2 ≤ stretch) (a b : ℚ) :
    (a * cos - b * sin) ^ 2 ≤ (a ^ 2 + b ^ 2) * stretch ∧ (a * sin + b * cos) ^ 2 ≤ (a ^ 2 + b ^ 2) * stretch := by
  have hlength : (a * cos - b * sin) ^ 2 + (a * sin + b * cos) ^ 2 = (a ^ 2 + b ^ 2) * (cos ^ 2 + sin ^ 2) := by ring
  have hstretched := mul_le_mul_of_nonneg_left hcircle (add_nonneg (sq_nonneg a) (sq_nonneg b))
  constructor
  · linarith [sq_nonneg (a * sin + b * cos)]
  · linarith [sq_nonneg (a * cos - b * sin)]

/-- The length of an assigned coordinate; nothing is left to the processor. -/
theorem narrow_of_sq_le {q bound : ℚ} (hq : q ^ 2 ≤ bound) (hbound : bound ≤ 32767 ^ 2) (undefined : ℚ → Int16) :
    narrow undefined q = truncate q ∧ narrow undefined q ^ 2 ≤ bound := by
  have hnarrow := narrow_of_abs_le (abs_le_of_sq_le_sq (hq.trans hbound) (by norm_num)) undefined
  refine ⟨hnarrow, ?_⟩
  rw [hnarrow]
  exact (sq_le_sq.mpr (abs_truncate_le q)).trans hq

theorem rotateX_narrow {alignment : AccAlignment} (halignment : alignment.OfAngles) {input : Axis3f ℚ} {bound : ℚ}
    (hinput : (input.y ^ 2 + input.z ^ 2) * stretch ≤ bound) (hbound : bound ≤ 32767 ^ 2) (undefined : ℚ → Int16) :
    let rx := rotateX (narrow undefined) alignment input
    rx = rotateX (fun q => truncate q) alignment input ∧ rx.x = input.x ∧ rx.y ^ 2 ≤ bound ∧ rx.z ^ 2 ≤ bound := by
  obtain ⟨hy, hz⟩ := turn_sq_le halignment.roll input.y input.z
  obtain ⟨hnarrowY, hboundY⟩ := narrow_of_sq_le (hy.trans hinput) hbound undefined
  obtain ⟨hnarrowZ, hboundZ⟩ := narrow_of_sq_le (hz.trans hinput) hbound undefined
  refine ⟨?_, rfl, hboundY, hboundZ⟩
  unfold rotateX
  rw [hnarrowY, hnarrowZ]

theorem rotateY_narrow {alignment : AccAlignment} (halignment : alignment.OfAngles) {rx : Axis3f ℚ} {bound : ℚ}
    (hrx : (rx.x ^ 2 + rx.z ^ 2) * stretch ≤ bound) (hbound : bound ≤ 32767 ^ 2) (undefined : ℚ → Int16) :
    let ry := rotateY (narrow undefined) alignment rx
    ry = rotateY (fun q => truncate q) alignment rx ∧ ry.y = rx.y ∧ ry.x ^ 2 ≤ bound ∧ ry.z ^ 2 ≤ bound := by
  have hmirror : ((-rx.x) ^ 2 + rx.z ^ 2) * stretch ≤ bound := by rwa [neg_sq]
  have hx := (turn_sq_le halignment.pitch rx.x rx.z).1
  have hz := (turn_sq_le halignment.pitch (-rx.x) rx.z).2
  obtain ⟨hnarrowX, hboundX⟩ := narrow_of_sq_le (hx.trans hrx) hbound undefined
  obtain ⟨hnarrowZ, hboundZ⟩ := narrow_of_sq_le (hz.trans hmirror) hbound undefined
  refine ⟨?_, rfl, hboundX, hboundZ⟩
  unfold rotateY
  rw [hnarrowX, hnarrowZ]

/-- Two turns make a coordinate longer by a factor of about the root of three, so that
    three equal coordinates may have up to this part of the range. -/
theorem imuAccAlignToGravity_narrow {alignment : AccAlignment} (halignment : alignment.OfAngles) {input : Axis3f ℚ}
    {bound : ℚ} (hx : input.x ^ 2 ≤ bound) (hy : input.y ^ 2 ≤ bound) (hz : input.z ^ 2 ≤ bound)
    (hbound : (bound + 2 * bound * stretch) * stretch ≤ 32767 ^ 2) (undefined : ℚ → Int16) :
    let aligned := imuAccAlignToGravity (narrow undefined) alignment input
    aligned = imuAccAlignToGravity (fun q => truncate q) alignment input ∧
      aligned.x ^ 2 ≤ 32767 ^ 2 ∧ aligned.y ^ 2 ≤ 32767 ^ 2 ∧ aligned.z ^ 2 ≤ 32767 ^ 2 := by
  have hpos : 0 ≤ bound := (sq_nonneg _).trans hx
  have hstretch : 1 ≤ stretch := by norm_num [stretch]
  have hinput : (input.y ^ 2 + input.z ^ 2) * stretch ≤ 2 * bound * stretch :=
    mul_le_mul_of_nonneg_right (by linarith) (by linarith)
  have hwhole : bound + 2 * bound * stretch ≤ (bound + 2 * bound * stretch) * stretch := by
    have hsum : 0 ≤ bound + 2 * bound * stretch := by positivity
    exact le_mul_of_one_le_right hsum hstretch
  have hmiddle : 2 * bound * stretch ≤ 32767 ^ 2 := by linarith
  obtain ⟨hrx, hrxX, hrxY, hrxZ⟩ := rotateX_narrow halignment hinput hmiddle undefined
  have hturned : ((rotateX (narrow undefined) alignment input).x ^ 2 +
      (rotateX (narrow undefined) alignment input).z ^ 2) * stretch ≤ 32767 ^ 2 := by
    refine le_trans (mul_le_mul_of_nonneg_right ?_ (by linarith)) hbound
    rw [hrxX]
    linarith
  obtain ⟨hry, hryY, hryX, hryZ⟩ := rotateY_narrow halignment hturned le_rfl undefined
  refine ⟨?_, hryX, ?_, hryZ⟩
  · unfold imuAccAlignToGravity
    rw [hry, hrx]
  · unfold imuAccAlignToGravity
    rw [hryY]
    exact hrxY.trans hmiddle

theorem lowest_highest_within {samples : List Int16} {bound : ℤ} (hpos : 0 ≤ bound)
    (hsamples : ∀ sample ∈ samples, |sample.toInt| ≤ bound) : -bound ≤ lowest samples ∧ highest samples ≤ bound := by
  induction samples using List.reverseRecOn with
  | nil =>
    have hlowest : lowest [] = 0 := rfl
    have hhighest : highest [] = 0 := rfl
    omega
  | append_singleton samples sample ih =>
    obtain ⟨hlow, hhigh⟩ := abs_le.mp (hsamples sample (by simp))
    obtain ⟨hlowest, hhighest⟩ := ih fun other hother => hsamples other (by simp [hother])
    rw [lowest_concat, highest_concat]
    omega

/-- The output stays within the bounds of the samples: the stored value falls behind
    by less than half a step only. -/
theorem iirLPFilterSingle_within {samples : List Int16} {sample : Int16} {bound : ℤ} (hpos : 0 ≤ bound)
    (hbound : bound < 2 ^ 15) (hsamples : ∀ other ∈ samples ++ [sample], |other.toInt| ≤ bound) :
    |(iirLPFilterSingle sample.toInt32 13 (filtAfter 13 0 samples)).1.toInt| ≤ bound := by
  obtain ⟨hlowest, hhighest⟩ := lowest_highest_within hpos hsamples
  obtain ⟨hover, hunder⟩ := (filtAfter_tracks 13 (samples ++ [sample])).within.mono hlowest hhighest
  have hgain : (lowPass 13).gain = 13 := rfl
  have hscale : (lowPass 13).scale = 256 := rfl
  rw [hscale, hgain] at hover
  rw [hscale] at hunder
  rw [toInt_output, ← filtAfter_concat, Int.bmod_eq_of_le (by omega) (by omega), abs_le]
  omega

theorem imuAccIIRLPFilter_within {samples : List Axis3i16} {sample : Axis3i16} {bound : ℤ} (hpos : 0 ≤ bound)
    (hbound : bound < 2 ^ 15) (hsamples : ∀ other ∈ samples ++ [sample], Axis3i16.Within bound other) :
    Axis3i16.Within bound (imuAccIIRLPFilter sample (storedAfter samples) IMU_ACC_IIR_LPF_ATT_FACTOR).1 := by
  intro axis
  have hchannel : ((imuAccIIRLPFilter sample (storedAfter samples) IMU_ACC_IIR_LPF_ATT_FACTOR).1.get axis) =
      (iirLPFilterSingle (sample.get axis).toInt32 13 (filtAfter 13 0 (samples.map fun other => other.get axis))).1 := by
    rw [← storedAfter_get, IMU_ACC_IIR_LPF_ATT_FACTOR_eq]
    cases axis <;> rfl
  rw [hchannel]
  apply iirLPFilterSingle_within hpos hbound
  intro other hother
  have hmap : samples.map (fun other => other.get axis) ++ [sample.get axis] =
      (samples ++ [sample]).map fun other => other.get axis := by simp
  rw [hmap, List.mem_map] at hother
  obtain ⟨source, hsource, rfl⟩ := hother
  exact hsamples source hsource axis

/-- The steps of the filter give their exact results for every sequence of samples. -/
theorem imuAccIIRLPFilter_neverWraps (samples : List Axis3i16) (axis : Axis) :
    NeverWraps IMU_ACC_IIR_LPF_ATT_FACTOR (samples.map fun sample => sample.get axis) := by
  rw [IMU_ACC_IIR_LPF_ATT_FACTOR_eq]
  exact neverWraps_of_residue (by decide) _

/-- Samples of at most 18918 steps in every axis, more than four and a half times
    gravity, never make the filter or the alignment leave the integers they work with:
    the read gives the truncated rotations, and no more than eight times gravity. -/
theorem readAcc_defined {alignment : AccAlignment} (halignment : alignment.OfAngles) {samples : List Axis3i16}
    {sample : Axis3i16} (hsamples : ∀ other ∈ samples ++ [sample], Axis3i16.Within 18918 other)
    (undefined : ℚ → Int16) :
    let acc := (readAcc undefined alignment sample (storedAfter samples)).1
    let accelLPF := (imuAccIIRLPFilter sample (storedAfter samples) IMU_ACC_IIR_LPF_ATT_FACTOR).1
    (∀ axis, NeverWraps IMU_ACC_IIR_LPF_ATT_FACTOR ((samples ++ [sample]).map fun other => other.get axis)) ∧
      acc = remapAcc (imuAccAlignToGravity (fun q => truncate q) alignment accelLPF.toNumbers) ∧
      |acc.x| ≤ 8 ∧ |acc.y| ≤ 8 ∧ |acc.z| ≤ 8 := by
  intro acc accelLPF
  have hwithin := imuAccIIRLPFilter_within (by norm_num) (by norm_num) hsamples
  have hsquare : ∀ axis, ((accelLPF.get axis).toInt : ℚ) ^ 2 ≤ 18918 ^ 2 := by
    intro axis
    have habs : |(accelLPF.get axis).toInt| ≤ |(18918 : ℤ)| := hwithin axis
    exact_mod_cast sq_le_sq.mpr habs
  have hinputX : accelLPF.toNumbers.x ^ 2 ≤ 18918 ^ 2 := hsquare .x
  have hinputY : accelLPF.toNumbers.y ^ 2 ≤ 18918 ^ 2 := hsquare .y
  have hinputZ : accelLPF.toNumbers.z ^ 2 ≤ 18918 ^ 2 := hsquare .z
  obtain ⟨haligned, hx, hy, hz⟩ :=
    imuAccAlignToGravity_narrow halignment hinputX hinputY hinputZ (by norm_num [stretch]) undefined
  have hscaled : ∀ q : ℚ, q ^ 2 ≤ 32767 ^ 2 → |q * IMU_G_PER_LSB_CFG| ≤ 8 := by
    intro q hq
    have habs : |q| ≤ 32768 := abs_le_of_sq_le_sq (hq.trans (by norm_num)) (by norm_num)
    have hscale : (0 : ℚ) ≤ IMU_G_PER_LSB_CFG := by norm_num [IMU_G_PER_LSB_CFG]
    rw [abs_mul, abs_of_nonneg hscale]
    exact (mul_le_mul_of_nonneg_right habs hscale).trans_eq (by norm_num [IMU_G_PER_LSB_CFG])
  refine ⟨imuAccIIRLPFilter_neverWraps _, congrArg remapAcc haligned, ?_, hscaled _ hy, hscaled _ hz⟩
  have hneg : acc.x =
      -(imuAccAlignToGravity (narrow undefined) alignment accelLPF.toNumbers).x * IMU_G_PER_LSB_CFG := rfl
  rw [hneg]
  exact hscaled _ ((neg_sq _).trans_le hx)

/-- The binary32 values of the configured angles, -0.32 and -17.67 degrees. -/
def calli : AccAlignment where
  cosPitch := 8388477 / 2 ^ 23
  sinPitch := -5996875 / 2 ^ 30
  cosRoll := 3996419 / 2 ^ 22
  sinRoll := -5092459 / 2 ^ 24

theorem calli_ofAngles : calli.OfAngles where
  roll := by norm_num [calli, stretch]
  pitch := by norm_num [calli, stretch]

/-- A board at rest, then shaken as hard as allowed. -/
theorem readAcc_defined_calli :
    let samples := List.replicate 100 (⟨0, 0, 4096⟩ : Axis3i16)
    let sample : Axis3i16 := ⟨18918, -18918, 18918⟩
    let acc := (readAcc (fun _ => 0) calli sample (storedAfter samples)).1
    let accelLPF := (imuAccIIRLPFilter sample (storedAfter samples) IMU_ACC_IIR_LPF_ATT_FACTOR).1
    (∀ axis, NeverWraps IMU_ACC_IIR_LPF_ATT_FACTOR ((samples ++ [sample]).map fun other => other.get axis)) ∧
      acc = remapAcc (imuAccAlignToGravity (fun q => truncate q) calli accelLPF.toNumbers) ∧
      |acc.x| ≤ 8 ∧ |acc.y| ≤ 8 ∧ |acc.z| ≤ 8 := by
  have hwithin : ∀ other ∈ List.replicate 100 (⟨0, 0, 4096⟩ : Axis3i16) ++ [⟨18918, -18918, 18918⟩],
      Axis3i16.Within 18918 other := by
    intro other hother axis
    rw [List.mem_append, List.mem_replicate, List.mem_singleton] at hother
    obtain ⟨_, rfl⟩ | rfl := hother <;> cases axis <;> decide
  exact readAcc_defined calli_ofAngles hwithin fun _ => 0

end copter.imu
