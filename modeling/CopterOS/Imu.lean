import CopterOS.Lib.Latch
import CopterOS.Lib.Ring
import CopterOS.Lib.Run
import CopterOS.Stabilizer

open number ring_buffer copter.stabilizer

namespace copter.imu

abbrev IMU_NBR_OF_BIAS_SAMPLES : ℕ := 128

def GYRO_VARIANCE_BASE : Int32 := 2000
def GYRO_VARIANCE_THRESHOLD_X : Int32 := GYRO_VARIANCE_BASE
def GYRO_VARIANCE_THRESHOLD_Y : Int32 := GYRO_VARIANCE_BASE
def GYRO_VARIANCE_THRESHOLD_Z : Int32 := GYRO_VARIANCE_BASE

/-- The constant `MPU6500_DEG_PER_LSB_2000`. -/
def IMU_DEG_PER_LSB_CFG : ℚ := 4000 / 65536

/-- Milliseconds in ticks of the build's `CONFIG_TICK_RATE_HZ`; quotient and product are
    numbers of 64 bits. -/
def M2T (CONFIG_TICK_RATE_HZ X : ℕ) : UInt32 :=
  UInt32.ofNat ⌊toDouble (X * toDouble (CONFIG_TICK_RATE_HZ / 1000))⌋₊

/-- At this rate the product stays below a thousand and one. -/
example : M2T 1001 1000 = 1000 := by decide +kernel

def GYRO_MIN_BIAS_TIMEOUT_MS (CONFIG_TICK_RATE_HZ : ℕ) : UInt32 := M2T CONFIG_TICK_RATE_HZ (1 * 1000)

structure Axis3i16 where
  x : Int16
  y : Int16
  z : Int16
  deriving DecidableEq

structure Axis3i32 where
  x : Int32
  y : Int32
  z : Int32
  deriving DecidableEq

/-- The three axes of a sensor. -/
inductive Axis where
  | x
  | y
  | z
  deriving DecidableEq

theorem Axis.forall_iff {P : Axis → Prop} : (∀ axis, P axis) ↔ P .x ∧ P .y ∧ P .z := by
  constructor
  · intro hall
    exact ⟨hall .x, hall .y, hall .z⟩
  · rintro ⟨hx, hy, hz⟩ axis
    cases axis with
    | x => exact hx
    | y => exact hy
    | z => exact hz

instance {P : Axis → Prop} [DecidablePred P] : Decidable (∀ axis, P axis) :=
  decidable_of_iff _ Axis.forall_iff.symm

def Axis3i16.get (values : Axis3i16) : Axis → Int16
  | .x => values.x
  | .y => values.y
  | .z => values.z

/-- The samples of a sensor and what was found from them. The pointer to the next
    sample is its index. -/
structure BiasObj where
  bias : Axis3i16
  isBiasValueFound : Bool
  isBufferFilled : Bool
  bufHead : Fin IMU_NBR_OF_BIAS_SAMPLES
  buffer : Fin IMU_NBR_OF_BIAS_SAMPLES → Axis3i16

/-- The variables of the unit that the gyro calibration uses. -/
structure Imu where
  isInit : Bool
  gyroBias : BiasObj
  varianceSampleTime : Int32

/-- What one read gets from the sensor and from the two reads of the clock. -/
structure Read where
  gyroMpu : Axis3i16
  tick : UInt32
  sampleTick : UInt32

/-- Before the initialization; the pointer to the next sample is not yet set. -/
def imu0 : Imu where
  isInit := false
  gyroBias :=
    { bias := ⟨0, 0, 0⟩
      isBiasValueFound := false
      isBufferFilled := false
      bufHead := 0
      buffer := fun _ => ⟨0, 0, 0⟩ }
  varianceSampleTime := 0

def imuBiasInit (bias : BiasObj) : BiasObj := { bias with isBufferFilled := false, bufHead := 0 }

def imu6Init (CONFIG_TICK_RATE_HZ : ℕ) (imu : Imu) : Imu :=
  if imu.isInit then imu
  else
    { isInit := true
      gyroBias := imuBiasInit imu.gyroBias
      varianceSampleTime := (-GYRO_MIN_BIAS_TIMEOUT_MS CONFIG_TICK_RATE_HZ + 1).toInt32 }

/-- The sum of one axis, in 32 bits. -/
def BiasObj.sum (bias : BiasObj) (axis : Axis) : Int32 :=
  (List.finRange IMU_NBR_OF_BIAS_SAMPLES).foldl (fun sum i => sum + ((bias.buffer i).get axis).toInt32) 0

/-- The sum of squares of one axis: the squares in 32 bits, their sum in 64. -/
def BiasObj.sumSq (bias : BiasObj) (axis : Axis) : Int64 :=
  (List.finRange IMU_NBR_OF_BIAS_SAMPLES).foldl
    (fun sumSq i =>
      sumSq + (((bias.buffer i).get axis).toInt32 * ((bias.buffer i).get axis).toInt32).toInt64) 0

/-- The 64-bit energy of one axis as it is stored in a 32-bit field. -/
def BiasObj.varOut (bias : BiasObj) (axis : Axis) : Int32 :=
  (bias.sumSq axis - (bias.sum axis).toInt64 * (bias.sum axis).toInt64 / 128).toInt32

def BiasObj.meanOut (bias : BiasObj) (axis : Axis) : Int32 := bias.sum axis / 128

def imuCalculateVarianceAndMean (bias : BiasObj) : Axis3i32 × Axis3i32 :=
  (⟨bias.varOut .x, bias.varOut .y, bias.varOut .z⟩, ⟨bias.meanOut .x, bias.meanOut .y, bias.meanOut .z⟩)

def imuAddBiasValue (dVal : Axis3i16) (bias : BiasObj) : BiasObj :=
  let buffer := Function.update bias.buffer bias.bufHead dVal
  if h : bias.bufHead.val + 1 < IMU_NBR_OF_BIAS_SAMPLES then
    { bias with buffer := buffer, bufHead := ⟨bias.bufHead.val + 1, h⟩ }
  else { bias with buffer := buffer, bufHead := 0, isBufferFilled := true }

/-- The calculation marks the unit as initialized once more. -/
def imuFindBiasValue (CONFIG_TICK_RATE_HZ : ℕ) (read : Read) (imu : Imu) : Bool × Imu :=
  let bias := imu.gyroBias
  if bias.isBufferFilled then
    let (variance, mean) := imuCalculateVarianceAndMean bias
    let imu := { imu with isInit := true }
    if variance.x < GYRO_VARIANCE_THRESHOLD_X ∧ variance.y < GYRO_VARIANCE_THRESHOLD_Y ∧
        variance.z < GYRO_VARIANCE_THRESHOLD_Z ∧
        imu.varianceSampleTime.toUInt32 + GYRO_MIN_BIAS_TIMEOUT_MS CONFIG_TICK_RATE_HZ < read.tick then
      (true,
        { imu with
          varianceSampleTime := read.sampleTick.toInt32
          gyroBias :=
            { bias with
              bias := ⟨mean.x.toInt16, mean.y.toInt16, mean.z.toInt16⟩
              isBiasValueFound := true } })
    else (false, imu)
  else (false, imu)

/-- A reading without its bias, in degrees per second. -/
def remap (gyroMpu bias : Axis3i16) : Axis3f ℚ where
  x := (-(gyroMpu.x.toInt - bias.x.toInt) : ℤ) * IMU_DEG_PER_LSB_CFG
  y := (gyroMpu.y.toInt - bias.y.toInt : ℤ) * IMU_DEG_PER_LSB_CFG
  z := (gyroMpu.z.toInt - bias.z.toInt : ℤ) * IMU_DEG_PER_LSB_CFG

/-- The gyro part of a read. -/
def imu6Read (CONFIG_TICK_RATE_HZ : ℕ) (read : Read) (imu : Imu) : Axis3f ℚ × Imu :=
  let imu := { imu with gyroBias := imuAddBiasValue read.gyroMpu imu.gyroBias }
  let imu := if imu.gyroBias.isBiasValueFound then imu else (imuFindBiasValue CONFIG_TICK_RATE_HZ read imu).2
  (remap read.gyroMpu imu.gyroBias.bias, imu)

def imu6IsCalibrated (imu : Imu) : Bool := imu.gyroBias.isBiasValueFound

end copter.imu
