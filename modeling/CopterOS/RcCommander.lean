import CopterOS.Commander
import CopterOS.RemoteControl
import CopterOS.Lib.Number

open copter.commander copter.remote_control number

namespace copter.rc_commander

/-- The stick positions a build is calibrated with, in timer ticks. -/
structure Calibration where
  ROLL_BASE : ℚ
  ROLL_MIN : ℚ
  ROLL_MAX : ℚ
  THRUST_BASE : ℚ
  THRUST_MIN : ℚ
  THRUST_MAX : ℚ
  roll_min_lt_base : ROLL_MIN < ROLL_BASE
  roll_base_lt_max : ROLL_BASE < ROLL_MAX
  thrust_min_lt_base : THRUST_MIN < THRUST_BASE
  thrust_base_lt_max : THRUST_BASE < THRUST_MAX

/-- The values under `CONFIG_DAVID_RC`. -/
def davidRc : Calibration where
  ROLL_BASE := 1494
  ROLL_MIN := 1093
  ROLL_MAX := 1894
  THRUST_BASE := 1060
  THRUST_MIN := 999
  THRUST_MAX := 1895
  roll_min_lt_base := by norm_num
  roll_base_lt_max := by norm_num
  thrust_min_lt_base := by norm_num
  thrust_base_lt_max := by norm_num

/-- The values without `CONFIG_DAVID_RC`. -/
def uliRc : Calibration where
  ROLL_BASE := 1494
  ROLL_MIN := 1104
  ROLL_MAX := 1895
  THRUST_BASE := 1137
  THRUST_MIN := 1097
  THRUST_MAX := 1895
  roll_min_lt_base := by norm_num
  roll_base_lt_max := by norm_num
  thrust_min_lt_base := by norm_num
  thrust_base_lt_max := by norm_num

def MIN_RP : ℚ := 3 / 100
def MIN_Y : ℚ := 5 / 100

/-- The channel numbers are written only by the static initializer. -/
structure RcComm where
  thrustLocked : Bool
  rollID : Fin RC_MAX_CHANNELS
  pitchID : Fin RC_MAX_CHANNELS
  yawID : Fin RC_MAX_CHANNELS
  thrustID : Fin RC_MAX_CHANNELS
  deriving DecidableEq

/-- The static initial value. -/
def rcComm : RcComm where
  thrustLocked := true
  rollID := 0
  pitchID := 1
  yawID := 2
  thrustID := 3

/-- A reading of `rc_get` converted to a number. -/
def reading (rc : Rc) (channel : Fin RC_MAX_CHANNELS) : ℚ := (rc_get rc channel).toNat

/-- All channels of the receiver read the same value. -/
def rcReading (value : UInt32) : Rc where
  channel _ := { capture := some 0, raw := 0, value := value, retry := true, corret := true }

def getPercent (value base min max : ℚ) : ℚ :=
  let value := value - base
  if value > 0 then value / (max - base) else value / (min - base) * -1

/-- The part of `rcComm_GetThrust` after its two readings. -/
def thrustOfReadings (undefined : ℚ → UInt16) (calibration : Calibration) (y t : ℚ) (rcComm : RcComm) :
    UInt16 × RcComm :=
  if t = 0 ∨ y = 0 then (0, { rcComm with thrustLocked := true })
  else
    let t := getPercent t calibration.THRUST_BASE calibration.THRUST_MIN calibration.THRUST_MAX
    if t < 0 then (0, { rcComm with thrustLocked := false })
    else if rcComm.thrustLocked then (0, rcComm)
    else (toUInt16 undefined (t * UINT16_MAX.toNat), rcComm)

def rcComm_GetThrust (undefined : ℚ → UInt16) (calibration : Calibration) (rc : Rc) (rcComm : RcComm) :
    UInt16 × RcComm :=
  thrustOfReadings undefined calibration (reading rc rcComm.yawID) (reading rc rcComm.thrustID) rcComm

/-- The dead zone around the middle of a stick. -/
def deadband (percent min max : ℚ) : ℚ := if percent < -min ∨ percent > min then percent * max else 0

/-- All three sticks are scaled by the constants of the roll stick. -/
def rcComm_GetRPY (calibration : Calibration) (rc : Rc) (rcComm : RcComm) : RPY ℚ :=
  let roll := reading rc rcComm.rollID
  let pitch := reading rc rcComm.pitchID
  let yaw := reading rc rcComm.yawID
  if roll = 0 ∨ pitch = 0 ∨ yaw = 0 then ⟨0, 0, 0⟩
  else
    let percent value :=
      getPercent value calibration.ROLL_BASE calibration.ROLL_MIN calibration.ROLL_MAX * -1
    { roll := deadband (percent roll) MIN_RP EULER_ROLL_MAX
      pitch := deadband (percent pitch) MIN_RP EULER_PITCH_MAX
      yaw := deadband (percent yaw) MIN_Y EULER_YAW_MAX }

def rcComm_selectThrust (comm : Commander ThrustCallback RPYCallback) : Commander ThrustCallback RPYCallback :=
  commanderSetThrust (some .rcComm_GetThrust) comm

def rcComm_selectRTY (comm : Commander ThrustCallback RPYCallback) : Commander ThrustCallback RPYCallback :=
  commanderSetRPY (some .rcComm_GetRPY) comm

@[simp] theorem reading_eq_zero_iff (rc : Rc) (channel : Fin RC_MAX_CHANNELS) :
    reading rc channel = 0 ↔ rc_get rc channel = 0 := by
  unfold reading
  rw [Nat.cast_eq_zero, ← UInt32.toNat_inj, UInt32.toNat_zero]

@[simp] theorem reading_rcReading (value : UInt32) (channel : Fin RC_MAX_CHANNELS) :
    reading (rcReading value) channel = value.toNat := rfl

/-- Below the base the percentage is negative, whatever the two scales are. -/
theorem getPercent_neg_iff {value base min max : ℚ} (hmin : min < base) (hmax : base < max) :
    getPercent value base min max < 0 ↔ value < base := by
  have hscale : min - base < 0 := by linarith
  unfold getPercent
  by_cases hvalue : value - base > 0
  · have hpercent : 0 < (value - base) / (max - base) := div_pos hvalue (by linarith)
    simp only [hvalue, if_true]
    constructor
    · intro hneg
      linarith
    · intro hless
      linarith
  · simp only [hvalue, if_false, mul_neg, mul_one, neg_lt_zero]
    rw [lt_div_iff_of_neg hscale]
    constructor
    · intro hneg
      linarith
    · intro hless
      linarith

theorem getPercent_of_le {value base : ℚ} (hvalue : value ≤ base) (min max : ℚ) :
    getPercent value base min max = (value - base) / (base - min) := by
  have hnot : ¬ value - base > 0 := by linarith
  have hscale : base - min = -(min - base) := by ring
  simp only [getPercent, hnot, if_false]
  rw [hscale, div_neg, mul_neg, mul_one]

theorem getPercent_of_lt {value base : ℚ} (hvalue : base < value) (min max : ℚ) :
    getPercent value base min max = (value - base) / (max - base) := by
  have hpos : value - base > 0 := by linarith
  simp only [getPercent, hpos, if_true]

/-- The end stops of a stick give the full deflection, and its base gives none. -/
theorem getPercent_min {base min : ℚ} (hmin : min < base) (max : ℚ) :
    getPercent min base min max = -1 := by
  rw [getPercent_of_le hmin.le, div_eq_iff (by linarith)]
  ring

theorem getPercent_max {base max : ℚ} (hmax : base < max) (min : ℚ) :
    getPercent max base min max = 1 := by
  rw [getPercent_of_lt hmax, div_self (by linarith)]

/-- The percentage grows with the reading over the change of slope. -/
theorem getPercent_mono {base min max : ℚ} (hmin : min < base) (hmax : base < max) {low high : ℚ}
    (hreading : low ≤ high) : getPercent low base min max ≤ getPercent high base min max := by
  have hbelow : 0 < base - min := by linarith
  have habove : 0 < max - base := by linarith
  rcases le_or_gt high base with hhigh | hhigh
  · rw [getPercent_of_le hhigh, getPercent_of_le (hreading.trans hhigh)]
    exact div_le_div_of_nonneg_right (by linarith) hbelow.le
  · rw [getPercent_of_lt hhigh]
    rcases le_or_gt low base with hlow | hlow
    · rw [getPercent_of_le hlow]
      have hneg : (low - base) / (base - min) ≤ 0 := div_nonpos_of_nonpos_of_nonneg (by linarith) hbelow.le
      have hpos : 0 ≤ (high - base) / (max - base) := div_nonneg (by linarith) habove.le
      exact hneg.trans hpos
    · rw [getPercent_of_lt hlow]
      exact div_le_div_of_nonneg_right (by linarith) habove.le

/-- Behind the upper end stop the percentage exceeds the full deflection. -/
theorem one_lt_getPercent {value base max : ℚ} (hmax : base < max) (hvalue : max < value) (min : ℚ) :
    1 < getPercent value base min max := by
  rw [getPercent_of_lt (hmax.trans hvalue), one_lt_div (by linarith)]
  linarith

/-- A lost yaw or thrust reading locks and gives zero. -/
theorem thrustOfReadings_of_lost {y t : ℚ} (hlost : t = 0 ∨ y = 0) (undefined : ℚ → UInt16)
    (calibration : Calibration) (rcComm : RcComm) :
    thrustOfReadings undefined calibration y t rcComm = (0, { rcComm with thrustLocked := true }) := by
  rw [thrustOfReadings, if_pos hlost]

/-- A stick below its base unlocks and gives zero. -/
theorem thrustOfReadings_of_lt_base {y t : ℚ} {calibration : Calibration} (hlost : ¬ (t = 0 ∨ y = 0))
    (hbase : t < calibration.THRUST_BASE) (undefined : ℚ → UInt16) (rcComm : RcComm) :
    thrustOfReadings undefined calibration y t rcComm = (0, { rcComm with thrustLocked := false }) := by
  have hneg := (getPercent_neg_iff calibration.thrust_min_lt_base calibration.thrust_base_lt_max).mpr hbase
  simp only [thrustOfReadings, hlost, hneg, if_false, if_true]

/-- Any other stick leaves the lock alone, and gives zero while it is held. -/
theorem thrustOfReadings_of_base_le {y t : ℚ} {calibration : Calibration} (hlost : ¬ (t = 0 ∨ y = 0))
    (hbase : ¬ t < calibration.THRUST_BASE) (undefined : ℚ → UInt16) (rcComm : RcComm) :
    (thrustOfReadings undefined calibration y t rcComm).2 = rcComm ∧
      (rcComm.thrustLocked = true → (thrustOfReadings undefined calibration y t rcComm).1 = 0) := by
  have hneg := mt (getPercent_neg_iff calibration.thrust_min_lt_base calibration.thrust_base_lt_max).mp hbase
  simp only [thrustOfReadings, hlost, hneg, if_false]
  cases hlocked : rcComm.thrustLocked <;> simp

/-- An unlocked stick at or above its base casts its percentage of the full
    counter range. -/
theorem thrustOfReadings_of_unlocked {y t : ℚ} {calibration : Calibration} {rcComm : RcComm}
    (hlost : ¬ (t = 0 ∨ y = 0)) (hbase : ¬ t < calibration.THRUST_BASE)
    (hunlocked : rcComm.thrustLocked = false) (undefined : ℚ → UInt16) :
    (thrustOfReadings undefined calibration y t rcComm).1 = toUInt16 undefined
      (getPercent t calibration.THRUST_BASE calibration.THRUST_MIN calibration.THRUST_MAX *
        UINT16_MAX.toNat) := by
  have hneg := mt (getPercent_neg_iff calibration.thrust_min_lt_base calibration.thrust_base_lt_max).mp hbase
  simp [thrustOfReadings, hlost, hneg, hunlocked]

/-- A lost roll, pitch or yaw channel centres all three axes. -/
theorem rcComm_GetRPY_of_lost {rc : Rc} {rcComm : RcComm}
    (hlost : rc_get rc rcComm.rollID = 0 ∨ rc_get rc rcComm.pitchID = 0 ∨ rc_get rc rcComm.yawID = 0)
    (calibration : Calibration) : rcComm_GetRPY calibration rc rcComm = ⟨0, 0, 0⟩ := by
  simp [rcComm_GetRPY, hlost]

end copter.rc_commander
