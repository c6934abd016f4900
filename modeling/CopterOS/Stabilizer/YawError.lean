import CopterOS.LinuxCommander.Setpoint
import CopterOS.RcCommander.Sticks

open number copter.commander copter.controller copter.linux_commander copter.rc_commander copter.remote_control

namespace copter.stabilizer

/-- The yaw demands of the two commanders: from a reading the receiver takes for a
    pulse, or from a stored number between -1 and 1. -/
inductive YawDemand : Flt → Prop
  | rcComm_GetRPY (build : Build) (rc : Rc) (rcComm : RcComm) (hmin : RC_MIN < rc_get rc rcComm.yawID)
      (hmax : rc_get rc rcComm.yawID < RC_MAX) :
      YawDemand ((rcComm_GetRPY build.sticks.toCalibration rc rcComm).yaw : ℚ)
  | linuxComm_GetRPY (ctl : AutocoptControl) (hyaw : InRange ctl.yaw) : YawDemand (linuxComm_GetRPY ctl).yaw

/-- The error is that of the demand up to full turns, and at most half a turn. -/
def ShortWay (desired actual error : ℚ) : Prop :=
  (∃ turns : ℤ, error = desired - actual + 360 * turns) ∧ -180 ≤ error ∧ error ≤ 180

theorem yawError_numbers (actual desired : ℚ) :
    yawError (Flt.finite actual) (Flt.finite desired) = .finite (yawError actual desired) := by
  have hsub : Flt.finite desired - Flt.finite actual = .finite (desired - actual) :=
    congrArg Flt.finite (sub_eq_add_neg desired actual).symm
  have hneg : -Flt.finite 180 = .finite (-180) := rfl
  unfold yawError
  simp only [hsub, Flt.ratCast_eq, hneg, gt_iff_lt, Flt.finite_lt_finite, Rat.cast_id]
  split
  · exact congrArg Flt.finite (sub_eq_add_neg _ 360).symm
  · split <;> rfl

/-- One correction is enough exactly for differences of at most one and a half
    turns. -/
theorem yawError_shortWay_iff (actual desired : ℚ) :
    ShortWay desired actual (yawError actual desired) ↔ |desired - actual| ≤ 540 := by
  simp only [yawError, Rat.cast_id, gt_iff_lt, abs_le]
  split
  case isTrue hover =>
    have hturn : ∃ turns : ℤ, desired - actual - 360 = desired - actual + 360 * turns := ⟨-1, by norm_num; ring⟩
    unfold ShortWay
    rw [and_iff_right hturn]
    constructor <;> rintro ⟨hlow, hhigh⟩ <;> constructor <;> linarith
  case isFalse hnotOver =>
    split
    case isTrue hunder =>
      have hturn : ∃ turns : ℤ, desired - actual + 360 = desired - actual + 360 * turns := ⟨1, by norm_num⟩
      unfold ShortWay
      rw [and_iff_right hturn]
      constructor <;> rintro ⟨hlow, hhigh⟩ <;> constructor <;> linarith
    case isFalse hnotUnder =>
      have hturn : ∃ turns : ℤ, desired - actual = desired - actual + 360 * turns := ⟨0, by norm_num⟩
      unfold ShortWay
      rw [and_iff_right hturn]
      constructor <;> rintro _ <;> constructor <;> linarith

theorem abs_deadband_le (percent min max : ℚ) (hmax : 0 ≤ max) : |deadband percent min max| ≤ |percent| * max := by
  unfold deadband
  split
  · rw [abs_mul, abs_of_nonneg hmax]
  · rw [abs_zero]
    exact mul_nonneg (abs_nonneg percent) hmax

/-- Between the ends of the receiver's window the stick is deflected by less than
    three times its calibrated range. -/
theorem abs_getPercent_le (build : Build) {value : ℚ} (hmin : 480 ≤ value) (hmax : value ≤ 2200) :
    |getPercent value build.sticks.ROLL_BASE build.sticks.ROLL_MIN build.sticks.ROLL_MAX| ≤ 36 / 13 := by
  have hmono := fun low high (hle : low ≤ high) => getPercent_mono build.sticks.roll_min_lt_base
    build.sticks.roll_base_lt_max hle
  have hlow := hmono 480 value hmin
  have hhigh := hmono value 2200 hmax
  have hends : -(36 / 13) ≤ getPercent 480 build.sticks.ROLL_BASE build.sticks.ROLL_MIN build.sticks.ROLL_MAX ∧
      getPercent 2200 build.sticks.ROLL_BASE build.sticks.ROLL_MIN build.sticks.ROLL_MAX ≤ 36 / 13 := by
    cases build <;> norm_num [getPercent, Build.sticks, davidRc, uliRc]
  rw [abs_le]
  exact ⟨hends.1.trans hlow, hhigh.trans hends.2⟩

/-- The yaw stick asks for less than a full turn, also behind its end stops. -/
theorem rcComm_GetRPY_yaw_le (build : Build) {rc : Rc} {rcComm : RcComm} (hmin : RC_MIN < rc_get rc rcComm.yawID)
    (hmax : rc_get rc rcComm.yawID < RC_MAX) :
    |(rcComm_GetRPY build.sticks.toCalibration rc rcComm).yaw| ≤ 360 := by
  have hreading : (480 : ℚ) ≤ reading rc rcComm.yawID ∧ reading rc rcComm.yawID ≤ 2200 := by
    rw [UInt32.lt_iff_toNat_lt] at hmin hmax
    have hlow : 480 ≤ (rc_get rc rcComm.yawID).toNat := hmin.le
    have hhigh : (rc_get rc rcComm.yawID).toNat ≤ 2200 := hmax.le
    unfold reading
    exact ⟨by exact_mod_cast hlow, by exact_mod_cast hhigh⟩
  have hpercent := abs_getPercent_le build hreading.1 hreading.2
  unfold rcComm_GetRPY
  dsimp only
  split
  · norm_num
  · have hband := abs_deadband_le (getPercent (reading rc rcComm.yawID) build.sticks.ROLL_BASE
      build.sticks.ROLL_MIN build.sticks.ROLL_MAX * -1) MIN_Y EULER_YAW_MAX (by norm_num [EULER_YAW_MAX])
    rw [abs_mul, abs_neg, abs_one, mul_one] at hband
    have hscaled := mul_le_mul_of_nonneg_right hpercent (by norm_num [EULER_YAW_MAX] : (0 : ℚ) ≤ EULER_YAW_MAX)
    have hturn : 36 / 13 * EULER_YAW_MAX = 360 := by norm_num [EULER_YAW_MAX]
    exact (hband.trans hscaled).trans_eq hturn

/-- The linux set-point asks for 130 degrees at most. -/
theorem linuxComm_GetRPY_yaw {ctl : AutocoptControl} (hyaw : InRange ctl.yaw) :
    ∃ desired : ℚ, (linuxComm_GetRPY ctl).yaw = .finite desired ∧ |desired| ≤ 360 := by
  obtain ⟨q, hq, hlow, hhigh⟩ := hyaw
  refine ⟨q * 130, ?_, ?_⟩
  · unfold linuxComm_GetRPY
    rw [hq]
    rfl
  · rw [abs_le]
    constructor <;> linarith

theorem YawDemand.exists_le {yaw : Flt} (hdemand : YawDemand yaw) :
    ∃ desired : ℚ, yaw = .finite desired ∧ |desired| ≤ 360 := by
  cases hdemand with
  | rcComm_GetRPY build rc rcComm hmin hmax => exact ⟨_, rfl, rcComm_GetRPY_yaw_le build hmin hmax⟩
  | linuxComm_GetRPY ctl hyaw => exact linuxComm_GetRPY_yaw hyaw

/-- In the pass that corrects the attitude, the error of the yaw takes the short way
    round from the measured yaw to the negated demand. -/
theorem correctAttitude_shortWay {eulerDesired : RPY Flt} (hdemand : YawDemand eulerDesired.yaw)
    {sensors : Sensors} {actual : ℚ} (hactual : sensors.eulerActual.yaw = .finite actual)
    (hlow : -180 ≤ actual) (hhigh : actual ≤ 180) {stabilizer : Stabilizer}
    (hdue : stabilizer.attitudeCounter + 1 ≥ ATTITUDE_UPDATE_RATE_DIVIDER) (controller : Controller Flt) :
    ∃ desired error : ℚ, eulerDesired.yaw = .finite desired ∧
      ((correctAttitude sensors eulerDesired stabilizer controller).2.pid .pidYaw).error = .finite error ∧
        ShortWay (-desired) actual error := by
  obtain ⟨desired, hdesired, hturn⟩ := hdemand.exists_le
  refine ⟨desired, yawError actual (-desired), hdesired, ?_, ?_⟩
  · have hneg : -Flt.finite desired = .finite (-desired) := rfl
    have herror : ((correctAttitude sensors eulerDesired stabilizer controller).2.pid .pidYaw).error =
        yawError sensors.eulerActual.yaw (-eulerDesired.yaw) := by
      unfold correctAttitude
      dsimp only
      rw [if_pos hdue]
      rfl
    rw [herror, hactual, hdesired, hneg, yawError_numbers]
  · rw [yawError_shortWay_iff, abs_le]
    rw [abs_le] at hturn
    constructor <;> linarith

/-- The copter turned by half a turn. -/
def halfTurn : Sensors where
  imu6IsCalibrated := true
  gyro := ⟨0, 0, 0⟩
  eulerActual := ⟨0, 0, .finite 180⟩

/-- The yaw stick at the lower end of the receiver's window. -/
def fullDeflection : RPY Flt where
  roll := 0
  pitch := 0
  yaw := (rcComm_GetRPY Build.uliRc.sticks.toCalibration (rcReading 481) rcComm).yaw

theorem correctAttitude_shortWay_481 :
    ∃ desired error : ℚ, fullDeflection.yaw = .finite desired ∧
      ((correctAttitude halfTurn fullDeflection { stabilizer0 with attitudeCounter := 1 }
        (controllerInit .CONFIG_PIDVALUES_TCM controller0)).2.pid .pidYaw).error = .finite error ∧
        ShortWay (-desired) 180 error :=
  have hdemand : YawDemand fullDeflection.yaw :=
    .rcComm_GetRPY .uliRc (rcReading 481) rcComm (by decide) (by decide)
  have hactual : halfTurn.eulerActual.yaw = .finite 180 := rfl
  have hdue : { stabilizer0 with attitudeCounter := 1 }.attitudeCounter + 1 ≥ ATTITUDE_UPDATE_RATE_DIVIDER := by
    decide
  correctAttitude_shortWay hdemand hactual (by norm_num) (by norm_num) hdue _

end copter.stabilizer
