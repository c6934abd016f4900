import CopterOS.Commander
import CopterOS.Pid

open copter.commander copter.pid number

namespace copter.controller

def INT16_MAX : ℚ := 32767

/-- The sampling time `1.0 / IMU_UPDATE_FREQ`. -/
def IMU_UPDATE_DT : ℚ := 1 / 500

/-- The six controllers. -/
inductive PidName where
  | pidRollRate
  | pidPitchRate
  | pidYawRate
  | pidRoll
  | pidPitch
  | pidYaw
  deriving DecidableEq

/-- The selectable sets of default gains. -/
inductive PidValuesConfig where
  | CONFIG_PIDVALUES_CRAZYFLIE
  | CONFIG_PIDVALUES_TCM

/-- The constants `PID_*_KP`, `PID_*_KI` and `PID_*_KD`. -/
def PidValuesConfig.gains : PidValuesConfig → PidName → ℚ × ℚ × ℚ
  | .CONFIG_PIDVALUES_CRAZYFLIE, .pidRollRate => (70, 0, 0)
  | .CONFIG_PIDVALUES_CRAZYFLIE, .pidPitchRate => (70, 0, 0)
  | .CONFIG_PIDVALUES_CRAZYFLIE, .pidYawRate => (70, 167 / 10, 0)
  | .CONFIG_PIDVALUES_CRAZYFLIE, .pidRoll => (7 / 2, 2, 0)
  | .CONFIG_PIDVALUES_CRAZYFLIE, .pidPitch => (7 / 2, 2, 0)
  | .CONFIG_PIDVALUES_CRAZYFLIE, .pidYaw => (0, 0, 0)
  | .CONFIG_PIDVALUES_TCM, .pidRollRate => (160, 20, 0)
  | .CONFIG_PIDVALUES_TCM, .pidPitchRate => (160, 20, 0)
  | .CONFIG_PIDVALUES_TCM, .pidYawRate => (90, 10, 0)
  | .CONFIG_PIDVALUES_TCM, .pidRoll => (8, 505 / 100, 0)
  | .CONFIG_PIDVALUES_TCM, .pidPitch => (8, 505 / 100, 0)
  | .CONFIG_PIDVALUES_TCM, .pidYaw => (0, 0, 0)

/-- The constants `PID_*_INTEGRATION_LIMIT`, the same in both sets. -/
def PidName.INTEGRATION_LIMIT : PidName → ℚ
  | .pidRollRate => 333 / 10
  | .pidPitchRate => 333 / 10
  | .pidYawRate => 1667 / 10
  | .pidRoll => 20
  | .pidPitch => 20
  | .pidYaw => 360

/-- The six controllers and the outputs of the last rate correction. -/
structure Controller (A : Type) where
  isInit : Bool
  pid : PidName → PidObject A
  rollOutput : Int16
  pitchOutput : Int16
  yawOutput : Int16

section functions

variable {A : Type} [Zero A] [Add A] [Sub A] [Mul A] [Div A] [Neg A] [LT A] [DecidableLT A] [RatCast A]
  [Truncate A]

/-- The symmetric range is tested first, so the conversion of a number is
    defined; of anything else the result is open. -/
def saturateSignedInt16 (undefined : A → Int16) (input : A) : Int16 :=
  if input > (INT16_MAX : A) then 32767
  else if input < -(INT16_MAX : A) then -32767
  else
    match Truncate.toInt input with
    | some n => Int16.ofInt n
    | none => undefined input

def controllerInit (config : PidValuesConfig) (controller : Controller A) : Controller A :=
  if controller.isInit then controller
  else
    { controller with
      pid := fun name =>
        let (kp, ki, kd) := config.gains name
        pidSetIntegralLimit (name.INTEGRATION_LIMIT : A)
          (pidInit 0 (kp : A) (ki : A) (kd : A) (IMU_UPDATE_DT : A) (controller.pid name))
      isInit := true }

def controllerCorrectRatePID (undefined : A → Int16) (rateActual rateDesired : RPY A)
    (controller : Controller A) : Controller A :=
  let (rollOutput, pidRollRate) :=
    pidUpdate rateActual.roll true (pidSetDesired rateDesired.roll (controller.pid .pidRollRate))
  let (pitchOutput, pidPitchRate) :=
    pidUpdate rateActual.pitch true (pidSetDesired rateDesired.pitch (controller.pid .pidPitchRate))
  let (yawOutput, pidYawRate) :=
    pidUpdate rateActual.yaw true (pidSetDesired rateDesired.yaw (controller.pid .pidYawRate))
  { controller with
    pid := fun
      | .pidRollRate => pidRollRate
      | .pidPitchRate => pidPitchRate
      | .pidYawRate => pidYawRate
      | name => controller.pid name
    rollOutput := saturateSignedInt16 undefined rollOutput
    pitchOutput := saturateSignedInt16 undefined pitchOutput
    yawOutput := saturateSignedInt16 undefined yawOutput }

/-- The yaw error is brought back by at most one turn. -/
def yawError (eulerYawActual eulerYawDesired : A) : A :=
  let yawError := eulerYawDesired - eulerYawActual
  if yawError > ((180 : ℚ) : A) then yawError - ((360 : ℚ) : A)
  else if yawError < -((180 : ℚ) : A) then yawError + ((360 : ℚ) : A)
  else yawError

/-- The rates asked for, and the attitude controllers after it. -/
def controllerCorrectAttitudePID (eulerActual eulerDesired : RPY A) (controller : Controller A) :
    RPY A × Controller A :=
  let (rollRateDesired, pidRoll) :=
    pidUpdate eulerActual.roll true (pidSetDesired eulerDesired.roll (controller.pid .pidRoll))
  let (pitchRateDesired, pidPitch) :=
    pidUpdate eulerActual.pitch true (pidSetDesired eulerDesired.pitch (controller.pid .pidPitch))
  let (yawRateDesired, pidYaw) :=
    pidUpdate eulerActual.yaw false
      (pidSetError (yawError eulerActual.yaw eulerDesired.yaw) (controller.pid .pidYaw))
  (⟨rollRateDesired, pitchRateDesired, yawRateDesired⟩,
    { controller with
      pid := fun
        | .pidRoll => pidRoll
        | .pidPitch => pidPitch
        | .pidYaw => pidYaw
        | name => controller.pid name })

def controllerResetAllPID (controller : Controller A) : Controller A :=
  { controller with pid := fun name => pidReset (controller.pid name) }

/-- The zero-initialized objects before `controllerInit`. -/
def controller0 : Controller A where
  isInit := false
  pid _ := ⟨0, 0, 0, 0, 0, 0, 0, 0, 0, 0, 0, 0, 0, 0⟩
  rollOutput := 0
  pitchOutput := 0
  yawOutput := 0

end functions

def controllerGetActuatorOutput {A : Type} (controller : Controller A) : RPY Int16 :=
  ⟨controller.rollOutput, controller.pitchOutput, controller.yawOutput⟩

end copter.controller
