import CopterOS.Stabilizer.Power

open copter.commander copter.controller number

namespace copter.stabilizer

def ATTITUDE_UPDATE_RATE_DIVIDER : UInt32 := 2

structure Axis3f (A : Type) where
  x : A
  y : A
  z : A

/-- What one pass of the loop reads: whether the sensors are calibrated, the
    gyroscope, and the attitude the sensor fusion computes. -/
structure Sensors where
  imu6IsCalibrated : Bool
  gyro : Axis3f Flt
  eulerActual : RPY Flt

/-- The variables that live from one pass of the loop to the next. -/
structure Stabilizer where
  attitudeCounter : UInt32
  rateDesired : RPY Flt

def stabilizer0 : Stabilizer where
  attitudeCounter := 0
  rateDesired := ⟨0, 0, 0⟩

/-- The attitude correction in every second pass. -/
def correctAttitude (sensors : Sensors) (eulerDesired : RPY Flt) (stabilizer : Stabilizer)
    (controller : Controller Flt) : Stabilizer × Controller Flt :=
  let attitudeCounter := stabilizer.attitudeCounter + 1
  if attitudeCounter ≥ ATTITUDE_UPDATE_RATE_DIVIDER then
    let (rateDesired, controller) := controllerCorrectAttitudePID sensors.eulerActual
      ⟨eulerDesired.roll, eulerDesired.pitch, -eulerDesired.yaw⟩ controller
    ({ attitudeCounter := 0, rateDesired := rateDesired }, controller)
  else ({ stabilizer with attitudeCounter := attitudeCounter }, controller)

/-- In rate mode the set-point of an axis is a rate itself. -/
def selectRate (types : RPY RPYType) (eulerDesired rateDesired : RPY Flt) : RPY Flt where
  roll := if types.roll = .RATE then eulerDesired.roll else rateDesired.roll
  pitch := if types.pitch = .RATE then eulerDesired.pitch else rateDesired.pitch
  yaw := if types.yaw = .RATE then -eulerDesired.yaw else rateDesired.yaw

/-- The control part of one calibrated pass, up to the actuator outputs. -/
def control (undefined : Flt → Int16) (sensors : Sensors) (eulerDesired : RPY Flt) (types : RPY RPYType)
    (stabilizer : Stabilizer) (controller : Controller Flt) : Stabilizer × Controller Flt :=
  let (stabilizer, controller) := correctAttitude sensors eulerDesired stabilizer controller
  let rateDesired := selectRate types eulerDesired stabilizer.rateDesired
  ({ stabilizer with rateDesired := rateDesired },
    controllerCorrectRatePID undefined ⟨sensors.gyro.x, -sensors.gyro.y, sensors.gyro.z⟩ rateDesired
      controller)

/-- The power part of one calibrated pass; without thrust the motors idle and
    the controllers start over. -/
def actuate (actuatorThrust : UInt16) (controller : Controller Flt) :
    Option (Motor → UInt16) × Controller Flt :=
  if actuatorThrust > 0 then
    let actuator := controllerGetActuatorOutput controller
    ((negate actuator.yaw).bind fun yaw => distributePower actuatorThrust actuator.roll actuator.pitch yaw,
      controller)
  else (distributePower 0 0 0 0, controllerResetAllPID controller)

/-- The counter after a pass, from any value on. -/
theorem attitudeCounter_control (undefined : Flt → Int16) (sensors : Sensors) (eulerDesired : RPY Flt)
    (types : RPY RPYType) (stabilizer : Stabilizer) (controller : Controller Flt) :
    (control undefined sensors eulerDesired types stabilizer controller).1.attitudeCounter =
      if stabilizer.attitudeCounter + 1 ≥ ATTITUDE_UPDATE_RATE_DIVIDER then 0
      else stabilizer.attitudeCounter + 1 := by
  simp only [control, correctAttitude]
  split <;> rfl

/-- Without thrust every motor gets no power. -/
theorem actuate_zero (controller : Controller Flt) :
    actuate 0 controller = (some fun _ => 0, controllerResetAllPID controller) := by
  have hidle : distributePower 0 0 0 0 = some fun _ => 0 := by
    rw [distributePower_eq]
    congr 1
    funext motor
    cases motor <;> decide
  unfold actuate
  rw [if_neg (by decide), hidle]

end copter.stabilizer
