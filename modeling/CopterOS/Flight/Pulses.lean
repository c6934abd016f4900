import CopterOS.Flight
import CopterOS.LinuxCommander.Setpoint
import CopterOS.Sensfusion6.Euler

open number transition copter.commander copter.controller copter.imu copter.linux_commander copter.motors
open copter.pid copter.stabilizer

namespace copter.controller

/-- On numbers the saturation is the exact one. -/
theorem saturateSignedInt16_finite (undefined : Flt → Int16) (q : ℚ) :
    saturateSignedInt16 undefined (Flt.finite q) = saturateSignedInt16 (fun q => undefined (.finite q)) q := by
  have hneg : -Flt.finite INT16_MAX = .finite (-INT16_MAX) := rfl
  unfold saturateSignedInt16
  simp only [Flt.ratCast_eq, hneg, gt_iff_lt, Flt.finite_lt_finite, Rat.cast_id]
  rfl

end copter.controller

namespace copter.stabilizer

/-- After a pass over finite inputs the yaw output can be negated. -/
theorem control_yawOutput {controller : Controller Flt} (hcontroller : FiniteController controller)
    {stabilizer : Stabilizer} (hrate : FiniteRPY stabilizer.rateDesired) {sensors : Sensors}
    (hsensors : sensors.Finite) {eulerDesired : RPY Flt} (hdesired : FiniteRPY eulerDesired)
    (undefined : Flt → Int16) (types : RPY RPYType) :
    -32767 ≤ (control undefined sensors eulerDesired types stabilizer controller).2.yawOutput.toInt := by
  obtain ⟨hattitude, hobjects⟩ := correctAttitude_finite hcontroller hrate hsensors hdesired
  have hselected := selectRate_finite hdesired hattitude types
  obtain ⟨output, houtput⟩ :=
    (pidUpdate_finite (pidSetDesired_finite (hobjects .pidYawRate) hselected.yaw) hsensors.z true).1
  have hyaw : (control undefined sensors eulerDesired types stabilizer controller).2.yawOutput =
      saturateSignedInt16 undefined (Flt.finite output) := congrArg (saturateSignedInt16 undefined) houtput
  rw [hyaw, saturateSignedInt16_finite]
  exact (saturateSignedInt16_bounds _ output).1

/-- A yaw output that can be negated gives every motor its power. -/
theorem exists_actuate {controller : Controller Flt} (hyaw : -32767 ≤ controller.yawOutput.toInt)
    (actuatorThrust : UInt16) : ∃ power, (actuate actuatorThrust controller).1 = some power := by
  obtain ⟨negated, hnegate, _⟩ := negate_eq_some hyaw
  unfold actuate
  split
  · have hpower := distributePower_eq actuatorThrust controller.rollOutput controller.pitchOutput negated
    refine ⟨_, Eq.trans ?_ hpower⟩
    change (negate controller.yawOutput).bind _ = _
    rw [hnegate]
    rfl
  · exact ⟨_, distributePower_eq 0 0 0 0⟩

end copter.stabilizer

namespace copter

/-- The pulses a pass writes, all of them in the range of the speed controllers. -/
def InEscRange (esc : EscConfig) (pulses : Motor → UInt32) : Prop :=
  ∀ motor, esc.CONFIG_MOTOR_ESC_MIN ≤ (pulses motor).toNat ∧ (pulses motor).toNat ≤ esc.CONFIG_MOTOR_ESC_MAX

/-- A calibrated pass over numbers drives all four motors inside their range. -/
theorem stabilizerTask_inEscRange {sensors : Sensors} (hcalibrated : sensors.imu6IsCalibrated = true)
    (hsensors : sensors.Finite) {state : Copter} (hvalid : state.ctl.Valid) (hfinite : FiniteControl state)
    (config : Config) :
    ∃ pulses, (stabilizerTask config sensors state).1 = some pulses ∧ InEscRange config.esc pulses := by
  have hyaw := control_yawOutput hfinite.controller hfinite.rateDesired hsensors
    (commanderGetRPY_finite hvalid config) config.undefinedInt16 (commanderGetRPYType state.comm)
  obtain ⟨power, hpower⟩ := exists_actuate hyaw (state.thrust config)
  refine ⟨fun motor => motorsSetRatio config.esc (power motor), ?_, fun motor => motorsSetRatio_bounds config.esc _⟩
  rw [stabilizerTask_of_calibrated hcalibrated]
  dsimp only
  rw [hpower]
  rfl

end copter

namespace copter.flight

/-- No set-point with a NaN gets past the test of its message. -/
def RefusesNaN : Event → Prop
  | .other event _ => copter.linux_commander.RefusesNaN event
  | _ => True

theorem sensors_finite (config : Config) (gyro : Axis3f ℚ) (fusion : sensfusion6.Sensfusion6) (imu : Imu) :
    (sensors config gyro fusion imu).Finite where
  x := ⟨_, rfl⟩
  y := ⟨_, rfl⟩
  z := ⟨_, rfl⟩
  eulerActual := ⟨⟨_, rfl⟩, ⟨_, rfl⟩, ⟨_, rfl⟩⟩

/-- The raw samples are integers, so the tasks never work with anything but numbers. -/
theorem flightAfter_finite {events : List Event} (hevents : ∀ event ∈ events, RefusesNaN event) (config : Config) :
    (flightAfter config events).tasks.ctl.Valid ∧ FiniteControl (flightAfter config events).tasks := by
  have hshown : ∀ seen ∈ projected (step config) (shown config) (flight0 config) events,
      copter.linux_commander.RefusesNaN seen ∧ ∀ sensors, seen = .stabilizerTask sensors → sensors.Finite := by
    refine projected_forall (step config) (shown config)
      (P := fun seen => copter.linux_commander.RefusesNaN seen ∧
        ∀ sensors, seen = .stabilizerTask sensors → sensors.Finite) ?_ hevents
    intro flight event seen hrefuses hseen
    cases event with
    | stabilizerTask reading =>
      obtain rfl := Option.some.inj hseen
      refine ⟨trivial, ?_⟩
      rintro sensors heq
      cases heq
      exact sensors_finite config _ _ _
    | imu6ManufacturingTest reading => cases hseen
    | other event hother =>
      obtain rfl := Option.some.inj hseen
      exact ⟨hrefuses, fun sensors heq => absurd heq (hother sensors)⟩
  rw [flightAfter_tasks]
  exact ⟨run_valid (fun seen hseen => (hshown seen hseen).1) _,
    run_finiteControl (fun seen hseen => (hshown seen hseen).1)
      (fun sensors hsensors => (hshown _ hsensors).2 sensors rfl) _⟩

/-- Whatever the sensors, the receiver and Linux send, in every run without a stored
    NaN every pass of a calibrated copter writes a pulse inside its range to each of the
    four motors, and an uncalibrated one writes none. -/
theorem flight_pulses {events : List Event} (hevents : ∀ event ∈ events, RefusesNaN event) (config : Config)
    (reading : Reading) :
    let flight := flightAfter config events
    (imu6IsCalibrated (sense config reading flight).2.imu = true →
      ∃ pulses, (stabilizerTask config reading flight).1 = some pulses ∧ InEscRange config.esc pulses) ∧
    (imu6IsCalibrated (sense config reading flight).2.imu = false →
      (stabilizerTask config reading flight).1 = none) := by
  intro flight
  obtain ⟨hvalid, hfinite⟩ := flightAfter_finite hevents config
  constructor
  · intro hcalibrated
    exact stabilizerTask_inEscRange hcalibrated (sensors_finite config _ _ _) hvalid hfinite config.toConfig
  · intro hnotCalibrated
    have hsensors : ¬ (sense config reading flight).1.imu6IsCalibrated = true := by
      rw [Bool.not_eq_true]
      exact hnotCalibrated
    exact congrArg Prod.fst (stabilizerTask_of_not_calibrated hsensors config.toConfig flight.tasks)

/-- The board with its sensors mounted as configured. -/
def board : Config :=
  { tlm_vf610_defconfig (fun _ => 0) (fun _ => 0) with
    alignment := calli
    CONFIG_TICK_RATE_HZ := 1000
    gains := sensfusion6.gains0
    libm := sensfusion6.levelLibm
    undefinedAcc := fun _ => 0 }

/-- A read at rest on level ground. -/
def resting : Reading where
  gyroMpu := ⟨0, 0, 0⟩
  tick := 2
  sampleTick := 2
  accelMpu := ⟨-23, -1243, 3903⟩

/-- The self test at rest, and a first pass. -/
def calibrating : List Event := List.replicate 128 (.imu6ManufacturingTest resting) ++ [.stabilizerTask resting]

theorem calibrating_refusesNaN : ∀ event ∈ calibrating, RefusesNaN event := by
  unfold calibrating
  intro event hevent
  rw [List.mem_append, List.mem_replicate, List.mem_singleton] at hevent
  obtain ⟨_, rfl⟩ | rfl := hevent <;> trivial

theorem flight_pulses_calibrating :
    let flight := flightAfter board calibrating
    (imu6IsCalibrated (sense board resting flight).2.imu = true →
      ∃ pulses, (stabilizerTask board resting flight).1 = some pulses ∧ InEscRange board.esc pulses) ∧
    (imu6IsCalibrated (sense board resting flight).2.imu = false → (stabilizerTask board resting flight).1 = none) :=
  flight_pulses calibrating_refusesNaN board resting

end copter.flight
