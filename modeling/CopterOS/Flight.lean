import CopterOS.Copter
import CopterOS.Imu.Accelerometer
import CopterOS.Lib.Projection
import CopterOS.Sensfusion6
import CopterOS.Stabilizer.TimeBase

open number transition copter.commander copter.imu copter.sensfusion6 copter.stabilizer

namespace copter.flight

/-- What the sensor path depends on besides the values of the build. -/
structure Config extends copter.Config where
  alignment : AccAlignment
  CONFIG_TICK_RATE_HZ : ℕ
  gains : Gains
  libm : Libm
  undefinedAcc : ℚ → Int16

/-- The raw samples of one read of the sensors, and the clock. -/
structure Reading extends Read where
  accelMpu : Axis3i16

/-- The variables from the sensors to the motors. -/
structure Flight where
  imu : Imu
  accelStoredFilterValues : Axis3i32
  fusion : Sensfusion6
  tasks : Copter

/-- After the initialization of every part. -/
def flight0 (config : Config) : Flight where
  imu := imu6Init config.CONFIG_TICK_RATE_HZ imu0
  accelStoredFilterValues := ⟨0, 0, 0⟩
  fusion := sensfusion60
  tasks := copter0 config.toConfig

/-- The angular rates and the acceleration of one read; there is no magnetometer. -/
def imu9Read (config : Config) (reading : Reading) (flight : Flight) : (Axis3f ℚ × Axis3f ℚ) × Flight :=
  let (gyro, imu) := imu6Read config.CONFIG_TICK_RATE_HZ reading.toRead flight.imu
  let (acc, accelStoredFilterValues) :=
    readAcc config.undefinedAcc config.alignment reading.accelMpu flight.accelStoredFilterValues
  ((gyro, acc), { flight with imu := imu, accelStoredFilterValues := accelStoredFilterValues })

/-- The pass corrects the attitude. -/
def Flight.Due (flight : Flight) : Prop :=
  imu6IsCalibrated flight.imu = true ∧
    flight.tasks.stabilizer.attitudeCounter + 1 ≥ ATTITUDE_UPDATE_RATE_DIVIDER

instance (flight : Flight) : Decidable flight.Due := inferInstanceAs (Decidable (_ ∧ _))

/-- The fusion after the pass; it is updated where the attitude is corrected. -/
def updateFusion (config : Config) (gyro acc : Axis3f ℚ) (flight : Flight) : Sensfusion6 :=
  if flight.Due then sensfusion6UpdateQ config.gains gyro acc FUSION_UPDATE_DT flight.fusion else flight.fusion

/-- What the control part of the pass works with. Between two corrections the attitude
    is the last one computed, and nothing reads it. -/
def sensors (config : Config) (gyro : Axis3f ℚ) (fusion : Sensfusion6) (imu : Imu) : Sensors where
  imu6IsCalibrated := imu6IsCalibrated imu
  gyro := ⟨(gyro.x : Flt), (gyro.y : Flt), (gyro.z : Flt)⟩
  eulerActual :=
    let euler := sensfusion6GetEulerRPY config.libm fusion
    ⟨(euler.roll : Flt), (euler.pitch : Flt), (euler.yaw : Flt)⟩

/-- The sensor part of one pass: what it hands to the control part, and what it
    leaves. -/
def sense (config : Config) (reading : Reading) (flight : Flight) : Sensors × Flight :=
  let ((gyro, acc), flight) := imu9Read config reading flight
  let fusion := updateFusion config gyro acc flight
  (sensors config gyro fusion flight.imu, { flight with fusion := fusion })

/-- One pass of the stabilizer loop, from the raw samples to the pulses. -/
def stabilizerTask (config : Config) (reading : Reading) (flight : Flight) :
    Option (Motor → UInt32) × Flight :=
  let (sensors, flight) := sense config reading flight
  let (pulses, tasks) := copter.stabilizerTask config.toConfig sensors flight.tasks
  (pulses, { flight with tasks := tasks })

/-- A pass of the stabilizer, a read of the sensors in the manufacturing test, or an
    event that does not touch the sensors. -/
inductive Event where
  | stabilizerTask (reading : Reading)
  | imu6ManufacturingTest (reading : Reading)
  | other (event : copter.Event) (hother : ∀ sensors, event ≠ .stabilizerTask sensors)

def step (config : Config) (flight : Flight) : Event → Flight
  | .stabilizerTask reading => (stabilizerTask config reading flight).2
  | .imu6ManufacturingTest reading => (imu9Read config reading flight).2
  | .other event _ => { flight with tasks := copter.step config.toConfig flight.tasks event }

/-- The state after a sequence of events from the initialization on. -/
def flightAfter (config : Config) (events : List Event) : Flight := run (step config) (flight0 config) events

/-- What the part without the sensors sees of an event. -/
def shown (config : Config) (flight : Flight) : Event → Option copter.Event
  | .stabilizerTask reading => some (.stabilizerTask (sense config reading flight).1)
  | .imu6ManufacturingTest _ => none
  | .other event _ => some event

theorem step_shown (config : Config) (flight : Flight) (event : Event) :
    (step config flight event).tasks =
      (shown config flight event).elim flight.tasks (copter.step config.toConfig flight.tasks) := by
  cases event <;> rfl

/-- Every run from the sensors to the motors is a run of the part without the
    sensors, for the values the sensors give. -/
theorem flightAfter_tasks (config : Config) (events : List Event) :
    (flightAfter config events).tasks =
      run (copter.step config.toConfig) (copter0 config.toConfig)
        (projected (step config) (shown config) (flight0 config) events) :=
  run_projected (step config) (shown config) (step_shown config) (flight0 config) events

end copter.flight
