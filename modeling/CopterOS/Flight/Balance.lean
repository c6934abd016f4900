import CopterOS.Copter.Quiet
import CopterOS.Flight.Pulses
import CopterOS.Imu.Offset
import CopterOS.Sensfusion6.Turning

open number transition copter.commander copter.imu copter.linux_client copter.motors copter.sensfusion6
open copter.stabilizer

namespace copter.imu

/-- A reading that is its bias shows no rate. -/
theorem remap_of_bias {gyroMpu bias : Axis3i16} (hbias : ∀ axis, reading axis bias = reading axis gyroMpu) :
    remap gyroMpu bias = ⟨0, 0, 0⟩ := by
  have hx : bias.x.toInt = gyroMpu.x.toInt := hbias .x
  have hy : bias.y.toInt = gyroMpu.y.toInt := hbias .y
  have hz : bias.z.toInt = gyroMpu.z.toInt := hbias .z
  simp [remap, hx, hy, hz]

end copter.imu

namespace copter.sensfusion6

/-- The estimate is level and has not turned. -/
structure Unturned (fusion : Sensfusion6) : Prop extends Level fusion where
  q3 : fusion.q3 = 0

theorem unturned_sensfusion60 : Unturned sensfusion60 := ⟨level_sensfusion60, rfl⟩

theorem Unturned.step {fusion : Sensfusion6} (hunturned : Unturned fusion) {sample : Sample} (hspins : Spins sample)
    (hgz : sample.g.z = 0) (gains : Gains) :
    Unturned (sensfusion6UpdateQ gains sample.g sample.a sample.dt fusion) := by
  obtain ⟨hlevel, hq3⟩ := hunturned
  refine ⟨hlevel.step hspins gains, ?_⟩
  rw [sensfusion6UpdateQ_eq, hlevel.unfed hspins gains]
  simp [normaliseQ, integrate, hq3, hspins.gx, hspins.gy, hgz]

theorem Unturned.euler {fusion : Sensfusion6} (hunturned : Unturned fusion) {libm : Libm}
    (hatan2f : ∀ x, 0 < x → libm.atan2f 0 x = 0) (hasinf : libm.asinf 0 = 0) :
    sensfusion6GetEulerRPY libm fusion = ⟨0, 0, 0⟩ := by
  obtain ⟨hlevel, hq3⟩ := hunturned
  obtain ⟨hroll, hpitch⟩ := hlevel.roll_pitch hatan2f hasinf
  have hlength : 0 < fusion.q0 * fusion.q0 := by
    have hpos := hlevel.normalised.pos
    rw [normSq_quaternion, hlevel.q1, hlevel.q2, hq3] at hpos
    simpa using hpos
  have hyaw : (sensfusion6GetEulerRPY libm fusion).yaw = 0 := by
    unfold sensfusion6GetEulerRPY
    dsimp only
    rw [hlevel.q1, hlevel.q2, hq3]
    simp only [mul_zero, add_zero, sub_zero]
    rw [hatan2f _ hlength, zero_mul, zero_div]
  have hparts : sensfusion6GetEulerRPY libm fusion = ⟨(sensfusion6GetEulerRPY libm fusion).roll,
    (sensfusion6GetEulerRPY libm fusion).pitch, (sensfusion6GetEulerRPY libm fusion).yaw⟩ := rfl
  rw [hparts, hroll, hpitch, hyaw]

end copter.sensfusion6

namespace copter.flight

/-- The copter stands still: the gyroscope shows its offset, and the aligned
    accelerometer nothing but the vertical. -/
structure Rests (config : Config) (offset : Axis3i16) (flight : Flight) (reading : Reading) : Prop where
  gyroMpu : reading.gyroMpu = offset
  x : (imu9Read config reading flight).1.2.x = 0
  y : (imu9Read config reading flight).1.2.y = 0

/-- In the step the copter stands still, and in a pass nobody asks for a turn. -/
def OnStand (config : Config) (offset : Axis3i16) : Flight × Event → Prop
  | (flight, .stabilizerTask reading) => Rests config offset flight reading ∧
    commanderGetRPY (callRPY config.toConfig) flight.tasks.comm flight.tasks = ⟨0, 0, 0⟩
  | (_, .imu6ManufacturingTest reading) => reading.gyroMpu = offset
  | _ => True

instance (config : Config) (offset : Axis3i16) (flight : Flight) (reading : Reading) :
    Decidable (Rests config offset flight reading) :=
  decidable_of_iff (reading.gyroMpu = offset ∧ (imu9Read config reading flight).1.2.x = 0 ∧
      (imu9Read config reading flight).1.2.y = 0)
    ⟨fun ⟨hgyro, hx, hy⟩ => ⟨hgyro, hx, hy⟩, fun ⟨hgyro, hx, hy⟩ => ⟨hgyro, hx, hy⟩⟩

instance (config : Config) (offset : Axis3i16) : DecidablePred (OnStand config offset)
  | (_, .stabilizerTask _) => inferInstanceAs (Decidable (_ ∧ _))
  | (_, .imu6ManufacturingTest _) => inferInstanceAs (Decidable (_ = _))
  | (_, .other _ _) => inferInstanceAs (Decidable True)

/-- Nothing has been measured so far, and nothing is left to correct. -/
structure Balanced (config : Config) (offset : Axis3i16) (flight : Flight) : Prop where
  imu : ∃ reads, (∀ read ∈ reads, read.gyroMpu = offset) ∧ HasRead config.CONFIG_TICK_RATE_HZ reads flight.imu
  fusion : Unturned flight.fusion
  loop : ∀ axis, QuietAxis axis flight.tasks.loop

theorem balanced_flight0 (config : Config) (offset : Axis3i16) : Balanced config offset (flight0 config) where
  imu := ⟨[], by simp, imuAfter_hasRead config.CONFIG_TICK_RATE_HZ []⟩
  fusion := unturned_sensfusion60
  loop axis := quietAxis_copter0 axis config.toConfig

/-- A read of the sensors takes in one more sample, and shows no rate once the copter
    is calibrated. -/
theorem balanced_imu9Read {config : Config} {offset : Axis3i16} {flight : Flight}
    (hbalanced : Balanced config offset flight) {reading : Reading} (hgyro : reading.gyroMpu = offset) :
    Balanced config offset (imu9Read config reading flight).2 ∧
      (imu6IsCalibrated (imu9Read config reading flight).2.imu = true →
        (imu9Read config reading flight).1.1 = ⟨0, 0, 0⟩) := by
  subst hgyro
  obtain ⟨⟨reads, hconstant, hread⟩, hfusion, hloop⟩ := hbalanced
  have hnext := hread.imu6Read reading.toRead
  have hall : ∀ read ∈ reads ++ [reading.toRead], read.gyroMpu = reading.gyroMpu := by
    intro read hmem
    rw [List.mem_append, List.mem_singleton] at hmem
    obtain hmem | rfl := hmem
    · exact hconstant read hmem
    · rfl
  refine ⟨⟨⟨_, hall, hnext⟩, hfusion, hloop⟩, ?_⟩
  intro hcalibrated
  exact remap_of_bias (hnext.bias_of_constant hall hcalibrated)

/-- The sensor part of a pass at rest leaves a calibrated copter without an error. -/
theorem balanced_sense {config : Config} {offset : Axis3i16} {flight : Flight}
    (hbalanced : Balanced config offset flight) {reading : Reading} (hrests : Rests config offset flight reading)
    (hatan2f : ∀ x, 0 < x → config.libm.atan2f 0 x = 0) (hasinf : config.libm.asinf 0 = 0) :
    Balanced config offset (sense config reading flight).2 ∧
      (imu6IsCalibrated (sense config reading flight).2.imu = true →
        ∀ axis, NoError axis (sense config reading flight).1 ⟨0, 0, 0⟩) := by
  obtain ⟨hread, hgyro⟩ := balanced_imu9Read hbalanced hrests.gyroMpu
  have hfusion : Unturned (sense config reading flight).2.fusion := by
    unfold sense updateFusion
    dsimp only
    split
    case isTrue hdue =>
      have hrates := hgyro hdue.1
      have hspins : Spins ⟨(imu9Read config reading flight).1.1,
          (imu9Read config reading flight).1.2, FUSION_UPDATE_DT⟩ :=
        ⟨by rw [hrates], by rw [hrates], hrests.x, hrests.y⟩
      exact hread.fusion.step hspins (by rw [hrates]) config.gains
    case isFalse => exact hread.fusion
  refine ⟨⟨hread.imu, hfusion, hread.loop⟩, ?_⟩
  intro hcalibrated axis
  have hrates : (imu9Read config reading flight).1.1 = ⟨0, 0, 0⟩ := hgyro hcalibrated
  have hshown : (sense config reading flight).1 = sensors config (imu9Read config reading flight).1.1
    (sense config reading flight).2.fusion (sense config reading flight).2.imu := rfl
  rw [hshown, hrates]
  unfold sensors
  dsimp only
  rw [hfusion.euler hatan2f hasinf]
  have hneg : -Flt.finite 0 = .finite 0 := congrArg Flt.finite neg_zero
  cases axis with
  | roll => exact ⟨rfl, rfl, rfl⟩
  | pitch => exact ⟨hneg, rfl, rfl⟩
  | yaw => exact ⟨rfl, rfl, hneg⟩

/-- On the stand every step keeps the copter balanced. -/
theorem balanced_step {config : Config} (hatan2f : ∀ x, 0 < x → config.libm.atan2f 0 x = 0)
    (hasinf : config.libm.asinf 0 = 0) {offset : Axis3i16} (flight : Flight) (event : Event)
    (hstand : OnStand config offset (flight, event)) (hbalanced : Balanced config offset flight) :
    Balanced config offset (step config flight event) := by
  cases event with
  | imu6ManufacturingTest reading => exact (balanced_imu9Read hbalanced hstand).1
  | stabilizerTask reading =>
    obtain ⟨hrests, hdemand⟩ := hstand
    obtain ⟨⟨himu, hfusion, _⟩, hnone⟩ := balanced_sense hbalanced hrests hatan2f hasinf
    rw [← hdemand] at hnone
    have huntouched : ∀ axis, Untouched axis config.toConfig flight.tasks
        (.stabilizerTask (sense config reading flight).1) := fun axis hcalibrated => hnone hcalibrated axis
    refine ⟨himu, hfusion, ?_⟩
    intro axis
    rw [step_shown]
    exact (hbalanced.loop axis).step (huntouched axis)
  | other event hother =>
    refine ⟨hbalanced.imu, hbalanced.fusion, fun axis => (hbalanced.loop axis).step ?_⟩
    cases event with
    | stabilizerTask sensors => exact absurd rfl (hother sensors)
    | _ => trivial

/-- A copter that stands still and is asked for no turn is driven without one: in every
    calibrated pass of such a run the four motors get exactly the pulse of the thrust,
    whatever offset the gyroscope has, and whatever else arrives. -/
theorem flight_balanced {config : Config} (hatan2f : ∀ x, 0 < x → config.libm.atan2f 0 x = 0)
    (hasinf : config.libm.asinf 0 = 0) {offset : Axis3i16} {events : List Event} {reading : Reading}
    (hstand : ∀ entry ∈ trace (step config) (flight0 config) (events ++ [.stabilizerTask reading]),
      OnStand config offset entry)
    (hcalibrated : imu6IsCalibrated (sense config reading (flightAfter config events)).2.imu = true) :
    (stabilizerTask config reading (flightAfter config events)).1 =
      some fun _ => motorsSetRatio config.esc ((flightAfter config events).tasks.thrust config.toConfig) := by
  rw [trace_concat, List.forall_mem_append, List.forall_mem_singleton] at hstand
  obtain ⟨hbefore, hrests, hdemand⟩ := hstand
  have hbalanced : Balanced config offset (flightAfter config events) :=
    run_invariant_of_trace (balanced_step hatan2f hasinf) (balanced_flight0 config offset) hbefore
  obtain ⟨hafter, hnone⟩ := balanced_sense hbalanced hrests hatan2f hasinf
  have hquiet := hnone hcalibrated
  rw [← hdemand] at hquiet
  exact stabilizerTask_quiet hcalibrated hafter.loop config.toConfig hquiet

/-- A read at rest of a gyroscope that is off. -/
def skewed : Reading where
  gyroMpu := ⟨-37, 12, 5⟩
  tick := 2
  sampleTick := 2
  accelMpu := ⟨-23, -1243, 3903⟩

/-- After the self test Linux takes over the thrust, and asks for half of it. -/
def halfThrust : List Event :=
  List.replicate 128 (.imu6ManufacturingTest skewed) ++
    [.other .linuxComm_selectThrust (by intro sensors heq; cases heq),
      .other (.lcTask (fun _ => 0) ⟨LC_TYPE_CONTROL, fun _ => 0⟩) (by intro sensors heq; cases heq),
      .stabilizerTask skewed]

theorem flight_balanced_halfThrust :
    (stabilizerTask board skewed (flightAfter board halfThrust)).1 =
      some fun _ => motorsSetRatio board.esc ((flightAfter board halfThrust).tasks.thrust board.toConfig) := by
  have hstand : ∀ entry ∈ trace (step board) (flight0 board) (halfThrust ++ [.stabilizerTask skewed]),
      OnStand board ⟨-37, 12, 5⟩ entry := by decide +kernel
  have hcalibrated : imu6IsCalibrated (sense board skewed (flightAfter board halfThrust)).2.imu = true := by
    decide +kernel
  exact flight_balanced (fun _ _ => rfl) rfl hstand hcalibrated

end copter.flight
