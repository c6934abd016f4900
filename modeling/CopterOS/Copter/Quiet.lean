import CopterOS.Copter.Axes
import CopterOS.Stabilizer.Finite

open number copter.commander copter.controller copter.linux_client copter.motors copter.pid copter.pidctrl
open copter.rc_commander copter.stabilizer

namespace copter

/-- An object that has summed up nothing; zero is inside its limits. -/
structure QuietPid (pid : PidObject Flt) : Prop where
  prevError : pid.prevError = 0
  integ : pid.integ = 0
  kp : pid.kp.IsFinite
  ki : pid.ki.IsFinite
  kd : pid.kd.IsFinite
  iLimit : ¬ 0 > pid.iLimit
  iLimitLow : ¬ 0 < pid.iLimitLow
  dt : ∃ q, q ≠ 0 ∧ pid.dt = .finite q

theorem mul_zero_of_finite {gain : Flt} (hgain : gain.IsFinite) : gain * 0 = 0 := by
  obtain ⟨q, rfl⟩ := hgain
  exact congrArg Flt.finite (mul_zero q)

theorem QuietPid.pidSetDesired {pid : PidObject Flt} (hquiet : QuietPid pid) (desired : Flt) :
    QuietPid (pidSetDesired desired pid) :=
  { hquiet with }

theorem QuietPid.pidSetError {pid : PidObject Flt} (hquiet : QuietPid pid) (error : Flt) :
    QuietPid (pidSetError error pid) :=
  { hquiet with }

theorem QuietPid.pidReset {pid : PidObject Flt} (hquiet : QuietPid pid) : QuietPid (pidReset pid) :=
  { hquiet with
    prevError := rfl
    integ := rfl }

theorem QuietPid.setGains {pid : PidObject Flt} (hquiet : QuietPid pid) (kp ki kd : UInt16) :
    QuietPid (setGains kp ki kd pid) :=
  { hquiet with
    kp := ⟨_, rfl⟩
    ki := ⟨_, rfl⟩
    kd := ⟨_, rfl⟩ }

theorem zero_sub_zero : (0 : Flt) - 0 = 0 := congrArg Flt.finite (by norm_num)

/-- Without an error an update gives no output and sums up nothing. -/
theorem QuietPid.pidUpdate {pid : PidObject Flt} (hquiet : QuietPid pid) {measured : Flt} {updateError : Bool}
    (herror : (if updateError then pid.desired - measured else pid.error) = 0) :
    (pidUpdate measured updateError pid).1 = 0 ∧ QuietPid (pidUpdate measured updateError pid).2 := by
  obtain ⟨dt, hnonzero, hdt⟩ := hquiet.dt
  have hsum : pid.integ + 0 * pid.dt = 0 := by
    rw [hquiet.integ, hdt]
    exact congrArg Flt.finite (by ring)
  have hinteg : integrate 0 pid = 0 := by
    unfold integrate
    rw [hsum, if_neg hquiet.iLimit, if_neg hquiet.iLimitLow]
  have hderiv : ((0 : Flt) - pid.prevError) / pid.dt = 0 := by
    rw [hquiet.prevError, hdt]
    exact (Flt.div_finite hnonzero _).trans (congrArg Flt.finite (by simp))
  unfold copter.pid.pidUpdate
  dsimp only
  rw [herror, hinteg, hderiv]
  refine ⟨?_, { hquiet with prevError := rfl, integ := rfl }⟩
  rw [mul_zero_of_finite hquiet.kp, mul_zero_of_finite hquiet.ki, mul_zero_of_finite hquiet.kd]
  exact congrArg Flt.finite (by norm_num)

theorem QuietPid.follow {pid : PidObject Flt} (hquiet : QuietPid pid) :
    (copter.pid.pidUpdate 0 true (copter.pid.pidSetDesired 0 pid)).1 = 0 ∧
      QuietPid (copter.pid.pidUpdate 0 true (copter.pid.pidSetDesired 0 pid)).2 :=
  (hquiet.pidSetDesired 0).pidUpdate zero_sub_zero

theorem saturateSignedInt16_zero (undefined : Flt → Int16) : saturateSignedInt16 undefined 0 = 0 := by
  unfold saturateSignedInt16
  rw [if_neg (by decide +kernel), if_neg (by decide +kernel)]
  rfl

/-- One axis of a control loop has nothing to correct. -/
structure QuietAxis (axis : Axis) (loop : Stabilizer × Controller Flt) : Prop where
  rateDesired : along axis loop.1.rateDesired = 0
  pid : ∀ name, axisOf name = axis → QuietPid (loop.2.pid name)

/-- Along the axis nothing is measured and nothing is asked for. -/
structure NoError (axis : Axis) (sensors : Sensors) (eulerDesired : RPY Flt) : Prop where
  rate : along axis (rates sensors.gyro) = 0
  angle : along axis sensors.eulerActual = 0
  desired : along axis (angles eulerDesired) = 0

theorem attitudeLoop_quiet {pid : PidObject Flt} (hquiet : QuietPid pid) (axis : Axis) :
    (attitudeLoop axis 0 0 pid).1 = 0 ∧ QuietPid (attitudeLoop axis 0 0 pid).2 := by
  have hyaw : yawError (0 : Flt) 0 = 0 := by decide +kernel
  cases axis with
  | roll | pitch => exact hquiet.follow
  | yaw => exact (hquiet.pidSetError _).pidUpdate hyaw

section loop

variable {axis : Axis} {loop : Stabilizer × Controller Flt} {sensors : Sensors} {eulerDesired : RPY Flt}

theorem QuietAxis.correctAttitude (hquiet : QuietAxis axis loop) (hnone : NoError axis sensors eulerDesired) :
    QuietAxis axis (correctAttitude sensors eulerDesired loop.1 loop.2) := by
  obtain ⟨hrate, hpid⟩ := hquiet
  have hdesired : along axis (angles eulerDesired) = 0 := hnone.desired
  unfold copter.stabilizer.correctAttitude
  dsimp only
  split
  case isFalse => exact ⟨hrate, hpid⟩
  case isTrue =>
    unfold angles at hdesired
    refine ⟨?_, ?_⟩
    · have hown : axisOf (attitudePid axis) = axis := by cases axis <;> rfl
      dsimp only
      rw [along_correctAttitude, hnone.angle, hdesired]
      exact (attitudeLoop_quiet (hpid _ hown) axis).1
    · rintro name rfl
      dsimp only
      rw [pid_correctAttitude, hnone.angle, hdesired]
      split
      case isTrue => exact hpid name rfl
      case isFalse => exact (attitudeLoop_quiet (hpid name rfl) _).2

/-- A pass in which the axis has no error leaves it quiet, and gives no output for it. -/
theorem QuietAxis.control (hquiet : QuietAxis axis loop) (hnone : NoError axis sensors eulerDesired)
    (undefined : Flt → Int16) (types : RPY RPYType) :
    QuietAxis axis (control undefined sensors eulerDesired types loop.1 loop.2) ∧
      along axis (controllerGetActuatorOutput
        (control undefined sensors eulerDesired types loop.1 loop.2).2) = 0 := by
  obtain ⟨hrate, hpid⟩ := hquiet.correctAttitude hnone
  have hselected : along axis (selectRate types eulerDesired
      (copter.stabilizer.correctAttitude sensors eulerDesired loop.1 loop.2).1.rateDesired) = 0 := by
    rw [along_selectRate, hnone.desired, hrate, ite_self]
  have hgyro : along axis (rates sensors.gyro) = 0 := hnone.rate
  unfold rates at hgyro
  unfold copter.stabilizer.control
  refine ⟨⟨hselected, ?_⟩, ?_⟩
  · rintro name rfl
    dsimp only
    rw [pid_correctRate, hgyro, hselected]
    split
    case isTrue => exact (hpid name rfl).follow.2
    case isFalse => exact hpid name rfl
  · have hown : axisOf (ratePid axis) = axis := by cases axis <;> rfl
    dsimp only
    rw [along_correctRate, hgyro, hselected, (hpid _ hown).follow.1]
    exact saturateSignedInt16_zero undefined

theorem QuietAxis.actuate (hquiet : QuietAxis axis loop) (actuatorThrust : UInt16) :
    QuietAxis axis (loop.1, (actuate actuatorThrust loop.2).2) := by
  unfold copter.stabilizer.actuate
  split
  case isTrue => exact hquiet
  case isFalse => exact ⟨hquiet.rateDesired, fun name hname => (hquiet.pid name hname).pidReset⟩

theorem QuietAxis.setPidValues (hquiet : QuietAxis axis loop) (values : PidValues) :
    QuietAxis axis (loop.1, setPidValues values loop.2) := by
  obtain ⟨hrate, hpid⟩ := hquiet
  unfold copter.pidctrl.setPidValues
  split
  case h_3 => exact ⟨hrate, hpid⟩
  all_goals
    refine ⟨hrate, ?_⟩
    intro name hname
    cases name
    all_goals first | exact (hpid _ hname).setGains _ _ _ | exact hpid _ hname

end loop

/-- If the event is a calibrated pass, the axis has no error in it. -/
def Untouched (axis : Axis) (config : Config) (state : Copter) : Event → Prop
  | .stabilizerTask sensors => sensors.imu6IsCalibrated = true →
    NoError axis sensors (commanderGetRPY (callRPY config) state.comm state)
  | _ => True

theorem QuietAxis.step {axis : Axis} {state : Copter} (hquiet : QuietAxis axis state.loop) {config : Config}
    {event : Event} (huntouched : Untouched axis config state event) :
    QuietAxis axis (step config state event).loop := by
  rw [loop_step]
  unfold loopStep
  cases event with
  | stabilizerTask sensors =>
    dsimp only
    split
    case isTrue hcalibrated => exact (hquiet.control (huntouched hcalibrated) _ _).1.actuate _
    case isFalse => exact hquiet
  | lcTask stack msg =>
    dsimp only
    split
    case isTrue => exact hquiet.setPidValues _
    case isFalse => exact hquiet
  | _ => exact hquiet

theorem quietAxis_copter0 (axis : Axis) (config : Config) : QuietAxis axis (copter0 config).loop where
  rateDesired := by cases axis <;> rfl
  pid name _ := {
    prevError := rfl
    integ := rfl
    kp := ⟨_, rfl⟩
    ki := ⟨_, rfl⟩
    kd := ⟨_, rfl⟩
    iLimit := (Flt.finite_lt_finite _ _).not.mpr (by cases name <;> norm_num [PidName.INTEGRATION_LIMIT])
    iLimitLow := (Flt.finite_lt_finite _ _).not.mpr (by norm_num [DEFAULT_PID_INTEGRATION_LIMIT])
    dt := ⟨IMU_UPDATE_DT, by norm_num [IMU_UPDATE_DT], rfl⟩ }

/-- Without outputs for the axes every motor gets the power of the thrust. -/
theorem actuate_quiet {controller : Controller Flt}
    (hzero : ∀ axis, along axis (controllerGetActuatorOutput controller) = 0) (actuatorThrust : UInt16) :
    (actuate actuatorThrust controller).1 = some fun _ => actuatorThrust := by
  by_cases hthrust : actuatorThrust > 0
  · have hroll : controller.rollOutput = 0 := hzero .roll
    have hpitch : controller.pitchOutput = 0 := hzero .pitch
    have hyaw : controller.yawOutput = 0 := hzero .yaw
    have hnegate : negate 0 = some 0 := by decide
    have hlimit : ∀ motor, limitThrust (xMix actuatorThrust.toNat 0 0 0 motor) = actuatorThrust := by
      intro motor
      have hbound := actuatorThrust.toNat_lt
      have hclamped := limitThrust_toNat (xMix actuatorThrust.toNat 0 0 0 motor)
      have hmix : xMix actuatorThrust.toNat 0 0 0 motor = actuatorThrust.toNat := by cases motor <;> simp [xMix]
      rw [hmix] at hclamped ⊢
      rw [← UInt16.toNat_inj]
      omega
    unfold actuate
    rw [if_pos hthrust]
    unfold controllerGetActuatorOutput
    dsimp only
    rw [hroll, hpitch, hyaw, hnegate, Option.bind_some, distributePower_eq, Int16.toInt_zero, Int.zero_ediv]
    exact congrArg some (funext hlimit)
  · obtain rfl : actuatorThrust = 0 := by
      rw [← UInt16.toNat_inj]
      rw [gt_iff_lt, UInt16.lt_iff_toNat_lt] at hthrust
      exact Nat.eq_zero_of_not_pos hthrust
    rw [actuate_zero]

/-- With three quiet axes each motor gets the pulse of the thrust. -/
theorem stabilizerTask_quiet {sensors : Sensors} (hcalibrated : sensors.imu6IsCalibrated = true) {state : Copter}
    (hquiet : ∀ axis, QuietAxis axis state.loop) (config : Config)
    (hnone : ∀ axis, NoError axis sensors (commanderGetRPY (callRPY config) state.comm state)) :
    (stabilizerTask config sensors state).1 = some fun _ => motorsSetRatio config.esc (state.thrust config) := by
  have hzero := fun axis =>
    ((hquiet axis).control (hnone axis) config.undefinedInt16 (commanderGetRPYType state.comm)).2
  rw [stabilizerTask_of_calibrated hcalibrated]
  exact congrArg (Option.map _) (actuate_quiet hzero (state.thrust config))

end copter
