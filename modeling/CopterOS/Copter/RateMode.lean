import CopterOS.Copter.Axes

open number transition copter.commander copter.controller copter.linux_client copter.linux_commander copter.motors
open copter.pid copter.pidctrl copter.rc_commander copter.stabilizer

namespace copter

/-- Two sensor values that do not differ but in the angle of one axis. -/
structure SameRest (axis : Axis) (left right : Sensors) : Prop where
  calibrated : left.imu6IsCalibrated = right.imu6IsCalibrated
  gyro : left.gyro = right.gyro
  angle : ∀ other, other ≠ axis → along other left.eulerActual = along other right.eulerActual

/-- Two control loops that do not differ but in the attitude controller of one axis. -/
structure SameRates (axis : Axis) (left right : Stabilizer × Controller Flt) : Prop where
  stabilizer : left.1 = right.1
  pid : ∀ name, name ≠ attitudePid axis → left.2.pid name = right.2.pid name
  output : controllerGetActuatorOutput left.2 = controllerGetActuatorOutput right.2

theorem rpy_ext {A : Type} {left right : RPY A} (hsame : ∀ axis, along axis left = along axis right) :
    left = right := by
  have hroll : left.roll = right.roll := hsame .roll
  have hpitch : left.pitch = right.pitch := hsame .pitch
  have hyaw : left.yaw = right.yaw := hsame .yaw
  cases left
  cases right
  exact RPY.mk.injEq .. ▸ ⟨hroll, hpitch, hyaw⟩

theorem axisOf_ne_of_ne {axis : Axis} {name : PidName} (hattitude : isRate name = false)
    (hname : name ≠ attitudePid axis) : axisOf name ≠ axis := by
  rintro rfl
  cases name <;> first | exact hname rfl | cases hattitude

section loop

variable {axis : Axis} {left right : Stabilizer × Controller Flt} {sensors sensors' : Sensors}

/-- After the attitude correction the two loops ask for the same rates of the other
    axes. -/
theorem SameRates.correctAttitude (hsame : SameRates axis left right) (hsensors : SameRest axis sensors sensors')
    (eulerDesired : RPY Flt) :
    let corrected := correctAttitude sensors eulerDesired left.1 left.2
    let corrected' := correctAttitude sensors' eulerDesired right.1 right.2
    corrected.1.attitudeCounter = corrected'.1.attitudeCounter ∧
      (∀ other, other ≠ axis → along other corrected.1.rateDesired = along other corrected'.1.rateDesired) ∧
      ∀ name, name ≠ attitudePid axis → corrected.2.pid name = corrected'.2.pid name := by
  obtain ⟨hstabilizer, hpid, _⟩ := hsame
  unfold copter.stabilizer.correctAttitude
  dsimp only
  rw [← hstabilizer]
  split
  case isFalse => exact ⟨rfl, fun _ _ => rfl, hpid⟩
  case isTrue =>
    refine ⟨rfl, ?_, ?_⟩
    · intro other hother
      have hown : attitudePid other ≠ attitudePid axis := by
        cases other <;> cases axis <;> first | exact absurd rfl hother | exact PidName.noConfusion
      dsimp only
      rw [along_correctAttitude, along_correctAttitude, hsensors.angle other hother, hpid _ hown]
    · intro name hname
      dsimp only
      rw [pid_correctAttitude, pid_correctAttitude, hpid name hname]
      cases hrate : isRate name with
      | true => rfl
      | false => rw [hsensors.angle _ (axisOf_ne_of_ne hrate hname)]

/-- A pass in which the axis is in rate mode does not use its angle. -/
theorem SameRates.control (hsame : SameRates axis left right) (hsensors : SameRest axis sensors sensors')
    (undefined : Flt → Int16) (eulerDesired : RPY Flt) {types : RPY RPYType} (hmode : along axis types = .RATE) :
    SameRates axis (control undefined sensors eulerDesired types left.1 left.2)
      (control undefined sensors' eulerDesired types right.1 right.2) := by
  obtain ⟨hcounter, hrate, hpid⟩ := hsame.correctAttitude hsensors eulerDesired
  have hselected : selectRate types eulerDesired
      (copter.stabilizer.correctAttitude sensors eulerDesired left.1 left.2).1.rateDesired =
      selectRate types eulerDesired
        (copter.stabilizer.correctAttitude sensors' eulerDesired right.1 right.2).1.rateDesired := by
    apply rpy_ext
    intro other
    rw [along_selectRate, along_selectRate]
    by_cases hother : other = axis
    · rw [hother, if_pos hmode, if_pos hmode]
    · rw [hrate other hother]
  have hgyro := hsensors.gyro
  unfold copter.stabilizer.control
  refine ⟨?_, ?_, ?_⟩
  · dsimp only
    rw [hcounter, hselected]
  · intro name hname
    dsimp only
    rw [pid_correctRate, pid_correctRate, hgyro, hselected, hpid name hname]
  · apply rpy_ext
    intro other
    have hown : ratePid other ≠ attitudePid axis := by cases other <;> cases axis <;> exact PidName.noConfusion
    dsimp only
    rw [along_correctRate, along_correctRate, hgyro, hselected, hpid _ hown]

/-- The power part drives the motors alike. -/
theorem SameRates.actuate (hsame : SameRates axis left right) (actuatorThrust : UInt16) :
    (actuate actuatorThrust left.2).1 = (actuate actuatorThrust right.2).1 ∧
      SameRates axis (left.1, (actuate actuatorThrust left.2).2) (right.1, (actuate actuatorThrust right.2).2) := by
  obtain ⟨hstabilizer, hpid, houtput⟩ := hsame
  unfold copter.stabilizer.actuate
  rw [houtput]
  split
  case isTrue => exact ⟨rfl, hstabilizer, hpid, houtput⟩
  case isFalse => exact ⟨rfl, hstabilizer, fun name hname => congrArg pidReset (hpid name hname), houtput⟩

theorem SameRates.setPidValues (hsame : SameRates axis left right) (values : PidValues) :
    SameRates axis (left.1, setPidValues values left.2) (right.1, setPidValues values right.2) := by
  obtain ⟨hstabilizer, hpid, houtput⟩ := hsame
  unfold copter.pidctrl.setPidValues
  split
  case h_3 => exact ⟨hstabilizer, hpid, houtput⟩
  all_goals
    refine ⟨hstabilizer, ?_, houtput⟩
    intro name hname
    have hsamePid := hpid name hname
    cases name <;> dsimp only <;> rw [hsamePid]

end loop

/-- The mode of an axis. -/
def Copter.mode (state : Copter) (axis : Axis) : RPYType := along axis (commanderGetRPYType state.comm)

/-- The three modes a PID message sets. -/
def modes (values : PidValues) : RPY RPYType :=
  ⟨IS_BIT_SET values.mode PID_ATT_MODE_R, IS_BIT_SET values.mode PID_ATT_MODE_P,
    IS_BIT_SET values.mode PID_ATT_MODE_Y⟩

/-- The event is no PID message that leaves the rate mode of the axis. -/
def KeepsRate (axis : Axis) : Event → Prop
  | .lcTask _ msg => msg.type = LC_TYPE_PID → along axis (modes (PidValues.ofData msg.data)) = .RATE
  | _ => True

theorem types_commanderSetThrust (callback : Option ThrustCallback) (comm : Commander ThrustCallback RPYCallback) :
    commanderGetRPYType (commanderSetThrust callback comm) = commanderGetRPYType comm := by
  unfold commanderSetThrust
  split <;> rfl

theorem types_lc_select (stack : Data) (msg : LcMsg) (comm : Commander ThrustCallback RPYCallback) :
    commanderGetRPYType (lc_select stack msg comm).1 = commanderGetRPYType comm := by
  unfold lc_select
  split
  case h_5 => rfl
  all_goals exact types_commanderSetThrust _ comm

theorem types_emergencyTask (config : Config) (state : Copter) :
    commanderGetRPYType (emergencyTask config state).comm = commanderGetRPYType state.comm := by
  have hpoll := commanderGetThrust_eq config state state.stabilizer state.controller
  unfold emergencyTask
  dsimp only
  split
  case h_3 => split <;> rfl
  case h_4 => rw [hpoll]
  all_goals rfl

/-- Only PID messages change a mode. -/
theorem mode_step {axis : Axis} {state : Copter} (hmode : state.mode axis = .RATE) {event : Event}
    (hkeeps : KeepsRate axis event) (config : Config) : (step config state event).mode axis = .RATE := by
  unfold Copter.mode at hmode ⊢
  cases event with
  | lcTask stack msg =>
    simp only [step]
    rcases lcTask_cases stack msg state with heq | ⟨_, _, heq⟩ | ⟨_, heq⟩ | ⟨htype, heq⟩ | ⟨_, heq⟩
    case inr.inr.inl =>
      rw [heq, types_lc_select]
      exact hmode
    case inr.inr.inr.inl =>
      rw [heq]
      exact hkeeps htype
    all_goals
      rw [heq]
      exact hmode
  | rcComm_selectThrust | linuxComm_selectThrust =>
    simp only [step, rcComm_selectThrust, linuxComm_selectThrust, types_commanderSetThrust]
    exact hmode
  | stabilizerTask sensors =>
    obtain ⟨hcomm, _⟩ := stabilizerTask_frame config sensors state
    simp only [step, hcomm]
    exact hmode
  | emergencyTask =>
    simp only [step, types_emergencyTask]
    exact hmode
  | _ => exact hmode

/-- Two events that do not differ but in a measured angle of the axis. -/
inductive AgreeRest (axis : Axis) : Event → Event → Prop where
  | same (event : Event) : AgreeRest axis event event
  | stabilizerTask {sensors sensors' : Sensors} (hagree : SameRest axis sensors sensors') :
      AgreeRest axis (.stabilizerTask sensors) (.stabilizerTask sensors')

/-- Two states with the axis in rate mode that differ at most in its attitude controller. -/
structure SameInRate (axis : Axis) (left right : Copter) : Prop where
  mode : left.mode axis = .RATE
  rest : right = left.withLoop right.loop
  loop : SameRates axis left.loop right.loop

theorem sameRest_refl (axis : Axis) (sensors : Sensors) : SameRest axis sensors sensors :=
  ⟨rfl, rfl, fun _ _ => rfl⟩

/-- A pass of both states drives the motors alike. -/
theorem SameInRate.pass {axis : Axis} {left right : Copter} (hsame : SameInRate axis left right)
    {sensors sensors' : Sensors} (hagree : SameRest axis sensors sensors') (config : Config) :
    (stabilizerTask config sensors left).1 = (stabilizerTask config sensors' right).1 ∧
      SameRates axis (loopStep config left (.stabilizerTask sensors) left.loop)
        (loopStep config left (.stabilizerTask sensors') right.loop) := by
  have hcontrol := hsame.loop.control hagree config.undefinedInt16
    (commanderGetRPY (callRPY config) left.comm left) hsame.mode
  obtain ⟨hpower, hloop⟩ := hcontrol.actuate (left.thrust config)
  by_cases hcalibrated : sensors.imu6IsCalibrated = true
  · have hcalibrated' : sensors'.imu6IsCalibrated = true := hagree.calibrated ▸ hcalibrated
    constructor
    · rw [hsame.rest, stabilizerTask_of_calibrated hcalibrated, stabilizerTask_of_calibrated hcalibrated',
        commanderGetRPY_withLoop, thrust_withLoop]
      exact congrArg (Option.map _) hpower
    · unfold loopStep
      dsimp only
      rw [if_pos hcalibrated, if_pos hcalibrated']
      exact hloop
  · have hcalibrated' : ¬ sensors'.imu6IsCalibrated = true := hagree.calibrated ▸ hcalibrated
    constructor
    · rw [stabilizerTask_of_not_calibrated hcalibrated, stabilizerTask_of_not_calibrated hcalibrated']
    · unfold loopStep
      dsimp only
      rw [if_neg hcalibrated, if_neg hcalibrated']
      exact hsame.loop

theorem SameInRate.loopStep {axis : Axis} {left right : Copter} (hsame : SameInRate axis left right)
    {event event' : Event} (hagree : AgreeRest axis event event') (config : Config) :
    SameRates axis (loopStep config left event left.loop) (loopStep config left event' right.loop) := by
  cases hagree with
  | stabilizerTask hagree => exact (hsame.pass hagree config).2
  | same =>
    cases event with
    | stabilizerTask sensors => exact (hsame.pass (sameRest_refl axis sensors) config).2
    | lcTask stack msg =>
      unfold copter.loopStep
      dsimp only
      split
      case isTrue => exact hsame.loop.setPidValues _
      case isFalse => exact hsame.loop
    | _ => exact hsame.loop

theorem SameInRate.step {axis : Axis} {left right : Copter} (hsame : SameInRate axis left right)
    {event event' : Event} (hagree : AgreeRest axis event event') (hkeeps : KeepsRate axis event) (config : Config) :
    SameInRate axis (step config left event) (step config right event') := by
  have hevents : ∀ loop, (copter.step config left event).withLoop loop =
      (copter.step config left event').withLoop loop := by
    intro loop
    cases hagree with
    | same => rfl
    | stabilizerTask hagree => exact pass_withLoop hagree.calibrated config left loop
  obtain ⟨hrest, hloop⟩ := step_rest hsame.rest hevents
  refine ⟨mode_step hsame.mode hkeeps config, hrest, ?_⟩
  rw [hloop, loop_step]
  exact hsame.loopStep hagree config

end copter
