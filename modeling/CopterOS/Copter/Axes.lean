import CopterOS.Copter
import CopterOS.Lib.Unwinding
import CopterOS.RcCommander.Sticks

open number transition unwinding copter.commander copter.controller copter.emergency copter.linux_client
open copter.linux_commander copter.pid copter.pidctrl copter.rc_commander copter.stabilizer

namespace copter

/-- The part of a triple that belongs to an axis. -/
def along {A : Type} (axis : Axis) (rpy : RPY A) : A :=
  match axis with
  | .roll => rpy.roll
  | .pitch => rpy.pitch
  | .yaw => rpy.yaw

/-- The axis an object of the controller works for. -/
def axisOf : PidName → Axis
  | .pidRollRate | .pidRoll => .roll
  | .pidPitchRate | .pidPitch => .pitch
  | .pidYawRate | .pidYaw => .yaw

def isRate : PidName → Bool
  | .pidRollRate | .pidPitchRate | .pidYawRate => true
  | .pidRoll | .pidPitch | .pidYaw => false

def attitudePid : Axis → PidName
  | .roll => .pidRoll
  | .pitch => .pidPitch
  | .yaw => .pidYaw

def ratePid : Axis → PidName
  | .roll => .pidRollRate
  | .pitch => .pidPitchRate
  | .yaw => .pidYawRate

/-- The rates as the rate controllers take them. -/
def rates (gyro : Axis3f Flt) : RPY Flt := ⟨gyro.x, -gyro.y, gyro.z⟩

/-- The desired angles as the attitude controllers take them. -/
def angles (eulerDesired : RPY Flt) : RPY Flt := ⟨eulerDesired.roll, eulerDesired.pitch, -eulerDesired.yaw⟩

/-- Two sensor values that do not differ along the axis. -/
structure AgreeAlong (axis : Axis) (left right : Sensors) : Prop where
  calibrated : left.imu6IsCalibrated = right.imu6IsCalibrated
  rate : along axis (rates left.gyro) = along axis (rates right.gyro)
  angle : along axis left.eulerActual = along axis right.eulerActual

/-- Two control loops that do not differ along the axis. -/
structure SameLoop (axis : Axis) (left right : Stabilizer × Controller Flt) : Prop where
  attitudeCounter : left.1.attitudeCounter = right.1.attitudeCounter
  rateDesired : along axis left.1.rateDesired = along axis right.1.rateDesired
  pid : ∀ name, axisOf name = axis → left.2.pid name = right.2.pid name
  output : along axis (controllerGetActuatorOutput left.2) = along axis (controllerGetActuatorOutput right.2)

/-- The attitude controller of one axis: the yaw takes the short way. -/
def attitudeLoop (axis : Axis) (actual desired : Flt) (pid : PidObject Flt) : Flt × PidObject Flt :=
  match axis with
  | .roll | .pitch => pidUpdate actual true (pidSetDesired desired pid)
  | .yaw => pidUpdate actual false (pidSetError (yawError actual desired) pid)

theorem along_correctAttitude (axis : Axis) (actual desired : RPY Flt) (controller : Controller Flt) :
    along axis (controllerCorrectAttitudePID actual desired controller).1 =
      (attitudeLoop axis (along axis actual) (along axis desired) (controller.pid (attitudePid axis))).1 := by
  cases axis <;> rfl

theorem pid_correctAttitude (actual desired : RPY Flt) (controller : Controller Flt) (name : PidName) :
    (controllerCorrectAttitudePID actual desired controller).2.pid name =
      if isRate name then controller.pid name
      else (attitudeLoop (axisOf name) (along (axisOf name) actual) (along (axisOf name) desired)
        (controller.pid name)).2 := by
  cases name <;> rfl

theorem pid_correctRate (undefined : Flt → Int16) (actual desired : RPY Flt) (controller : Controller Flt)
    (name : PidName) :
    (controllerCorrectRatePID undefined actual desired controller).pid name =
      if isRate name then
        (pidUpdate (along (axisOf name) actual) true
          (pidSetDesired (along (axisOf name) desired) (controller.pid name))).2
      else controller.pid name := by
  cases name <;> rfl

theorem along_correctRate (undefined : Flt → Int16) (axis : Axis) (actual desired : RPY Flt)
    (controller : Controller Flt) :
    along axis (controllerGetActuatorOutput (controllerCorrectRatePID undefined actual desired controller)) =
      saturateSignedInt16 undefined
        (pidUpdate (along axis actual) true (pidSetDesired (along axis desired) (controller.pid (ratePid axis)))).1 := by
  cases axis <;> rfl

theorem along_selectRate (axis : Axis) (types : RPY RPYType) (eulerDesired rateDesired : RPY Flt) :
    along axis (selectRate types eulerDesired rateDesired) =
      if along axis types = .RATE then along axis (angles eulerDesired) else along axis rateDesired := by
  cases axis <;> rfl

section loop

variable {axis : Axis} {left right : Stabilizer × Controller Flt} {sensors sensors' : Sensors}

theorem SameLoop.correctAttitude (hsame : SameLoop axis left right) (hsensors : AgreeAlong axis sensors sensors')
    (eulerDesired : RPY Flt) :
    SameLoop axis (correctAttitude sensors eulerDesired left.1 left.2)
      (correctAttitude sensors' eulerDesired right.1 right.2) := by
  obtain ⟨hcounter, hrate, hpid, houtput⟩ := hsame
  unfold copter.stabilizer.correctAttitude
  dsimp only
  rw [← hcounter]
  split
  case isFalse => exact ⟨rfl, hrate, hpid, houtput⟩
  case isTrue =>
    refine ⟨rfl, ?_, ?_, houtput⟩
    · have hown : axisOf (attitudePid axis) = axis := by cases axis <;> rfl
      dsimp only
      rw [along_correctAttitude, along_correctAttitude, hsensors.angle, hpid _ hown]
    · rintro name rfl
      dsimp only
      rw [pid_correctAttitude, pid_correctAttitude, hsensors.angle, hpid name rfl]

theorem SameLoop.control (hsame : SameLoop axis left right) (hsensors : AgreeAlong axis sensors sensors')
    (undefined : Flt → Int16) (eulerDesired : RPY Flt) (types : RPY RPYType) :
    SameLoop axis (control undefined sensors eulerDesired types left.1 left.2)
      (control undefined sensors' eulerDesired types right.1 right.2) := by
  obtain ⟨hcounter, hrate, hpid, _⟩ := hsame.correctAttitude hsensors eulerDesired
  have hselected : along axis (selectRate types eulerDesired
      (copter.stabilizer.correctAttitude sensors eulerDesired left.1 left.2).1.rateDesired) =
      along axis (selectRate types eulerDesired
        (copter.stabilizer.correctAttitude sensors' eulerDesired right.1 right.2).1.rateDesired) := by
    rw [along_selectRate, along_selectRate, hrate]
  have hgyro : along axis (rates sensors.gyro) = along axis (rates sensors'.gyro) := hsensors.rate
  unfold copter.stabilizer.control
  refine ⟨hcounter, hselected, ?_, ?_⟩
  · rintro name rfl
    unfold rates at hgyro
    dsimp only
    rw [pid_correctRate, pid_correctRate, hgyro, hselected, hpid name rfl]
  · have hown : axisOf (ratePid axis) = axis := by cases axis <;> rfl
    unfold rates at hgyro
    dsimp only
    rw [along_correctRate, along_correctRate, hgyro, hselected, hpid _ hown]

/-- Both loops start over, or neither. -/
theorem SameLoop.actuate (hsame : SameLoop axis left right) (actuatorThrust : UInt16) :
    SameLoop axis (left.1, (actuate actuatorThrust left.2).2) (right.1, (actuate actuatorThrust right.2).2) := by
  obtain ⟨hcounter, hrate, hpid, houtput⟩ := hsame
  unfold copter.stabilizer.actuate
  split
  case isTrue => exact ⟨hcounter, hrate, hpid, houtput⟩
  case isFalse => exact ⟨hcounter, hrate, fun name hname => congrArg pidReset (hpid name hname), houtput⟩

theorem SameLoop.setPidValues (hsame : SameLoop axis left right) (values : PidValues) :
    SameLoop axis (left.1, setPidValues values left.2) (right.1, setPidValues values right.2) := by
  obtain ⟨hcounter, hrate, hpid, houtput⟩ := hsame
  unfold copter.pidctrl.setPidValues
  split
  case h_3 => exact ⟨hcounter, hrate, hpid, houtput⟩
  all_goals
    refine ⟨hcounter, hrate, ?_, houtput⟩
    intro name hname
    have hsamePid := hpid name hname
    cases name <;> dsimp only <;> rw [hsamePid]

end loop

/-- The control loop of a state, and the state with another one. -/
def Copter.loop (state : Copter) : Stabilizer × Controller Flt := (state.stabilizer, state.controller)

def Copter.withLoop (state : Copter) (loop : Stabilizer × Controller Flt) : Copter :=
  { state with stabilizer := loop.1, controller := loop.2 }

/-- What an event makes of the control loop when it finds it in the given state. -/
def loopStep (config : Config) (state : Copter) (event : Event) (loop : Stabilizer × Controller Flt) :
    Stabilizer × Controller Flt :=
  match event with
  | .lcTask _ msg =>
    if msg.type = LC_TYPE_PID then (loop.1, setPidValues (PidValues.ofData msg.data) loop.2) else loop
  | .stabilizerTask sensors =>
    if sensors.imu6IsCalibrated then
      let corrected := control config.undefinedInt16 sensors (commanderGetRPY (callRPY config) state.comm state)
        (commanderGetRPYType state.comm) loop.1 loop.2
      (corrected.1, (actuate (state.thrust config) corrected.2).2)
    else loop
  | _ => loop

theorem commanderGetRPY_withLoop (config : Config) (state : Copter) (loop : Stabilizer × Controller Flt) :
    commanderGetRPY (callRPY config) (state.withLoop loop).comm (state.withLoop loop) =
      commanderGetRPY (callRPY config) state.comm state := by
  have hcomm : (state.withLoop loop).comm = state.comm := rfl
  unfold commanderGetRPY
  rw [hcomm]
  cases state.comm.getRPY with
  | none => rfl
  | some callback => cases callback <;> rfl

theorem commanderGetThrust_withLoop (config : Config) (state : Copter) (loop : Stabilizer × Controller Flt) :
    commanderGetThrust (callThrust config) (state.withLoop loop).comm (state.withLoop loop) =
      (state.thrust config, { state.withLoop loop with rcComm := state.latch config }) :=
  commanderGetThrust_eq config state loop.1 loop.2

theorem thrust_withLoop (config : Config) (state : Copter) (loop : Stabilizer × Controller Flt) :
    (state.withLoop loop).thrust config = state.thrust config := by
  unfold Copter.thrust
  rw [commanderGetThrust_withLoop]
  rfl

theorem latch_withLoop (config : Config) (state : Copter) (loop : Stabilizer × Controller Flt) :
    (state.withLoop loop).latch config = state.latch config := by
  unfold Copter.latch
  rw [commanderGetThrust_withLoop]
  rfl

theorem emergencyTask_withLoop (config : Config) (state : Copter) (loop : Stabilizer × Controller Flt) :
    emergencyTask config (state.withLoop loop) = (emergencyTask config state).withLoop loop := by
  have hpoll := commanderGetThrust_eq config state loop.1 loop.2
  have hpollOwn := commanderGetThrust_eq config state state.stabilizer state.controller
  unfold emergencyTask
  dsimp only [Copter.withLoop]
  split
  case h_3 => split <;> rfl
  case h_4 => rw [hpoll, hpollOwn]
  all_goals rfl

theorem lcTask_withLoop (stack : Data) (msg : LcMsg) (state : Copter) (loop : Stabilizer × Controller Flt) :
    (lcTask lc stack msg (state.withLoop loop)).1 = ((lcTask lc stack msg state).1).withLoop
      (if msg.type = LC_TYPE_PID then (loop.1, setPidValues (PidValues.ofData msg.data) loop.2) else loop) := by
  rw [lcTask_eq, lcTask_eq]
  by_cases hpid : msg.type = LC_TYPE_PID
  · have hcontrol : msg.type ≠ LC_TYPE_CONTROL := by rw [hpid]; decide
    have hselect : msg.type ≠ LC_TYPE_SELECT := by rw [hpid]; decide
    simp only [if_neg hcontrol, if_neg hselect, if_pos hpid]
    rfl
  · simp only [if_neg hpid]
    split
    · rfl
    · split
      · rfl
      · split <;> rfl

/-- The control loop drives nothing but the motors: every event does to the rest of
    the state what it does without a look at the loop. -/
theorem step_withLoop (config : Config) (state : Copter) (loop : Stabilizer × Controller Flt) (event : Event) :
    step config (state.withLoop loop) event =
      (step config state event).withLoop (loopStep config state event loop) := by
  cases event with
  | lcTask stack msg => exact lcTask_withLoop stack msg state loop
  | emergencyTask => exact emergencyTask_withLoop config state loop
  | stabilizerTask sensors =>
    unfold step loopStep
    dsimp only
    by_cases hcalibrated : sensors.imu6IsCalibrated = true
    · rw [stabilizerTask_of_calibrated hcalibrated, stabilizerTask_of_calibrated hcalibrated, if_pos hcalibrated,
        commanderGetRPY_withLoop, thrust_withLoop, latch_withLoop]
      rfl
    · rw [stabilizerTask_of_not_calibrated hcalibrated, stabilizerTask_of_not_calibrated hcalibrated,
        if_neg hcalibrated]
  | _ => rfl

/-- Two events that do not differ but in sensor values of other axes. -/
inductive AgreeEvent (axis : Axis) : Event → Event → Prop where
  | same (event : Event) : AgreeEvent axis event event
  | stabilizerTask {sensors sensors' : Sensors} (hagree : AgreeAlong axis sensors sensors') :
      AgreeEvent axis (.stabilizerTask sensors) (.stabilizerTask sensors')

/-- Two states that differ at most in the loops of other axes. -/
def SameAxis (axis : Axis) (left right : Copter) : Prop :=
  right = left.withLoop right.loop ∧ SameLoop axis left.loop right.loop

theorem agreeAlong_refl (axis : Axis) (sensors : Sensors) : AgreeAlong axis sensors sensors := ⟨rfl, rfl, rfl⟩

theorem SameLoop.refl (axis : Axis) (loop : Stabilizer × Controller Flt) : SameLoop axis loop loop :=
  ⟨rfl, rfl, fun _ _ => rfl, rfl⟩

theorem SameLoop.pass {axis : Axis} {left right : Stabilizer × Controller Flt} (hsame : SameLoop axis left right)
    {sensors sensors' : Sensors} (hagree : AgreeAlong axis sensors sensors') (config : Config) (state : Copter) :
    SameLoop axis (loopStep config state (.stabilizerTask sensors) left)
      (loopStep config state (.stabilizerTask sensors') right) := by
  unfold loopStep
  dsimp only
  rw [← hagree.calibrated]
  split
  case isTrue => exact (hsame.control hagree _ _ _).actuate _
  case isFalse => exact hsame

theorem SameLoop.step {axis : Axis} {left right : Stabilizer × Controller Flt} (hsame : SameLoop axis left right)
    {event event' : Event} (hagree : AgreeEvent axis event event') (config : Config) (state : Copter) :
    SameLoop axis (loopStep config state event left) (loopStep config state event' right) := by
  cases hagree with
  | stabilizerTask hagree => exact hsame.pass hagree config state
  | same =>
    cases event with
    | stabilizerTask sensors => exact hsame.pass (agreeAlong_refl axis sensors) config state
    | lcTask stack msg =>
      unfold loopStep
      dsimp only
      split
      case isTrue => exact hsame.setPidValues _
      case isFalse => exact hsame
    | _ => exact hsame

/-- Beyond the loops, sensor values make no difference. -/
theorem pass_withLoop {sensors sensors' : Sensors} (hcalibrated : sensors.imu6IsCalibrated = sensors'.imu6IsCalibrated)
    (config : Config) (state : Copter) (loop : Stabilizer × Controller Flt) :
    (step config state (.stabilizerTask sensors)).withLoop loop =
      (step config state (.stabilizerTask sensors')).withLoop loop := by
  unfold step
  dsimp only
  by_cases hleft : sensors.imu6IsCalibrated = true
  · have hright : sensors'.imu6IsCalibrated = true := hcalibrated ▸ hleft
    rw [stabilizerTask_of_calibrated hleft, stabilizerTask_of_calibrated hright]
    rfl
  · have hright : ¬ sensors'.imu6IsCalibrated = true := hcalibrated ▸ hleft
    rw [stabilizerTask_of_not_calibrated hleft, stabilizerTask_of_not_calibrated hright]

theorem loop_step (config : Config) (state : Copter) (event : Event) :
    (step config state event).loop = loopStep config state event state.loop :=
  congrArg Copter.loop (step_withLoop config state state.loop event)

/-- States that differ in their loops only still do so after a step. -/
theorem step_rest {left right : Copter} (hrest : right = left.withLoop right.loop) {event event' : Event}
    {config : Config}
    (hevents : ∀ loop, (step config left event).withLoop loop = (step config left event').withLoop loop) :
    step config right event' = (step config left event).withLoop (step config right event').loop ∧
      (step config right event').loop = loopStep config left event' right.loop := by
  have hright : step config right event' =
      (step config left event').withLoop (loopStep config left event' right.loop) := by
    conv_lhs => rw [hrest]
    exact step_withLoop config left right.loop event'
  have hloop : (step config right event').loop = loopStep config left event' right.loop := by
    rw [hright]
    rfl
  refine ⟨?_, hloop⟩
  rw [hloop, hright]
  exact (hevents _).symm

theorem step_agree {axis : Axis} {event event' : Event} (hagree : AgreeEvent axis event event') (config : Config)
    (state : Copter) (loop : Stabilizer × Controller Flt) :
    (step config state event).withLoop loop = (step config state event').withLoop loop := by
  cases hagree with
  | same => rfl
  | stabilizerTask hagree => exact pass_withLoop hagree.calibrated config state loop

theorem SameAxis.step {axis : Axis} {left right : Copter} (hsame : SameAxis axis left right) {event event' : Event}
    (hagree : AgreeEvent axis event event') (config : Config) :
    SameAxis axis (step config left event) (step config right event') := by
  obtain ⟨hrest, hloop⟩ := hsame
  obtain ⟨hafter, hloopRight⟩ := step_rest hrest (step_agree hagree config left)
  refine ⟨hafter, ?_⟩
  rw [hloopRight, loop_step]
  exact hloop.step hagree config left

/-- The axes do not mix in the control loop: in two runs whose events differ only in
    what the sensors show of the other axes, every state has the same output, desired
    rate and PID objects for this axis, the same thrust, and the same rest outside the
    loops; set-points, gains, modes, resets and landings included. -/
theorem axis_isolation {axis : Axis} {events events' : List Event}
    (hevents : List.Forall₂ (AgreeEvent axis) events events') (config : Config) (start : Copter) :
    let left := run (step config) start events
    let right := run (step config) start events'
    along axis (controllerGetActuatorOutput left.controller) =
        along axis (controllerGetActuatorOutput right.controller) ∧
      along axis left.stabilizer.rateDesired = along axis right.stabilizer.rateDesired ∧
      (∀ name, axisOf name = axis → left.controller.pid name = right.controller.pid name) ∧
      left.thrust config = right.thrust config ∧ right = left.withLoop right.loop := by
  intro left right
  have hstart : SameAxis axis start start := ⟨rfl, .refl axis start.loop⟩
  have hsame : SameAxis axis left right :=
    run_related (fun _ _ _ _ hsame hagree => hsame.step hagree config) hevents hstart
  obtain ⟨hrest, hloop⟩ := hsame
  refine ⟨hloop.output, hloop.rateDesired, hloop.pid, ?_, hrest⟩
  rw [hrest, thrust_withLoop]

/-- A tilted and a level pass with the same yaw. -/
theorem axis_isolation_tilted :
    let config := tlm_vf610_defconfig (fun _ => 0) fun _ => 0
    let level : Sensors := { imu6IsCalibrated := true, gyro := ⟨0, 0, .finite 5⟩, eulerActual := ⟨0, 0, .finite 10⟩ }
    let tilted : Sensors :=
      { imu6IsCalibrated := true, gyro := ⟨.finite 40, .finite (-7), .finite 5⟩
        eulerActual := ⟨.finite 20, .finite (-3), .finite 10⟩ }
    let left := run (step config) (copter0 config) [.rcComm_selectThrust, .stabilizerTask level]
    let right := run (step config) (copter0 config) [.rcComm_selectThrust, .stabilizerTask tilted]
    along .yaw (controllerGetActuatorOutput left.controller) =
        along .yaw (controllerGetActuatorOutput right.controller) ∧
      along .yaw left.stabilizer.rateDesired = along .yaw right.stabilizer.rateDesired ∧
      (∀ name, axisOf name = .yaw → left.controller.pid name = right.controller.pid name) ∧
      left.thrust config = right.thrust config ∧ right = left.withLoop right.loop := by
  intro config level tilted left right
  have hagree : AgreeAlong .yaw level tilted := ⟨rfl, rfl, rfl⟩
  have hevents : List.Forall₂ (AgreeEvent .yaw) [.rcComm_selectThrust, .stabilizerTask level]
      [.rcComm_selectThrust, .stabilizerTask tilted] := .cons (.same _) (.cons (.stabilizerTask hagree) .nil)
  exact axis_isolation hevents config (copter0 config)

end copter
