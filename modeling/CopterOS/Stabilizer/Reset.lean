import CopterOS.Copter
import CopterOS.Lib.Unwinding

open transition unwinding number copter.commander copter.controller copter.motors copter.pid

namespace copter.stabilizer

/-- What one calibrated pass gets from the sensors and from the commander. -/
structure Pass where
  sensors : Sensors
  eulerDesired : RPY Flt
  types : RPY RPYType
  thrust : UInt16

/-- The flight history: the variables of the loop and the controllers. -/
structure Memory where
  loop : Stabilizer
  controller : Controller Flt

/-- The memory once the actuator outputs of a pass are computed. -/
def Memory.control (undefined : Flt → Int16) (memory : Memory) (pass : Pass) : Memory :=
  let (stabilizer, controller) := copter.stabilizer.control undefined pass.sensors pass.eulerDesired
    pass.types memory.loop memory.controller
  ⟨stabilizer, controller⟩

def Memory.pass (undefined : Flt → Int16) (memory : Memory) (pass : Pass) : Memory :=
  { memory.control undefined pass with
    controller := (actuate pass.thrust (memory.control undefined pass).controller).2 }

/-- The actuator outputs of one pass and the pulses it writes. -/
structure Drive where
  actuator : RPY Int16
  motors : Option (Motor → UInt32)

def Memory.drive (undefined : Flt → Int16) (esc : EscConfig) (memory : Memory) (pass : Pass) : Drive where
  actuator := controllerGetActuatorOutput (memory.control undefined pass).controller
  motors :=
    (actuate pass.thrust (memory.control undefined pass).controller).1.map fun power motor =>
      motorsSetRatio esc (power motor)

/-- What the passes of a run drive, in order. -/
def drives (undefined : Flt → Int16) (esc : EscConfig) (memory : Memory) (passes : List Pass) : List Drive :=
  outputs (Memory.pass undefined) (fun memory pass => some (memory.drive undefined esc pass)) memory passes

/-- A calibrated pass of the stabilizer task is a pass of its memory with what the
    commander gives in the state it is taken in. -/
theorem stabilizerTask_eq_pass {sensors : Sensors} (hcalibrated : sensors.imu6IsCalibrated = true)
    (config : Config) (state : Copter) :
    let memory : Memory := ⟨state.stabilizer, state.controller⟩
    let pass : Pass := {
      sensors := sensors
      eulerDesired := commanderGetRPY (callRPY config) state.comm state
      types := commanderGetRPYType state.comm
      thrust := state.thrust config }
    (stabilizerTask config sensors state).1 = (memory.drive config.undefinedInt16 config.esc pass).motors ∧
      (stabilizerTask config sensors state).2.stabilizer = (memory.pass config.undefinedInt16 pass).loop ∧
      (stabilizerTask config sensors state).2.controller =
        (memory.pass config.undefinedInt16 pass).controller := by
  rw [stabilizerTask_of_calibrated hcalibrated]
  exact ⟨rfl, rfl, rfl⟩

/-- Two objects have the same gains, limits and sampling time. -/
structure SameGains (left right : PidObject Flt) : Prop where
  kp : left.kp = right.kp
  ki : left.ki = right.ki
  kd : left.kd = right.kd
  iLimit : left.iLimit = right.iLimit
  iLimitLow : left.iLimitLow = right.iLimitLow
  dt : left.dt = right.dt

/-- Moreover they remember the same of the past. -/
structure SamePast (left right : PidObject Flt) : Prop extends SameGains left right where
  prevError : left.prevError = right.prevError
  integ : left.integ = right.integ

/-- The memories differ in nothing but the past. -/
structure SameSetup (left right : Memory) : Prop where
  attitudeCounter : left.loop.attitudeCounter = right.loop.attitudeCounter
  gains : ∀ name, SameGains (left.controller.pid name) (right.controller.pid name)

/-- The memories will drive the same: their controllers remember the same, and the
    rates asked for are the same unless the next pass asks anew. -/
structure Alike (left right : Memory) : Prop where
  attitudeCounter : left.loop.attitudeCounter = right.loop.attitudeCounter
  counter_le : left.loop.attitudeCounter = 0 ∨ left.loop.attitudeCounter = 1
  past : ∀ name, SamePast (left.controller.pid name) (right.controller.pid name)
  rateDesired : left.loop.rateDesired = right.loop.rateDesired ∨
    left.loop.attitudeCounter = 1

/-- An update depends on the past and on what it is given. -/
theorem pidUpdate_same {left right : PidObject Flt} (hpast : SamePast left right) (updateError : Bool)
    (herror : if updateError then left.desired = right.desired else left.error = right.error)
    (measured : Flt) :
    (pidUpdate measured updateError left).1 = (pidUpdate measured updateError right).1 ∧
      SamePast (pidUpdate measured updateError left).2 (pidUpdate measured updateError right).2 := by
  obtain ⟨⟨hkp, hki, hkd, hiLimit, hiLimitLow, hdt⟩, hprevError, hinteg⟩ := hpast
  have herrors : (if updateError then left.desired - measured else left.error) =
      if updateError then right.desired - measured else right.error := by
    cases updateError with
    | true => simpa using congrArg (· - measured) herror
    | false => simpa using herror
  have hintegrate : ∀ error, integrate error left = integrate error right := by
    intro error
    simp only [integrate, hinteg, hdt, hiLimit, hiLimitLow]
  unfold pidUpdate
  dsimp only
  rw [herrors, hintegrate, hkp, hki, hkd, hprevError, hdt]
  exact ⟨rfl, ⟨rfl, rfl, rfl, hiLimit, hiLimitLow, rfl⟩, rfl, rfl⟩

/-- An update changes no gain, no limit and no sampling time. -/
theorem pidUpdate_gains {left right : PidObject Flt} (hgains : SameGains left right) (updateError : Bool)
    (measured measured' : Flt) :
    SameGains (pidUpdate measured updateError left).2 (pidUpdate measured' updateError right).2 :=
  ⟨hgains.kp, hgains.ki, hgains.kd, hgains.iLimit, hgains.iLimitLow, hgains.dt⟩

/-- After a reset nothing is remembered. -/
theorem pidReset_same {left right : PidObject Flt} (hgains : SameGains left right) :
    SamePast (pidReset left) (pidReset right) :=
  ⟨⟨hgains.kp, hgains.ki, hgains.kd, hgains.iLimit, hgains.iLimitLow, hgains.dt⟩, rfl, rfl⟩

theorem SameGains.setDesired {left right : PidObject Flt} (hgains : SameGains left right)
    (desired desired' : Flt) : SameGains (pidSetDesired desired left) (pidSetDesired desired' right) :=
  ⟨hgains.kp, hgains.ki, hgains.kd, hgains.iLimit, hgains.iLimitLow, hgains.dt⟩

theorem SameGains.setError {left right : PidObject Flt} (hgains : SameGains left right)
    (error error' : Flt) : SameGains (pidSetError error left) (pidSetError error' right) :=
  ⟨hgains.kp, hgains.ki, hgains.kd, hgains.iLimit, hgains.iLimitLow, hgains.dt⟩

theorem SamePast.setDesired {left right : PidObject Flt} (hpast : SamePast left right) (desired : Flt) :
    SamePast (pidSetDesired desired left) (pidSetDesired desired right) :=
  ⟨hpast.toSameGains.setDesired desired desired, hpast.prevError, hpast.integ⟩

theorem SamePast.setError {left right : PidObject Flt} (hpast : SamePast left right) (error : Flt) :
    SamePast (pidSetError error left) (pidSetError error right) :=
  ⟨hpast.toSameGains.setError error error, hpast.prevError, hpast.integ⟩

/-- The attitude correction asks for the same rates and remembers the same. -/
theorem controllerCorrectAttitudePID_same {left right : Controller Flt}
    (hpast : ∀ name, SamePast (left.pid name) (right.pid name)) (eulerActual eulerDesired : RPY Flt) :
    (controllerCorrectAttitudePID eulerActual eulerDesired left).1 =
        (controllerCorrectAttitudePID eulerActual eulerDesired right).1 ∧
      ∀ name, SamePast ((controllerCorrectAttitudePID eulerActual eulerDesired left).2.pid name)
        ((controllerCorrectAttitudePID eulerActual eulerDesired right).2.pid name) := by
  obtain ⟨hroll, hrollPast⟩ := pidUpdate_same ((hpast .pidRoll).setDesired eulerDesired.roll)
    true rfl eulerActual.roll
  obtain ⟨hpitch, hpitchPast⟩ := pidUpdate_same ((hpast .pidPitch).setDesired eulerDesired.pitch)
    true rfl eulerActual.pitch
  obtain ⟨hyaw, hyawPast⟩ := pidUpdate_same
    ((hpast .pidYaw).setError (yawError eulerActual.yaw eulerDesired.yaw)) false rfl
    eulerActual.yaw
  refine ⟨?_, ?_⟩
  · simp only [controllerCorrectAttitudePID, hroll, hpitch, hyaw]
  · intro name
    cases name with
    | pidRoll => exact hrollPast
    | pidPitch => exact hpitchPast
    | pidYaw => exact hyawPast
    | pidRollRate => exact hpast .pidRollRate
    | pidPitchRate => exact hpast .pidPitchRate
    | pidYawRate => exact hpast .pidYawRate

theorem controllerCorrectAttitudePID_gains {left right : Controller Flt}
    (hgains : ∀ name, SameGains (left.pid name) (right.pid name)) (eulerActual eulerDesired : RPY Flt)
    (name : PidName) :
    SameGains ((controllerCorrectAttitudePID eulerActual eulerDesired left).2.pid name)
      ((controllerCorrectAttitudePID eulerActual eulerDesired right).2.pid name) := by
  cases name with
  | pidRoll => exact pidUpdate_gains ((hgains .pidRoll).setDesired _ _) _ _ _
  | pidPitch => exact pidUpdate_gains ((hgains .pidPitch).setDesired _ _) _ _ _
  | pidYaw => exact pidUpdate_gains ((hgains .pidYaw).setError _ _) _ _ _
  | pidRollRate => exact hgains .pidRollRate
  | pidPitchRate => exact hgains .pidPitchRate
  | pidYawRate => exact hgains .pidYawRate

/-- The rate correction gives the same outputs and remembers the same. -/
theorem controllerCorrectRatePID_same (undefined : Flt → Int16) {left right : Controller Flt}
    (hpast : ∀ name, SamePast (left.pid name) (right.pid name)) (rateActual rateDesired : RPY Flt) :
    controllerGetActuatorOutput (controllerCorrectRatePID undefined rateActual rateDesired left) =
        controllerGetActuatorOutput (controllerCorrectRatePID undefined rateActual rateDesired right) ∧
      ∀ name, SamePast ((controllerCorrectRatePID undefined rateActual rateDesired left).pid name)
        ((controllerCorrectRatePID undefined rateActual rateDesired right).pid name) := by
  obtain ⟨hroll, hrollPast⟩ := pidUpdate_same ((hpast .pidRollRate).setDesired rateDesired.roll)
    true rfl rateActual.roll
  obtain ⟨hpitch, hpitchPast⟩ := pidUpdate_same ((hpast .pidPitchRate).setDesired rateDesired.pitch)
    true rfl rateActual.pitch
  obtain ⟨hyaw, hyawPast⟩ := pidUpdate_same ((hpast .pidYawRate).setDesired rateDesired.yaw)
    true rfl rateActual.yaw
  refine ⟨?_, ?_⟩
  · simp only [controllerGetActuatorOutput, controllerCorrectRatePID, hroll, hpitch, hyaw]
  · intro name
    cases name with
    | pidRollRate => exact hrollPast
    | pidPitchRate => exact hpitchPast
    | pidYawRate => exact hyawPast
    | pidRoll => exact hpast .pidRoll
    | pidPitch => exact hpast .pidPitch
    | pidYaw => exact hpast .pidYaw

theorem controllerCorrectRatePID_gains (undefined : Flt → Int16) {left right : Controller Flt}
    (hgains : ∀ name, SameGains (left.pid name) (right.pid name)) (rateActual : RPY Flt)
    (rateDesired rateDesired' : RPY Flt) (name : PidName) :
    SameGains ((controllerCorrectRatePID undefined rateActual rateDesired left).pid name)
      ((controllerCorrectRatePID undefined rateActual rateDesired' right).pid name) := by
  cases name with
  | pidRollRate => exact pidUpdate_gains ((hgains .pidRollRate).setDesired _ _) _ _ _
  | pidPitchRate => exact pidUpdate_gains ((hgains .pidPitchRate).setDesired _ _) _ _ _
  | pidYawRate => exact pidUpdate_gains ((hgains .pidYawRate).setDesired _ _) _ _ _
  | pidRoll => exact hgains .pidRoll
  | pidPitch => exact hgains .pidPitch
  | pidYaw => exact hgains .pidYaw

theorem control_attitudeCounter (undefined : Flt → Int16) (memory : Memory) (pass : Pass) :
    (memory.control undefined pass).loop.attitudeCounter =
      if memory.loop.attitudeCounter + 1 ≥ ATTITUDE_UPDATE_RATE_DIVIDER then 0
      else memory.loop.attitudeCounter + 1 :=
  attitudeCounter_control undefined _ _ _ _ _

theorem counter_le_of_control (undefined : Flt → Int16) (memory : Memory) (pass : Pass) :
    (memory.control undefined pass).loop.attitudeCounter = 0 ∨
      (memory.control undefined pass).loop.attitudeCounter = 1 := by
  rw [control_attitudeCounter]
  split
  case isTrue => exact .inl rfl
  case isFalse hdivider =>
    have hless : (memory.loop.attitudeCounter + 1).toNat < 2 := by
      simpa [ATTITUDE_UPDATE_RATE_DIVIDER, UInt32.le_iff_toNat_le] using hdivider
    have hcases : (memory.loop.attitudeCounter + 1).toNat = 0 ∨ (memory.loop.attitudeCounter + 1).toNat = 1 := by
      omega
    rcases hcases with hzero | hone
    · exact .inl (UInt32.toNat_inj.mp hzero)
    · exact .inr (UInt32.toNat_inj.mp hone)

/-- A pass changes no gain, no limit and no sampling time. -/
theorem control_gains (undefined : Flt → Int16) {left right : Memory} (hsetup : SameSetup left right)
    (pass : Pass) : SameSetup (left.control undefined pass) (right.control undefined pass) := by
  obtain ⟨hcounter, hgains⟩ := hsetup
  refine ⟨by rw [control_attitudeCounter, control_attitudeCounter, hcounter], ?_⟩
  intro name
  simp only [Memory.control, copter.stabilizer.control, correctAttitude, hcounter]
  by_cases hdivider : right.loop.attitudeCounter + 1 ≥ ATTITUDE_UPDATE_RATE_DIVIDER
  · simp only [if_pos hdivider]
    exact controllerCorrectRatePID_gains undefined
      (controllerCorrectAttitudePID_gains hgains _ _) _ _ _ name
  · simp only [if_neg hdivider]
    exact controllerCorrectRatePID_gains undefined hgains _ _ _ name

/-- Alike memories compute the same outputs in a pass, and are alike after it. -/
theorem control_alike (undefined : Flt → Int16) {left right : Memory} (halike : Alike left right)
    (pass : Pass) :
    controllerGetActuatorOutput (left.control undefined pass).controller =
        controllerGetActuatorOutput (right.control undefined pass).controller ∧
      Alike (left.control undefined pass) (right.control undefined pass) := by
  obtain ⟨hcounter, _, hpast, hrate⟩ := halike
  have hnext : (left.control undefined pass).loop.attitudeCounter =
      (right.control undefined pass).loop.attitudeCounter := by
    rw [control_attitudeCounter, control_attitudeCounter, hcounter]
  have hle := counter_le_of_control undefined left pass
  by_cases hdivider : right.loop.attitudeCounter + 1 ≥ ATTITUDE_UPDATE_RATE_DIVIDER
  · obtain ⟨hasked, hattitude⟩ := controllerCorrectAttitudePID_same hpast pass.sensors.eulerActual
      ⟨pass.eulerDesired.roll, pass.eulerDesired.pitch, -pass.eulerDesired.yaw⟩
    have houtputs := controllerCorrectRatePID_same undefined hattitude
      ⟨pass.sensors.gyro.x, -pass.sensors.gyro.y, pass.sensors.gyro.z⟩
    refine ⟨?_, hnext, hle, ?_, .inl ?_⟩
    · simp only [Memory.control, copter.stabilizer.control, correctAttitude, hcounter, if_pos hdivider, hasked]
      exact (houtputs _).1
    · simp only [Memory.control, copter.stabilizer.control, correctAttitude, hcounter, if_pos hdivider, hasked]
      exact (houtputs _).2
    · simp only [Memory.control, copter.stabilizer.control, correctAttitude, hcounter, if_pos hdivider, hasked]
  · have hsame : left.loop.rateDesired = right.loop.rateDesired := by
      apply hrate.resolve_right
      intro hone
      apply hdivider
      rw [← hcounter, hone]
      decide
    have houtputs := controllerCorrectRatePID_same undefined hpast
      ⟨pass.sensors.gyro.x, -pass.sensors.gyro.y, pass.sensors.gyro.z⟩
    refine ⟨?_, hnext, hle, ?_, .inl ?_⟩
    · simp only [Memory.control, copter.stabilizer.control, correctAttitude, hcounter, if_neg hdivider, hsame]
      exact (houtputs _).1
    · simp only [Memory.control, copter.stabilizer.control, correctAttitude, hcounter, if_neg hdivider, hsame]
      exact (houtputs _).2
    · simp only [Memory.control, copter.stabilizer.control, correctAttitude, hcounter, if_neg hdivider, hsame]

/-- The power part resets both controllers or neither. -/
theorem actuate_past {left right : Controller Flt} (hpast : ∀ name, SamePast (left.pid name) (right.pid name))
    (thrust : UInt16) (name : PidName) :
    SamePast ((actuate thrust left).2.pid name) ((actuate thrust right).2.pid name) := by
  unfold actuate
  split
  · exact hpast name
  · exact pidReset_same (hpast name).toSameGains

theorem pass_alike (undefined : Flt → Int16) {left right : Memory} (halike : Alike left right) (pass : Pass) :
    Alike (left.pass undefined pass) (right.pass undefined pass) := by
  obtain ⟨_, hcounter, hle, hpast, hrate⟩ := control_alike undefined halike pass
  exact ⟨hcounter, hle, actuate_past hpast pass.thrust, hrate⟩

/-- Alike memories drive the motors in the same way. -/
theorem drive_alike (undefined : Flt → Int16) (esc : EscConfig) {left right : Memory}
    (halike : Alike left right) (pass : Pass) :
    left.drive undefined esc pass = right.drive undefined esc pass := by
  obtain ⟨houtput, _⟩ := control_alike undefined halike pass
  simp only [Memory.drive, actuate, houtput]
  split <;> rfl

/-- A pass without thrust forgets what the controllers remember, but not yet the
    rates asked for. -/
theorem pass_without_thrust (undefined : Flt → Int16) {left right : Memory} (hsetup : SameSetup left right)
    {pass : Pass} (hthrust : pass.thrust = 0) :
    (left.pass undefined pass).loop.attitudeCounter = (right.pass undefined pass).loop.attitudeCounter ∧
      ((left.pass undefined pass).loop.attitudeCounter = 0 ∨
        (left.pass undefined pass).loop.attitudeCounter = 1) ∧
      ∀ name, SamePast ((left.pass undefined pass).controller.pid name)
        ((right.pass undefined pass).controller.pid name) := by
  obtain ⟨hcounter, hgains⟩ := control_gains undefined hsetup pass
  refine ⟨hcounter, counter_le_of_control undefined left pass, ?_⟩
  intro name
  simp only [Memory.pass, hthrust, actuate_zero]
  exact pidReset_same (hgains name)

/-- After two passes without thrust the memories are alike: one of the two asks
    for new rates from controllers already reset, or the next one does. -/
theorem two_passes_without_thrust (undefined : Flt → Int16) {left right : Memory}
    (hsetup : SameSetup left right) {first second : Pass} (hfirst : first.thrust = 0)
    (hsecond : second.thrust = 0) :
    Alike ((left.pass undefined first).pass undefined second)
      ((right.pass undefined first).pass undefined second) := by
  obtain ⟨hcounter, hle, hpast⟩ := pass_without_thrust undefined hsetup hfirst
  rcases hle with hzero | hone
  · have hsetup' : SameSetup (left.pass undefined first) (right.pass undefined first) :=
      ⟨hcounter, fun name => (hpast name).toSameGains⟩
    obtain ⟨hcounter', hle', hpast'⟩ := pass_without_thrust undefined hsetup' hsecond
    refine ⟨hcounter', hle', hpast', .inr ?_⟩
    have hnext := control_attitudeCounter undefined (left.pass undefined first) second
    rw [hzero] at hnext
    exact hnext
  · exact pass_alike undefined ⟨hcounter, .inr hone, hpast, .inr hone⟩ second

/-- Two copters that differ in their past alone drive their motors in the same way
    from the third pass on, when the first two are without thrust. -/
theorem zero_thrust_forgets (undefined : Flt → Int16) (esc : EscConfig) {left right : Memory}
    (hsetup : SameSetup left right) {first second : Pass} (hfirst : first.thrust = 0)
    (hsecond : second.thrust = 0) (rest : List Pass) :
    (drives undefined esc left (first :: second :: rest)).drop 2 =
      (drives undefined esc right (first :: second :: rest)).drop 2 := by
  have halike := two_passes_without_thrust undefined hsetup hfirst hsecond
  have hstep : ∀ left right pass, Alike left right → Alike (left.pass undefined pass) (right.pass undefined pass) :=
    fun _ _ pass halike => pass_alike undefined halike pass
  have hdrive : ∀ left right pass, Alike left right →
      some (left.drive undefined esc pass) = some (right.drive undefined esc pass) :=
    fun _ _ pass halike => congrArg some (drive_alike undefined esc halike pass)
  have hrest := outputs_eq_of_related hstep hdrive halike rest
  simpa [drives, outputs_cons] using hrest

/-- A copter before its first pass. -/
def freshMemory : Memory where
  loop := stabilizer0
  controller := controllerInit .CONFIG_PIDVALUES_TCM controller0

/-- A flight with integrals, errors and set points left over. -/
def usedMemory : Memory where
  loop := { attitudeCounter := 0, rateDesired := ⟨.finite 30, .finite (-7), .finite 2⟩ }
  controller :=
    { freshMemory.controller with
      pid := fun name =>
        { freshMemory.controller.pid name with
          desired := .finite 4, error := .finite 3, prevError := .finite 2, integ := .finite 1 } }

/-- A pass on level ground with the sticks in the middle. -/
def groundPass (thrust : UInt16) : Pass where
  sensors := { imu6IsCalibrated := true, gyro := ⟨0, 0, 0⟩, eulerActual := ⟨0, 0, 0⟩ }
  eulerDesired := ⟨0, 0, 0⟩
  types := ⟨.ANGLE, .ANGLE, .RATE⟩
  thrust := thrust

theorem sameSetup_usedMemory : SameSetup freshMemory usedMemory where
  attitudeCounter := rfl
  gains _ := ⟨rfl, rfl, rfl, rfl, rfl, rfl⟩

/-- After two passes on the ground a used copter takes off like a fresh one. -/
theorem zero_thrust_forgets_takeoff :
    (drives (fun _ => 0) ⟨1050, 1860, by decide, by decide⟩ freshMemory
        [groundPass 0, groundPass 0, groundPass 30000]).drop 2 =
      (drives (fun _ => 0) ⟨1050, 1860, by decide, by decide⟩ usedMemory
        [groundPass 0, groundPass 0, groundPass 30000]).drop 2 :=
  zero_thrust_forgets _ _ sameSetup_usedMemory rfl rfl [groundPass 30000]

end copter.stabilizer
