import CopterOS.Stabilizer

open number copter.commander copter.controller copter.pid

namespace copter.stabilizer

/-- Three finite values. -/
structure FiniteRPY (rpy : RPY Flt) : Prop where
  roll : rpy.roll.IsFinite
  pitch : rpy.pitch.IsFinite
  yaw : rpy.yaw.IsFinite

/-- All inputs of an update are finite, and the sampling time is not zero. -/
structure FinitePid (pid : PidObject Flt) : Prop where
  desired : pid.desired.IsFinite
  error : pid.error.IsFinite
  prevError : pid.prevError.IsFinite
  integ : pid.integ.IsFinite
  kp : pid.kp.IsFinite
  ki : pid.ki.IsFinite
  kd : pid.kd.IsFinite
  iLimit : pid.iLimit.IsFinite
  iLimitLow : pid.iLimitLow.IsFinite
  dt : ∃ q, q ≠ 0 ∧ pid.dt = .finite q

/-- The six objects are finite. -/
def FiniteController (controller : Controller Flt) : Prop := ∀ name, FinitePid (controller.pid name)

/-- The gyroscope and the sensor fusion give numbers. -/
structure Sensors.Finite (sensors : Sensors) : Prop where
  x : sensors.gyro.x.IsFinite
  y : sensors.gyro.y.IsFinite
  z : sensors.gyro.z.IsFinite
  eulerActual : FiniteRPY sensors.eulerActual

theorem controllerInit_finite (config : PidValuesConfig) :
    FiniteController (controllerInit config (controller0 : Controller Flt)) := by
  intro name
  exact {
    desired := ⟨_, rfl⟩
    error := ⟨_, rfl⟩
    prevError := ⟨_, rfl⟩
    integ := ⟨_, rfl⟩
    kp := ⟨_, rfl⟩
    ki := ⟨_, rfl⟩
    kd := ⟨_, rfl⟩
    iLimit := ⟨_, rfl⟩
    iLimitLow := ⟨_, rfl⟩
    dt := ⟨IMU_UPDATE_DT, by norm_num [IMU_UPDATE_DT], rfl⟩ }

/-- The integral of a finite error is finite, clamped or not. -/
theorem integrate_finite {pid : PidObject Flt} (hpid : FinitePid pid) {error : Flt} (herror : error.IsFinite) :
    (integrate error pid).IsFinite := by
  obtain ⟨dt, _, hdt⟩ := hpid.dt
  unfold integrate
  dsimp only
  split
  · exact hpid.iLimit
  · split
    · exact hpid.iLimitLow
    · rw [hdt]
      exact hpid.integ.add (herror.mul ⟨dt, rfl⟩)

/-- An update from finite inputs has a finite output and leaves a finite object. -/
theorem pidUpdate_finite {pid : PidObject Flt} (hpid : FinitePid pid) {measured : Flt}
    (hmeasured : measured.IsFinite) (updateError : Bool) :
    (pidUpdate measured updateError pid).1.IsFinite ∧ FinitePid (pidUpdate measured updateError pid).2 := by
  obtain ⟨dt, hnonzero, hdt⟩ := hpid.dt
  have herror : (if updateError then pid.desired - measured else pid.error).IsFinite := by
    cases updateError with
    | true => exact hpid.desired.sub hmeasured
    | false => exact hpid.error
  have hinteg := integrate_finite hpid herror
  have hderiv : (((if updateError then pid.desired - measured else pid.error) - pid.prevError) /
      pid.dt).IsFinite := by
    obtain ⟨difference, hdifference⟩ := herror.sub hpid.prevError
    rw [hdifference, hdt, Flt.div_finite hnonzero]
    exact Flt.isFinite_finite _
  refine ⟨((hpid.kp.mul herror).add (hpid.ki.mul hinteg)).add (hpid.kd.mul hderiv), ?_⟩
  exact { hpid with
    error := herror
    prevError := herror
    integ := hinteg }

theorem pidSetDesired_finite {pid : PidObject Flt} (hpid : FinitePid pid) {desired : Flt}
    (hdesired : desired.IsFinite) : FinitePid (pidSetDesired desired pid) :=
  { hpid with desired := hdesired }

theorem pidSetError_finite {pid : PidObject Flt} (hpid : FinitePid pid) {error : Flt}
    (herror : error.IsFinite) : FinitePid (pidSetError error pid) :=
  { hpid with error := herror }

theorem pidReset_finite {pid : PidObject Flt} (hpid : FinitePid pid) : FinitePid (pidReset pid) :=
  { hpid with
    error := ⟨0, rfl⟩
    prevError := ⟨0, rfl⟩
    integ := ⟨0, rfl⟩ }

theorem yawError_finite {actual desired : Flt} (hactual : actual.IsFinite) (hdesired : desired.IsFinite) :
    (yawError actual desired).IsFinite := by
  have hdifference := hdesired.sub hactual
  unfold yawError
  dsimp only
  split
  · exact hdifference.sub ⟨360, rfl⟩
  · split
    · exact hdifference.add ⟨360, rfl⟩
    · exact hdifference

/-- The attitude correction asks for finite rates and leaves finite objects. -/
theorem controllerCorrectAttitudePID_finite {controller : Controller Flt} (hcontroller : FiniteController controller)
    {actual desired : RPY Flt} (hactual : FiniteRPY actual) (hdesired : FiniteRPY desired) :
    FiniteRPY (controllerCorrectAttitudePID actual desired controller).1 ∧
      FiniteController (controllerCorrectAttitudePID actual desired controller).2 := by
  have hroll := pidUpdate_finite (pidSetDesired_finite (hcontroller .pidRoll) hdesired.roll) hactual.roll true
  have hpitch :=
    pidUpdate_finite (pidSetDesired_finite (hcontroller .pidPitch) hdesired.pitch) hactual.pitch true
  have hyaw := pidUpdate_finite
    (pidSetError_finite (hcontroller .pidYaw) (yawError_finite hactual.yaw hdesired.yaw)) hactual.yaw false
  refine ⟨⟨hroll.1, hpitch.1, hyaw.1⟩, ?_⟩
  intro name
  cases name
  case pidRoll => exact hroll.2
  case pidPitch => exact hpitch.2
  case pidYaw => exact hyaw.2
  all_goals exact hcontroller _

/-- The rate correction leaves finite objects. -/
theorem controllerCorrectRatePID_finite {controller : Controller Flt} (hcontroller : FiniteController controller)
    {actual desired : RPY Flt} (hactual : FiniteRPY actual) (hdesired : FiniteRPY desired)
    (undefined : Flt → Int16) :
    FiniteController (controllerCorrectRatePID undefined actual desired controller) := by
  have hroll :=
    pidUpdate_finite (pidSetDesired_finite (hcontroller .pidRollRate) hdesired.roll) hactual.roll true
  have hpitch :=
    pidUpdate_finite (pidSetDesired_finite (hcontroller .pidPitchRate) hdesired.pitch) hactual.pitch true
  have hyaw := pidUpdate_finite (pidSetDesired_finite (hcontroller .pidYawRate) hdesired.yaw) hactual.yaw true
  intro name
  cases name
  case pidRollRate => exact hroll.2
  case pidPitchRate => exact hpitch.2
  case pidYawRate => exact hyaw.2
  all_goals exact hcontroller _

/-- The attitude part of a pass keeps the objects and the rates asked for finite. -/
theorem correctAttitude_finite {controller : Controller Flt} (hcontroller : FiniteController controller)
    {stabilizer : Stabilizer} (hrate : FiniteRPY stabilizer.rateDesired) {sensors : Sensors}
    (hsensors : sensors.Finite) {eulerDesired : RPY Flt} (hdesired : FiniteRPY eulerDesired) :
    FiniteRPY (correctAttitude sensors eulerDesired stabilizer controller).1.rateDesired ∧
      FiniteController (correctAttitude sensors eulerDesired stabilizer controller).2 := by
  unfold correctAttitude
  dsimp only
  split
  · exact controllerCorrectAttitudePID_finite hcontroller hsensors.eulerActual
      ⟨hdesired.roll, hdesired.pitch, hdesired.yaw.neg⟩
  · exact ⟨hrate, hcontroller⟩

theorem selectRate_finite {eulerDesired rateDesired : RPY Flt} (hdesired : FiniteRPY eulerDesired)
    (hrate : FiniteRPY rateDesired) (types : RPY RPYType) : FiniteRPY (selectRate types eulerDesired rateDesired) := by
  refine ⟨?_, ?_, ?_⟩
  · dsimp only [selectRate]
    split
    · exact hdesired.roll
    · exact hrate.roll
  · dsimp only [selectRate]
    split
    · exact hdesired.pitch
    · exact hrate.pitch
  · dsimp only [selectRate]
    split
    · exact hdesired.yaw.neg
    · exact hrate.yaw

/-- One pass of the control loop over finite inputs keeps the objects and the
    rates asked for finite. -/
theorem control_finite {controller : Controller Flt} (hcontroller : FiniteController controller)
    {stabilizer : Stabilizer} (hrate : FiniteRPY stabilizer.rateDesired) {sensors : Sensors}
    (hsensors : sensors.Finite) {eulerDesired : RPY Flt} (hdesired : FiniteRPY eulerDesired)
    (undefined : Flt → Int16) (types : RPY RPYType) :
    FiniteRPY (control undefined sensors eulerDesired types stabilizer controller).1.rateDesired ∧
      FiniteController (control undefined sensors eulerDesired types stabilizer controller).2 := by
  obtain ⟨hattitude, hobjects⟩ := correctAttitude_finite hcontroller hrate hsensors hdesired
  have hselected := selectRate_finite hdesired hattitude types
  exact ⟨hselected, controllerCorrectRatePID_finite hobjects ⟨hsensors.x, hsensors.y.neg, hsensors.z⟩
    hselected undefined⟩

/-- The power part leaves the objects alone or starts them over. -/
theorem actuate_finite {controller : Controller Flt} (hcontroller : FiniteController controller)
    (actuatorThrust : UInt16) : FiniteController (actuate actuatorThrust controller).2 := by
  unfold actuate
  split
  · exact hcontroller
  · exact fun name => pidReset_finite (hcontroller name)

end copter.stabilizer
