import CopterOS.Copter
import CopterOS.Lib.Run
import CopterOS.Stabilizer.Finite

open transition number copter.commander copter.controller copter.linux_client copter.pid copter.pidctrl
open copter.stabilizer

namespace copter.linux_commander

/-- A number between -1 and 1. -/
def InRange (value : Flt) : Prop := ∃ q : ℚ, value = .finite q ∧ -1 ≤ q ∧ q ≤ 1

/-- The four values of a set-point are numbers between -1 and 1. -/
structure AutocoptControl.Valid (ctl : AutocoptControl) : Prop where
  roll : InRange ctl.roll
  pitch : InRange ctl.pitch
  yaw : InRange ctl.yaw
  thrust : InRange ctl.thrust

/-- One of the four values is NaN. -/
def AutocoptControl.HasNaN (ctl : AutocoptControl) : Prop :=
  ctl.roll = .nan ∨ ctl.pitch = .nan ∨ ctl.yaw = .nan ∨ ctl.thrust = .nan

/-- A number of at most the given size. -/
def Within (value : Flt) (bound : ℚ) : Prop := ∃ q : ℚ, value = .finite q ∧ -bound ≤ q ∧ q ≤ bound

/-- After a run the set-point is valid, the thrust to convert is in the range of
    `uint16_t`, the angles are within their limits, and the controllers are finite
    provided the sensors have given numbers. -/
structure SetpointValid (config : Config) (events : List Event) : Prop where
  ctl : (run (step config) (copter0 config) events).ctl.Valid
  thrust : ∃ q : ℚ, thrustValue (run (step config) (copter0 config) events).ctl = .finite q ∧ 0 ≤ q ∧ q ≤ 65535
  roll : Within (linuxComm_GetRPY (run (step config) (copter0 config) events).ctl).roll EULER_ROLL_MAX
  pitch : Within (linuxComm_GetRPY (run (step config) (copter0 config) events).ctl).pitch EULER_PITCH_MAX
  yaw : Within (linuxComm_GetRPY (run (step config) (copter0 config) events).ctl).yaw EULER_YAW_MAX
  pid : (∀ sensors, .stabilizerTask sensors ∈ events → sensors.Finite) → ∀ name,
    ((run (step config) (copter0 config) events).controller.pid name).error.IsFinite ∧
      ((run (step config) (copter0 config) events).controller.pid name).integ.IsFinite

/-- A control message that carries NaN is refused for another of its values. -/
def RefusesNaN : Event → Prop
  | .lcTask _ msg => msg.type = LC_TYPE_CONTROL → (AutocoptControl.ofData msg.data).HasNaN →
    (AutocoptControl.ofData msg.data).Refused
  | _ => True

/-- The eight comparisons let exactly the numbers in the range and NaN through. -/
theorem valid_of_not_refused {ctl : AutocoptControl} (haccepted : ¬ ctl.Refused) (hnan : ¬ ctl.HasNaN) :
    ctl.Valid := by
  unfold AutocoptControl.Refused at haccepted
  unfold AutocoptControl.HasNaN at hnan
  have hfield : ∀ value : Flt, ¬ (value < ((-1 : ℚ) : Flt) ∨ ((1 : ℚ) : Flt) < value) → value ≠ .nan →
      InRange value := by
    intro value hinside hnumber
    exact ((Flt.not_outside_iff value (-1) 1).mp hinside).resolve_left hnumber
  exact {
    roll := hfield _ (by tauto) (by tauto)
    pitch := hfield _ (by tauto) (by tauto)
    yaw := hfield _ (by tauto) (by tauto)
    thrust := hfield _ (by tauto) (by tauto) }

theorem not_hasNaN_of_valid {ctl : AutocoptControl} (hvalid : ctl.Valid) : ¬ ctl.HasNaN := by
  obtain ⟨⟨_, hroll, _⟩, ⟨_, hpitch, _⟩, ⟨_, hyaw, _⟩, ⟨_, hthrust, _⟩⟩ := hvalid
  unfold AutocoptControl.HasNaN
  rw [hroll, hpitch, hyaw, hthrust]
  simp

theorem ctl0_valid : ctl0.Valid where
  roll := ⟨0, rfl, by norm_num, by norm_num⟩
  pitch := ⟨0, rfl, by norm_num, by norm_num⟩
  yaw := ⟨0, rfl, by norm_num, by norm_num⟩
  thrust := ⟨-1, rfl, by norm_num, by norm_num⟩

/-- A valid set-point gives a thrust in the range of `uint16_t`. -/
theorem thrustValue_range {ctl : AutocoptControl} (hvalid : ctl.Valid) :
    ∃ q : ℚ, thrustValue ctl = .finite q ∧ 0 ≤ q ∧ q ≤ 65535 := by
  obtain ⟨q, hthrust, hlow, hhigh⟩ := hvalid.thrust
  refine ⟨(q + 1) / 2 * 65535, ?_, by linarith, by linarith⟩
  unfold thrustValue
  rw [hthrust]
  simp only [Flt.ratCast_eq, Flt.add_finite]
  rw [Flt.div_finite (by norm_num), Flt.mul_finite]

/-- A value in the range scaled by a limit is within the limit. -/
theorem within_mul {value : Flt} (hvalue : InRange value) {bound : ℚ} (hbound : 0 ≤ bound) :
    Within (value * (bound : Flt)) bound := by
  obtain ⟨q, rfl, hlow, hhigh⟩ := hvalue
  refine ⟨q * bound, rfl, ?_, ?_⟩
  · have hscaled := mul_le_mul_of_nonneg_right hlow hbound
    linarith
  · have hscaled := mul_le_mul_of_nonneg_right hhigh hbound
    linarith

theorem inRange_neg {value : Flt} (hvalue : InRange value) : InRange (-value) := by
  obtain ⟨q, rfl, hlow, hhigh⟩ := hvalue
  exact ⟨-q, rfl, by linarith, by linarith⟩

/-- A valid set-point gives angles within their limits. -/
theorem linuxComm_GetRPY_within {ctl : AutocoptControl} (hvalid : ctl.Valid) :
    Within (linuxComm_GetRPY ctl).roll EULER_ROLL_MAX ∧ Within (linuxComm_GetRPY ctl).pitch EULER_PITCH_MAX ∧
      Within (linuxComm_GetRPY ctl).yaw EULER_YAW_MAX :=
  ⟨within_mul hvalid.roll (by norm_num [EULER_ROLL_MAX]),
    within_mul (inRange_neg hvalid.pitch) (by norm_num [EULER_PITCH_MAX]),
    within_mul hvalid.yaw (by norm_num [EULER_YAW_MAX])⟩

/-- Every attitude source gives numbers. -/
theorem commanderGetRPY_finite {state : Copter} (hvalid : state.ctl.Valid) (config : Config) :
    FiniteRPY (commanderGetRPY (callRPY config) state.comm state) := by
  unfold commanderGetRPY
  cases state.comm.getRPY with
  | none => exact ⟨⟨0, rfl⟩, ⟨0, rfl⟩, ⟨0, rfl⟩⟩
  | some callback =>
    cases callback with
    | rcComm_GetRPY => exact ⟨⟨_, rfl⟩, ⟨_, rfl⟩, ⟨_, rfl⟩⟩
    | linuxComm_GetRPY =>
      obtain ⟨⟨_, hroll, _⟩, ⟨_, hpitch, _⟩, ⟨_, hyaw, _⟩⟩ := linuxComm_GetRPY_within hvalid
      exact ⟨⟨_, hroll⟩, ⟨_, hpitch⟩, ⟨_, hyaw⟩⟩

/-- One step keeps a valid set-point valid when it accepts no NaN. -/
theorem step_valid {state : Copter} {event : Event} (hevent : RefusesNaN event) (hvalid : state.ctl.Valid)
    (config : Config) : (step config state event).ctl.Valid := by
  cases event with
  | lcTask stack msg =>
    simp only [step]
    rcases lcTask_cases stack msg state with heq | ⟨htype, haccepted, heq⟩ | ⟨_, heq⟩ | ⟨_, heq⟩ | ⟨_, heq⟩
    · rw [heq]
      exact hvalid
    · rw [heq]
      exact valid_of_not_refused haccepted (fun hnan => haccepted (hevent htype hnan))
    all_goals
      rw [heq]
      exact hvalid
  | stabilizerTask sensors =>
    simp only [step]
    rw [(stabilizerTask_frame config sensors state).2.1]
    exact hvalid
  | emergencyTask =>
    simp only [step]
    rw [(emergencyTask_frame config state).1]
    exact hvalid
  | _ => exact hvalid

/-- The gains of a message are numbers. -/
theorem setPidValues_finite {controller : Controller Flt} (hcontroller : FiniteController controller)
    (values : PidValues) : FiniteController (setPidValues values controller) := by
  have hgains : ∀ name kp ki kd, FinitePid (setGains kp ki kd (controller.pid name)) := fun name kp ki kd =>
    { hcontroller name with
      kp := ⟨_, rfl⟩
      ki := ⟨_, rfl⟩
      kd := ⟨_, rfl⟩ }
  intro name
  unfold setPidValues
  split
  · cases name
    case pidRollRate | pidPitchRate | pidYawRate => exact hgains _ _ _ _
    all_goals exact hcontroller _
  · cases name
    case pidRoll | pidPitch | pidYaw => exact hgains _ _ _ _
    all_goals exact hcontroller _
  · exact hcontroller name

/-- The controllers and the rates asked for are finite. -/
structure FiniteControl (state : Copter) : Prop where
  rateDesired : FiniteRPY state.stabilizer.rateDesired
  controller : FiniteController state.controller

/-- One step keeps the controllers finite while the set-point is valid and the
    sensors give numbers. -/
theorem step_finiteControl {state : Copter} {event : Event}
    (hsensors : ∀ sensors, event = .stabilizerTask sensors → sensors.Finite) (hvalid : state.ctl.Valid)
    (hfinite : FiniteControl state) (config : Config) : FiniteControl (step config state event) := by
  cases event with
  | lcTask stack msg =>
    simp only [step]
    rcases lcTask_cases stack msg state with heq | ⟨_, _, heq⟩ | ⟨_, heq⟩ | ⟨_, heq⟩ | ⟨_, heq⟩
    case inr.inr.inr.inl =>
      rw [heq]
      exact ⟨hfinite.rateDesired, setPidValues_finite hfinite.controller _⟩
    all_goals
      rw [heq]
      exact ⟨hfinite.rateDesired, hfinite.controller⟩
  | stabilizerTask sensors =>
    simp only [step]
    by_cases hcalibrated : sensors.imu6IsCalibrated = true
    · rw [stabilizerTask_of_calibrated hcalibrated]
      have hcontrol := control_finite hfinite.controller hfinite.rateDesired (hsensors sensors rfl)
        (commanderGetRPY_finite hvalid config) config.undefinedInt16 (commanderGetRPYType state.comm)
      exact ⟨hcontrol.1, actuate_finite hcontrol.2 _⟩
    · rw [stabilizerTask_of_not_calibrated hcalibrated]
      exact hfinite
  | emergencyTask =>
    obtain ⟨_, hcontroller, _, hstabilizer⟩ := emergencyTask_frame config state
    simp only [step]
    exact ⟨hstabilizer ▸ hfinite.rateDesired, hcontroller ▸ hfinite.controller⟩
  | _ => exact ⟨hfinite.rateDesired, hfinite.controller⟩

/-- A run without an accepted NaN keeps the set-point valid. -/
theorem run_valid {events : List Event} (hevents : ∀ event ∈ events, RefusesNaN event) (config : Config) :
    (run (step config) (copter0 config) events).ctl.Valid := by
  have hkept : ∀ (state : Copter) event, RefusesNaN event → state.ctl.Valid →
      (step config state event).ctl.Valid :=
    fun state event hevent hvalid => step_valid hevent hvalid config
  exact run_invariant_of_forall (P := fun state : Copter => state.ctl.Valid) hkept ctl0_valid hevents

/-- With sensors that give numbers it keeps the controllers finite, too. -/
theorem run_finiteControl {events : List Event} (hevents : ∀ event ∈ events, RefusesNaN event)
    (hsensors : ∀ sensors, .stabilizerTask sensors ∈ events → sensors.Finite) (config : Config) :
    FiniteControl (run (step config) (copter0 config) events) := by
  have hkept : ∀ (state : Copter) event,
      RefusesNaN event ∧ (∀ sensors, event = .stabilizerTask sensors → sensors.Finite) →
      state.ctl.Valid ∧ FiniteControl state →
      (step config state event).ctl.Valid ∧ FiniteControl (step config state event) := by
    intro state event hevent hstate
    exact ⟨step_valid hevent.1 hstate.1 config, step_finiteControl hevent.2 hstate.1 hstate.2 config⟩
  have hstart : (copter0 config).ctl.Valid ∧ FiniteControl (copter0 config) :=
    ⟨ctl0_valid, ⟨⟨0, rfl⟩, ⟨0, rfl⟩, ⟨0, rfl⟩⟩, controllerInit_finite config.pidValues⟩
  have hallowed : ∀ event ∈ events,
      RefusesNaN event ∧ (∀ sensors, event = .stabilizerTask sensors → sensors.Finite) := by
    intro event hevent
    exact ⟨hevents event hevent, fun sensors heq => hsensors sensors (heq ▸ hevent)⟩
  exact (run_invariant_of_forall (P := fun state : Copter => state.ctl.Valid ∧ FiniteControl state) hkept
    hstart hallowed).2

/-- From power-up, the set-points are valid in every state of a run exactly when
    each of its control messages that carries NaN is refused for another value. -/
theorem setpointValid_iff (config : Config) (events : List Event) :
    (∀ before, before <+: events → SetpointValid config before) ↔ ∀ event ∈ events, RefusesNaN event := by
  constructor
  · intro hvalid event hevent
    cases event with
    | lcTask stack msg =>
      intro htype hnan
      by_contra haccepted
      obtain ⟨first, second, rfl⟩ := List.append_of_mem hevent
      have hprefix : first ++ [.lcTask stack msg] <+: first ++ .lcTask stack msg :: second := ⟨second, by simp⟩
      have hstored := (hvalid _ hprefix).ctl
      simp only [run_concat, step] at hstored
      rw [lcTask_control htype haccepted] at hstored
      exact not_hasNaN_of_valid hstored hnan
    | _ => exact trivial
  · rintro hevents before ⟨after, rfl⟩
    have hbefore : ∀ event ∈ before, RefusesNaN event := fun event hevent => hevents event (by simp [hevent])
    have hvalid := run_valid hbefore config
    obtain ⟨hroll, hpitch, hyaw⟩ := linuxComm_GetRPY_within hvalid
    refine ⟨hvalid, thrustValue_range hvalid, hroll, hpitch, hyaw, ?_⟩
    intro hsensors name
    have hfinite := (run_finiteControl hbefore hsensors config).controller name
    exact ⟨hfinite.error, hfinite.integ⟩

/-- A control message with NaN for the thrust and zeros for the angles is stored. -/
theorem not_setpointValid_nan :
    let msg : LcMsg := ⟨LC_TYPE_CONTROL, fun i => if i = 14 then 0xc0 else if i = 15 then 0x7f else 0⟩
    ¬ SetpointValid (tlm_vf610_defconfig (fun _ => 0) (fun _ => 0)) [.lcTask (fun _ => 0) msg] := by
  intro msg hvalid
  have haccepted : ¬ (AutocoptControl.ofData msg.data).Refused := by decide +kernel
  have hnan : (AutocoptControl.ofData msg.data).HasNaN := .inr (.inr (.inr (by decide)))
  have hstored := hvalid.ctl
  simp only [run_cons, run_nil, step] at hstored
  rw [lcTask_control rfl haccepted] at hstored
  exact not_hasNaN_of_valid hstored hnan

end copter.linux_commander
