import CopterOS.Copter.Isolation
import CopterOS.Lib.Projection
import CopterOS.RemoteControl.Loss

open number transition copter.commander copter.controller copter.emergency copter.linux_client
open copter.linux_commander copter.motors copter.rc_commander copter.remote_control copter.stabilizer

namespace copter

/-- The receiver gives a yaw and a thrust. -/
def Copter.Received (state : Copter) : Prop :=
  rc_get state.rc state.rcComm.thrustID ≠ 0 ∧ rc_get state.rc state.rcComm.yawID ≠ 0

/-- The thrust stick is received below its base. -/
def Copter.BelowBase (config : Config) (state : Copter) : Prop :=
  state.Received ∧ reading state.rc state.rcComm.thrustID < config.calibration.THRUST_BASE

instance (config : Config) (state : Copter) : Decidable (state.BelowBase config) :=
  inferInstanceAs (Decidable ((_ ∧ _) ∧ _))

/-- A poll of the thrust finds the stick of the receiver below its base. -/
def Copter.PollsBelowBase (config : Config) (state : Copter) : Prop :=
  state.comm.getThrust = some .rcComm_GetThrust ∧ state.BelowBase config

instance (config : Config) (state : Copter) : Decidable (state.PollsBelowBase config) :=
  inferInstanceAs (Decidable (_ ∧ _))

/-- A step after which the receiver or Linux may give a thrust: one that makes Linux the
    source, or polls the receiver while its stick is below the base. Besides the passes
    the emergency task polls it, once. -/
def Arms (config : Config) (state : Copter) : Event → Prop
  | .linuxComm_selectThrust => state.comm.thrustLocked = false
  | .lcTask _ msg => state.comm.thrustLocked = false ∧ msg.type = LC_TYPE_SELECT ∧
    ((msg.data 0).toNat = 1 ∨ (msg.data 0).toNat = 2)
  | .stabilizerTask sensors => sensors.imu6IsCalibrated = true ∧ state.PollsBelowBase config
  | .emergencyTask => state.emer.task = .commanderGetThrust ∧ state.PollsBelowBase config
  | _ => False

instance (config : Config) (state : Copter) : (event : Event) → Decidable (Arms config state event)
  | .linuxComm_selectThrust => inferInstanceAs (Decidable (_ = _))
  | .lcTask _ _ | .stabilizerTask _ | .emergencyTask => inferInstanceAs (Decidable (_ ∧ _))
  | .emergency_landing | .emergency_landingISR | .rcComm_selectThrust | .rcComm_selectRTY | .linuxComm_selectRTY
  | .interrupt _ | .xTaskIncrementTick => inferInstanceAs (Decidable False)

/-- The emergency task takes over with the thrust it has polled. -/
def Lands (state : Copter) : Event → Prop
  | .emergencyTask => state.emer.task = .commanderLockThrust ∧ state.emer.thrust ≠ 0
  | _ => False

instance (state : Copter) : (event : Event) → Decidable (Lands state event)
  | .emergencyTask => inferInstanceAs (Decidable (_ ∧ _))
  | .emergency_landing | .emergency_landingISR | .rcComm_selectThrust | .rcComm_selectRTY | .linuxComm_selectThrust
  | .linuxComm_selectRTY | .lcTask _ _ | .interrupt _ | .stabilizerTask _ | .xTaskIncrementTick =>
    inferInstanceAs (Decidable False)

/-- Nothing gives a thrust: the latch of the receiver is set, Linux is not selected, and
    a landing in charge has none. -/
structure Grounded (state : Copter) : Prop where
  latch : state.rcComm.thrustLocked = true
  source : state.comm.getThrust ≠ some .linuxComm_GetThrust
  landing : state.comm.getThrust = some .batThrustContoll → state.emer.thrust = 0

/-- All motors are driven with the shortest pulse. -/
def Idle (esc : EscConfig) (pulses : Option (Motor → UInt32)) : Prop :=
  ∃ pulse, pulses = some pulse ∧ ∀ motor, (pulse motor).toNat = esc.CONFIG_MOTOR_ESC_MIN

theorem grounded_copter0 (config : Config) : Grounded (copter0 config) := ⟨rfl, nofun, nofun⟩

/-- The latch gives nothing while it is set, and only a stick below its base resets it. -/
theorem rcComm_GetThrust_locked {rc : Rc} {rcComm : RcComm} (hlocked : rcComm.thrustLocked = true)
    {calibration : Calibration}
    (hstick : ¬ ((rc_get rc rcComm.thrustID ≠ 0 ∧ rc_get rc rcComm.yawID ≠ 0) ∧
      reading rc rcComm.thrustID < calibration.THRUST_BASE)) (undefined : ℚ → UInt16) :
    (rcComm_GetThrust undefined calibration rc rcComm).1 = 0 ∧
      (rcComm_GetThrust undefined calibration rc rcComm).2.thrustLocked = true := by
  unfold rcComm_GetThrust
  by_cases hlost : reading rc rcComm.thrustID = 0 ∨ reading rc rcComm.yawID = 0
  · rw [thrustOfReadings_of_lost hlost]
    exact ⟨rfl, rfl⟩
  · have hbase : ¬ reading rc rcComm.thrustID < calibration.THRUST_BASE := by
      intro hbase
      rw [reading_eq_zero_iff, reading_eq_zero_iff, not_or] at hlost
      exact hstick ⟨hlost, hbase⟩
    obtain ⟨hkept, hzero⟩ := thrustOfReadings_of_base_le hlost hbase undefined rcComm
    exact ⟨hzero hlocked, by rw [hkept]; exact hlocked⟩

theorem Grounded.poll {state : Copter} (hgrounded : Grounded state) {config : Config}
    (hstick : ¬ state.PollsBelowBase config) :
    state.thrust config = 0 ∧ (state.latch config).thrustLocked = true := by
  unfold Copter.thrust Copter.latch commanderGetThrust
  cases hsource : state.comm.getThrust with
  | none => exact ⟨rfl, hgrounded.latch⟩
  | some callback =>
    cases callback with
    | rcComm_GetThrust => exact rcComm_GetThrust_locked hgrounded.latch (fun hbelow => hstick ⟨hsource, hbelow⟩) _
    | linuxComm_GetThrust => exact absurd hsource hgrounded.source
    | batThrustContoll => exact ⟨hgrounded.landing hsource, hgrounded.latch⟩

/-- A step that at most hands the thrust to the receiver. -/
theorem Grounded.of_source {state next : Copter} (hgrounded : Grounded state) (hreceiver : next.rcComm = state.rcComm)
    (hsource : next.comm.getThrust = state.comm.getThrust ∨ next.comm.getThrust = some .rcComm_GetThrust)
    (hthrust : next.emer.thrust = state.emer.thrust) : Grounded next := by
  obtain ⟨hlatch, hlinux, hlanding⟩ := hgrounded
  refine ⟨hreceiver ▸ hlatch, ?_, ?_⟩
  · obtain hkept | hselected := hsource
    · rwa [hkept]
    · rw [hselected]
      nofun
  · intro hbattery
    obtain hkept | hselected := hsource
    · exact hthrust.trans (hlanding (hkept ▸ hbattery))
    · cases hselected.symm.trans hbattery

/-- Without thrust a calibrated pass leaves the motors idle, whatever the sensors show. -/
theorem idle_of_thrust {state : Copter} {config : Config} (hthrust : state.thrust config = 0) {sensors : Sensors}
    (hcalibrated : sensors.imu6IsCalibrated = true) : Idle config.esc (stabilizerTask config sensors state).1 := by
  rw [stabilizerTask_of_calibrated hcalibrated, hthrust]
  dsimp only
  rw [actuate_zero]
  exact ⟨_, rfl, fun motor => motorsSetRatio_zero config.esc⟩

theorem vTaskResume_thrust (emer : Emergency) : (vTaskResume emer).thrust = emer.thrust := by
  unfold vTaskResume
  split <;> rfl

theorem xTaskIncrementTick_thrust (emer : Emergency) : (xTaskIncrementTick emer).thrust = emer.thrust := by
  unfold xTaskIncrementTick
  split <;> rfl

/-- A locked source is kept. -/
theorem commanderSetThrust_source (callback : ThrustCallback) (comm : Commander ThrustCallback RPYCallback) :
    (commanderSetThrust (some callback) comm).getThrust = comm.getThrust ∨
      comm.thrustLocked = false ∧ (commanderSetThrust (some callback) comm).getThrust = some callback := by
  unfold commanderSetThrust
  cases comm.thrustLocked with
  | false => exact .inr ⟨rfl, rfl⟩
  | true => exact .inl rfl

/-- The codes 0 and 3 select the receiver, 1 and 2 Linux, and every other one nothing. -/
theorem lc_select_source (stack : Data) (msg : LcMsg) (comm : Commander ThrustCallback RPYCallback) :
    (lc_select stack msg comm).1.getThrust = comm.getThrust ∨
      (lc_select stack msg comm).1.getThrust = some .rcComm_GetThrust ∨
      comm.thrustLocked = false ∧ ((msg.data 0).toNat = 1 ∨ (msg.data 0).toNat = 2) := by
  have hreceiver := commanderSetThrust_source .rcComm_GetThrust comm
  have hlinux := commanderSetThrust_source .linuxComm_GetThrust comm
  unfold lc_select
  split
  case h_1 => exact hreceiver.imp_right fun hselected => .inl hselected.2
  case h_2 hone => exact hlinux.imp_right fun hselected => .inr ⟨hselected.1, .inl hone⟩
  case h_3 htwo => exact hlinux.imp_right fun hselected => .inr ⟨hselected.1, .inr htwo⟩
  case h_4 => exact hreceiver.imp_right fun hselected => .inl hselected.2
  case h_5 => exact .inl rfl

theorem Grounded.lcTask {state : Copter} (hgrounded : Grounded state) {stack : Data} {msg : LcMsg} {config : Config}
    (harms : ¬ Arms config state (.lcTask stack msg)) : Grounded (lcTask lc stack msg state).1 := by
  rcases lcTask_cases stack msg state with heq | ⟨_, _, heq⟩ | ⟨htype, heq⟩ | ⟨_, heq⟩ | ⟨_, heq⟩
  case inr.inr.inl =>
    rw [heq]
    refine hgrounded.of_source rfl ?_ rfl
    obtain hkept | hselected | ⟨hopen, hcode⟩ := lc_select_source stack msg state.comm
    · exact .inl hkept
    · exact .inr hselected
    · exact absurd ⟨hopen, htype, hcode⟩ harms
  case inr.inr.inr.inr =>
    rw [heq]
    exact hgrounded.of_source rfl (.inl rfl) (vTaskResume_thrust state.emer)
  all_goals
    rw [heq]
    exact hgrounded.of_source rfl (.inl rfl) rfl

/-- The emergency task stores the thrust it polls, and scales no zero into anything
    else. -/
theorem Grounded.emergencyTask {state : Copter} (hgrounded : Grounded state) {config : Config}
    (harms : ¬ Arms config state .emergencyTask) (hlands : ¬ Lands state .emergencyTask) :
    Grounded (emergencyTask config state) := by
  have hkept := hgrounded
  obtain ⟨hlatch, hsource, hlanding⟩ := hgrounded
  have hpoll := commanderGetThrust_eq config state state.stabilizer state.controller
  unfold copter.emergencyTask
  dsimp only
  split
  case h_3 => split <;> exact ⟨hlatch, hsource, hlanding⟩
  case h_4 htask =>
    obtain ⟨hthrust, hlocked⟩ := hkept.poll (fun hbelow => harms ⟨htask, hbelow⟩)
    rw [hpoll]
    exact ⟨hlocked, hsource, fun _ => hthrust⟩
  case h_5 =>
    refine ⟨hlatch, hsource, ?_⟩
    intro hbattery
    dsimp only
    rw [hlanding hbattery, if_neg (by decide)]
  case h_6 htask => exact ⟨hlatch, nofun, fun _ => not_not.mp fun hthrust => hlands ⟨htask, hthrust⟩⟩
  case h_10 => exact ⟨hlatch, hsource, fun _ => rfl⟩
  all_goals exact ⟨hlatch, hsource, hlanding⟩

/-- Every step that neither arms the copter nor takes over with a thrust leaves it
    grounded. -/
theorem Grounded.step {state : Copter} (hgrounded : Grounded state) {config : Config} {event : Event}
    (harms : ¬ Arms config state event) (hlands : ¬ Lands state event) : Grounded (step config state event) := by
  have hkept := hgrounded
  obtain ⟨hlatch, hsource, hlanding⟩ := hgrounded
  cases event with
  | emergency_landing => exact hkept.of_source rfl (.inl rfl) (vTaskResume_thrust state.emer)
  | emergency_landingISR => exact hkept.of_source rfl (.inl rfl) (vTaskResume_thrust state.emer)
  | lcTask stack msg => exact hkept.lcTask harms
  | rcComm_selectThrust =>
    exact hkept.of_source rfl ((commanderSetThrust_source .rcComm_GetThrust state.comm).imp_right And.right) rfl
  | rcComm_selectRTY => exact hkept.of_source rfl (.inl rfl) rfl
  | linuxComm_selectThrust =>
    have hlocked := (commanderSetThrust_source .linuxComm_GetThrust state.comm).resolve_right fun hopen => harms hopen.1
    exact hkept.of_source rfl (.inl hlocked) rfl
  | linuxComm_selectRTY => exact hkept.of_source rfl (.inl rfl) rfl
  | interrupt event => exact hkept.of_source rfl (.inl rfl) rfl
  | stabilizerTask sensors =>
    have hstate : copter.step config state (.stabilizerTask sensors) =
        (copter.stabilizerTask config sensors state).2 := rfl
    by_cases hcalibrated : sensors.imu6IsCalibrated = true
    · have hlocked := (hkept.poll fun hbelow => harms ⟨hcalibrated, hbelow⟩).2
      rw [hstate, stabilizerTask_of_calibrated hcalibrated]
      exact ⟨hlocked, hsource, hlanding⟩
    · rw [hstate, stabilizerTask_of_not_calibrated hcalibrated]
      exact hkept
  | emergencyTask => exact hkept.emergencyTask harms hlands
  | xTaskIncrementTick => exact hkept.of_source rfl (.inl rfl) (xTaskIncrementTick_thrust state.emer)

/-- While the copter is grounded no landing polls a thrust. -/
theorem Grounded.thrust_step {state : Copter} (hgrounded : Grounded state) (hthrust : state.emer.thrust = 0)
    {config : Config} {event : Event} (harms : ¬ Arms config state event) :
    (copter.step config state event).emer.thrust = 0 := by
  cases event with
  | emergency_landing | emergency_landingISR => exact (vTaskResume_thrust state.emer).trans hthrust
  | xTaskIncrementTick => exact (xTaskIncrementTick_thrust state.emer).trans hthrust
  | lcTask stack msg =>
    simp only [copter.step]
    rcases lcTask_cases stack msg state with heq | ⟨_, _, heq⟩ | ⟨_, heq⟩ | ⟨_, heq⟩ | ⟨_, heq⟩
    case inr.inr.inr.inr =>
      rw [heq]
      exact (vTaskResume_thrust state.emer).trans hthrust
    all_goals
      rw [heq]
      exact hthrust
  | stabilizerTask sensors =>
    obtain ⟨_, _, _, hemer⟩ := stabilizerTask_frame config sensors state
    simp only [copter.step, hemer]
    exact hthrust
  | emergencyTask =>
    have hpoll := commanderGetThrust_eq config state state.stabilizer state.controller
    unfold copter.step copter.emergencyTask
    dsimp only
    split
    case h_3 => split <;> exact hthrust
    case h_4 htask =>
      rw [hpoll]
      exact (hgrounded.poll fun hbelow => harms ⟨htask, hbelow⟩).1
    case h_5 =>
      dsimp only
      rw [hthrust, if_neg (by decide)]
    case h_10 => rfl
    all_goals exact hthrust
  | rcComm_selectThrust | rcComm_selectRTY | linuxComm_selectThrust | linuxComm_selectRTY | interrupt => exact hthrust

/-- No step of the run arms the copter. -/
def NeverArms (config : Config) (state : Copter) (events : List Event) : Prop :=
  ∀ entry ∈ trace (step config) state events, ¬ Arms config entry.1 entry.2

instance (config : Config) (state : Copter) (events : List Event) : Decidable (NeverArms config state events) :=
  inferInstanceAs (Decidable (∀ entry ∈ trace (step config) state events, ¬ Arms config entry.1 entry.2))

/-- In no step of the run a landing takes over with a thrust. -/
def NeverLands (config : Config) (state : Copter) (events : List Event) : Prop :=
  ∀ entry ∈ trace (step config) state events, ¬ Lands entry.1 entry.2

instance (config : Config) (state : Copter) (events : List Event) : Decidable (NeverLands config state events) :=
  inferInstanceAs (Decidable (∀ entry ∈ trace (step config) state events, ¬ Lands entry.1 entry.2))

/-- The step neither arms the copter nor takes over with a thrust. -/
def KeepsGrounded (config : Config) (entry : Copter × Event) : Prop :=
  ¬ Arms config entry.1 entry.2 ∧ ¬ Lands entry.1 entry.2

theorem Grounded.run {state : Copter} (hgrounded : Grounded state) {config : Config} {events : List Event}
    (harms : NeverArms config state events) (hlands : NeverLands config state events) :
    Grounded (run (copter.step config) state events) := by
  have hstep : ∀ state event, KeepsGrounded config (state, event) → Grounded state →
      Grounded (copter.step config state event) := fun _ _ hneither hkept => hkept.step hneither.1 hneither.2
  exact run_invariant_of_trace hstep hgrounded fun entry hentry => ⟨harms entry hentry, hlands entry hentry⟩

/-- A grounded copter without a polled thrust never has one to land with. -/
theorem Grounded.neverLands {state : Copter} (hgrounded : Grounded state) (hthrust : state.emer.thrust = 0)
    {config : Config} {events : List Event} (harms : NeverArms config state events) :
    NeverLands config state events := by
  induction events generalizing state with
  | nil => exact List.forall_mem_nil _
  | cons event events ih =>
    unfold NeverArms at harms
    rw [trace_cons, List.forall_mem_cons] at harms
    obtain ⟨hfirst, hlater⟩ := harms
    have hlands : ¬ Lands state event := by
      cases event with
      | emergencyTask => exact fun hlock => hlock.2 hthrust
      | _ => exact id
    unfold NeverLands
    rw [trace_cons, List.forall_mem_cons]
    exact ⟨hlands, ih (hgrounded.step hfirst hlands) (hgrounded.thrust_step hthrust hfirst) hlater⟩

/-- Every calibrated pass of the run lets the motors idle. -/
def StaysIdle (config : Config) (state : Copter) (events : List Event) : Prop :=
  ∀ before sensors after, events = before ++ .stabilizerTask sensors :: after → sensors.imu6IsCalibrated = true →
    Idle config.esc (stabilizerTask config sensors (run (step config) state before)).1

theorem Grounded.staysIdle {state : Copter} (hgrounded : Grounded state) {config : Config} {events : List Event}
    (harms : NeverArms config state events) (hlands : NeverLands config state events) :
    StaysIdle config state events := by
  rintro before sensors after rfl hcalibrated
  unfold NeverArms at harms
  unfold NeverLands at hlands
  rw [trace_append, List.forall_mem_append, trace_cons, List.forall_mem_cons] at harms
  rw [trace_append, List.forall_mem_append] at hlands
  obtain ⟨hbefore, hpass, _⟩ := harms
  exact idle_of_thrust ((hgrounded.run hbefore hlands.1).poll fun hbelow => hpass ⟨hcalibrated, hbelow⟩).1 hcalibrated

/-- From power-up the motors idle, whatever arrives, until a step arms the copter. -/
theorem staysIdle_until_armed {config : Config} {events : List Event}
    (hevents : NeverArms config (copter0 config) events) : StaysIdle config (copter0 config) events :=
  (grounded_copter0 config).staysIdle hevents ((grounded_copter0 config).neverLands rfl hevents)

/-- Two edges with the given distance on the thrust and the yaw channel. -/
def pulses (width : UInt64) : List Event :=
  [.interrupt (.edge rcComm.thrustID 0), .interrupt (.edge rcComm.thrustID width),
    .interrupt (.edge rcComm.yawID 0), .interrupt (.edge rcComm.yawID 1500)]

/-- The receiver is selected and shows a thrust stick that has not been down. -/
theorem staysIdle_until_armed_high :
    StaysIdle (tlm_vf610_defconfig (fun _ => 0) fun _ => 0) (copter0 (tlm_vf610_defconfig (fun _ => 0) fun _ => 0))
      ([.rcComm_selectThrust, .rcComm_selectRTY] ++ pulses 1800 ++ [levelPass]) :=
  have hevents : NeverArms (tlm_vf610_defconfig (fun _ => 0) fun _ => 0)
      (copter0 (tlm_vf610_defconfig (fun _ => 0) fun _ => 0))
      ([.rcComm_selectThrust, .rcComm_selectRTY] ++ pulses 1800 ++ [levelPass]) := by decide +kernel
  staysIdle_until_armed hevents

end copter
