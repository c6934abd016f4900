import CopterOS.Emergency
import CopterOS.LinuxCommander
import CopterOS.PidCtrl
import CopterOS.RcCommander
import CopterOS.Stabilizer

open number copter.commander copter.controller copter.emergency copter.linux_client copter.linux_commander
open copter.motors copter.pidctrl copter.rc_commander copter.remote_control copter.stabilizer

namespace copter

/-- What a build fixes, together with what its processor makes of conversions
    that C leaves undefined. -/
structure Config where
  calibration : Calibration
  esc : EscConfig
  pidValues : PidValuesConfig
  CONFIG_EMERGENCY_THRUST : ℕ
  emergency_thrust_le : CONFIG_EMERGENCY_THRUST ≤ 100
  portTICK_PERIOD_MS : ℕ
  undefinedUInt16 : Flt → UInt16
  undefinedInt16 : Flt → Int16

/-- The values of the board the copter flies with. -/
def tlm_vf610_defconfig (undefinedUInt16 : Flt → UInt16) (undefinedInt16 : Flt → Int16) : Config where
  calibration := uliRc
  esc := { CONFIG_MOTOR_ESC_MIN := 1050, CONFIG_MOTOR_ESC_MAX := 1860, min_le_max := by decide, max_le := by decide }
  pidValues := .CONFIG_PIDVALUES_TCM
  CONFIG_EMERGENCY_THRUST := 45
  emergency_thrust_le := by decide
  portTICK_PERIOD_MS := 1
  undefinedUInt16 := undefinedUInt16
  undefinedInt16 := undefinedInt16

/-- The variables the tasks and the interrupts share. -/
structure Copter where
  comm : Commander ThrustCallback RPYCallback
  ctl : AutocoptControl
  controller : Controller Flt
  rc : Rc
  rcComm : RcComm
  emer : Emergency
  stabilizer : Stabilizer

/-- After the initialization of every part and before the first selection. -/
def copter0 (config : Config) : Copter where
  comm := commanderInit comm
  ctl := ctl0
  controller := controllerInit config.pidValues controller0
  rc := rc0
  rcComm := rcComm
  emer := emer0
  stabilizer := stabilizer0

/-- The thrust of a landing in the given build. -/
def Config.landingThrust (config : Config) : UInt16 :=
  copter.emergency.landingThrust (fun q => config.undefinedUInt16 (.finite q)) config.CONFIG_EMERGENCY_THRUST

/-- A call of an installed thrust source. -/
def callThrust (config : Config) (callback : ThrustCallback) (state : Copter) : UInt16 × Copter :=
  match callback with
  | .rcComm_GetThrust =>
    let (thrust, rcComm) := rcComm_GetThrust (fun q => config.undefinedUInt16 (.finite q)) config.calibration
      state.rc state.rcComm
    (thrust, { state with rcComm := rcComm })
  | .linuxComm_GetThrust => (linuxComm_GetThrust config.undefinedUInt16 state.ctl, state)
  | .batThrustContoll => (batThrustContoll state.emer, state)

/-- A call of an installed attitude source. -/
def callRPY (config : Config) (callback : RPYCallback) (state : Copter) : RPY Flt :=
  match callback with
  | .rcComm_GetRPY =>
    let rpy := rcComm_GetRPY config.calibration state.rc state.rcComm
    ⟨(rpy.roll : Flt), (rpy.pitch : Flt), (rpy.yaw : Flt)⟩
  | .linuxComm_GetRPY => linuxComm_GetRPY state.ctl

/-- What `commanderGetThrust` returns in the given state. -/
def Copter.thrust (config : Config) (state : Copter) : UInt16 :=
  (commanderGetThrust (callThrust config) state.comm state).1

/-- What a call of `commanderGetThrust` leaves of the receiver's latch. -/
def Copter.latch (config : Config) (state : Copter) : RcComm :=
  (commanderGetThrust (callThrust config) state.comm state).2.rcComm

/-- One pass of the stabilizer loop and the pulses it writes. -/
def stabilizerTask (config : Config) (sensors : Sensors) (state : Copter) :
    Option (Motor → UInt32) × Copter :=
  if sensors.imu6IsCalibrated then
    let eulerDesired := commanderGetRPY (callRPY config) state.comm state
    let (stabilizer, controller) := control config.undefinedInt16 sensors eulerDesired
      (commanderGetRPYType state.comm) state.stabilizer state.controller
    let state := { state with stabilizer := stabilizer, controller := controller }
    let (actuatorThrust, state) := commanderGetThrust (callThrust config) state.comm state
    let (power, controller) := actuate actuatorThrust state.controller
    (power.map fun power motor => motorsSetRatio config.esc (power motor),
      { state with controller := controller })
  else (none, state)

/-- One statement of the emergency task. While the task is suspended or delayed
    it is not scheduled; the return from the delay prints a message before the
    thrust is cleared. -/
def emergencyTask (config : Config) (state : Copter) : Copter :=
  let emer := state.emer
  match emer.task with
  | .vTaskSuspend => { state with emer := { emer with task := .suspended } }
  | .suspended => state
  | .testShutdown =>
    if !emer.shutdown then { state with emer := { emer with shutdown := true, task := .commanderGetThrust } }
    else { state with emer := { emer with task := .vTaskSuspend } }
  | .commanderGetThrust =>
    let (thrust, state) := commanderGetThrust (callThrust config) state.comm state
    { state with emer := { state.emer with thrust := thrust, task := .scaleThrust } }
  | .scaleThrust =>
    let thrust := if emer.thrust > 0 then config.landingThrust else emer.thrust
    { state with emer := { emer with thrust := thrust, task := .commanderLockThrust } }
  | .commanderLockThrust =>
    { state with
      comm := commanderLockThrust (some .batThrustContoll) true state.comm
      emer := { emer with task := .vTaskDelay } }
  | .vTaskDelay => { state with emer := { emer with task := .delayed (3000 / config.portTICK_PERIOD_MS) } }
  | .delayed 0 => { state with emer := { emer with task := .clearThrust } }
  | .delayed (_ + 1) => state
  | .clearThrust => { state with emer := { emer with thrust := 0, task := .vTaskSuspend } }

/-- The table of the message handlers with all of them registered. -/
def lc : Lc Copter :=
  pidCtrlInit
    (Callback.over (fun state => (state.controller, state.comm))
      (fun state part => { state with controller := part.1, comm := part.2 }) pidCrtlCallback)
    (linuxComm_init
      (Callback.over Copter.ctl (fun state ctl => { state with ctl := ctl }) lc_control)
      (Callback.over Copter.comm (fun state comm => { state with comm := comm }) lc_select)
      (lc_init fun state => { state with emer := emergency_landing state.emer }))

/-- One step of the system: a landing request from a task or an interrupt, a
    received message or one of the two calls a selection consists of, an interrupt
    of the receiver, a pass of the stabilizer loop, a statement of the emergency
    task, or a timer tick. -/
inductive Event where
  | emergency_landing
  | emergency_landingISR
  | lcTask (stack : Data) (msg : LcMsg)
  | rcComm_selectThrust
  | rcComm_selectRTY
  | linuxComm_selectThrust
  | linuxComm_selectRTY
  | interrupt (event : Interrupt)
  | stabilizerTask (sensors : Sensors)
  | emergencyTask
  | xTaskIncrementTick

def step (config : Config) (state : Copter) : Event → Copter
  | .emergency_landing => { state with emer := emergency_landing state.emer }
  | .emergency_landingISR => { state with emer := emergency_landingISR state.emer }
  | .lcTask stack msg => (lcTask lc stack msg state).1
  | .rcComm_selectThrust => { state with comm := rcComm_selectThrust state.comm }
  | .rcComm_selectRTY => { state with comm := rcComm_selectRTY state.comm }
  | .linuxComm_selectThrust => { state with comm := linuxComm_selectThrust state.comm }
  | .linuxComm_selectRTY => { state with comm := linuxComm_selectRTY state.comm }
  | .interrupt event => { state with rc := interrupt state.rc event }
  | .stabilizerTask sensors => (stabilizerTask config sensors state).2
  | .emergencyTask => emergencyTask config state
  | .xTaskIncrementTick => { state with emer := xTaskIncrementTick state.emer }

/-- A thrust source reads neither the stabilizer nor the controllers, and changes
    only the latch. -/
theorem commanderGetThrust_eq (config : Config) (state : Copter) (stabilizer : Stabilizer)
    (controller : Controller Flt) :
    commanderGetThrust (callThrust config) state.comm
        { state with stabilizer := stabilizer, controller := controller } =
      (state.thrust config,
        { state with stabilizer := stabilizer, controller := controller, rcComm := state.latch config }) := by
  unfold Copter.thrust Copter.latch commanderGetThrust
  cases state.comm.getThrust with
  | none => rfl
  | some callback => cases callback <;> rfl

/-- A calibrated pass corrects the controllers, reads the thrust and drives the
    motors; nothing else of the state changes but the latch. -/
theorem stabilizerTask_of_calibrated {sensors : Sensors} (hcalibrated : sensors.imu6IsCalibrated = true)
    (config : Config) (state : Copter) :
    stabilizerTask config sensors state =
      let corrected := control config.undefinedInt16 sensors (commanderGetRPY (callRPY config) state.comm state)
        (commanderGetRPYType state.comm) state.stabilizer state.controller
      let actuated := actuate (state.thrust config) corrected.2
      (actuated.1.map fun power motor => motorsSetRatio config.esc (power motor),
        { state with
          stabilizer := corrected.1
          controller := actuated.2
          rcComm := state.latch config }) := by
  unfold stabilizerTask
  rw [if_pos hcalibrated]
  dsimp only
  rw [commanderGetThrust_eq]

theorem stabilizerTask_of_not_calibrated {sensors : Sensors} (hcalibrated : ¬ sensors.imu6IsCalibrated = true)
    (config : Config) (state : Copter) : stabilizerTask config sensors state = (none, state) := by
  unfold stabilizerTask
  rw [if_neg hcalibrated]

/-- The pass leaves the commander, the set-point, the channels and the emergency
    alone. -/
theorem stabilizerTask_frame (config : Config) (sensors : Sensors) (state : Copter) :
    (stabilizerTask config sensors state).2.comm = state.comm ∧
      (stabilizerTask config sensors state).2.ctl = state.ctl ∧
      (stabilizerTask config sensors state).2.rc = state.rc ∧
      (stabilizerTask config sensors state).2.emer = state.emer := by
  by_cases hcalibrated : sensors.imu6IsCalibrated = true
  · rw [stabilizerTask_of_calibrated hcalibrated]
    exact ⟨rfl, rfl, rfl, rfl⟩
  · rw [stabilizerTask_of_not_calibrated hcalibrated]
    exact ⟨rfl, rfl, rfl, rfl⟩

/-- The emergency task leaves the set-point, the controllers, the channels and the
    stabilizer alone. -/
theorem emergencyTask_frame (config : Config) (state : Copter) :
    (emergencyTask config state).ctl = state.ctl ∧
      (emergencyTask config state).controller = state.controller ∧
      (emergencyTask config state).rc = state.rc ∧
      (emergencyTask config state).stabilizer = state.stabilizer := by
  have hthrust := commanderGetThrust_eq config state state.stabilizer state.controller
  unfold emergencyTask
  dsimp only
  split
  case h_3 => split <;> exact ⟨rfl, rfl, rfl, rfl⟩
  case h_4 =>
    rw [hthrust]
    exact ⟨rfl, rfl, rfl, rfl⟩
  all_goals exact ⟨rfl, rfl, rfl, rfl⟩

/-- An accepted set-point is stored. -/
theorem lcTask_control {msg : LcMsg} (htype : msg.type = LC_TYPE_CONTROL)
    (haccepted : ¬ (AutocoptControl.ofData msg.data).Refused) (stack : Data) (state : Copter) :
    (lcTask lc stack msg state).1 = { state with ctl := AutocoptControl.ofData msg.data } := by
  rw [lcTask_of_callback 4 (by rw [htype]; rfl) rfl]
  simp only [Callback.over, lc_control, if_neg haccepted]

/-- What a received message does to the shared variables. -/
theorem lcTask_eq (stack : Data) (msg : LcMsg) (state : Copter) :
    (lcTask lc stack msg state).1 =
      if msg.type = LC_TYPE_CONTROL then { state with ctl := (lc_control stack msg state.ctl).1 }
      else if msg.type = LC_TYPE_SELECT then { state with comm := (lc_select stack msg state.comm).1 }
      else if msg.type = LC_TYPE_PID then
        { state with
          controller := setPidValues (PidValues.ofData msg.data) state.controller
          comm := setModes (PidValues.ofData msg.data) state.comm }
      else if msg.type = LC_TYPE_EMERGENCY then { state with emer := emergency_landing state.emer }
      else state := by
  by_cases hcontrol : msg.type = LC_TYPE_CONTROL
  · rw [if_pos hcontrol, lcTask_of_callback 4 (by rw [hcontrol]; rfl) rfl]
    rfl
  rw [if_neg hcontrol]
  by_cases hselect : msg.type = LC_TYPE_SELECT
  · rw [if_pos hselect, lcTask_of_callback 3 (by rw [hselect]; rfl) rfl]
    rfl
  rw [if_neg hselect]
  by_cases hpid : msg.type = LC_TYPE_PID
  · rw [if_pos hpid, lcTask_of_callback 2 (by rw [hpid]; rfl) rfl]
    rfl
  rw [if_neg hpid]
  by_cases hemergency : msg.type = LC_TYPE_EMERGENCY
  · rw [if_pos hemergency, lcTask_of_callback 5 (by rw [hemergency]; rfl) rfl]
    rfl
  rw [if_neg hemergency]
  by_cases hact : msg.type = LC_TYPE_ACT
  · rw [lcTask_of_callback 0 (by rw [hact]; rfl) rfl]
    rfl
  by_cases hfailt : msg.type = LC_TYPE_FAILT
  · rw [lcTask_of_callback 1 (by rw [hfailt]; rfl) rfl]
    rfl
  have hunknown : ¬ msg.type.toNat < LC_COUNT := by
    have hne : ∀ type : UInt8, msg.type ≠ type → msg.type.toNat ≠ type.toNat :=
      fun type htype hequal => htype (UInt8.toNat_inj.mp hequal)
    have h0 : msg.type.toNat ≠ 0 := hne _ hact
    have h1 : msg.type.toNat ≠ 1 := hne _ hfailt
    have h2 : msg.type.toNat ≠ 2 := hne _ hpid
    have h3 : msg.type.toNat ≠ 3 := hne _ hselect
    have h4 : msg.type.toNat ≠ 4 := hne _ hcontrol
    have h5 : msg.type.toNat ≠ 5 := hne _ hemergency
    have hcount : LC_COUNT = 6 := rfl
    omega
  rw [lcTask_of_unknown hunknown]

/-- All that a received message can do: store an accepted set-point, set the
    sources of the commander, set gains and modes, request a landing, or nothing. -/
theorem lcTask_cases (stack : Data) (msg : LcMsg) (state : Copter) :
    (lcTask lc stack msg state).1 = state ∨
    (msg.type = LC_TYPE_CONTROL ∧ ¬ (AutocoptControl.ofData msg.data).Refused ∧
      (lcTask lc stack msg state).1 = { state with ctl := AutocoptControl.ofData msg.data }) ∨
    (msg.type = LC_TYPE_SELECT ∧
      (lcTask lc stack msg state).1 = { state with comm := (lc_select stack msg state.comm).1 }) ∨
    (msg.type = LC_TYPE_PID ∧
      (lcTask lc stack msg state).1 =
        { state with
          controller := setPidValues (PidValues.ofData msg.data) state.controller
          comm := setModes (PidValues.ofData msg.data) state.comm }) ∨
    (msg.type = LC_TYPE_EMERGENCY ∧
      (lcTask lc stack msg state).1 = { state with emer := emergency_landing state.emer }) := by
  rw [lcTask_eq]
  split
  case isTrue htype =>
    by_cases hrefused : (AutocoptControl.ofData msg.data).Refused
    · exact .inl (by simp only [lc_control, if_pos hrefused])
    · exact .inr (.inl ⟨htype, hrefused, by simp only [lc_control, if_neg hrefused]⟩)
  case isFalse =>
    split
    case isTrue htype => exact .inr (.inr (.inl ⟨htype, rfl⟩))
    case isFalse =>
      split
      case isTrue htype => exact .inr (.inr (.inr (.inl ⟨htype, rfl⟩)))
      case isFalse =>
        split
        case isTrue htype => exact .inr (.inr (.inr (.inr ⟨htype, rfl⟩)))
        case isFalse => exact .inl rfl

end copter
