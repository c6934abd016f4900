import CopterOS.Copter
import CopterOS.Lib.Unwinding

open transition unwinding number copter.commander copter.controller copter.emergency copter.linux_client
open copter.linux_commander copter.pidctrl copter.rc_commander copter.remote_control copter.stabilizer

namespace copter

/-- What one pass of the stabilizer loop gets from the commander, and from which
    sources. -/
structure Poll where
  getThrust : Option ThrustCallback
  thrust : UInt16
  getRPY : Option RPYCallback
  rpy : RPY Flt

/-- A calibrated pass asks the commander for both quantities. -/
def poll (config : Config) (state : Copter) : Event → Option Poll
  | .stabilizerTask sensors =>
    if sensors.imu6IsCalibrated then
      some {
        getThrust := state.comm.getThrust
        thrust := state.thrust config
        getRPY := state.comm.getRPY
        rpy := commanderGetRPY (callRPY config) state.comm state }
    else none
  | _ => none

/-- The polls of a run, in order. -/
def polls (config : Config) (start : Copter) (events : List Event) : List Poll :=
  outputs (step config) (poll config) start events

/-- Two polls have the same sources, and give the same where a quantity comes
    from the given ones. -/
def Poll.Agree (thrust : ThrustCallback) (rpy : RPYCallback) (left right : Poll) : Prop :=
  left.getThrust = right.getThrust ∧ left.getRPY = right.getRPY ∧
    (left.getThrust = some thrust → left.thrust = right.thrust) ∧
    (left.getRPY = some rpy → left.rpy = right.rpy)

/-- A received message with a set-point. -/
def isControl : Event → Bool
  | .lcTask _ msg => msg.type == LC_TYPE_CONTROL
  | _ => false

/-- An interrupt of the receiver. -/
def isInterrupt : Event → Bool
  | .interrupt _ => true
  | _ => false

/-- What decides which sources are selected: the commander, and how far the
    emergency task has come. -/
structure SameSources (left right : Copter) : Prop where
  comm : left.comm = right.comm
  task : left.emer.task = right.emer.task
  shutdown : left.emer.shutdown = right.emer.shutdown

/-- The states differ in nothing a receiver poll depends on. -/
structure SameReceiver (left right : Copter) : Prop extends SameSources left right where
  rc : left.rc = right.rc
  rcComm : left.rcComm = right.rcComm

/-- The states differ in nothing a poll of the Linux set-point depends on. -/
structure SameSetpoint (left right : Copter) : Prop extends SameSources left right where
  ctl : left.ctl = right.ctl

theorem sameSources_refl (state : Copter) : SameSources state state := ⟨rfl, rfl, rfl⟩

/-- A request resumes the task in both states or in neither. -/
theorem vTaskResume_same {left right : Emergency} (htask : left.task = right.task)
    (hshutdown : left.shutdown = right.shutdown) :
    (vTaskResume left).task = (vTaskResume right).task ∧
      (vTaskResume left).shutdown = (vTaskResume right).shutdown := by
  unfold vTaskResume
  by_cases hsuspended : left.task = .suspended
  · rw [if_pos hsuspended, if_pos (htask ▸ hsuspended)]
    exact ⟨rfl, hshutdown⟩
  · rw [if_neg hsuspended, if_neg (htask ▸ hsuspended)]
    exact ⟨htask, hshutdown⟩

theorem xTaskIncrementTick_same {left right : Emergency} (htask : left.task = right.task)
    (hshutdown : left.shutdown = right.shutdown) :
    (xTaskIncrementTick left).task = (xTaskIncrementTick right).task ∧
      (xTaskIncrementTick left).shutdown = (xTaskIncrementTick right).shutdown := by
  unfold xTaskIncrementTick
  rw [htask]
  split
  · exact ⟨rfl, hshutdown⟩
  · exact ⟨htask, hshutdown⟩

/-- A statement of the emergency task depends on no thrust and no set-point for
    where it goes on and what it selects, and changes the latch at most in a poll. -/
theorem emergencyTask_sources (config : Config) {left right : Copter} (hsame : SameSources left right) :
    SameSources (emergencyTask config left) (emergencyTask config right) := by
  obtain ⟨hcomm, htask, hshutdown⟩ := hsame
  have hleft := commanderGetThrust_eq config left left.stabilizer left.controller
  have hright := commanderGetThrust_eq config right right.stabilizer right.controller
  unfold emergencyTask
  dsimp only
  rw [← htask, ← hshutdown]
  split
  case h_2 => exact ⟨hcomm, htask, hshutdown⟩
  case h_3 => split <;> exact ⟨hcomm, rfl, rfl⟩
  case h_4 =>
    rw [hleft, hright]
    exact ⟨hcomm, rfl, hshutdown⟩
  case h_6 => exact ⟨by rw [hcomm], rfl, rfl⟩
  case h_9 => exact ⟨hcomm, htask, hshutdown⟩
  all_goals exact ⟨hcomm, rfl, rfl⟩

/-- A message changes the commander and the emergency by its bytes and their own
    state alone. -/
theorem lcTask_sources (stack : Data) (msg : LcMsg) {left right : Copter} (hsame : SameSources left right) :
    SameSources (lcTask lc stack msg left).1 (lcTask lc stack msg right).1 := by
  obtain ⟨hcomm, htask, hshutdown⟩ := hsame
  have hresume := vTaskResume_same htask hshutdown
  rw [lcTask_eq, lcTask_eq]
  by_cases hcontrol : msg.type = LC_TYPE_CONTROL
  · simp only [if_pos hcontrol]
    exact ⟨hcomm, htask, hshutdown⟩
  simp only [if_neg hcontrol]
  by_cases hselect : msg.type = LC_TYPE_SELECT
  · simp only [if_pos hselect]
    exact ⟨by rw [hcomm], htask, hshutdown⟩
  simp only [if_neg hselect]
  by_cases hpid : msg.type = LC_TYPE_PID
  · simp only [if_pos hpid]
    exact ⟨by rw [hcomm], htask, hshutdown⟩
  simp only [if_neg hpid]
  by_cases hemergency : msg.type = LC_TYPE_EMERGENCY
  · simp only [if_pos hemergency]
    exact ⟨hcomm, hresume.1, hresume.2⟩
  · simp only [if_neg hemergency]
    exact ⟨hcomm, htask, hshutdown⟩

/-- No message reaches the receiver. -/
theorem lcTask_receiver (stack : Data) (msg : LcMsg) (state : Copter) :
    (lcTask lc stack msg state).1.rc = state.rc ∧ (lcTask lc stack msg state).1.rcComm = state.rcComm := by
  rcases lcTask_cases stack msg state with heq | ⟨_, _, heq⟩ | ⟨_, heq⟩ | ⟨_, heq⟩ | ⟨_, heq⟩
  all_goals
    rw [heq]
    exact ⟨rfl, rfl⟩

/-- The set-point after a message depends on the set-point before it alone. -/
theorem lcTask_ctl (stack : Data) (msg : LcMsg) {left right : Copter} (hctl : left.ctl = right.ctl) :
    (lcTask lc stack msg left).1.ctl = (lcTask lc stack msg right).1.ctl := by
  rw [lcTask_eq, lcTask_eq]
  by_cases hcontrol : msg.type = LC_TYPE_CONTROL
  · simp only [if_pos hcontrol, hctl]
  · simp only [if_neg hcontrol]
    split_ifs <;> exact hctl

/-- A set-point message touches the set-point only. -/
theorem lcTask_of_control {msg : LcMsg} (htype : msg.type = LC_TYPE_CONTROL) (stack : Data) (state : Copter) :
    (lcTask lc stack msg state).1 = { state with ctl := (lc_control stack msg state.ctl).1 } := by
  rw [lcTask_eq, if_pos htype]

/-- A poll leaves the commander, the emergency and the set-point alone. -/
theorem stabilizerTask_sources (config : Config) (sensors : Sensors) {left right : Copter}
    (hsame : SameSources left right) :
    SameSources (stabilizerTask config sensors left).2 (stabilizerTask config sensors right).2 := by
  obtain ⟨hleftComm, _, _, hleftEmer⟩ := stabilizerTask_frame config sensors left
  obtain ⟨hrightComm, _, _, hrightEmer⟩ := stabilizerTask_frame config sensors right
  refine ⟨?_, ?_, ?_⟩
  · rw [hleftComm, hrightComm, hsame.comm]
  · rw [hleftEmer, hrightEmer, hsame.task]
  · rw [hleftEmer, hrightEmer, hsame.shutdown]

/-- Every event changes what decides about the sources by itself and that alone. -/
theorem step_sources (config : Config) {left right : Copter} (hsame : SameSources left right) (event : Event) :
    SameSources (step config left event) (step config right event) := by
  obtain ⟨hcomm, htask, hshutdown⟩ := hsame
  have hresume := vTaskResume_same htask hshutdown
  have htick := xTaskIncrementTick_same htask hshutdown
  cases event with
  | emergency_landing => exact ⟨hcomm, hresume.1, hresume.2⟩
  | emergency_landingISR => exact ⟨hcomm, hresume.1, hresume.2⟩
  | lcTask stack msg => exact lcTask_sources stack msg ⟨hcomm, htask, hshutdown⟩
  | rcComm_selectThrust => exact ⟨congrArg rcComm_selectThrust hcomm, htask, hshutdown⟩
  | rcComm_selectRTY => exact ⟨congrArg rcComm_selectRTY hcomm, htask, hshutdown⟩
  | linuxComm_selectThrust => exact ⟨congrArg linuxComm_selectThrust hcomm, htask, hshutdown⟩
  | linuxComm_selectRTY => exact ⟨congrArg linuxComm_selectRTY hcomm, htask, hshutdown⟩
  | interrupt event => exact ⟨hcomm, htask, hshutdown⟩
  | stabilizerTask sensors => exact stabilizerTask_sources config sensors ⟨hcomm, htask, hshutdown⟩
  | emergencyTask => exact emergencyTask_sources config ⟨hcomm, htask, hshutdown⟩
  | xTaskIncrementTick => exact ⟨hcomm, htick.1, htick.2⟩

/-- The latch after a poll depends on the receiver and the selected source. -/
theorem latch_eq (config : Config) {left right : Copter} (hcomm : left.comm = right.comm)
    (hrc : left.rc = right.rc) (hrcComm : left.rcComm = right.rcComm) :
    left.latch config = right.latch config := by
  unfold Copter.latch commanderGetThrust
  rw [← hcomm]
  cases left.comm.getThrust with
  | none => exact hrcComm
  | some callback =>
    cases callback with
    | rcComm_GetThrust => simp only [callThrust, hrc, hrcComm]
    | linuxComm_GetThrust => exact hrcComm
    | batThrustContoll => exact hrcComm

/-- What a statement of the emergency task leaves of the latch. -/
theorem emergencyTask_rcComm (config : Config) (state : Copter) :
    (emergencyTask config state).rcComm =
      if state.emer.task = .commanderGetThrust then state.latch config else state.rcComm := by
  have hthrust := commanderGetThrust_eq config state state.stabilizer state.controller
  cases htask : state.emer.task with
  | commanderGetThrust =>
    simp only [emergencyTask, htask, if_true]
    rw [hthrust]
  | testShutdown =>
    simp only [emergencyTask, htask, reduceCtorEq, if_false]
    split <;> rfl
  | delayed ticks => cases ticks <;> simp only [emergencyTask, htask, reduceCtorEq, if_false]
  | vTaskSuspend => simp only [emergencyTask, htask, reduceCtorEq, if_false]
  | suspended => simp only [emergencyTask, htask, reduceCtorEq, if_false]
  | scaleThrust => simp only [emergencyTask, htask, reduceCtorEq, if_false]
  | commanderLockThrust => simp only [emergencyTask, htask, reduceCtorEq, if_false]
  | vTaskDelay => simp only [emergencyTask, htask, reduceCtorEq, if_false]
  | clearThrust => simp only [emergencyTask, htask, reduceCtorEq, if_false]

theorem stabilizerTask_rcComm (config : Config) (sensors : Sensors) (state : Copter) :
    (stabilizerTask config sensors state).2.rcComm =
      if sensors.imu6IsCalibrated then state.latch config else state.rcComm := by
  by_cases hcalibrated : sensors.imu6IsCalibrated = true
  · rw [stabilizerTask_of_calibrated hcalibrated, if_pos hcalibrated]
  · rw [stabilizerTask_of_not_calibrated hcalibrated, if_neg hcalibrated]

/-- The receiver is changed by its interrupts and by the polls of its thrust. -/
theorem step_receiver (config : Config) {left right : Copter} (hsame : SameReceiver left right)
    (event : Event) : SameReceiver (step config left event) (step config right event) := by
  obtain ⟨hsources, hrc, hrcComm⟩ := hsame
  have hlatch := latch_eq config hsources.comm hrc hrcComm
  refine ⟨step_sources config hsources event, ?_, ?_⟩
  · cases event with
    | lcTask stack msg =>
      exact (lcTask_receiver stack msg left).1.trans (hrc.trans (lcTask_receiver stack msg right).1.symm)
    | interrupt event => exact congrArg (copter.remote_control.interrupt · event) hrc
    | stabilizerTask sensors =>
      exact (stabilizerTask_frame config sensors left).2.2.1.trans
        (hrc.trans (stabilizerTask_frame config sensors right).2.2.1.symm)
    | emergencyTask =>
      exact (emergencyTask_frame config left).2.2.1.trans
        (hrc.trans (emergencyTask_frame config right).2.2.1.symm)
    | _ => exact hrc
  · cases event with
    | lcTask stack msg =>
      exact (lcTask_receiver stack msg left).2.trans (hrcComm.trans (lcTask_receiver stack msg right).2.symm)
    | stabilizerTask sensors =>
      simp only [step, stabilizerTask_rcComm, hlatch, hrcComm]
    | emergencyTask =>
      simp only [step, emergencyTask_rcComm, hlatch, hrcComm, hsources.task]
    | _ => exact hrcComm

/-- The set-point is changed by the messages that carry one. -/
theorem step_setpoint (config : Config) {left right : Copter} (hsame : SameSetpoint left right)
    (event : Event) : SameSetpoint (step config left event) (step config right event) := by
  obtain ⟨hsources, hctl⟩ := hsame
  refine ⟨step_sources config hsources event, ?_⟩
  cases event with
  | lcTask stack msg => exact lcTask_ctl stack msg hctl
  | stabilizerTask sensors =>
    exact (stabilizerTask_frame config sensors left).2.1.trans
      (hctl.trans (stabilizerTask_frame config sensors right).2.1.symm)
  | emergencyTask =>
    exact (emergencyTask_frame config left).1.trans (hctl.trans (emergencyTask_frame config right).1.symm)
  | _ => exact hctl

/-- A set-point message leaves the receiver's side of the state alone. -/
theorem step_of_isControl (config : Config) (state : Copter) {event : Event} (hcontrol : isControl event = true) :
    ∃ ctl, step config state event = { state with ctl := ctl } := by
  cases event with
  | lcTask stack msg =>
    have htype : msg.type = LC_TYPE_CONTROL := by simpa [isControl] using hcontrol
    exact ⟨_, lcTask_of_control htype stack state⟩
  | _ => simp [isControl] at hcontrol

/-- A receiver interrupt leaves the Linux side of the state alone. -/
theorem step_of_isInterrupt (config : Config) (state : Copter) {event : Event}
    (hinterrupt : isInterrupt event = true) : ∃ rc, step config state event = { state with rc := rc } := by
  cases event with
  | interrupt event => exact ⟨_, rfl⟩
  | _ => simp [isInterrupt] at hinterrupt

/-- A poll of the receiver reads the channels and the latch alone. -/
theorem poll_receiver (config : Config) {left right : Copter} (hsame : SameReceiver left right)
    (event : Event) :
    Option.Rel (Poll.Agree .rcComm_GetThrust .rcComm_GetRPY) (poll config left event)
      (poll config right event) := by
  obtain ⟨⟨hcomm, _, _⟩, hrc, hrcComm⟩ := hsame
  cases event with
  | stabilizerTask sensors =>
    by_cases hcalibrated : sensors.imu6IsCalibrated = true
    · simp only [poll, if_pos hcalibrated]
      refine .some ⟨by rw [hcomm], by rw [hcomm], ?_, ?_⟩
      · intro (hsource : left.comm.getThrust = some .rcComm_GetThrust)
        have hsource' : right.comm.getThrust = some .rcComm_GetThrust := hcomm ▸ hsource
        simp only [Copter.thrust, commanderGetThrust, hsource, hsource', callThrust, hrc, hrcComm]
      · intro (hsource : left.comm.getRPY = some .rcComm_GetRPY)
        have hsource' : right.comm.getRPY = some .rcComm_GetRPY := hcomm ▸ hsource
        simp only [commanderGetRPY, hsource, hsource', callRPY, hrc, hrcComm]
    · simp only [poll, if_neg hcalibrated]
      exact .none
  | _ => exact .none

/-- A poll of the Linux set-point reads the set-point alone. -/
theorem poll_setpoint (config : Config) {left right : Copter} (hsame : SameSetpoint left right)
    (event : Event) :
    Option.Rel (Poll.Agree .linuxComm_GetThrust .linuxComm_GetRPY) (poll config left event)
      (poll config right event) := by
  obtain ⟨⟨hcomm, _, _⟩, hctl⟩ := hsame
  cases event with
  | stabilizerTask sensors =>
    by_cases hcalibrated : sensors.imu6IsCalibrated = true
    · simp only [poll, if_pos hcalibrated]
      refine .some ⟨by rw [hcomm], by rw [hcomm], ?_, ?_⟩
      · intro (hsource : left.comm.getThrust = some .linuxComm_GetThrust)
        have hsource' : right.comm.getThrust = some .linuxComm_GetThrust := hcomm ▸ hsource
        simp only [Copter.thrust, commanderGetThrust, hsource, hsource', callThrust, hctl]
      · intro (hsource : left.comm.getRPY = some .linuxComm_GetRPY)
        have hsource' : right.comm.getRPY = some .linuxComm_GetRPY := hcomm ▸ hsource
        simp only [commanderGetRPY, hsource, hsource', callRPY, hctl]
    · simp only [poll, if_neg hcalibrated]
      exact .none
  | _ => exact .none

theorem unwinds_receiver (config : Config) :
    Unwinds (step config) isControl (poll config) SameReceiver
      (Poll.Agree .rcComm_GetThrust .rcComm_GetRPY) where
  both left right event hsame _ := step_receiver config hsame event
  left left right event hsame hcontrol := by
    obtain ⟨ctl, hstep⟩ := step_of_isControl config left hcontrol
    rw [hstep]
    exact ⟨⟨hsame.comm, hsame.task, hsame.shutdown⟩, hsame.rc, hsame.rcComm⟩
  right left right event hsame hcontrol := by
    obtain ⟨ctl, hstep⟩ := step_of_isControl config right hcontrol
    rw [hstep]
    exact ⟨⟨hsame.comm, hsame.task, hsame.shutdown⟩, hsame.rc, hsame.rcComm⟩
  related left right event hsame _ := poll_receiver config hsame event
  silent state event hcontrol := by
    cases event with
    | stabilizerTask sensors => simp [isControl] at hcontrol
    | _ => rfl

theorem unwinds_setpoint (config : Config) :
    Unwinds (step config) isInterrupt (poll config) SameSetpoint
      (Poll.Agree .linuxComm_GetThrust .linuxComm_GetRPY) where
  both left right event hsame _ := step_setpoint config hsame event
  left left right event hsame hinterrupt := by
    obtain ⟨rc, hstep⟩ := step_of_isInterrupt config left hinterrupt
    rw [hstep]
    exact ⟨⟨hsame.comm, hsame.task, hsame.shutdown⟩, hsame.ctl⟩
  right left right event hsame hinterrupt := by
    obtain ⟨rc, hstep⟩ := step_of_isInterrupt config right hinterrupt
    rw [hstep]
    exact ⟨⟨hsame.comm, hsame.task, hsame.shutdown⟩, hsame.ctl⟩
  related left right event hsame _ := poll_setpoint config hsame event
  silent state event hinterrupt := by
    cases event with
    | stabilizerTask sensors => simp [isInterrupt] at hinterrupt
    | _ => rfl

/-- Two runs that differ in their set-point messages alone have the same polls
    wherever the receiver is selected, and two that differ in the receiver's
    interrupts alone have the same wherever the set-point is. -/
theorem source_isolation (config : Config) (start : Copter) (events events' : List Event) :
    (keep isControl events = keep isControl events' →
      List.Forall₂ (Poll.Agree .rcComm_GetThrust .rcComm_GetRPY) (polls config start events)
        (polls config start events')) ∧
    (keep isInterrupt events = keep isInterrupt events' →
      List.Forall₂ (Poll.Agree .linuxComm_GetThrust .linuxComm_GetRPY) (polls config start events)
        (polls config start events')) := by
  have hsources := sameSources_refl start
  refine ⟨?_, ?_⟩
  · intro hkeep
    exact (unwinds_receiver config).forall₂_outputs hkeep ⟨hsources, rfl, rfl⟩
  · intro hkeep
    exact (unwinds_setpoint config).forall₂_outputs hkeep ⟨hsources, rfl⟩

/-- A calibrated pass on level ground. -/
def levelPass : Event :=
  .stabilizerTask { imu6IsCalibrated := true, gyro := ⟨0, 0, 0⟩, eulerActual := ⟨0, 0, 0⟩ }

/-- A set-point and an interrupt that arrive before a poll of the other source are
    not seen by it. -/
theorem source_isolation_one_event :
    List.Forall₂ (Poll.Agree .rcComm_GetThrust .rcComm_GetRPY)
        (polls (tlm_vf610_defconfig (fun _ => 0) fun _ => 0)
          (copter0 (tlm_vf610_defconfig (fun _ => 0) fun _ => 0))
          [.rcComm_selectThrust, .lcTask (fun _ => 0) ⟨LC_TYPE_CONTROL, fun _ => 0⟩, levelPass])
        (polls (tlm_vf610_defconfig (fun _ => 0) fun _ => 0)
          (copter0 (tlm_vf610_defconfig (fun _ => 0) fun _ => 0)) [.rcComm_selectThrust, levelPass]) ∧
      List.Forall₂ (Poll.Agree .linuxComm_GetThrust .linuxComm_GetRPY)
        (polls (tlm_vf610_defconfig (fun _ => 0) fun _ => 0)
          (copter0 (tlm_vf610_defconfig (fun _ => 0) fun _ => 0)) [.linuxComm_selectThrust, levelPass])
        (polls (tlm_vf610_defconfig (fun _ => 0) fun _ => 0)
          (copter0 (tlm_vf610_defconfig (fun _ => 0) fun _ => 0))
          [.linuxComm_selectThrust, .interrupt .overflow, levelPass]) :=
  ⟨(source_isolation _ _ _ _).1 rfl, (source_isolation _ _ _ _).2 rfl⟩

end copter
