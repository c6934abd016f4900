import CopterOS.Copter.Isolation
import CopterOS.Flight.Pulses
import CopterOS.Sensfusion6.Euler
import CopterOS.Stabilizer.YawError

open number transition copter.commander copter.controller copter.imu copter.rc_commander copter.remote_control
open copter.sensfusion6 copter.stabilizer

namespace copter.remote_control

/-- What is stored as a correct pulse has passed the test of the handler. -/
def InWindow (rc : Rc) : Prop :=
  ∀ channel, (rc.channel channel).corret = true → RC_MIN < (rc.channel channel).value ∧ (rc.channel channel).value < RC_MAX

theorem inWindow_rc0 : InWindow rc0 := fun _ hcorret => nomatch hcorret

theorem inWindow_interrupt {rc : Rc} (hrc : InWindow rc) (event : Interrupt) : InWindow (interrupt rc event) := by
  intro channel hcorret
  cases event with
  | edge other time =>
    by_cases hother : channel = other
    · subst hother
      rw [interrupt_edge_same] at hcorret ⊢
      by_cases haccepts : (rc.channel channel).accepts time = true
      · rw [rc_IRQHandler_of_accepts haccepts]
        exact (accepts_iff _ _).mp haccepts
      · rw [Bool.not_eq_true] at haccepts
        rw [rc_IRQHandler_of_not_accepts haccepts] at hcorret ⊢
        exact hrc channel hcorret
    · rw [interrupt_edge_other hother] at hcorret ⊢
      exact hrc channel hcorret
  | overflow =>
    rw [interrupt_overflow] at hcorret ⊢
    unfold RcChannel.overflow at hcorret ⊢
    split at hcorret
    case isTrue hretry =>
      rw [if_pos hretry]
      exact hrc channel hcorret
    case isFalse hretry => cases hcorret

/-- A reading is zero or inside the window. -/
theorem InWindow.rc_get {rc : Rc} (hrc : InWindow rc) (channel : Fin RC_MAX_CHANNELS) :
    rc_get rc channel = 0 ∨ RC_MIN < rc_get rc channel ∧ rc_get rc channel < RC_MAX := by
  unfold copter.remote_control.rc_get
  by_cases hcorret : (rc.channel channel).corret = true
  · rw [if_pos hcorret]
    exact .inr (hrc channel hcorret)
  · rw [if_neg hcorret]
    exact .inl rfl

end copter.remote_control

namespace copter.stabilizer

/-- What the attitude correction sets as the error of the yaw. -/
theorem correctAttitude_yawError {stabilizer : Stabilizer}
    (hdue : stabilizer.attitudeCounter + 1 ≥ ATTITUDE_UPDATE_RATE_DIVIDER) (sensors : Sensors)
    (eulerDesired : RPY Flt) (controller : Controller Flt) :
    ((correctAttitude sensors eulerDesired stabilizer controller).2.pid .pidYaw).error =
      yawError sensors.eulerActual.yaw (-eulerDesired.yaw) := by
  unfold correctAttitude
  dsimp only
  rw [if_pos hdue]
  rfl

end copter.stabilizer

namespace copter

/-- Only the interrupts change the channels of the receiver. -/
theorem step_inWindow {state : Copter} (hrc : InWindow state.rc) (config : Config) (event : Event) :
    InWindow (step config state event).rc := by
  cases event with
  | lcTask stack msg =>
    have hsame : (step config state (.lcTask stack msg)).rc = state.rc := (lcTask_receiver stack msg state).1
    rw [hsame]
    exact hrc
  | interrupt event => exact inWindow_interrupt hrc event
  | stabilizerTask sensors =>
    have hsame : (step config state (.stabilizerTask sensors)).rc = state.rc :=
      (stabilizerTask_frame config sensors state).2.2.1
    rw [hsame]
    exact hrc
  | emergencyTask =>
    have hsame : (step config state .emergencyTask).rc = state.rc := (emergencyTask_frame config state).2.2.1
    rw [hsame]
    exact hrc
  | _ => exact hrc

/-- With a valid set-point and readings inside the window no source asks for more than
    a turn of the yaw. -/
theorem commanderGetRPY_yaw_le {state : Copter} (hvalid : state.ctl.Valid) (hrc : InWindow state.rc) {config : Config}
    {build : Build} (hbuild : config.calibration = build.sticks.toCalibration) :
    ∃ desired : ℚ, (commanderGetRPY (callRPY config) state.comm state).yaw = .finite desired ∧ |desired| ≤ 360 := by
  unfold commanderGetRPY
  cases state.comm.getRPY with
  | none => exact ⟨0, rfl, by norm_num⟩
  | some callback =>
    cases callback with
    | linuxComm_GetRPY => exact linuxComm_GetRPY_yaw hvalid.yaw
    | rcComm_GetRPY =>
      refine ⟨(rcComm_GetRPY config.calibration state.rc state.rcComm).yaw, rfl, ?_⟩
      obtain hlost | ⟨hmin, hmax⟩ := hrc.rc_get state.rcComm.yawID
      · rw [rcComm_GetRPY_of_lost (.inr (.inr hlost))]
        norm_num
      · rw [hbuild]
        exact rcComm_GetRPY_yaw_le build hmin hmax

end copter

namespace copter.flight

/-- The estimated attitude has length one after every run. -/
theorem flightAfter_normalised (config : Config) (events : List Event) :
    Normalised (flightAfter config events).fusion := by
  have hupdate : ∀ gyro acc flight, Normalised flight.fusion → Normalised (updateFusion config gyro acc flight) := by
    intro gyro acc flight hflight
    unfold updateFusion
    split
    · exact normalised_sensfusion6UpdateQ hflight.pos _ _ _ _
    · exact hflight
  have hstep : ∀ flight event, Normalised flight.fusion → Normalised (step config flight event).fusion := by
    intro flight event hflight
    cases event with
    | stabilizerTask reading => exact hupdate _ _ _ hflight
    | imu6ManufacturingTest reading => exact hflight
    | other event hother => exact hflight
  exact run_invariant (P := fun flight : Flight => Normalised flight.fusion) hstep normalised_sensfusion60 events

theorem flightAfter_inWindow (config : Config) (events : List Event) : InWindow (flightAfter config events).tasks.rc := by
  rw [flightAfter_tasks]
  exact run_invariant (P := fun state : Copter => InWindow state.rc)
    (fun _ event hrc => step_inWindow hrc config.toConfig event) inWindow_rc0 _

/-- In every run in which no NaN is stored, each correction of the attitude takes the
    yaw the short way round: the sensor fusion measures a yaw within half a turn, no
    source asks for more than a turn, and the error of the controller is the difference
    of the two up to full turns and at most half a turn. -/
theorem flight_shortWay {events : List Event} (hevents : ∀ event ∈ events, RefusesNaN event) {config : Config}
    {build : Build} (hbuild : config.calibration = build.sticks.toCalibration) (hlibm : config.libm.Documented)
    {reading : Reading} (hdue : (imu9Read config reading (flightAfter config events)).2.Due) :
    let tasks := (flightAfter config events).tasks
    let sensed := (sense config reading (flightAfter config events)).1
    let demand := commanderGetRPY (callRPY config.toConfig) tasks.comm tasks
    ∃ actual desired error : ℚ,
      sensed.eulerActual.yaw = .finite actual ∧ |actual| ≤ 180 ∧ demand.yaw = .finite desired ∧ |desired| ≤ 360 ∧
        ((correctAttitude sensed demand tasks.stabilizer tasks.controller).2.pid .pidYaw).error = .finite error ∧
          ShortWay (-desired) actual error := by
  intro tasks sensed demand
  obtain ⟨hvalid, _⟩ := flightAfter_finite hevents config
  obtain ⟨desired, hdesired, hturn⟩ := commanderGetRPY_yaw_le hvalid (flightAfter_inWindow config events) hbuild
  have hnormalised := flightAfter_normalised config (events ++ [.stabilizerTask reading])
  have hactual := (hnormalised.inDegrees hlibm).yaw
  have hfusion : (flightAfter config (events ++ [.stabilizerTask reading])).fusion =
      (sense config reading (flightAfter config events)).2.fusion := by
    unfold flightAfter
    rw [run_concat]
    rfl
  rw [hfusion] at hactual
  set actual := (sensfusion6GetEulerRPY config.libm (sense config reading (flightAfter config events)).2.fusion).yaw
    with hyaw
  refine ⟨actual, desired, yawError actual (-desired), rfl, hactual, hdesired, hturn, ?_, ?_⟩
  · have hneg : -Flt.finite desired = .finite (-desired) := rfl
    have hmeasured : sensed.eulerActual.yaw = .finite actual := rfl
    have hcounter : tasks.stabilizer.attitudeCounter + 1 ≥ ATTITUDE_UPDATE_RATE_DIVIDER := hdue.2
    rw [correctAttitude_yawError hcounter, hmeasured, hdesired, hneg, yawError_numbers]
  · rw [yawError_shortWay_iff, abs_le]
    rw [abs_le] at hturn hactual
    constructor <;> linarith

/-- The second pass after the self test corrects the attitude. -/
theorem due_calibrating : (imu9Read board resting (flightAfter board calibrating)).2.Due := by decide +kernel

theorem flight_shortWay_calibrating :
    let tasks := (flightAfter board calibrating).tasks
    let sensed := (sense board resting (flightAfter board calibrating)).1
    let demand := commanderGetRPY (callRPY board.toConfig) tasks.comm tasks
    ∃ actual desired error : ℚ,
      sensed.eulerActual.yaw = .finite actual ∧ |actual| ≤ 180 ∧ demand.yaw = .finite desired ∧ |desired| ≤ 360 ∧
        ((correctAttitude sensed demand tasks.stabilizer tasks.controller).2.pid .pidYaw).error = .finite error ∧
          ShortWay (-desired) actual error :=
  have hbuild : board.calibration = Build.uliRc.sticks.toCalibration := rfl
  flight_shortWay calibrating_refusesNaN hbuild levelLibm_documented due_calibrating

end copter.flight
