import CopterOS.Flight.Pulses
import CopterOS.MotorCtrl.Wiring

open number transition compaction copter.motor_ctrl copter.stabilizer

namespace copter.flight

/-- Whether the tasks run. Behind a shutdown only its caller goes on, and the doorbell
    interrupt never returns. -/
inductive Processor where
  | running
  | suspended
  | blocked
  deriving DecidableEq

/-- What the battery task does next: it reads the voltage, and compares it twice. -/
inductive BatTask where
  | tps_diag
  | emergency_landing (val : Flt)
  | emergency_shutdown (val : Flt)
  deriving DecidableEq

/-- The flight together with the channels of the motors, the motors the last pass has
    still to set, and the battery task. -/
structure Drive where
  state : Flight
  board : Option Board
  pending : List (stabilizer.Motor × UInt32)
  bat : BatTask
  processor : Processor

/-- The start-up enables the channels before the tasks run. -/
def drive0 (config : Config) (channels : stabilizer.Motor → UInt32) (answers : stabilizer.Motor → Answer) : Drive where
  state := flight0 config
  board := run motor_ctrl.step (some board0) (enableMotors channels answers)
  pending := []
  bat := .tps_diag
  processor := .running

/-- An event of the flight, the next motor of a pass, a measured voltage of the battery,
    the next comparison of the battery task, or the doorbell of Linux, with the results
    the driver gives when motors are set. -/
inductive DriveEvent where
  | fly (event : Event)
  | motorsSetRatio (setDutyCycle : ℤ)
  | tps_diag (val : Flt)
  | batTask (setDutyCycle : stabilizer.Motor → ℤ)
  | cpu2cpu_int3_isr (setDutyCycle : stabilizer.Motor → ℤ)

/-- No motor gets a pulse. -/
def zero (setDutyCycle : stabilizer.Motor → ℤ) : Setting where
  value _ := 0
  setDutyCycle := setDutyCycle

/-- The interrupts are off, and no task runs but the caller. -/
def emergency_shutdown (setDutyCycle : stabilizer.Motor → ℤ) (drive : Drive) : Drive :=
  { drive with
    board := run motor_ctrl.step drive.board (zero setDutyCycle).calls
    processor := .suspended }

/-- The comparison `val <= 9`, which NaN does not pass. -/
def lowVoltage (val : Flt) : Bool := val < .finite 9 || val == .finite 9

/-- The battery task asks for a landing. -/
def emergency_landing : Event := .other .emergency_landing (by intro sensors heq; cases heq)

/-- One comparison of the battery task. The landing and the shutdown have the same
    limit, but other tasks run while their messages are printed. -/
def batTask (config : Config) (setDutyCycle : stabilizer.Motor → ℤ) (drive : Drive) : Drive :=
  match drive.bat with
  | .tps_diag => drive
  | .emergency_landing val =>
    let drive := { drive with bat := .emergency_shutdown val }
    if lowVoltage val then { drive with state := step config drive.state emergency_landing } else drive
  | .emergency_shutdown val =>
    let drive := { drive with bat := .tps_diag }
    if lowVoltage val then emergency_shutdown setDutyCycle drive else drive

/-- The battery task goes on with the voltage it has read. -/
def tps_diag (val : Flt) (drive : Drive) : Drive :=
  match drive.bat with
  | .tps_diag => { drive with bat := .emergency_landing val }
  | _ => drive

/-- Linux forces the shutdown, and the interrupt keeps the processor. -/
def cpu2cpu_int3_isr (setDutyCycle : stabilizer.Motor → ℤ) (drive : Drive) : Drive :=
  { emergency_shutdown setDutyCycle drive with processor := .blocked }

/-- The pulses an event of the flight computes. -/
def pulses? (config : Config) (flight : Flight) : Event → Option (stabilizer.Motor → UInt32)
  | .stabilizerTask reading => (stabilizerTask config reading flight).1
  | _ => none

/-- What a pass with the given pulses sets, in order. -/
def sweep (value : stabilizer.Motor → UInt32) : List (stabilizer.Motor × UInt32) :=
  motors.map fun motor => (motor, value motor)

/-- The stabilizer starts no pass before the last one is through; anything else may
    happen between two motors. -/
def Drive.admits (drive : Drive) : Event → Bool
  | .stabilizerTask _ => drive.processor == .running && drive.pending.isEmpty
  | _ => drive.processor == .running

/-- The pulses a step computes. -/
def Drive.computed (config : Config) (drive : Drive) : DriveEvent → Option (stabilizer.Motor → UInt32)
  | .fly event => if drive.admits event then pulses? config drive.state event else none
  | _ => none

def Drive.step (config : Config) (drive : Drive) (event : DriveEvent) : Drive :=
  match event with
  | .fly flown =>
    if drive.admits flown then
      { drive with
        state := copter.flight.step config drive.state flown
        pending := drive.pending ++ (drive.computed config event).toList.flatMap sweep }
    else drive
  | .motorsSetRatio setDutyCycle =>
    match drive.processor, drive.pending with
    | .running, (motor, value) :: pending =>
      { drive with
        board := motor_ctrl.step drive.board (.motor_set (motorId motor) value setDutyCycle)
        pending := pending }
    | _, _ => drive
  | .tps_diag val => if drive.processor = .blocked then drive else copter.flight.tps_diag val drive
  | .batTask setDutyCycle =>
    if drive.processor = .blocked then drive else copter.flight.batTask config setDutyCycle drive
  | .cpu2cpu_int3_isr setDutyCycle =>
    if drive.processor = .running then copter.flight.cpu2cpu_int3_isr setDutyCycle drive else drive

/-- What the flight sees of a comparison of the battery task. -/
def BatTask.shown : BatTask → Option Event
  | .emergency_landing val => if lowVoltage val then some copter.flight.emergency_landing else none
  | _ => none

/-- What the flight sees of an event. -/
def Drive.shown (drive : Drive) : DriveEvent → Option Event
  | .fly event => if drive.admits event then some event else none
  | .batTask _ => if drive.processor = .blocked then none else drive.bat.shown
  | _ => none

theorem batTask_state (config : Config) (setDutyCycle : stabilizer.Motor → ℤ) (drive : Drive) :
    (batTask config setDutyCycle drive).state =
      drive.bat.shown.elim drive.state (copter.flight.step config drive.state) := by
  unfold batTask BatTask.shown
  cases drive.bat with
  | tps_diag => rfl
  | emergency_landing val =>
    dsimp only
    split <;> rfl
  | emergency_shutdown val =>
    dsimp only
    split <;> rfl

theorem Drive.step_state (config : Config) (drive : Drive) (event : DriveEvent) :
    (drive.step config event).state =
      (drive.shown event).elim drive.state (copter.flight.step config drive.state) := by
  unfold Drive.step Drive.shown
  cases event with
  | fly event =>
    dsimp only
    split <;> rfl
  | motorsSetRatio setDutyCycle =>
    dsimp only
    split <;> rfl
  | tps_diag val =>
    unfold tps_diag
    dsimp only
    split
    case isTrue => rfl
    case isFalse => split <;> rfl
  | batTask setDutyCycle =>
    dsimp only
    split
    case isTrue => rfl
    case isFalse => exact batTask_state config setDutyCycle drive
  | cpu2cpu_int3_isr setDutyCycle =>
    dsimp only
    split <;> rfl

/-- The state after a sequence of events from the start-up on. -/
def driveAfter (config : Config) (channels : stabilizer.Motor → UInt32) (answers : stabilizer.Motor → Answer)
    (events : List DriveEvent) : Drive :=
  run (Drive.step config) (drive0 config channels answers) events

/-- The pulses of all passes of a run. -/
def passes (config : Config) (channels : stabilizer.Motor → UInt32) (answers : stabilizer.Motor → Answer)
    (events : List DriveEvent) : List (stabilizer.Motor → UInt32) :=
  projected (Drive.step config) (Drive.computed config) (drive0 config channels answers) events

/-- No set-point with a NaN gets past the test of its message. -/
def DriveEvent.RefusesNaN : DriveEvent → Prop
  | .fly event => copter.flight.RefusesNaN event
  | _ => True

/-- The flight part of a run is a run of the flight. -/
theorem driveAfter_state {events : List DriveEvent} (hevents : ∀ event ∈ events, event.RefusesNaN) (config : Config)
    (channels : stabilizer.Motor → UInt32) (answers : stabilizer.Motor → Answer) :
    ∃ flown, (∀ event ∈ flown, RefusesNaN event) ∧
      (driveAfter config channels answers events).state = flightAfter config flown := by
  refine ⟨projected (Drive.step config) Drive.shown (drive0 config channels answers) events, ?_,
    run_projected (Drive.step config) Drive.shown (Drive.step_state config) _ events⟩
  refine projected_forall (Drive.step config) Drive.shown ?_ hevents
  intro drive event seen hrefuses hseen
  cases event with
  | fly event =>
    have hshown := (Option.ite_none_right_eq_some.mp hseen).2
    obtain rfl := Option.some.inj hshown
    exact hrefuses
  | batTask setDutyCycle =>
    have hshown := (Option.ite_none_left_eq_some.mp hseen).2
    unfold BatTask.shown at hshown
    split at hshown
    case h_1 =>
      obtain rfl := Option.some.inj (Option.ite_none_right_eq_some.mp hshown).2
      trivial
    case h_2 => cases hshown
  | motorsSetRatio setDutyCycle => cases hseen
  | tps_diag val => cases hseen
  | cpu2cpu_int3_isr setDutyCycle => cases hseen

theorem pulses?_inEscRange {events : List Event} (hevents : ∀ event ∈ events, RefusesNaN event) (config : Config)
    (event : Event) {value : stabilizer.Motor → UInt32}
    (hvalue : pulses? config (flightAfter config events) event = some value) : InEscRange config.esc value := by
  cases event with
  | imu6ManufacturingTest reading => cases hvalue
  | other event hother => cases hvalue
  | stabilizerTask reading =>
    obtain ⟨hvalid, hfinite⟩ := flightAfter_finite hevents config
    by_cases hcalibrated : (sense config reading (flightAfter config events)).1.imu6IsCalibrated = true
    · obtain ⟨pulses, hpulses, hrange⟩ :=
        stabilizerTask_inEscRange hcalibrated (sensors_finite config _ _ _) hvalid hfinite config.toConfig
      obtain rfl := Option.some.inj (hpulses.symm.trans hvalue)
      exact hrange
    · have hnone := stabilizerTask_of_not_calibrated hcalibrated config.toConfig (flightAfter config events).tasks
      exact absurd ((congrArg Prod.fst hnone).symm.trans hvalue) nofun

/-- All pulses of a run without a stored NaN lie in the range of the speed
    controllers. -/
theorem passes_inEscRange {events : List DriveEvent} (hevents : ∀ event ∈ events, event.RefusesNaN) (config : Config)
    (channels : stabilizer.Motor → UInt32) (answers : stabilizer.Motor → Answer) :
    ∀ value ∈ passes config channels answers events, InEscRange config.esc value := by
  induction events using List.reverseRecOn with
  | nil => exact nofun
  | append_singleton events event ih =>
    rw [List.forall_mem_append] at hevents
    obtain ⟨flown, hflown, hstate⟩ := driveAfter_state hevents.1 config channels answers
    unfold passes
    rw [projected_concat, List.forall_mem_append]
    refine ⟨ih hevents.1, fun value hvalue => ?_⟩
    have hcomputed := Option.mem_toList.mp hvalue
    cases event with
    | fly event =>
      have hpulses := (Option.ite_none_right_eq_some.mp hcomputed).2
      unfold driveAfter at hstate
      rw [hstate] at hpulses
      exact pulses?_inEscRange hflown config event hpulses
    | motorsSetRatio setDutyCycle => cases hcomputed
    | tps_diag val => cases hcomputed
    | batTask setDutyCycle => cases hcomputed
    | cpu2cpu_int3_isr setDutyCycle => cases hcomputed

/-- A pass that has pulses starts only when all motors have been set. -/
theorem Drive.computed_eq_some {config : Config} {drive : Drive} {event : DriveEvent}
    {value : stabilizer.Motor → UInt32} (hcomputed : drive.computed config event = some value) :
    drive.pending = [] := by
  cases event with
  | fly event =>
    obtain ⟨hadmits, hpulses⟩ := Option.ite_none_right_eq_some.mp hcomputed
    cases event with
    | stabilizerTask reading => exact List.isEmpty_iff.mp (Bool.and_eq_true_iff.mp hadmits).2
    | imu6ManufacturingTest reading => cases hpulses
    | other event hother => cases hpulses
  | motorsSetRatio setDutyCycle => cases hcomputed
  | tps_diag val => cases hcomputed
  | batTask setDutyCycle => cases hcomputed
  | cpu2cpu_int3_isr setDutyCycle => cases hcomputed

/-- A motor that has been set, with the result of the driver. -/
structure Write where
  motor : stabilizer.Motor
  value : UInt32
  setDutyCycle : ℤ

/-- What the driver is asked for when each motor has the given unit. -/
def Write.driven (unit : stabilizer.Motor → Option Pwm) (write : Write) : PwmCall :=
  .pwm_setDutyCycle (unit write.motor) write.value write.setDutyCycle

def Write.setting (write : Write) : stabilizer.Motor × UInt32 := (write.motor, write.value)

section sent

variable {answers : stabilizer.Motor → Answer} {booted : Board} {drive : Drive}

/-- The driver has been asked for the given calls since the start-up, and every slot
    has kept its unit. -/
def Drive.Asked (answers : stabilizer.Motor → Answer) (booted : Board) (calls : List PwmCall) (drive : Drive) : Prop :=
  ∃ board, drive.board = some board ∧ board.log = booted.log ++ calls ∧
    ∀ index, (board.motor.unit index).pwm = (compact (handed answers))[index.val]?

theorem Drive.Asked.motor_set (hanswers : Answered answers) {calls : List PwmCall}
    (hasked : drive.Asked answers booted calls) (write : Write) (pending : List (stabilizer.Motor × UInt32)) :
    Drive.Asked answers booted (calls ++ [write.driven fun motor => (answers motor).pwm])
      { drive with
        board := motor_ctrl.step drive.board (.motor_set (motorId write.motor) write.value write.setDutyCycle)
        pending := pending } := by
  obtain ⟨board, hboard, hlog, hunits⟩ := hasked
  obtain ⟨next, hnext, hlogNext, hunitsNext⟩ := run_motor_set hunits write.motor write.value write.setDutyCycle
  refine ⟨next, ?_, ?_, hunitsNext⟩
  · rw [hboard]
    exact hnext
  · rw [hlogNext, hlog, List.append_assoc, (answered_iff answers).mp hanswers]
    rfl

theorem Drive.Asked.emergency_shutdown (hanswers : Answered answers) {calls : List PwmCall}
    (hasked : drive.Asked answers booted calls) (setDutyCycle : stabilizer.Motor → ℤ) :
    (emergency_shutdown setDutyCycle drive).Asked answers booted
      (calls ++ (zero setDutyCycle).driven fun motor => (answers motor).pwm) := by
  obtain ⟨board, hboard, hlog, hunits⟩ := hasked
  obtain ⟨next, hnext, hlogNext, hunitsNext⟩ := run_motor_sets hunits (zero setDutyCycle) motors
  refine ⟨next, ?_, ?_, hunitsNext⟩
  · exact (congrArg (run motor_ctrl.step · (zero setDutyCycle).calls) hboard).trans hnext
  · rw [hlogNext, hlog, List.append_assoc]
    congr 3
    funext motor
    rw [(answered_iff answers).mp hanswers]

/-- What has been sent to the motors: the passes so far, up to the motors that are
    still to be set, and behind them only shutdowns once the tasks have stopped. -/
def Drive.Sent (answers : stabilizer.Motor → Answer) (booted : Board) (passes : List (stabilizer.Motor → UInt32))
    (drive : Drive) : Prop :=
  ∃ (writes : List Write) (stops : List (stabilizer.Motor → ℤ)),
    passes.flatMap sweep = writes.map Write.setting ++ drive.pending ∧ drive.pending.length ≤ 4 ∧
    drive.Asked answers booted (writes.map (Write.driven fun motor => (answers motor).pwm) ++
      stops.flatMap fun setDutyCycle => (zero setDutyCycle).driven fun motor => (answers motor).pwm) ∧
    (stops = [] ↔ drive.processor = .running)

theorem Drive.Sent.emergency_shutdown (hanswers : Answered answers) {passes : List (stabilizer.Motor → UInt32)}
    (hsent : drive.Sent answers booted passes) (setDutyCycle : stabilizer.Motor → ℤ) :
    (emergency_shutdown setDutyCycle drive).Sent answers booted passes := by
  obtain ⟨writes, stops, hwrites, hpending, hasked, _⟩ := hsent
  refine ⟨writes, stops ++ [setDutyCycle], hwrites, hpending, ?_, iff_of_false (by simp) nofun⟩
  rw [List.flatMap_append, List.flatMap_singleton, ← List.append_assoc]
  exact hasked.emergency_shutdown hanswers setDutyCycle

theorem Drive.Sent.motorsSetRatio (hanswers : Answered answers) {config : Config}
    {passes : List (stabilizer.Motor → UInt32)} (hsent : drive.Sent answers booted passes) (setDutyCycle : ℤ) :
    (drive.step config (.motorsSetRatio setDutyCycle)).Sent answers booted passes := by
  unfold Drive.step
  dsimp only
  split
  case h_1 motor value pending hrunning hnext =>
    obtain ⟨writes, stops, hwrites, hpending, hasked, hstops⟩ := hsent
    obtain rfl := hstops.mpr hrunning
    rw [List.flatMap_nil, List.append_nil] at hasked
    rw [hnext] at hwrites hpending
    refine ⟨writes ++ [⟨motor, value, setDutyCycle⟩], [], ?_, (Nat.le_succ _).trans hpending, ?_, hstops⟩
    · rw [hwrites, List.map_append, List.append_assoc]
      rfl
    · rw [List.flatMap_nil, List.append_nil, List.map_append]
      exact hasked.motor_set hanswers ⟨motor, value, setDutyCycle⟩ pending
  case h_2 => exact hsent

theorem Drive.Sent.fly {config : Config} {passes : List (stabilizer.Motor → UInt32)}
    (hsent : drive.Sent answers booted passes) (event : Event) :
    (drive.step config (.fly event)).Sent answers booted (passes ++ (drive.computed config (.fly event)).toList) := by
  unfold Drive.step
  dsimp only
  by_cases hadmits : drive.admits event = true
  · rw [if_pos hadmits]
    obtain ⟨writes, stops, hwrites, hpending, hasked, hstops⟩ := hsent
    cases hcomputed : drive.computed config (.fly event) with
    | none => exact ⟨writes, stops, by simpa using hwrites, by simpa using hpending, hasked, hstops⟩
    | some value =>
      rw [Drive.computed_eq_some hcomputed] at hwrites ⊢
      refine ⟨writes, stops, ?_, le_refl 4, hasked, hstops⟩
      rw [List.flatMap_append, hwrites, List.append_nil]
      rfl
  · have hcomputed : drive.computed config (.fly event) = none := if_neg hadmits
    rw [if_neg hadmits, hcomputed, Option.toList_none, List.append_nil]
    exact hsent

theorem Drive.Sent.batTask (hanswers : Answered answers) {passes : List (stabilizer.Motor → UInt32)}
    (hsent : drive.Sent answers booted passes) (config : Config) (setDutyCycle : stabilizer.Motor → ℤ) :
    (batTask config setDutyCycle drive).Sent answers booted passes := by
  unfold copter.flight.batTask
  cases drive.bat with
  | tps_diag => exact hsent
  | emergency_landing val =>
    dsimp only
    split <;> exact hsent
  | emergency_shutdown val =>
    dsimp only
    split
    case isTrue => exact Drive.Sent.emergency_shutdown hanswers hsent setDutyCycle
    case isFalse => exact hsent

theorem Drive.Sent.step (hanswers : Answered answers) {config : Config} {passes : List (stabilizer.Motor → UInt32)}
    (hsent : drive.Sent answers booted passes) (event : DriveEvent) :
    (drive.step config event).Sent answers booted (passes ++ (drive.computed config event).toList) := by
  cases event with
  | fly event => exact hsent.fly event
  | motorsSetRatio setDutyCycle =>
    rw [show (drive.computed config (.motorsSetRatio setDutyCycle)).toList = [] from rfl, List.append_nil]
    exact hsent.motorsSetRatio hanswers setDutyCycle
  | tps_diag val =>
    rw [show (drive.computed config (.tps_diag val)).toList = [] from rfl, List.append_nil]
    unfold Drive.step tps_diag
    dsimp only
    split
    case isTrue => exact hsent
    case isFalse => split <;> exact hsent
  | batTask setDutyCycle =>
    rw [show (drive.computed config (.batTask setDutyCycle)).toList = [] from rfl, List.append_nil]
    unfold Drive.step
    dsimp only
    split
    case isTrue => exact hsent
    case isFalse => exact hsent.batTask hanswers config setDutyCycle
  | cpu2cpu_int3_isr setDutyCycle =>
    rw [show (drive.computed config (.cpu2cpu_int3_isr setDutyCycle)).toList = [] from rfl, List.append_nil]
    unfold Drive.step
    dsimp only
    split
    case isTrue =>
      obtain ⟨writes, stops, hwrites, hpending, hasked, hstops⟩ := hsent.emergency_shutdown hanswers setDutyCycle
      exact ⟨writes, stops, hwrites, hpending, hasked, hstops.trans (iff_of_false nofun nofun)⟩
    case isFalse => exact hsent

theorem driveAfter_sent (hanswers : Answered answers) {channels : stabilizer.Motor → UInt32}
    (hbooted : run motor_ctrl.step (some board0) (enableMotors channels answers) = some booted)
    (hunits : ∀ index, (booted.motor.unit index).pwm = (compact (handed answers))[index.val]?)
    (config : Config) (events : List DriveEvent) :
    (driveAfter config channels answers events).Sent answers booted (passes config channels answers events) := by
  induction events using List.reverseRecOn with
  | nil =>
    exact ⟨[], [], rfl, Nat.zero_le 4, ⟨booted, hbooted, (List.append_nil _).symm, hunits⟩, iff_of_true rfl rfl⟩
  | append_singleton events event ih =>
    unfold driveAfter passes at ih ⊢
    rw [transition.run_concat, projected_concat]
    exact ih.step hanswers event

end sent

/-- The step executes the shutdown. -/
def Drive.shutsDown (drive : Drive) : DriveEvent → Bool
  | .batTask _ =>
    match drive.bat with
    | .emergency_shutdown val => drive.processor != .blocked && lowVoltage val
    | _ => false
  | .cpu2cpu_int3_isr _ => drive.processor == .running
  | _ => false

theorem Drive.step_processor (config : Config) (drive : Drive) (event : DriveEvent) :
    (drive.step config event).processor = .running ↔ drive.processor = .running ∧ drive.shutsDown event = false := by
  unfold Drive.step Drive.shutsDown
  cases event with
  | fly event =>
    dsimp only
    split <;> simp
  | motorsSetRatio setDutyCycle =>
    dsimp only
    split <;> simp
  | tps_diag val =>
    unfold tps_diag
    dsimp only
    split
    case isTrue => simp
    case isFalse => split <;> simp
  | batTask setDutyCycle =>
    dsimp only
    split
    case isTrue hblocked => simp [hblocked]
    case isFalse hgoing =>
      unfold batTask
      cases drive.bat with
      | tps_diag => simp
      | emergency_landing val =>
        dsimp only
        split <;> simp
      | emergency_shutdown val =>
        dsimp only
        split
        case isTrue hlow => simp [hlow, hgoing, emergency_shutdown]
        case isFalse hhigh => simp [hhigh]
  | cpu2cpu_int3_isr setDutyCycle =>
    dsimp only
    split
    case isTrue hrunning => simp [cpu2cpu_int3_isr, hrunning]
    case isFalse hstopped => simp [hstopped]

/-- A step of the run executes the shutdown. -/
def ShutsDown (config : Config) (channels : stabilizer.Motor → UInt32) (answers : stabilizer.Motor → Answer)
    (events : List DriveEvent) : Prop :=
  ∃ entry ∈ trace (Drive.step config) (drive0 config channels answers) events, entry.1.shutsDown entry.2 = true

theorem driveAfter_processor (config : Config) (channels : stabilizer.Motor → UInt32)
    (answers : stabilizer.Motor → Answer) (events : List DriveEvent) :
    (driveAfter config channels answers events).processor = .running ↔ ¬ ShutsDown config channels answers events := by
  unfold ShutsDown
  induction events using List.reverseRecOn with
  | nil => simp [driveAfter, drive0]
  | append_singleton events event ih =>
    unfold driveAfter at ih ⊢
    rw [transition.run_concat, Drive.step_processor, ih]
    simp only [trace_concat, List.mem_append, List.mem_singleton, or_and_right, exists_or, exists_eq_left, not_or,
      Bool.not_eq_true]

/-- The event is a comparison of the battery task. -/
def DriveEvent.compares : DriveEvent → Bool
  | .batTask _ => true
  | _ => false

/-- The tasks have stopped, or the battery task has found a low voltage and stops them
    with one of its next comparisons. -/
def Drive.Stops (n : ℕ) (drive : Drive) : Prop :=
  drive.processor ≠ .running ∨
    ∃ val, lowVoltage val = true ∧
      (drive.bat = .emergency_landing val ∧ 2 ≤ n ∨ drive.bat = .emergency_shutdown val ∧ 1 ≤ n)

/-- Nothing but its next comparison moves the battery task once it has a voltage. -/
theorem Drive.step_bat {config : Config} {drive : Drive} {event : DriveEvent} (hevent : event.compares = false)
    (hread : drive.bat ≠ .tps_diag) : (drive.step config event).bat = drive.bat := by
  unfold Drive.step
  cases event with
  | fly event =>
    dsimp only
    split <;> rfl
  | motorsSetRatio setDutyCycle =>
    dsimp only
    split <;> rfl
  | tps_diag val =>
    unfold copter.flight.tps_diag
    dsimp only
    split
    case isTrue => rfl
    case isFalse =>
      split
      case h_1 hbat => exact absurd hbat hread
      case h_2 => rfl
  | batTask setDutyCycle => cases hevent
  | cpu2cpu_int3_isr setDutyCycle =>
    dsimp only
    split <;> rfl

theorem Drive.Stops.of_stopped {n : ℕ} {config : Config} {drive : Drive} (hstopped : drive.processor ≠ .running)
    (event : DriveEvent) : (drive.step config event).Stops n :=
  .inl fun hrunning => hstopped ((drive.step_processor config event).mp hrunning).1

theorem Drive.Stops.batTask {n : ℕ} {config : Config} {drive : Drive} (hstops : drive.Stops (n + 1))
    (setDutyCycle : stabilizer.Motor → ℤ) : (drive.step config (.batTask setDutyCycle)).Stops n := by
  by_cases hrunning : drive.processor = .running
  · obtain hstopped | ⟨val, hlow, hbat⟩ := hstops
    · exact absurd hrunning hstopped
    have hgoing : drive.processor ≠ .blocked := by
      rw [hrunning]
      nofun
    have hstep : drive.step config (.batTask setDutyCycle) = copter.flight.batTask config setDutyCycle drive :=
      if_neg hgoing
    rw [hstep]
    unfold copter.flight.batTask
    obtain ⟨hlanding, hn⟩ | ⟨hshutdown, hn⟩ := hbat
    · rw [hlanding]
      dsimp only
      rw [if_pos hlow]
      exact .inr ⟨val, hlow, .inr ⟨rfl, Nat.le_of_succ_le_succ hn⟩⟩
    · rw [hshutdown]
      dsimp only
      rw [if_pos hlow]
      exact .inl nofun
  · exact .of_stopped hrunning _

theorem Drive.Stops.compare {n : ℕ} {config : Config} {drive : Drive} (hstops : drive.Stops (n + 1))
    {event : DriveEvent} (hevent : event.compares = true) : (drive.step config event).Stops n := by
  cases event with
  | batTask setDutyCycle => exact hstops.batTask setDutyCycle
  | _ => cases hevent

theorem Drive.Stops.mono {n m : ℕ} (hle : n ≤ m) {drive : Drive} (hstops : drive.Stops n) : drive.Stops m := by
  obtain hstopped | ⟨val, hlow, ⟨hbat, hn⟩ | ⟨hbat, hn⟩⟩ := hstops
  · exact .inl hstopped
  · exact .inr ⟨val, hlow, .inl ⟨hbat, hn.trans hle⟩⟩
  · exact .inr ⟨val, hlow, .inr ⟨hbat, hn.trans hle⟩⟩

theorem Drive.Stops.step {n : ℕ} {config : Config} {drive : Drive} (hstops : drive.Stops n) (event : DriveEvent) :
    (drive.step config event).Stops n := by
  cases hevent : event.compares with
  | true => exact (hstops.mono n.le_succ).compare hevent
  | false =>
    obtain hstopped | ⟨val, hlow, hbat⟩ := hstops
    · exact .of_stopped hstopped _
    · have hread : drive.bat ≠ .tps_diag := by
        obtain ⟨heq, _⟩ | ⟨heq, _⟩ := hbat <;> rw [heq] <;> nofun
      exact .inr ⟨val, hlow, by rwa [Drive.step_bat hevent hread]⟩

/-- A low voltage that the battery task has read stops the motors with its next two
    comparisons, whatever runs between them. -/
theorem shutsDown_of_low {config : Config} {channels : stabilizer.Motor → UInt32}
    {answers : stabilizer.Motor → Answer} {before later : List DriveEvent} {val : Flt} (hlow : lowVoltage val = true)
    (hreads : (driveAfter config channels answers before).bat = .tps_diag)
    (hlater : 2 ≤ later.countP DriveEvent.compares) :
    ShutsDown config channels answers (before ++ .tps_diag val :: later) := by
  have hread : Drive.Stops 2 ((driveAfter config channels answers before).step config (.tps_diag val)) := by
    by_cases hrunning : (driveAfter config channels answers before).processor = .running
    · refine .inr ⟨val, hlow, .inl ⟨?_, le_refl 2⟩⟩
      unfold Drive.step tps_diag
      dsimp only
      rw [if_neg (by rw [hrunning]; nofun), hreads]
    · exact .of_stopped hrunning _
  have hkeep : ∀ n (drive : Drive) event, drive.Stops n → (drive.step config event).Stops n :=
    fun _ _ event hstops => hstops.step event
  have hstopped := run_countdown Drive.Stops DriveEvent.compares hkeep
    (fun _ _ _ hevent hstops => hstops.compare hevent) hread hlater
  by_contra hnever
  have hrun : driveAfter config channels answers (before ++ .tps_diag val :: later) =
      run (Drive.step config) ((driveAfter config channels answers before).step config (.tps_diag val)) later :=
    run_append _ _ _ _
  rw [← driveAfter_processor, hrun] at hnever
  obtain hstopped | ⟨_, _, ⟨_, hn⟩ | ⟨_, hn⟩⟩ := hstopped
  · exact hstopped hnever
  · omega
  · omega

/-- From the sensors to the driver of the motors: when the driver refuses no channel
    before one it serves, the driver is asked for the pulses of all passes, one motor
    after the other and each through the channel of its own motor, whatever comes
    between two motors; none is lost, sent twice or out of the range of the speed
    controllers. Behind a shutdown the rest of the pass is dropped and the motors only
    get pulses of zero; Linux rings it in at once, and the battery task within two
    comparisons after it has read 9 V or less. -/
theorem drive_pulses {answers : stabilizer.Motor → Answer} (hanswers : Answered answers)
    {events : List DriveEvent} (hevents : ∀ event ∈ events, event.RefusesNaN) (config : Config)
    (channels : stabilizer.Motor → UInt32) :
    ∃ (booted after : Board) (writes : List Write) (unset : List (stabilizer.Motor × UInt32))
      (stops : List (stabilizer.Motor → ℤ)),
      run motor_ctrl.step (some board0) (enableMotors channels answers) = some booted ∧
      (driveAfter config channels answers events).board = some after ∧
      after.log = booted.log ++ (writes.map (Write.driven fun motor => (answers motor).pwm) ++
        stops.flatMap fun setDutyCycle => (zero setDutyCycle).driven fun motor => (answers motor).pwm) ∧
      (passes config channels answers events).flatMap sweep = writes.map Write.setting ++ unset ∧ unset.length ≤ 4 ∧
      (∀ value ∈ passes config channels answers events, InEscRange config.esc value) ∧
      (stops ≠ [] ↔ ShutsDown config channels answers events) ∧
      ∀ before val later, events = before ++ .tps_diag val :: later → lowVoltage val = true →
        (driveAfter config channels answers before).bat = .tps_diag → 2 ≤ later.countP DriveEvent.compares →
        stops ≠ [] := by
  obtain ⟨booted, hbooted, hunits⟩ := enableMotors_compact channels answers
  obtain ⟨writes, stops, hwrites, hunset, ⟨after, hafter, hlog, _⟩, hstops⟩ :=
    driveAfter_sent hanswers hbooted hunits config events
  rw [driveAfter_processor] at hstops
  have hshutsDown : stops ≠ [] ↔ ShutsDown config channels answers events := by rw [ne_eq, hstops, not_not]
  refine ⟨booted, after, writes, _, stops, hbooted, hafter, hlog, hwrites, hunset,
    passes_inEscRange hevents config channels answers, hshutsDown, ?_⟩
  rintro before val later rfl hlow hreads hlater
  exact hshutsDown.mpr (shutsDown_of_low hlow hreads hlater)

/-- The four channels of the build, each served with a unit of the same number. -/
def channels : stabilizer.Motor → UInt32
  | .MOTOR_M1 => 3
  | .MOTOR_M2 => 6
  | .MOTOR_M3 => 2
  | .MOTOR_M4 => 0

def served (motor : stabilizer.Motor) : Answer where
  pwm := some (channels motor).toNat
  setPeriod := 0
  setDutyCycle := 0

/-- The self test and a pass, then a battery at 8.5 V between two motors. -/
def draining : List DriveEvent :=
  calibrating.map .fly ++
    [.motorsSetRatio 0, .tps_diag (.finite (17 / 2)), .motorsSetRatio 0, .batTask fun _ => 0, .motorsSetRatio 0,
      .batTask fun _ => 0, .motorsSetRatio 0, .fly (.stabilizerTask resting)]

theorem drive_pulses_draining :
    ∃ (booted after : Board) (writes : List Write) (unset : List (stabilizer.Motor × UInt32))
      (stops : List (stabilizer.Motor → ℤ)),
      run motor_ctrl.step (some board0) (enableMotors channels served) = some booted ∧
      (driveAfter board channels served draining).board = some after ∧
      after.log = booted.log ++ (writes.map (Write.driven fun motor => (served motor).pwm) ++
        stops.flatMap fun setDutyCycle => (zero setDutyCycle).driven fun motor => (served motor).pwm) ∧
      (passes board channels served draining).flatMap sweep = writes.map Write.setting ++ unset ∧ unset.length ≤ 4 ∧
      (∀ value ∈ passes board channels served draining, InEscRange board.esc value) ∧
      (stops ≠ [] ↔ ShutsDown board channels served draining) ∧
      ∀ before val later, draining = before ++ .tps_diag val :: later → lowVoltage val = true →
        (driveAfter board channels served before).bat = .tps_diag → 2 ≤ later.countP DriveEvent.compares →
        stops ≠ [] := by
  have hanswers : Answered served := fun _ _ _ hrefused => nomatch hrefused
  have hevents : ∀ event ∈ draining, event.RefusesNaN := by
    unfold draining
    simp only [List.forall_mem_append, List.forall_mem_map]
    refine ⟨calibrating_refusesNaN, ?_⟩
    simp [DriveEvent.RefusesNaN, RefusesNaN]
  exact drive_pulses hanswers hevents board channels

end copter.flight
