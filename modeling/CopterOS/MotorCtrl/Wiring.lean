import CopterOS.Lib.Compaction
import CopterOS.Lib.Slots
import CopterOS.MotorCtrl
import CopterOS.Stabilizer.Power

open transition compaction copter.stabilizer

namespace copter.motor_ctrl

/-- The four motors, in the order the start-up enables them and a pass sets them. -/
def motors : List stabilizer.Motor := [.MOTOR_M1, .MOTOR_M2, .MOTOR_M3, .MOTOR_M4]

/-- The table `motor.id`. -/
def motorId : stabilizer.Motor → UInt32
  | .MOTOR_M1 => 0
  | .MOTOR_M2 => 1
  | .MOTOR_M3 => 2
  | .MOTOR_M4 => 3

/-- What the driver answers when a channel is enabled. -/
structure Answer where
  pwm : Option Pwm
  setPeriod : ℤ
  setDutyCycle : ℤ

/-- The start-up enables the four configured channels and looks at no result. -/
def enableMotors (channels : stabilizer.Motor → UInt32) (answers : stabilizer.Motor → Answer) : List Call :=
  motors.map fun motor =>
    .motor_enable (channels motor) (answers motor).pwm (answers motor).setPeriod (answers motor).setDutyCycle

/-- The four calls of `motor_set` in one pass, with the driver's results. -/
structure Setting where
  value : stabilizer.Motor → UInt32
  setDutyCycle : stabilizer.Motor → ℤ

def Setting.calls (pass : Setting) : List Call :=
  motors.map fun motor => .motor_set (motorId motor) (pass.value motor) (pass.setDutyCycle motor)

/-- What the driver is asked for in one pass when each motor has the given unit. -/
def Setting.driven (unit : stabilizer.Motor → Option Pwm) (pass : Setting) : List PwmCall :=
  motors.map fun motor => .pwm_setDutyCycle (unit motor) (pass.value motor) (pass.setDutyCycle motor)

/-- The first slot without a unit is the one behind those the driver has handed out. -/
theorem freeSlot_of_compact {motor : Motor} {units : List Pwm}
    (hunits : ∀ index, (motor.unit index).pwm = units[index.val]?) :
    motor.freeSlot = if hfree : units.length < MOTOR_MAX_CHANNELS then some ⟨units.length, hfree⟩ else none :=
  slots.find?_of_getElem? fun index => congrArg Option.isNone (hunits index)

/-- One more channel is enabled: its unit goes behind those handed out before. -/
theorem motor_enable_compact {motor : Motor} {units : List Pwm}
    (hunits : ∀ index, (motor.unit index).pwm = units[index.val]?) (pwm : Option Pwm) (setPeriod setDutyCycle : ℤ)
    (id : UInt32) :
    ∃ outcome, motor_enable pwm setPeriod setDutyCycle motor id = some outcome ∧
      ∀ index, (outcome.motor.unit index).pwm = (units ++ pwm.toList)[index.val]? := by
  have hfree := freeSlot_of_compact hunits
  split at hfree
  case isTrue hlength =>
    refine ⟨_, motor_enable_of_free hfree pwm setPeriod setDutyCycle id, ?_⟩
    intro index
    by_cases hindex : index = ⟨units.length, hlength⟩
    · subst hindex
      rw [setUnit_same]
      cases pwm <;> simp
    · have hne : index.val ≠ units.length := fun heq => hindex (Fin.ext heq)
      rw [setUnit_other hindex, hunits]
      cases pwm with
      | none => simp
      | some handle =>
        rcases lt_or_gt_of_ne hne with hlt | hgt
        · rw [List.getElem?_append_left hlt]
        · rw [List.getElem?_eq_none (by omega), List.getElem?_eq_none (by simp; omega)]
  case isFalse hlength =>
    refine ⟨_, motor_enable_of_full hfree pwm setPeriod setDutyCycle id, ?_⟩
    intro index
    have hindex := index.isLt
    rw [hunits, List.getElem?_append_left (by omega)]

theorem enabled_compact (calls : List (UInt32 × Answer)) :
    ∃ board, run step (some board0) (calls.map fun call =>
        .motor_enable call.1 call.2.pwm call.2.setPeriod call.2.setDutyCycle) = some board ∧
      ∀ index, (board.motor.unit index).pwm = (compact (calls.map fun call => call.2.pwm))[index.val]? := by
  induction calls using List.reverseRecOn with
  | nil => exact ⟨board0, rfl, fun index => by simp [board0, motor_init, m]⟩
  | append_singleton calls call ih =>
    obtain ⟨board, hrun, hunits⟩ := ih
    obtain ⟨id, answer⟩ := call
    obtain ⟨outcome, henable, hafter⟩ :=
      motor_enable_compact hunits answer.pwm answer.setPeriod answer.setDutyCycle id
    refine ⟨{ motor := outcome.motor, log := board.log ++ outcome.calls }, ?_, ?_⟩
    · rw [List.map_append, run_append, hrun]
      exact step_of_outcome henable
    · intro index
      rw [List.map_append, List.map_singleton, compact_concat]
      exact hafter index

theorem unit?_motorId (motor : stabilizer.Motor) : ∃ index, unit? (motorId motor) = some index ∧
    index.val = (motorId motor).toNat := by
  cases motor <;> exact ⟨_, rfl, rfl⟩

/-- A call of `motor_set` for a motor reaches the unit of its slot, and leaves every
    slot its unit. -/
theorem run_motor_set {board : Board} {units : List Pwm}
    (hunits : ∀ index, (board.motor.unit index).pwm = units[index.val]?) (motor : stabilizer.Motor)
    (value : UInt32) (setDutyCycle : ℤ) :
    ∃ next, step (some board) (.motor_set (motorId motor) value setDutyCycle) = some next ∧
      next.log = board.log ++ [.pwm_setDutyCycle units[(motorId motor).toNat]? value setDutyCycle] ∧
      ∀ index, (next.motor.unit index).pwm = units[index.val]? := by
  obtain ⟨slot, hslot, hval⟩ := unit?_motorId motor
  have hset := motor_set_of_unit hslot setDutyCycle board.motor value
  refine ⟨_, step_of_outcome hset, ?_, ?_⟩
  · rw [hunits, hval]
  · intro index
    rw [← hunits index]
    exact (motor_set_lines hset index).2

theorem run_motor_sets {board : Board} {units : List Pwm}
    (hunits : ∀ index, (board.motor.unit index).pwm = units[index.val]?) (pass : Setting)
    (order : List stabilizer.Motor) :
    ∃ after, run step (some board) (order.map fun motor =>
        .motor_set (motorId motor) (pass.value motor) (pass.setDutyCycle motor)) = some after ∧
      (after.log = board.log ++ order.map fun motor =>
        .pwm_setDutyCycle units[(motorId motor).toNat]? (pass.value motor) (pass.setDutyCycle motor)) ∧
      ∀ index, (after.motor.unit index).pwm = units[index.val]? := by
  induction order generalizing board with
  | nil => exact ⟨board, rfl, by simp, hunits⟩
  | cons motor order ih =>
    obtain ⟨next, hnext, hlogNext, hunitsNext⟩ :=
      run_motor_set hunits motor (pass.value motor) (pass.setDutyCycle motor)
    obtain ⟨after, hafter, hlog, hunitsAfter⟩ := ih hunitsNext
    refine ⟨after, ?_, ?_, hunitsAfter⟩
    · rw [List.map_cons, run_cons, hnext]
      exact hafter
    · rw [hlog, hlogNext, List.map_cons, List.append_assoc]
      rfl

/-- The passes reach the units of the four slots, in the order of the motors. -/
theorem run_passes {board : Board} {units : List Pwm}
    (hunits : ∀ index, (board.motor.unit index).pwm = units[index.val]?) (passes : List Setting) :
    ∃ after, run step (some board) (passes.flatMap Setting.calls) = some after ∧
      after.log = board.log ++ passes.flatMap (Setting.driven fun motor => units[(motorId motor).toNat]?) := by
  induction passes generalizing board with
  | nil => exact ⟨board, rfl, by simp⟩
  | cons pass passes ih =>
    obtain ⟨next, hnext, hlogNext, hunitsNext⟩ := run_motor_sets hunits pass motors
    obtain ⟨after, hafter, hlog⟩ := ih hunitsNext
    refine ⟨after, ?_, ?_⟩
    · rw [List.flatMap_cons, run_append]
      exact (congrArg (run step · _) hnext).trans hafter
    · rw [hlog, hlogNext, List.flatMap_cons, List.append_assoc]
      rfl

/-- The units the driver has handed out, in the order of the motors. -/
def handed (answers : stabilizer.Motor → Answer) : List (Option Pwm) := motors.map fun motor => (answers motor).pwm

theorem handed_getElem? (answers : stabilizer.Motor → Answer) (motor : stabilizer.Motor) :
    (handed answers)[(motorId motor).toNat]?.join = (answers motor).pwm := by
  cases motor <;> rfl

/-- The slots behind those of the motors stay empty. -/
theorem compact_handed_iff (answers : stabilizer.Motor → Answer) :
    (∀ k : ℕ, (compact (handed answers))[k]? = (handed answers)[k]?.join) ↔
      ∀ motor, (compact (handed answers))[(motorId motor).toNat]? = (answers motor).pwm := by
  constructor
  · intro hplaces motor
    rw [hplaces, handed_getElem?]
  · intro hmotors k
    have hcompact : (compact (handed answers)).length ≤ 4 := List.length_filterMap_le _ _
    match k with
    | 0 => exact hmotors .MOTOR_M1
    | 1 => exact hmotors .MOTOR_M2
    | 2 => exact hmotors .MOTOR_M3
    | 3 => exact hmotors .MOTOR_M4
    | k + 4 =>
      have hhanded : (handed answers).length = 4 := rfl
      rw [List.getElem?_eq_none (by omega), List.getElem?_eq_none (by omega)]
      rfl

theorem driven_injective (pass : Setting) {left right : stabilizer.Motor → Option Pwm}
    (hsame : pass.driven left = pass.driven right) : left = right := by
  unfold Setting.driven motors at hsame
  simp only [List.map_cons, List.map_nil, List.cons.injEq, PwmCall.pwm_setDutyCycle.injEq] at hsame
  obtain ⟨⟨h1, _⟩, ⟨h2, _⟩, ⟨h3, _⟩, ⟨h4, _⟩, _⟩ := hsame
  funext motor
  cases motor <;> assumption

theorem gapless_handed_iff (answers : stabilizer.Motor → Answer) :
    Gapless (handed answers) ↔ ∀ first second, motorId first < motorId second →
      (answers first).pwm = none → (answers second).pwm = none := by
  unfold Gapless handed motors
  simp only [List.map_cons, List.map_nil, List.pairwise_cons, List.Pairwise.nil, List.mem_cons, List.not_mem_nil,
    or_false, forall_eq_or_imp, forall_eq]
  constructor
  · rintro ⟨⟨h12, h13, h14⟩, ⟨h23, h24⟩, h34, _⟩ first second hlt
    cases first <;> cases second <;> first | assumption | exact absurd hlt (by decide)
  · intro hgap
    exact ⟨⟨hgap _ _ (by decide), hgap _ _ (by decide), hgap _ _ (by decide)⟩,
      ⟨hgap _ _ (by decide), hgap _ _ (by decide)⟩, hgap _ _ (by decide), nofun, trivial⟩

/-- After the start-up the slots hold the units that have been handed out, moved
    together over those that were refused. -/
theorem enableMotors_compact (channels : stabilizer.Motor → UInt32) (answers : stabilizer.Motor → Answer) :
    ∃ booted, run step (some board0) (enableMotors channels answers) = some booted ∧
      ∀ index, (booted.motor.unit index).pwm = (compact (handed answers))[index.val]? := by
  have hcompact := enabled_compact (motors.map fun motor => (channels motor, answers motor))
  rwa [List.map_map, List.map_map] at hcompact

theorem run_enableMotors (channels : stabilizer.Motor → UInt32) (answers : stabilizer.Motor → Answer)
    (passes : List Setting) :
    ∃ booted after, run step (some board0) (enableMotors channels answers) = some booted ∧
      run step (some board0) (enableMotors channels answers ++ passes.flatMap Setting.calls) = some after ∧
      after.log = booted.log ++
        passes.flatMap (Setting.driven fun motor => (compact (handed answers))[(motorId motor).toNat]?) := by
  obtain ⟨booted, hbooted, hunits⟩ := enableMotors_compact channels answers
  obtain ⟨after, hafter, hlog⟩ := run_passes hunits passes
  refine ⟨booted, after, hbooted, ?_, hlog⟩
  rw [run_append]
  exact (congrArg (run step · _) hbooted).trans hafter

/-- No refused channel comes before one that is served. -/
def Answered (answers : stabilizer.Motor → Answer) : Prop :=
  ∀ first second, motorId first < motorId second → (answers first).pwm = none → (answers second).pwm = none

theorem answered_iff (answers : stabilizer.Motor → Answer) :
    Answered answers ↔ ∀ motor, (compact (handed answers))[(motorId motor).toNat]? = (answers motor).pwm := by
  rw [← compact_handed_iff, compact_getElem?_iff, gapless_handed_iff]
  rfl

/-- Every motor is driven through the unit of its own configured channel. -/
def Wired (channels : stabilizer.Motor → UInt32) (answers : stabilizer.Motor → Answer) : Prop :=
  ∀ passes : List Setting, ∃ booted after, run step (some board0) (enableMotors channels answers) = some booted ∧
    run step (some board0) (enableMotors channels answers ++ passes.flatMap Setting.calls) = some after ∧
    after.log = booted.log ++ passes.flatMap (Setting.driven fun motor => (answers motor).pwm)

/-- The start-up looks at no result of `motor_enable`, so a channel without a unit
    leaves its slot to the next one: the motors are driven through their own channels
    exactly when no refused channel comes before one that is served. -/
theorem wired_iff (channels : stabilizer.Motor → UInt32) (answers : stabilizer.Motor → Answer) :
    Wired channels answers ↔ Answered answers := by
  rw [answered_iff]
  constructor
  · intro hwired
    let pass : Setting := ⟨fun _ => 0, fun _ => 0⟩
    obtain ⟨booted, after, hbooted, hafter, hlog⟩ := hwired [pass]
    obtain ⟨booted', after', hbooted', hafter', hlog'⟩ := run_enableMotors channels answers [pass]
    obtain rfl := Option.some.inj (hbooted.symm.trans hbooted')
    obtain rfl := Option.some.inj (hafter.symm.trans hafter')
    have hdriven := List.append_cancel_left (hlog'.symm.trans hlog)
    rw [List.flatMap_singleton, List.flatMap_singleton] at hdriven
    exact fun motor => congrFun (driven_injective pass hdriven) motor
  · intro hplaces passes
    have hunits : (fun motor => (compact (handed answers))[(motorId motor).toNat]?) =
        fun motor => (answers motor).pwm := funext hplaces
    obtain ⟨booted, after, hbooted, hafter, hlog⟩ := run_enableMotors channels answers passes
    rw [hunits] at hlog
    exact ⟨booted, after, hbooted, hafter, hlog⟩

end copter.motor_ctrl
