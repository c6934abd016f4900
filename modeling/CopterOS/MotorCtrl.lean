import CopterOS.Lib.Run
import Mathlib.Logic.Function.Basic
import Mathlib.Data.List.FinRange

open transition

namespace copter.motor_ctrl

abbrev MOTOR_MAX_CHANNELS : ℕ := 8

/-- Handle of a PWM unit. -/
abbrev Pwm := ℕ

structure MotorUnit where
  pwm : Option Pwm
  enable : Bool
  value : UInt32
  deriving DecidableEq

structure Motor where
  init : Bool
  unit : Fin MOTOR_MAX_CHANNELS → MotorUnit

/-- The static table before its initialization. -/
def m : Motor where
  init := false
  unit _ := { pwm := none, enable := false, value := 0 }

def motor_init (motor : Motor) : Motor :=
  if motor.init then motor
  else { init := true, unit := fun _ => { pwm := none, enable := false, value := 0 } }

/-- A call of the PWM driver with its result. -/
inductive PwmCall where
  | pwm_init (id : UInt32) (pwm : Option Pwm)
  | pwm_setPeriod (pwm : Option Pwm) (us : UInt32) (ret : ℤ)
  | pwm_setDutyCycle (pwm : Option Pwm) (us : UInt32) (ret : ℤ)
  deriving DecidableEq

/-- The result of a call, the table it leaves and the driver calls it makes. -/
structure Outcome where
  ret : ℤ
  motor : Motor
  calls : List PwmCall

/-- The unit an index names. An index without one accesses memory outside the
    table. -/
def unit? (id : UInt32) : Option (Fin MOTOR_MAX_CHANNELS) :=
  if hid : id.toNat < MOTOR_MAX_CHANNELS then some ⟨id.toNat, hid⟩ else none

def Motor.setUnit (motor : Motor) (index : Fin MOTOR_MAX_CHANNELS) (unit : MotorUnit) : Motor :=
  { motor with unit := Function.update motor.unit index unit }

/-- The call has no outcome when it accesses memory outside the table, and
    `setDutyCycle` is the result of `pwm_setDutyCycle`. -/
def motor_set (setDutyCycle : ℤ) (motor : Motor) (id value : UInt32) : Option Outcome := do
  if id.toNat > MOTOR_MAX_CHANNELS then
    let index ← unit? id
    if !(motor.unit index).enable then
      return { ret := -1, motor := motor, calls := [] }
  let index ← unit? id
  let unit := { motor.unit index with value := value }
  return {
    ret := setDutyCycle, motor := motor.setUnit index unit,
    calls := [.pwm_setDutyCycle unit.pwm value setDutyCycle] }

/-- The first unit without a PWM unit. -/
def Motor.freeSlot (motor : Motor) : Option (Fin MOTOR_MAX_CHANNELS) :=
  (List.finRange MOTOR_MAX_CHANNELS).find? fun index => (motor.unit index).pwm.isNone

/-- The driver calls return `pwm`, `setPeriod` and `setDutyCycle`. -/
def motor_enable (pwm : Option Pwm) (setPeriod setDutyCycle : ℤ) (motor : Motor) (id : UInt32) :
    Option Outcome :=
  match motor.freeSlot with
  | none => some { ret := -1, motor := motor, calls := [] }
  | some index =>
    let motor := motor.setUnit index { motor.unit index with enable := true }
    let motor := motor.setUnit index { motor.unit index with pwm := pwm }
    let calls := [.pwm_init id pwm, .pwm_setPeriod pwm 20000 setPeriod]
    if setPeriod < 0 then some { ret := setPeriod, motor := motor, calls := calls }
    else do
      let outcome ← motor_set setDutyCycle motor (UInt32.ofNat index) (motor.unit index).value
      return { outcome with calls := calls ++ outcome.calls }

def motor_disable (setDutyCycle : ℤ) (motor : Motor) (id : UInt32) : Option Outcome :=
  if id.toNat > MOTOR_MAX_CHANNELS then some { ret := -1, motor := motor, calls := [] }
  else do
    let index ← unit? id
    let motor := motor.setUnit index { motor.unit index with enable := false }
    motor_set setDutyCycle motor id 0

/-- A call of the module with the results of the driver calls it makes. -/
inductive Call where
  | motor_enable (id : UInt32) (pwm : Option Pwm) (setPeriod setDutyCycle : ℤ)
  | motor_disable (id : UInt32) (setDutyCycle : ℤ)
  | motor_set (id value : UInt32) (setDutyCycle : ℤ)
  deriving DecidableEq

def perform (motor : Motor) : Call → Option Outcome
  | .motor_enable id pwm setPeriod setDutyCycle =>
    copter.motor_ctrl.motor_enable pwm setPeriod setDutyCycle motor id
  | .motor_disable id setDutyCycle => copter.motor_ctrl.motor_disable setDutyCycle motor id
  | .motor_set id value setDutyCycle => copter.motor_ctrl.motor_set setDutyCycle motor id value

/-- The table together with all driver calls made so far. -/
structure Board where
  motor : Motor
  log : List PwmCall

/-- Nothing is known about the board after an access outside the table. -/
def step (board : Option Board) (call : Call) : Option Board := do
  let board ← board
  let outcome ← perform board.motor call
  return { motor := outcome.motor, log := board.log ++ outcome.calls }

def board0 : Board where
  motor := motor_init m
  log := []

/-- The steps of a sequence of calls that starts on the empty table. -/
def history (calls : List Call) : List (Option Board × Call) := trace step (some board0) calls

@[simp] theorem setUnit_same (motor : Motor) (index : Fin MOTOR_MAX_CHANNELS) (unit : MotorUnit) :
    (motor.setUnit index unit).unit index = unit := by
  simp [Motor.setUnit]

theorem setUnit_other {index other : Fin MOTOR_MAX_CHANNELS} (hother : other ≠ index) (motor : Motor)
    (unit : MotorUnit) : (motor.setUnit index unit).unit other = motor.unit other := by
  simp [Motor.setUnit, hother]

@[simp] theorem setUnit_setUnit (motor : Motor) (index : Fin MOTOR_MAX_CHANNELS) (first second : MotorUnit) :
    (motor.setUnit index first).setUnit index second = motor.setUnit index second := by
  simp [Motor.setUnit]

theorem unit?_eq_some_iff (id : UInt32) (index : Fin MOTOR_MAX_CHANNELS) :
    unit? id = some index ↔ id.toNat = index.val := by
  unfold unit?
  split
  case isTrue hid => simp [Fin.ext_iff]
  case isFalse hid =>
    have hindex := index.isLt
    simp
    omega

theorem unit?_eq_none_iff (id : UInt32) : unit? id = none ↔ MOTOR_MAX_CHANNELS ≤ id.toNat := by
  simp [unit?]

@[simp] theorem unit?_ofNat (index : Fin MOTOR_MAX_CHANNELS) : unit? (UInt32.ofNat index) = some index := by
  have hindex : index.val < 8 := index.isLt
  rw [unit?_eq_some_iff]
  simp
  omega

/-- Inside the table the call writes the value and drives the channel, whatever
    the channel's flag says. -/
theorem motor_set_of_unit {id : UInt32} {index : Fin MOTOR_MAX_CHANNELS} (hid : unit? id = some index)
    (setDutyCycle : ℤ) (motor : Motor) (value : UInt32) :
    motor_set setDutyCycle motor id value = some {
      ret := setDutyCycle
      motor := motor.setUnit index { motor.unit index with value := value }
      calls := [.pwm_setDutyCycle (motor.unit index).pwm value setDutyCycle] } := by
  have hindex := index.isLt
  have hval := (unit?_eq_some_iff id index).mp hid
  have hrange : ¬ id.toNat > MOTOR_MAX_CHANNELS := by omega
  simp [motor_set, hrange, hid]

/-- Outside the table both the test of the flag and the write access memory that
    does not belong to it. -/
theorem motor_set_of_no_unit {id : UInt32} (hid : unit? id = none) (setDutyCycle : ℤ) (motor : Motor)
    (value : UInt32) : motor_set setDutyCycle motor id value = none := by
  simp [motor_set, hid]

theorem motor_disable_of_unit {id : UInt32} {index : Fin MOTOR_MAX_CHANNELS} (hid : unit? id = some index)
    (setDutyCycle : ℤ) (motor : Motor) :
    motor_disable setDutyCycle motor id = some {
      ret := setDutyCycle
      motor := motor.setUnit index { motor.unit index with enable := false, value := 0 }
      calls := [.pwm_setDutyCycle (motor.unit index).pwm 0 setDutyCycle] } := by
  have hindex := index.isLt
  have hval := (unit?_eq_some_iff id index).mp hid
  have hrange : ¬ id.toNat > MOTOR_MAX_CHANNELS := by omega
  simp [motor_disable, hrange, hid, motor_set_of_unit hid]

theorem motor_disable_of_gt {id : UInt32} (hid : MOTOR_MAX_CHANNELS < id.toNat) (setDutyCycle : ℤ)
    (motor : Motor) :
    motor_disable setDutyCycle motor id = some { ret := -1, motor := motor, calls := [] } := by
  simp [motor_disable, hid]

/-- The range test lets the first index behind the table pass. -/
theorem motor_disable_of_eq {id : UInt32} (hid : id.toNat = MOTOR_MAX_CHANNELS) (setDutyCycle : ℤ)
    (motor : Motor) : motor_disable setDutyCycle motor id = none := by
  have hnone : unit? id = none := (unit?_eq_none_iff id).mpr (by omega)
  simp [motor_disable, hid, hnone]

theorem motor_enable_of_full {motor : Motor} (hfull : motor.freeSlot = none) (pwm : Option Pwm)
    (setPeriod setDutyCycle : ℤ) (id : UInt32) :
    motor_enable pwm setPeriod setDutyCycle motor id =
      some { ret := -1, motor := motor, calls := [] } := by
  simp [motor_enable, hfull]

/-- The table after a call that has found a free slot does not depend on the
    results of the two later driver calls. -/
theorem motor_enable_of_free {motor : Motor} {index : Fin MOTOR_MAX_CHANNELS}
    (hfree : motor.freeSlot = some index) (pwm : Option Pwm) (setPeriod setDutyCycle : ℤ) (id : UInt32) :
    motor_enable pwm setPeriod setDutyCycle motor id = some {
      ret := if setPeriod < 0 then setPeriod else setDutyCycle
      motor := motor.setUnit index { motor.unit index with enable := true, pwm := pwm }
      calls := [.pwm_init id pwm, .pwm_setPeriod pwm 20000 setPeriod] ++
        if setPeriod < 0 then [] else [.pwm_setDutyCycle pwm (motor.unit index).value setDutyCycle] } := by
  by_cases hperiod : setPeriod < 0
  · simp [motor_enable, hfree, hperiod]
  · simp [motor_enable, hfree, hperiod, motor_set_of_unit (unit?_ofNat index)]

theorem freeSlot_eq_none_iff (motor : Motor) :
    motor.freeSlot = none ↔ ∀ index, (motor.unit index).pwm.isSome = true := by
  simp [Motor.freeSlot, Option.isSome_iff_ne_none]

theorem freeSlot_pwm {motor : Motor} {index : Fin MOTOR_MAX_CHANNELS}
    (hfree : motor.freeSlot = some index) : (motor.unit index).pwm = none := by
  simpa using List.find?_some hfree

/-- A set call changes no flag and no PWM handle. -/
theorem motor_set_lines {setDutyCycle : ℤ} {motor : Motor} {id value : UInt32} {outcome : Outcome}
    (hset : motor_set setDutyCycle motor id value = some outcome) (index : Fin MOTOR_MAX_CHANNELS) :
    (outcome.motor.unit index).enable = (motor.unit index).enable ∧
      (outcome.motor.unit index).pwm = (motor.unit index).pwm := by
  cases hid : unit? id with
  | none => simp [motor_set_of_no_unit hid] at hset
  | some target =>
    obtain rfl := Option.some.inj ((motor_set_of_unit hid setDutyCycle motor value).symm.trans hset)
    by_cases hindex : index = target
    · simp [hindex]
    · simp [setUnit_other hindex]

/-- A disable call clears the flag of the unit it names, and nothing else. -/
theorem motor_disable_lines {setDutyCycle : ℤ} {motor : Motor} {id : UInt32} {outcome : Outcome}
    (hdisable : motor_disable setDutyCycle motor id = some outcome) (index : Fin MOTOR_MAX_CHANNELS) :
    (outcome.motor.unit index).enable =
        (if unit? id = some index then false else (motor.unit index).enable) ∧
      (outcome.motor.unit index).pwm = (motor.unit index).pwm := by
  cases hid : unit? id with
  | none =>
    have hrange := (unit?_eq_none_iff id).mp hid
    rcases hrange.lt_or_eq with hgt | heq
    · obtain rfl := Option.some.inj ((motor_disable_of_gt hgt setDutyCycle motor).symm.trans hdisable)
      simp
    · simp [motor_disable_of_eq heq.symm] at hdisable
  | some target =>
    obtain rfl := Option.some.inj ((motor_disable_of_unit hid setDutyCycle motor).symm.trans hdisable)
    by_cases hindex : index = target
    · simp [hindex]
    · simp [setUnit_other hindex, Ne.symm hindex]

/-- An enable call, failing or not, sets the flag and the handle of the free
    slot. -/
theorem motor_enable_lines {pwm : Option Pwm} {setPeriod setDutyCycle : ℤ} {motor : Motor} {id : UInt32}
    {outcome : Outcome} (henable : motor_enable pwm setPeriod setDutyCycle motor id = some outcome)
    (index : Fin MOTOR_MAX_CHANNELS) :
    (outcome.motor.unit index).enable =
        (if motor.freeSlot = some index then true else (motor.unit index).enable) ∧
      (outcome.motor.unit index).pwm =
        (if motor.freeSlot = some index then pwm else (motor.unit index).pwm) := by
  cases hfree : motor.freeSlot with
  | none =>
    obtain rfl :=
      Option.some.inj ((motor_enable_of_full hfree pwm setPeriod setDutyCycle id).symm.trans henable)
    simp
  | some target =>
    obtain rfl :=
      Option.some.inj ((motor_enable_of_free hfree pwm setPeriod setDutyCycle id).symm.trans henable)
    by_cases hindex : index = target
    · simp [hindex]
    · simp [setUnit_other hindex, Ne.symm hindex]

theorem step_of_outcome {board : Board} {call : Call} {outcome : Outcome}
    (hperform : perform board.motor call = some outcome) :
    step (some board) call = some { motor := outcome.motor, log := board.log ++ outcome.calls } := by
  simp [step, hperform]

theorem step_eq_some {board next : Board} {call : Call} (hstep : step (some board) call = some next) :
    ∃ outcome, perform board.motor call = some outcome ∧ next.motor = outcome.motor ∧
      next.log = board.log ++ outcome.calls := by
  cases hperform : perform board.motor call with
  | none => simp [step, hperform] at hstep
  | some outcome =>
    obtain rfl := Option.some.inj ((step_of_outcome hperform).symm.trans hstep)
    exact ⟨outcome, rfl, rfl, rfl⟩

end copter.motor_ctrl
