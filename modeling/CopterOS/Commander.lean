import Mathlib.Data.Rat.Defs

namespace copter.commander

def EULER_ROLL_MAX : ℚ := 15
def EULER_PITCH_MAX : ℚ := 15
def EULER_YAW_MAX : ℚ := 130

/-- Stabilization type of one axis. -/
inductive RPYType where
  | RATE
  | ANGLE
  deriving DecidableEq

/-- The functions the copter installs as thrust source. -/
inductive ThrustCallback where
  | rcComm_GetThrust
  | linuxComm_GetThrust
  | batThrustContoll
  deriving DecidableEq

/-- The functions the copter installs as roll, pitch and yaw source. -/
inductive RPYCallback where
  | rcComm_GetRPY
  | linuxComm_GetRPY
  deriving DecidableEq

/-- One roll, pitch and yaw triple. -/
structure RPY (A : Type) where
  roll : A
  pitch : A
  yaw : A
  deriving DecidableEq

/-- The state of the commander over the callbacks that can be installed. A
    null function pointer is `none`. -/
structure Commander (T R : Type) where
  isInit : Bool
  thrustLocked : Bool
  getThrust : Option T
  getRPY : Option R
  stabilizationModeRoll : RPYType
  stabilizationModePitch : RPYType
  stabilizationModeYaw : RPYType
  deriving DecidableEq

/-- The static initial value, with the flag that is not named cleared. -/
def comm {T R : Type} : Commander T R where
  isInit := false
  thrustLocked := false
  getThrust := none
  getRPY := none
  stabilizationModeRoll := .ANGLE
  stabilizationModePitch := .ANGLE
  stabilizationModeYaw := .RATE

def commanderInit {T R : Type} (comm : Commander T R) : Commander T R :=
  if comm.isInit then comm else { comm with thrustLocked := false, isInit := true }

/-- The installed source is called on the state it reads and changes; without
    one the attitude is zero. -/
def commanderGetRPY {T R S A : Type} [Zero A] (call : R → S → RPY A) (comm : Commander T R) (s : S) :
    RPY A :=
  match comm.getRPY with
  | some callback => call callback s
  | none => ⟨0, 0, 0⟩

def commanderGetRPYType {T R : Type} (comm : Commander T R) : RPY RPYType :=
  ⟨comm.stabilizationModeRoll, comm.stabilizationModePitch, comm.stabilizationModeYaw⟩

def commanderSetRPYType {T R : Type} (rollType pitchType yawType : RPYType) (comm : Commander T R) :
    Commander T R :=
  { comm with
    stabilizationModeRoll := rollType
    stabilizationModePitch := pitchType
    stabilizationModeYaw := yawType }

/-- The installed source is called on the state it reads and changes; without
    one the thrust is zero. -/
def commanderGetThrust {T R S : Type} (call : T → S → UInt16 × S) (comm : Commander T R) (s : S) :
    UInt16 × S :=
  match comm.getThrust with
  | some callback => call callback s
  | none => (0, s)

def commanderLockThrust {T R : Type} (callback : Option T) (lock : Bool) (comm : Commander T R) :
    Commander T R :=
  { comm with thrustLocked := lock, getThrust := callback }

def commanderSetThrust {T R : Type} (callback : Option T) (comm : Commander T R) : Commander T R :=
  if !comm.thrustLocked then { comm with getThrust := callback } else comm

def commanderSetRPY {T R : Type} (callback : Option R) (comm : Commander T R) : Commander T R :=
  { comm with getRPY := callback }

/-- Once initialized, another initialization changes nothing. -/
theorem commanderInit_of_isInit {T R : Type} {comm : Commander T R} (hinit : comm.isInit = true) :
    commanderInit comm = comm := by
  simp [commanderInit, hinit]

/-- The first initialization clears the thrust lock, held or not. -/
theorem commanderInit_thrustLocked {T R : Type} {comm : Commander T R} (hinit : comm.isInit = false) :
    (commanderInit comm).thrustLocked = false := by
  simp [commanderInit, hinit]

@[simp] theorem commanderInit_isInit {T R : Type} (comm : Commander T R) :
    (commanderInit comm).isInit = true := by
  unfold commanderInit
  split <;> simp_all

/-- A locked commander refuses another thrust source without a report. -/
theorem commanderSetThrust_of_locked {T R : Type} {comm : Commander T R}
    (hlocked : comm.thrustLocked = true) (callback : Option T) :
    commanderSetThrust callback comm = comm := by
  simp [commanderSetThrust, hlocked]

@[simp] theorem commanderSetThrust_isInit {T R : Type} (callback : Option T) (comm : Commander T R) :
    (commanderSetThrust callback comm).isInit = comm.isInit := by
  unfold commanderSetThrust
  split <;> rfl

@[simp] theorem commanderSetThrust_thrustLocked {T R : Type} (callback : Option T)
    (comm : Commander T R) :
    (commanderSetThrust callback comm).thrustLocked = comm.thrustLocked := by
  unfold commanderSetThrust
  split <;> rfl

/-- A call for another thrust source never changes the lock, and behind the lock
    not the source. -/
theorem commanderSetThrust_lock {T R : Type} (callback : Option T) (comm : Commander T R) :
    (commanderSetThrust callback comm).thrustLocked = comm.thrustLocked ∧
      (comm.thrustLocked = true → (commanderSetThrust callback comm).getThrust = comm.getThrust) := by
  refine ⟨commanderSetThrust_thrustLocked callback comm, ?_⟩
  intro hlocked
  rw [commanderSetThrust_of_locked hlocked]

end copter.commander
