import CopterOS.Lib.Number

open number

namespace copter.emergency

/-- The statement the emergency task executes next. `suspended` waits for a
    resume, and `delayed` for the given number of ticks before `vTaskDelay`
    returns. -/
inductive Task where
  | vTaskSuspend
  | suspended
  | testShutdown
  | commanderGetThrust
  | scaleThrust
  | commanderLockThrust
  | vTaskDelay
  | delayed (ticks : ℕ)
  | clearThrust
  deriving DecidableEq

structure Emergency where
  shutdown : Bool
  thrust : UInt16
  task : Task
  deriving DecidableEq

/-- The static initial value, with the task at the top of its loop. -/
def emer0 : Emergency where
  shutdown := false
  thrust := 0
  task := .vTaskSuspend

/-- A task that has not suspended itself is not resumed. -/
def vTaskResume (emer : Emergency) : Emergency :=
  if emer.task = .suspended then { emer with task := .testShutdown } else emer

def emergency_landing (emer : Emergency) : Emergency := vTaskResume emer

def emergency_landingISR (emer : Emergency) : Emergency := vTaskResume emer

def batThrustContoll (emer : Emergency) : UInt16 := emer.thrust

/-- A timer tick brings a delayed task closer to its return. -/
def xTaskIncrementTick (emer : Emergency) : Emergency :=
  match emer.task with
  | .delayed (ticks + 1) => { emer with task := .delayed ticks }
  | _ => emer

/-- The thrust of a landing, `CONFIG_EMERGENCY_THRUST` percent of the range. -/
def landingThrust (undefined : ℚ → UInt16) (CONFIG_EMERGENCY_THRUST : ℕ) : UInt16 :=
  toUInt16 undefined (65535 * ((CONFIG_EMERGENCY_THRUST : ℚ) / 100))

theorem vTaskResume_of_ne {emer : Emergency} (htask : emer.task ≠ .suspended) :
    vTaskResume emer = emer := if_neg htask

/-- Up to 100 percent the conversion is defined and cuts off the fraction. -/
theorem landingThrust_toNat {percent : ℕ} (hpercent : percent ≤ 100) (undefined : ℚ → UInt16) :
    ((landingThrust undefined percent).toNat : ℤ) = truncate (65535 * ((percent : ℚ) / 100)) := by
  have hle : (percent : ℚ) ≤ 100 := by exact_mod_cast hpercent
  have hnonneg : (0 : ℚ) ≤ percent := by exact_mod_cast Nat.zero_le percent
  have hbounds := truncate_mem_of_mem (65535 * ((percent : ℚ) / 100)) 65535
    (by push_cast; linarith) (by push_cast; linarith)
  have hzero := truncate_nonneg (q := 65535 * ((percent : ℚ) / 100)) (by linarith)
  unfold landingThrust toUInt16
  rw [toInt_rat]
  dsimp only
  rw [if_pos (by omega), UInt16.toNat_ofNat_of_lt' ?_]
  · omega
  · have hsize : UInt16.size = 65536 := rfl
    omega

end copter.emergency
