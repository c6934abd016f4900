import CopterOS.Imu
import CopterOS.Stabilizer.Power

open copter.imu copter.stabilizer

namespace copter.system

/-- The start mutex, which can be taken only while it is free. -/
inductive Mutex where
  | null
  | free
  | taken
  deriving DecidableEq

/-- The statements of `imu6Read`, of which the last one computes its outputs. -/
inductive ReadStatement where
  | mpu6500GetMotion6
  | imuAddBiasValue
  | imuFindBiasValue
  | remap
  deriving DecidableEq

/-- The statements of `systemTask` and of the functions it calls. -/
inductive SystemStatement where
  | systemInit
  | xSemaphoreCreateMutex
  | xSemaphoreTake
  | setIsInit
  | commanderInit
  | stabilizerInit
  | systemTest
  | commanderTest
  | motorsTest
  | imu6Test
  | mpu6500SelfTest
  | testTimeout
  | imu6Read (statement : ReadStatement)
  | testBias
  | levelTest
  | imu6ManufacturingTest
  | sensfusion6Test
  | controllerTest
  | stabilizerTest
  | testPass
  | setSelftestPassed
  | systemStart
  | clearSelftestPassed
  | systemTestAgain
  | vTaskDelay
  | testSelftestPassed
  | systemStartForced
  | vTaskSuspend
  | suspended
  deriving DecidableEq

/-- The statements of `stabilizerTask`; the corrections and the thrust are one. -/
inductive StabilizerStatement where
  | testIsInit
  | xSemaphoreTake
  | xSemaphoreGive
  | vTaskDelayUntil
  | imu6Read (statement : ReadStatement)
  | imu6IsCalibrated
  | control
  | motorsSetRatio (motor : Motor)
  deriving DecidableEq

/-- The shared variables, the two tasks and the local variables of the first:
    `pass` of `systemTask`, that of `stabilizerTest`, and `testStatus` of `imu6Test`
    and of `imu6ManufacturingTest`. -/
structure System where
  isInit : Bool
  canStartMutex : Mutex
  selftestPassed : Bool
  imu : Imu
  gyroMpu : Axis3i16
  systemTask : SystemStatement
  pass : Bool
  stabilizerPass : Bool
  imuStatus : Bool
  testStatus : Bool
  stabilizerTask : StabilizerStatement

def system0 : System where
  isInit := false
  canStartMutex := .null
  selftestPassed := false
  imu := imu0
  gyroMpu := ⟨0, 0, 0⟩
  systemTask := .systemInit
  pass := true
  stabilizerPass := true
  imuStatus := true
  testStatus := false
  stabilizerTask := .testIsInit

/-- What a statement gets from outside: the result of the test it makes, be it of a
    module or of the clock, and what it reads of the sensor and the clock. -/
structure Outcome where
  result : Bool
  read : Read

/-- One statement of `imu6Read`. -/
def imu6ReadStatement (CONFIG_TICK_RATE_HZ : ℕ) (read : Read) (state : System) : ReadStatement → System
  | .mpu6500GetMotion6 => { state with gyroMpu := read.gyroMpu }
  | .imuAddBiasValue =>
    { state with imu := { state.imu with gyroBias := imuAddBiasValue state.gyroMpu state.imu.gyroBias } }
  | .imuFindBiasValue =>
    if state.imu.gyroBias.isBiasValueFound then state
    else { state with imu := (imuFindBiasValue CONFIG_TICK_RATE_HZ read state.imu).2 }
  | .remap => state

def ReadStatement.next : ReadStatement → Option ReadStatement
  | .mpu6500GetMotion6 => some .imuAddBiasValue
  | .imuAddBiasValue => some .imuFindBiasValue
  | .imuFindBiasValue => some .remap
  | .remap => none

/-- One statement of `systemTask`. A statement that waits for the mutex leaves
    everything as it is. -/
def systemTask (CONFIG_TICK_RATE_HZ : ℕ) (outcome : Outcome) (state : System) : System :=
  match state.systemTask with
  | .systemInit =>
    { state with systemTask := if state.isInit then .commanderInit else .xSemaphoreCreateMutex }
  | .xSemaphoreCreateMutex => { state with canStartMutex := .free, systemTask := .xSemaphoreTake }
  | .xSemaphoreTake =>
    match state.canStartMutex with
    | .free => { state with canStartMutex := .taken, systemTask := .setIsInit }
    | _ => state
  | .setIsInit => { state with isInit := true, systemTask := .commanderInit }
  | .commanderInit => { state with systemTask := .stabilizerInit }
  | .stabilizerInit =>
    { state with imu := imu6Init CONFIG_TICK_RATE_HZ state.imu, systemTask := .systemTest }
  | .systemTest => { state with pass := state.pass && state.isInit, systemTask := .commanderTest }
  | .commanderTest =>
    { state with pass := state.pass && outcome.result, stabilizerPass := true, systemTask := .motorsTest }
  | .motorsTest =>
    { state with stabilizerPass := state.stabilizerPass && outcome.result, systemTask := .imu6Test }
  | .imu6Test => { state with imuStatus := state.imu.isInit, systemTask := .mpu6500SelfTest }
  | .mpu6500SelfTest =>
    { state with
      testStatus := outcome.result
      systemTask := if outcome.result then .testTimeout else .imu6ManufacturingTest }
  | .testTimeout =>
    { state with systemTask := if outcome.result then .imu6Read .mpu6500GetMotion6 else .levelTest }
  | .imu6Read statement =>
    { imu6ReadStatement CONFIG_TICK_RATE_HZ outcome.read state statement with
      systemTask := match statement.next with
        | some next => .imu6Read next
        | none => .testBias }
  | .testBias =>
    { state with systemTask := if state.imu.gyroBias.isBiasValueFound then .levelTest else .testTimeout }
  | .levelTest =>
    { state with
      testStatus := state.imu.gyroBias.isBiasValueFound && outcome.result
      systemTask := .imu6ManufacturingTest }
  | .imu6ManufacturingTest =>
    if state.testStatus then
      { state with stabilizerPass := state.stabilizerPass && state.imuStatus, systemTask := .sensfusion6Test }
    else { state with systemTask := .mpu6500SelfTest }
  | .sensfusion6Test =>
    { state with stabilizerPass := state.stabilizerPass && outcome.result, systemTask := .controllerTest }
  | .controllerTest =>
    { state with stabilizerPass := state.stabilizerPass && outcome.result, systemTask := .stabilizerTest }
  | .stabilizerTest => { state with pass := state.pass && state.stabilizerPass, systemTask := .testPass }
  | .testPass => { state with systemTask := if state.pass then .setSelftestPassed else .clearSelftestPassed }
  | .setSelftestPassed => { state with selftestPassed := true, systemTask := .systemStart }
  | .systemStart => { state with canStartMutex := .free, systemTask := .vTaskSuspend }
  | .clearSelftestPassed => { state with selftestPassed := false, systemTask := .systemTestAgain }
  | .systemTestAgain => { state with systemTask := if state.isInit then .vTaskDelay else .vTaskSuspend }
  | .vTaskDelay => { state with systemTask := .testSelftestPassed }
  | .testSelftestPassed =>
    { state with systemTask := if state.selftestPassed then .systemStartForced else .vTaskDelay }
  | .systemStartForced => { state with canStartMutex := .free, systemTask := .vTaskSuspend }
  | .vTaskSuspend => { state with systemTask := .suspended }
  | .suspended => state

/-- One statement of `stabilizerTask`, which begins with `systemWaitStart`. -/
def stabilizerTask (CONFIG_TICK_RATE_HZ : ℕ) (outcome : Outcome) (state : System) : System :=
  match state.stabilizerTask with
  | .testIsInit => { state with stabilizerTask := if state.isInit then .xSemaphoreTake else .testIsInit }
  | .xSemaphoreTake =>
    match state.canStartMutex with
    | .free => { state with canStartMutex := .taken, stabilizerTask := .xSemaphoreGive }
    | _ => state
  | .xSemaphoreGive => { state with canStartMutex := .free, stabilizerTask := .vTaskDelayUntil }
  | .vTaskDelayUntil => { state with stabilizerTask := .imu6Read .mpu6500GetMotion6 }
  | .imu6Read statement =>
    { imu6ReadStatement CONFIG_TICK_RATE_HZ outcome.read state statement with
      stabilizerTask := match statement.next with
        | some next => .imu6Read next
        | none => .imu6IsCalibrated }
  | .imu6IsCalibrated =>
    { state with stabilizerTask := if imu6IsCalibrated state.imu then .control else .vTaskDelayUntil }
  | .control => { state with stabilizerTask := .motorsSetRatio .MOTOR_M1 }
  | .motorsSetRatio .MOTOR_M1 => { state with stabilizerTask := .motorsSetRatio .MOTOR_M2 }
  | .motorsSetRatio .MOTOR_M2 => { state with stabilizerTask := .motorsSetRatio .MOTOR_M3 }
  | .motorsSetRatio .MOTOR_M3 => { state with stabilizerTask := .motorsSetRatio .MOTOR_M4 }
  | .motorsSetRatio .MOTOR_M4 => { state with stabilizerTask := .vTaskDelayUntil }

/-- A step of either task, or the parameter `selftestPassed` set from outside. The
    tasks start in any order, so none waits for the other to be created. -/
inductive Step where
  | systemTask (outcome : Outcome)
  | stabilizerTask (outcome : Outcome)
  | selftestPassed (value : Bool)

def step (CONFIG_TICK_RATE_HZ : ℕ) (state : System) : Step → System
  | .systemTask outcome => systemTask CONFIG_TICK_RATE_HZ outcome state
  | .stabilizerTask outcome => stabilizerTask CONFIG_TICK_RATE_HZ outcome state
  | .selftestPassed value => { state with selftestPassed := value }

/-- Undisturbed, the statements amount to a read. -/
theorem imu6ReadStatement_all (CONFIG_TICK_RATE_HZ : ℕ) (read : Read) (state : System) :
    [ReadStatement.mpu6500GetMotion6, .imuAddBiasValue, .imuFindBiasValue, .remap].foldl
        (imu6ReadStatement CONFIG_TICK_RATE_HZ read) state =
      { state with
        gyroMpu := read.gyroMpu
        imu := (imu6Read CONFIG_TICK_RATE_HZ read state.imu).2 } := by
  simp only [List.foldl_cons, List.foldl_nil, imu6ReadStatement, imu6Read]
  split <;> rfl

end copter.system
