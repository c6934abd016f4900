import CopterOS.Lib.History
import CopterOS.Lib.Run
import CopterOS.System

open transition copter.imu copter.stabilizer

namespace copter.system

/-- How far `systemTask` has come. The loops over the gyro test and over the forced
    start do not leave their level. -/
def SystemStatement.level : SystemStatement → ℕ
  | .systemInit => 0
  | .xSemaphoreCreateMutex => 1
  | .xSemaphoreTake => 2
  | .setIsInit => 3
  | .commanderInit => 4
  | .stabilizerInit => 5
  | .systemTest => 6
  | .commanderTest => 7
  | .motorsTest => 8
  | .imu6Test => 9
  | .mpu6500SelfTest | .testTimeout | .imu6Read _ | .testBias | .levelTest | .imu6ManufacturingTest => 10
  | .sensfusion6Test => 11
  | .controllerTest => 12
  | .stabilizerTest => 13
  | .testPass => 14
  | .setSelftestPassed | .clearSelftestPassed => 15
  | .systemStart | .systemTestAgain => 16
  | .vTaskDelay | .testSelftestPassed => 17
  | .systemStartForced => 18
  | .vTaskSuspend => 19
  | .suspended => 20

/-- The levels from which on the other tasks may start. -/
abbrev STARTED : ℕ := 19

/-- The tests behind `pass`. -/
def moduleTests : List SystemStatement :=
  [.systemTest, .commanderTest, .motorsTest, .imu6Test, .sensfusion6Test, .controllerTest]

/-- The step makes the test, and the module passes. -/
def Succeeds (test : SystemStatement) (entry : System × Step) : Prop :=
  entry.1.systemTask = test ∧ ∃ outcome, entry.2 = .systemTask outcome ∧
    match test with
    | .systemTest => entry.1.isInit = true
    | .imu6Test => entry.1.imu.isInit = true
    | _ => outcome.result = true

def Passed (history : List (System × Step)) (test : SystemStatement) : Prop :=
  ∃ entry ∈ history, Succeeds test entry

/-- The self test has failed, and the task waits to be forced. -/
def SystemStatement.waits : SystemStatement → Bool
  | .systemTestAgain => true
  | .vTaskDelay => true
  | .testSelftestPassed => true
  | _ => false

/-- The parameter was set while the task waited for it. -/
def Forced (history : List (System × Step)) : Prop :=
  ∃ entry ∈ history, entry.2 = .selftestPassed true ∧ entry.1.systemTask.waits = true

/-- A call of `systemStart`, with all tests passed or forced. -/
def SystemStart (history : List (System × Step)) (entry : System × Step) : Prop :=
  (∃ outcome, entry.2 = .systemTask outcome) ∧
    ((entry.1.systemTask = .systemStart ∧ entry.1.pass = true ∧ ∀ test ∈ moduleTests, Passed history test) ∨
      (entry.1.systemTask = .systemStartForced ∧ Forced history))

/-- The history of a run: every step with the state it is taken in. -/
def history (CONFIG_TICK_RATE_HZ : ℕ) (steps : List Step) : List (System × Step) :=
  trace (step CONFIG_TICK_RATE_HZ) system0 steps

def systemAfter (CONFIG_TICK_RATE_HZ : ℕ) (steps : List Step) : System :=
  run (step CONFIG_TICK_RATE_HZ) system0 steps

/-- Before every call of `motorsSetRatio` the system was started and the bias
    found. -/
def FliesAfterStart (CONFIG_TICK_RATE_HZ : ℕ) (steps : List Step) : Prop :=
  ∀ before state outcome after motor,
    history CONFIG_TICK_RATE_HZ steps = before ++ (state, .stabilizerTask outcome) :: after →
      state.stabilizerTask = .motorsSetRatio motor →
        (∃ first start second, before = first ++ start :: second ∧ SystemStart first start) ∧
          state.imu.gyroBias.isBiasValueFound = true

/-- The two tasks are never both inside `imu6Read`. -/
def ReadsAlone (CONFIG_TICK_RATE_HZ : ℕ) (steps : List Step) : Prop :=
  ¬ ((∃ statement, (systemAfter CONFIG_TICK_RATE_HZ steps).systemTask = .imu6Read statement) ∧
    ∃ statement, (systemAfter CONFIG_TICK_RATE_HZ steps).stabilizerTask = .imu6Read statement)

/-- The stabilizer task is past the test of the calibration. -/
def StabilizerStatement.flies : StabilizerStatement → Bool
  | .control => true
  | .motorsSetRatio _ => true
  | _ => false

/-- What the tasks rely on at the start: the mutex is taken from before `isInit` is
    set until the start, and until then the stabilizer task waits. -/
structure Handshake (state : System) : Prop where
  isInit : state.isInit = decide (4 ≤ state.systemTask.level)
  taken : 3 ≤ state.systemTask.level → state.systemTask.level < STARTED → state.canStartMutex = .taken
  waiting : state.systemTask.level < STARTED → state.stabilizerTask = .testIsInit ∨
    (state.stabilizerTask = .xSemaphoreTake ∧ 4 ≤ state.systemTask.level)
  calibrated : state.stabilizerTask.flies = true → imu6IsCalibrated state.imu = true

/-- A statement of a read changes the gyro variables only, and it keeps the
    calibration. -/
theorem imu6ReadStatement_eq (CONFIG_TICK_RATE_HZ : ℕ) (read : Read) (state : System)
    (statement : ReadStatement) :
    ∃ imu gyroMpu, imu6ReadStatement CONFIG_TICK_RATE_HZ read state statement =
        { state with imu := imu, gyroMpu := gyroMpu } ∧
      (imu6IsCalibrated state.imu = true → imu6IsCalibrated imu = true) := by
  cases statement with
  | mpu6500GetMotion6 => exact ⟨state.imu, read.gyroMpu, rfl, id⟩
  | imuAddBiasValue =>
    refine ⟨_, state.gyroMpu, rfl, ?_⟩
    intro hcalibrated
    unfold imu6IsCalibrated imuAddBiasValue
    dsimp only
    split <;> exact hcalibrated
  | imuFindBiasValue =>
    by_cases hfound : state.imu.gyroBias.isBiasValueFound = true
    · exact ⟨state.imu, state.gyroMpu, if_pos hfound, id⟩
    · exact ⟨_, state.gyroMpu, if_neg hfound, fun hcalibrated => absurd hcalibrated hfound⟩
  | remap => exact ⟨state.imu, state.gyroMpu, rfl, id⟩

theorem imu6IsCalibrated_imu6Init (CONFIG_TICK_RATE_HZ : ℕ) (imu : Imu) :
    imu6IsCalibrated (imu6Init CONFIG_TICK_RATE_HZ imu) = imu6IsCalibrated imu := by
  unfold imu6Init
  split <;> rfl

/-- The task leaves the other one alone and keeps the calibration. -/
theorem systemTask_frame (CONFIG_TICK_RATE_HZ : ℕ) (outcome : Outcome) (state : System) :
    (systemTask CONFIG_TICK_RATE_HZ outcome state).stabilizerTask = state.stabilizerTask ∧
      (imu6IsCalibrated state.imu = true →
        imu6IsCalibrated (systemTask CONFIG_TICK_RATE_HZ outcome state).imu = true) := by
  cases hstatement : state.systemTask
  case stabilizerInit =>
    simp only [systemTask, hstatement, imu6IsCalibrated_imu6Init]
    exact ⟨trivial, id⟩
  case imu6Read statement =>
    obtain ⟨imu, gyroMpu, hread, hkept⟩ :=
      imu6ReadStatement_eq CONFIG_TICK_RATE_HZ outcome.read state statement
    simp only [systemTask, hstatement, hread]
    exact ⟨trivial, hkept⟩
  case xSemaphoreTake =>
    simp only [systemTask, hstatement]
    split <;> exact ⟨rfl, id⟩
  case imu6ManufacturingTest =>
    simp only [systemTask, hstatement]
    split <;> exact ⟨rfl, id⟩
  all_goals
    simp only [systemTask, hstatement]
    exact ⟨trivial, id⟩

/-- A step stays on its level or goes to the next one, but for the start. -/
theorem level_systemTask (CONFIG_TICK_RATE_HZ : ℕ) (outcome : Outcome) {state : System}
    (hinit : state.isInit = decide (4 ≤ state.systemTask.level)) :
    (systemTask CONFIG_TICK_RATE_HZ outcome state).systemTask.level = state.systemTask.level ∨
      (systemTask CONFIG_TICK_RATE_HZ outcome state).systemTask.level = state.systemTask.level + 1 ∨
      (state.systemTask = .systemStart ∧
        (systemTask CONFIG_TICK_RATE_HZ outcome state).systemTask.level = STARTED) := by
  cases hstatement : state.systemTask
  case imu6Read statement =>
    simp only [systemTask, hstatement]
    cases statement <;> simp [ReadStatement.next, SystemStatement.level]
  all_goals
    rw [hstatement] at hinit
    simp only [systemTask, hstatement]
    repeat' split
    all_goals simp_all [SystemStatement.level]

theorem level_le_systemTask (CONFIG_TICK_RATE_HZ : ℕ) (outcome : Outcome) {state : System}
    (hinit : state.isInit = decide (4 ≤ state.systemTask.level)) :
    state.systemTask.level ≤ (systemTask CONFIG_TICK_RATE_HZ outcome state).systemTask.level := by
  obtain hsame | hnext | ⟨hstart, hstarted⟩ := level_systemTask CONFIG_TICK_RATE_HZ outcome hinit
  · exact hsame.ge
  · omega
  · rw [hstarted, hstart]
    decide

theorem systemTask_isInit (CONFIG_TICK_RATE_HZ : ℕ) (outcome : Outcome) {state : System}
    (hinit : state.isInit = decide (4 ≤ state.systemTask.level)) :
    (systemTask CONFIG_TICK_RATE_HZ outcome state).isInit =
      decide (4 ≤ (systemTask CONFIG_TICK_RATE_HZ outcome state).systemTask.level) := by
  cases hstatement : state.systemTask
  case imu6Read statement =>
    obtain ⟨imu, gyroMpu, hread, _⟩ :=
      imu6ReadStatement_eq CONFIG_TICK_RATE_HZ outcome.read state statement
    simp only [systemTask, hstatement, hread]
    rw [hinit, hstatement]
    cases statement <;> rfl
  all_goals
    rw [hstatement] at hinit
    simp only [systemTask, hstatement]
    repeat' split
    all_goals simp_all [SystemStatement.level]

theorem systemTask_taken (CONFIG_TICK_RATE_HZ : ℕ) (outcome : Outcome) {state : System}
    (hinit : state.isInit = decide (4 ≤ state.systemTask.level))
    (htaken : 3 ≤ state.systemTask.level → state.systemTask.level < STARTED → state.canStartMutex = .taken) :
    3 ≤ (systemTask CONFIG_TICK_RATE_HZ outcome state).systemTask.level →
      (systemTask CONFIG_TICK_RATE_HZ outcome state).systemTask.level < STARTED →
        (systemTask CONFIG_TICK_RATE_HZ outcome state).canStartMutex = .taken := by
  cases hstatement : state.systemTask
  case imu6Read statement =>
    obtain ⟨imu, gyroMpu, hread, _⟩ :=
      imu6ReadStatement_eq CONFIG_TICK_RATE_HZ outcome.read state statement
    simp only [systemTask, hstatement, hread]
    rw [hstatement] at htaken
    intro _ _
    exact htaken (by simp [SystemStatement.level]) (by simp [SystemStatement.level, STARTED])
  all_goals
    rw [hstatement] at hinit htaken
    simp only [systemTask, hstatement]
    repeat' split
    all_goals simp_all [SystemStatement.level, STARTED]

theorem Handshake.systemTask {state : System} (hshake : Handshake state) (CONFIG_TICK_RATE_HZ : ℕ)
    (outcome : Outcome) : Handshake (systemTask CONFIG_TICK_RATE_HZ outcome state) := by
  obtain ⟨hinit, htaken, hwaiting, hcalibrated⟩ := hshake
  obtain ⟨hother, hkept⟩ := systemTask_frame CONFIG_TICK_RATE_HZ outcome state
  have hlevel := level_le_systemTask CONFIG_TICK_RATE_HZ outcome hinit
  refine ⟨systemTask_isInit CONFIG_TICK_RATE_HZ outcome hinit,
    systemTask_taken CONFIG_TICK_RATE_HZ outcome hinit htaken, ?_, ?_⟩
  · intro hbefore
    rw [hother]
    obtain htest | ⟨htake, hset⟩ := hwaiting (hlevel.trans_lt hbefore)
    · exact Or.inl htest
    · exact Or.inr ⟨htake, hset.trans hlevel⟩
  · intro hflies
    rw [hother] at hflies
    exact hkept (hcalibrated hflies)

/-- While the stabilizer task waits, a step of it changes nothing but its place. -/
theorem stabilizerTask_of_waiting {state : System} (hshake : Handshake state)
    (hbefore : state.systemTask.level < STARTED) (CONFIG_TICK_RATE_HZ : ℕ) (outcome : Outcome) :
    ∃ statement, stabilizerTask CONFIG_TICK_RATE_HZ outcome state = { state with stabilizerTask := statement } ∧
      (statement = .testIsInit ∨ (statement = .xSemaphoreTake ∧ 4 ≤ state.systemTask.level)) := by
  obtain htest | ⟨htake, hset⟩ := hshake.waiting hbefore
  · simp only [stabilizerTask, htest]
    refine ⟨_, rfl, ?_⟩
    by_cases hinit : state.isInit = true
    · rw [if_pos hinit]
      rw [hshake.isInit, decide_eq_true_iff] at hinit
      exact Or.inr ⟨rfl, hinit⟩
    · rw [if_neg hinit]
      exact Or.inl rfl
  · refine ⟨.xSemaphoreTake, ?_, Or.inr ⟨rfl, hset⟩⟩
    have hblocked : stabilizerTask CONFIG_TICK_RATE_HZ outcome state = state := by
      simp only [stabilizerTask, htake, hshake.taken (by omega) hbefore]
    rw [hblocked, ← htake]

/-- What the stabilizer task can change, and that it flies only calibrated. -/
theorem stabilizerTask_eq (CONFIG_TICK_RATE_HZ : ℕ) (outcome : Outcome) {state : System}
    (hcalibrated : state.stabilizerTask.flies = true → imu6IsCalibrated state.imu = true) :
    ∃ canStartMutex imu gyroMpu statement,
      stabilizerTask CONFIG_TICK_RATE_HZ outcome state =
          { state with
            canStartMutex := canStartMutex
            imu := imu
            gyroMpu := gyroMpu
            stabilizerTask := statement } ∧
        (statement.flies = true → imu6IsCalibrated imu = true) := by
  cases hstatement : state.stabilizerTask
  case imu6Read statement =>
    obtain ⟨imu, gyroMpu, hread, _⟩ :=
      imu6ReadStatement_eq CONFIG_TICK_RATE_HZ outcome.read state statement
    simp only [stabilizerTask, hstatement, hread]
    refine ⟨_, _, _, _, rfl, ?_⟩
    cases statement <;> simp [ReadStatement.next, StabilizerStatement.flies]
  case motorsSetRatio motor =>
    have hfound := hcalibrated (by rw [hstatement]; rfl)
    cases motor <;> simp only [stabilizerTask, hstatement] <;> exact ⟨_, _, _, _, rfl, fun _ => hfound⟩
  case xSemaphoreTake =>
    cases hmutex : state.canStartMutex <;> simp only [stabilizerTask, hstatement, hmutex]
    case free => exact ⟨_, _, _, _, rfl, fun hflies => absurd hflies Bool.false_ne_true⟩
    all_goals exact ⟨_, _, _, _, rfl, hcalibrated⟩
  case testIsInit =>
    simp only [stabilizerTask, hstatement]
    refine ⟨_, _, _, _, rfl, ?_⟩
    split <;> exact fun hflies => absurd hflies Bool.false_ne_true
  case imu6IsCalibrated =>
    simp only [stabilizerTask, hstatement]
    refine ⟨_, _, _, _, rfl, ?_⟩
    split
    case isTrue hfound => exact fun _ => hfound
    case isFalse => exact fun hflies => absurd hflies Bool.false_ne_true
  case control =>
    have hfound := hcalibrated (by rw [hstatement]; rfl)
    simp only [stabilizerTask, hstatement]
    exact ⟨_, _, _, _, rfl, fun _ => hfound⟩
  all_goals
    simp only [stabilizerTask, hstatement]
    exact ⟨_, _, _, _, rfl, fun hflies => absurd hflies Bool.false_ne_true⟩

theorem Handshake.stabilizerTask {state : System} (hshake : Handshake state) (CONFIG_TICK_RATE_HZ : ℕ)
    (outcome : Outcome) : Handshake (stabilizerTask CONFIG_TICK_RATE_HZ outcome state) := by
  obtain ⟨canStartMutex, imu, gyroMpu, statement, hstep, hflies⟩ :=
    stabilizerTask_eq CONFIG_TICK_RATE_HZ outcome hshake.calibrated
  by_cases hbefore : state.systemTask.level < STARTED
  · obtain ⟨next, hwait, hnext⟩ := stabilizerTask_of_waiting hshake hbefore CONFIG_TICK_RATE_HZ outcome
    rw [hwait]
    refine ⟨hshake.isInit, hshake.taken, fun _ => hnext, ?_⟩
    intro hflying
    obtain rfl | ⟨rfl, _⟩ := hnext <;> exact absurd hflying Bool.false_ne_true
  · rw [hstep]
    exact ⟨hshake.isInit, fun _ hlevel => absurd hlevel hbefore, fun hlevel => absurd hlevel hbefore, hflies⟩

/-- The handshake holds in every run, whatever the order of the steps. -/
theorem systemAfter_handshake (CONFIG_TICK_RATE_HZ : ℕ) (steps : List Step) :
    Handshake (systemAfter CONFIG_TICK_RATE_HZ steps) := by
  apply run_invariant
  · intro state event hshake
    cases event with
    | systemTask outcome => exact hshake.systemTask CONFIG_TICK_RATE_HZ outcome
    | stabilizerTask outcome => exact hshake.stabilizerTask CONFIG_TICK_RATE_HZ outcome
    | selftestPassed value => exact ⟨hshake.isInit, hshake.taken, hshake.waiting, hshake.calibrated⟩
  · exact ⟨rfl, fun h => absurd h (by decide), fun _ => Or.inl rfl, fun h => absurd h (by decide)⟩

/-- What the tests made so far amount to. -/
def System.verdict (state : System) : Bool :=
  match state.systemTask with
  | .motorsTest | .imu6Test | .sensfusion6Test | .controllerTest | .stabilizerTest =>
    state.pass && state.stabilizerPass
  | .mpu6500SelfTest | .testTimeout | .imu6Read _ | .testBias | .levelTest | .imu6ManufacturingTest =>
    state.pass && state.stabilizerPass && state.imuStatus
  | _ => state.pass

/-- A verdict is good only if it was so before and the test of the statement, if it
    makes one, succeeds. -/
theorem verdict_systemTask (CONFIG_TICK_RATE_HZ : ℕ) (outcome : Outcome) {state : System}
    (hverdict : (systemTask CONFIG_TICK_RATE_HZ outcome state).verdict = true) :
    state.verdict = true ∧
      (state.systemTask ∈ moduleTests → Succeeds state.systemTask (state, .systemTask outcome)) := by
  cases hstatement : state.systemTask
  case imu6Read statement =>
    obtain ⟨imu, gyroMpu, hread, _⟩ :=
      imu6ReadStatement_eq CONFIG_TICK_RATE_HZ outcome.read state statement
    simp only [systemTask, hstatement, hread] at hverdict
    refine ⟨?_, fun hmem => absurd hmem (by simp [moduleTests])⟩
    cases statement <;> simpa [System.verdict, hstatement, ReadStatement.next] using hverdict
  all_goals
    simp only [systemTask, hstatement] at hverdict
    revert hverdict
    repeat' split
    all_goals simp_all [System.verdict, moduleTests, Succeeds]

/-- A test is alone on its level. -/
theorem eq_of_level {test statement : SystemStatement} (htest : test ∈ moduleTests)
    (hlevel : statement.level = test.level) : statement = test := by
  simp only [moduleTests, List.mem_cons, List.not_mem_nil, or_false] at htest
  obtain rfl | rfl | rfl | rfl | rfl | rfl := htest <;> cases statement <;>
    simp [SystemStatement.level] at hlevel ⊢

theorem eq_systemStartForced_of_level {statement : SystemStatement}
    (hlevel : statement.level = SystemStatement.systemStartForced.level) : statement = .systemStartForced := by
  cases statement <;> simp [SystemStatement.level] at hlevel ⊢

theorem level_of_mem_moduleTests {test : SystemStatement} (htest : test ∈ moduleTests) : test.level ≤ 12 := by
  simp only [moduleTests, List.mem_cons, List.not_mem_nil, or_false] at htest
  obtain rfl | rfl | rfl | rfl | rfl | rfl := htest <;> decide

/-- The task waits with `selftestPassed` set only if it did so before. -/
theorem waits_systemTask (CONFIG_TICK_RATE_HZ : ℕ) (outcome : Outcome) {state : System}
    (hwaits : (systemTask CONFIG_TICK_RATE_HZ outcome state).systemTask.waits = true ∨
      (systemTask CONFIG_TICK_RATE_HZ outcome state).systemTask = .systemStartForced)
    (hset : (systemTask CONFIG_TICK_RATE_HZ outcome state).systemTask.waits = true →
      (systemTask CONFIG_TICK_RATE_HZ outcome state).selftestPassed = true) :
    state.systemTask.waits = true ∧ state.selftestPassed = true := by
  cases hstatement : state.systemTask
  case imu6Read statement =>
    simp only [systemTask, hstatement] at hwaits
    cases statement <;> simp [ReadStatement.next, SystemStatement.waits] at hwaits
  all_goals
    simp only [systemTask, hstatement] at hwaits hset
    revert hwaits hset
    repeat' split
    all_goals simp_all [SystemStatement.waits]

/-- Only a good verdict leads to the regular start. -/
theorem starting_systemTask (CONFIG_TICK_RATE_HZ : ℕ) (outcome : Outcome) {state : System}
    (hpass : state.systemTask = .setSelftestPassed ∨ state.systemTask = .systemStart → state.pass = true)
    (hstarting : (systemTask CONFIG_TICK_RATE_HZ outcome state).systemTask = .setSelftestPassed ∨
      (systemTask CONFIG_TICK_RATE_HZ outcome state).systemTask = .systemStart) :
    (systemTask CONFIG_TICK_RATE_HZ outcome state).pass = true := by
  cases hstatement : state.systemTask
  case imu6Read statement =>
    simp only [systemTask, hstatement] at hstarting
    cases statement <;> simp [ReadStatement.next] at hstarting
  all_goals
    rw [hstatement] at hpass
    simp only [systemTask, hstatement] at hstarting ⊢
    revert hstarting
    repeat' split
    all_goals simp_all

/-- The system is started by `systemStart` only. -/
theorem started_systemTask (CONFIG_TICK_RATE_HZ : ℕ) (outcome : Outcome) {state : System}
    (hinit : state.isInit = decide (4 ≤ state.systemTask.level))
    (hstarted : STARTED ≤ (systemTask CONFIG_TICK_RATE_HZ outcome state).systemTask.level) :
    STARTED ≤ state.systemTask.level ∨ state.systemTask = .systemStart ∨
      state.systemTask = .systemStartForced := by
  obtain hsame | hnext | ⟨hstart, _⟩ := level_systemTask CONFIG_TICK_RATE_HZ outcome hinit
  · exact Or.inl (hstarted.trans hsame.le)
  · by_cases hearlier : STARTED ≤ state.systemTask.level
    · exact Or.inl hearlier
    · have hlast : state.systemTask.level = SystemStatement.systemStartForced.level := by
        have hreached : 19 ≤ state.systemTask.level + 1 := hstarted.trans_eq hnext
        have hnot : ¬ 19 ≤ state.systemTask.level := hearlier
        rw [SystemStatement.level]
        omega
      exact Or.inr (Or.inr (eq_systemStartForced_of_level hlast))
  · exact Or.inr (Or.inl hstart)

/-- What the state says about the steps that led to it. -/
structure Recorded (history : List (System × Step)) (state : System) : Prop where
  passed : state.verdict = true → ∀ test ∈ moduleTests, test.level < state.systemTask.level → Passed history test
  forced : state.systemTask.waits = true ∨ state.systemTask = .systemStartForced →
    (state.systemTask.waits = true → state.selftestPassed = true) → Forced history
  starting : state.systemTask = .setSelftestPassed ∨ state.systemTask = .systemStart → state.pass = true
  started : STARTED ≤ state.systemTask.level →
    ∃ first start second, history = first ++ start :: second ∧ SystemStart first start

theorem Passed.concat {history : List (System × Step)} {test : SystemStatement} (hpassed : Passed history test)
    (entry : System × Step) : Passed (history ++ [entry]) test := by
  obtain ⟨earlier, hmem, hsucceeds⟩ := hpassed
  exact ⟨earlier, List.mem_append_left _ hmem, hsucceeds⟩

theorem Forced.concat {history : List (System × Step)} (hforced : Forced history) (entry : System × Step) :
    Forced (history ++ [entry]) := by
  obtain ⟨earlier, hmem, hset⟩ := hforced
  exact ⟨earlier, List.mem_append_left _ hmem, hset⟩

theorem Recorded.started_concat {history : List (System × Step)} {state : System}
    (hrecorded : Recorded history state) (hstarted : STARTED ≤ state.systemTask.level) (entry : System × Step) :
    ∃ first start second, history ++ [entry] = first ++ start :: second ∧ SystemStart first start := by
  obtain ⟨first, start, second, rfl, hstart⟩ := hrecorded.started hstarted
  exact ⟨first, start, second ++ [entry], by simp, hstart⟩

/-- A task that calls `systemStart` has its reason in the history. -/
theorem Recorded.systemStart {history : List (System × Step)} {state : System}
    (hrecorded : Recorded history state)
    (hstatement : state.systemTask = .systemStart ∨ state.systemTask = .systemStartForced) (outcome : Outcome) :
    SystemStart history (state, .systemTask outcome) := by
  refine ⟨⟨outcome, rfl⟩, ?_⟩
  obtain hregular | hforced := hstatement
  · have hpass := hrecorded.starting (Or.inr hregular)
    refine Or.inl ⟨hregular, hpass, ?_⟩
    intro test htest
    apply hrecorded.passed _ test htest
    · have hlevel := level_of_mem_moduleTests htest
      rw [hregular, SystemStatement.level]
      omega
    · unfold System.verdict
      rw [hregular]
      exact hpass
  · refine Or.inr ⟨hforced, hrecorded.forced (Or.inr hforced) ?_⟩
    intro hwaits
    rw [hforced] at hwaits
    contradiction

theorem Recorded.systemTask {history : List (System × Step)} {state : System}
    (hrecorded : Recorded history state) (hshake : Handshake state) (CONFIG_TICK_RATE_HZ : ℕ)
    (outcome : Outcome) :
    Recorded (history ++ [(state, .systemTask outcome)]) (systemTask CONFIG_TICK_RATE_HZ outcome state) where
  passed := by
    intro hverdict test htest hlevel
    obtain ⟨hbefore, hsucceeds⟩ := verdict_systemTask CONFIG_TICK_RATE_HZ outcome hverdict
    have hlast := level_of_mem_moduleTests htest
    by_cases hearlier : test.level < state.systemTask.level
    · exact (hrecorded.passed hbefore test htest hearlier).concat _
    · have hnext : (copter.system.systemTask CONFIG_TICK_RATE_HZ outcome state).systemTask.level ≤
          state.systemTask.level + 1 := by
        obtain hsame | hnext | ⟨hstart, _⟩ := level_systemTask CONFIG_TICK_RATE_HZ outcome hshake.isInit
        · omega
        · exact hnext.le
        · rw [hstart, SystemStatement.level] at hearlier
          omega
      obtain rfl := eq_of_level htest (show state.systemTask.level = test.level by omega)
      exact ⟨_, List.mem_append_right _ (List.mem_singleton_self _), hsucceeds htest⟩
  forced := by
    intro hwaits hset
    obtain ⟨hwaited, hwasSet⟩ := waits_systemTask CONFIG_TICK_RATE_HZ outcome hwaits hset
    exact (hrecorded.forced (Or.inl hwaited) fun _ => hwasSet).concat _
  starting := starting_systemTask CONFIG_TICK_RATE_HZ outcome hrecorded.starting
  started := by
    intro hstarted
    obtain hearlier | hstart := started_systemTask CONFIG_TICK_RATE_HZ outcome hshake.isInit hstarted
    · exact hrecorded.started_concat hearlier _
    · exact ⟨history, _, [], rfl, hrecorded.systemStart hstart outcome⟩

theorem Recorded.stabilizerTask {history : List (System × Step)} {state : System}
    (hrecorded : Recorded history state) (hshake : Handshake state) (CONFIG_TICK_RATE_HZ : ℕ)
    (outcome : Outcome) :
    Recorded (history ++ [(state, .stabilizerTask outcome)])
      (stabilizerTask CONFIG_TICK_RATE_HZ outcome state) := by
  obtain ⟨canStartMutex, imu, gyroMpu, statement, hstep, _⟩ :=
    stabilizerTask_eq CONFIG_TICK_RATE_HZ outcome hshake.calibrated
  rw [hstep]
  refine ⟨?_, ?_, hrecorded.starting, ?_⟩
  · intro hverdict test htest hlevel
    exact (hrecorded.passed hverdict test htest hlevel).concat _
  · intro hwaits hset
    exact (hrecorded.forced hwaits hset).concat _
  · intro hstarted
    exact hrecorded.started_concat hstarted _

theorem Recorded.selftestPassed {history : List (System × Step)} {state : System}
    (hrecorded : Recorded history state) (value : Bool) :
    Recorded (history ++ [(state, .selftestPassed value)]) { state with selftestPassed := value } := by
  refine ⟨?_, ?_, hrecorded.starting, ?_⟩
  · intro hverdict test htest hlevel
    exact (hrecorded.passed hverdict test htest hlevel).concat _
  · intro hwaits hset
    by_cases hwaiting : state.systemTask.waits = true
    · obtain rfl : value = true := hset hwaiting
      exact ⟨_, List.mem_append_right _ (List.mem_singleton_self _), rfl, hwaiting⟩
    · exact (hrecorded.forced hwaits fun hnow => absurd hnow hwaiting).concat _
  · intro hstarted
    exact hrecorded.started_concat hstarted _

theorem history_recorded (CONFIG_TICK_RATE_HZ : ℕ) (steps : List Step) :
    Recorded (history CONFIG_TICK_RATE_HZ steps) (systemAfter CONFIG_TICK_RATE_HZ steps) := by
  induction steps using List.reverseRecOn with
  | nil =>
    refine ⟨fun _ test _ hlevel => absurd hlevel (Nat.not_lt_zero _), ?_, ?_, ?_⟩
    · rintro (hwaits | hwaits) <;> cases hwaits
    · rintro (hstarting | hstarting) <;> cases hstarting
    · intro hstarted
      exact absurd (show 19 ≤ 0 from hstarted) (by decide)
  | append_singleton steps event ih =>
    have hshake := systemAfter_handshake CONFIG_TICK_RATE_HZ steps
    unfold history systemAfter
    rw [trace_append, run_append]
    cases event with
    | systemTask outcome => exact ih.systemTask hshake CONFIG_TICK_RATE_HZ outcome
    | stabilizerTask outcome => exact ih.stabilizerTask hshake CONFIG_TICK_RATE_HZ outcome
    | selftestPassed value => exact ih.selftestPassed value

theorem fliesAfterStart (CONFIG_TICK_RATE_HZ : ℕ) (steps : List Step) :
    FliesAfterStart CONFIG_TICK_RATE_HZ steps := by
  intro before state outcome after motor hhistory hmotor
  obtain ⟨first, second, rfl, rfl, rfl, _⟩ := trace_split hhistory
  have hshake := systemAfter_handshake CONFIG_TICK_RATE_HZ first
  unfold systemAfter at hshake
  refine ⟨?_, hshake.calibrated (by rw [hmotor]; rfl)⟩
  apply (history_recorded CONFIG_TICK_RATE_HZ first).started
  by_contra hbefore
  obtain hwait | ⟨hwait, _⟩ := hshake.waiting (not_le.mp hbefore)
  · exact absurd (hmotor.symm.trans hwait) (by simp)
  · exact absurd (hmotor.symm.trans hwait) (by simp)

theorem readsAlone (CONFIG_TICK_RATE_HZ : ℕ) (steps : List Step) : ReadsAlone CONFIG_TICK_RATE_HZ steps := by
  rintro ⟨⟨first, hsystem⟩, ⟨second, hstabilizer⟩⟩
  have hbefore : (systemAfter CONFIG_TICK_RATE_HZ steps).systemTask.level < STARTED := by
    rw [hsystem]
    simp [SystemStatement.level, STARTED]
  obtain hwait | ⟨hwait, _⟩ := (systemAfter_handshake CONFIG_TICK_RATE_HZ steps).waiting hbefore
  · rw [hstabilizer] at hwait
    contradiction
  · rw [hstabilizer] at hwait
    contradiction

/-- Nothing flies before the self test and the calibration, and the calibration
    has one writer, in every order of the steps. -/
theorem nothing_flies_before_start (CONFIG_TICK_RATE_HZ : ℕ) (steps : List Step) :
    FliesAfterStart CONFIG_TICK_RATE_HZ steps ∧ ReadsAlone CONFIG_TICK_RATE_HZ steps :=
  ⟨fliesAfterStart CONFIG_TICK_RATE_HZ steps, readsAlone CONFIG_TICK_RATE_HZ steps⟩

/-- On a copter at rest whose tests all succeed the system task starts the other
    one, and that drives the motors. -/
example :
    (systemAfter 1000
      (List.replicate 787 (.systemTask ⟨true, ⟨0, 0, 0⟩, 1000, 1000⟩) ++
        List.replicate 10 (.stabilizerTask ⟨true, ⟨0, 0, 0⟩, 1000, 1000⟩))).stabilizerTask =
      .motorsSetRatio .MOTOR_M1 := by
  decide +kernel

end copter.system
