import CopterOS.Copter
import CopterOS.Lib.Run
import Mathlib.Data.List.Induction

open transition number copter.commander copter.linux_client copter.linux_commander copter.motors copter.pidctrl
open copter.rc_commander copter.stabilizer

namespace copter.emergency

/-- The task is at the top of its loop, waits for a request or has just got one. -/
def Emergency.Idle (emer : Emergency) : Prop :=
  emer.task = .vTaskSuspend ∨ emer.task = .suspended ∨ emer.task = .testShutdown

/-- The task is between the lock of the thrust and its end. -/
def Emergency.Delaying (emer : Emergency) : Prop :=
  emer.task = .vTaskDelay ∨ (∃ ticks, emer.task = .delayed ticks) ∨ emer.task = .clearThrust

/-- What requests and ticks can do: they move an idle task to an idle one and a
    delayed task along its delay. -/
structure Passive (emer next : Emergency) : Prop where
  shutdown : next.shutdown = emer.shutdown
  thrust : next.thrust = emer.thrust
  idle : emer.Idle → next.Idle
  delaying : emer.Delaying → next.Delaying
  other : ¬ emer.Idle → ¬ emer.Delaying → next.task = emer.task

theorem Passive.refl (emer : Emergency) : Passive emer emer := ⟨rfl, rfl, id, id, fun _ _ => rfl⟩

theorem vTaskResume_passive (emer : Emergency) : Passive emer (vTaskResume emer) := by
  unfold vTaskResume
  by_cases hsuspended : emer.task = .suspended
  · rw [if_pos hsuspended]
    refine ⟨rfl, rfl, fun _ => .inr (.inr rfl), ?_, fun hidle => absurd (.inr (.inl hsuspended)) hidle⟩
    intro hdelaying
    unfold Emergency.Delaying at hdelaying
    rw [hsuspended] at hdelaying
    simp at hdelaying
  · rw [if_neg hsuspended]
    exact Passive.refl emer

theorem xTaskIncrementTick_passive (emer : Emergency) : Passive emer (xTaskIncrementTick emer) := by
  unfold xTaskIncrementTick
  split
  · rename_i ticks htask
    refine ⟨rfl, rfl, ?_, fun _ => .inr (.inl ⟨ticks, rfl⟩),
      fun _ hdelaying => absurd (.inr (.inl ⟨_, htask⟩)) hdelaying⟩
    intro hidle
    unfold Emergency.Idle at hidle
    rw [htask] at hidle
    simp at hidle
  · exact Passive.refl emer

/-- The thrust is locked on the emergency's source. -/
def Held (state : Copter) : Prop :=
  state.comm.thrustLocked = true ∧ state.comm.getThrust = some .batThrustContoll

/-- A selection never changes the lock, and behind the lock not the source. -/
theorem lc_select_lock (stack : Data) (msg : LcMsg) (comm : Commander ThrustCallback RPYCallback) :
    (lc_select stack msg comm).1.thrustLocked = comm.thrustLocked ∧
      (comm.thrustLocked = true → (lc_select stack msg comm).1.getThrust = comm.getThrust) := by
  unfold lc_select
  split
  case h_5 => exact ⟨rfl, fun _ => rfl⟩
  all_goals apply commanderSetThrust_lock

/-- All that a step of anything but the emergency task can do to it: resume it or
    let a tick pass. -/
theorem step_emer {event : Event} (hevent : event ≠ .emergencyTask) (config : Config) (state : Copter) :
    (step config state event).emer = state.emer ∨
      (step config state event).emer = vTaskResume state.emer ∨
      (event = .xTaskIncrementTick ∧ (step config state event).emer = xTaskIncrementTick state.emer) := by
  cases event with
  | emergency_landing => exact .inr (.inl rfl)
  | emergency_landingISR => exact .inr (.inl rfl)
  | lcTask stack msg =>
    simp only [step]
    rcases lcTask_cases stack msg state with heq | ⟨_, _, heq⟩ | ⟨_, heq⟩ | ⟨_, heq⟩ | ⟨_, heq⟩
    case inr.inr.inr.inr =>
      rw [heq]
      exact .inr (.inl rfl)
    all_goals
      rw [heq]
      exact .inl rfl
  | stabilizerTask sensors =>
    obtain ⟨_, _, _, hemer⟩ := stabilizerTask_frame config sensors state
    exact .inl hemer
  | emergencyTask => exact absurd rfl hevent
  | xTaskIncrementTick => exact .inr (.inr ⟨rfl, rfl⟩)
  | _ => exact .inl rfl

/-- Such a step is passive. -/
theorem step_passive {event : Event} (hevent : event ≠ .emergencyTask) (config : Config) (state : Copter) :
    Passive state.emer (step config state event).emer := by
  rcases step_emer hevent config state with heq | heq | ⟨_, heq⟩
  · rw [heq]
    exact Passive.refl _
  · rw [heq]
    exact vTaskResume_passive _
  · rw [heq]
    exact xTaskIncrementTick_passive _

/-- It never changes the lock, and behind the lock not the source. -/
theorem step_lock {event : Event} (hevent : event ≠ .emergencyTask) (config : Config) (state : Copter) :
    (step config state event).comm.thrustLocked = state.comm.thrustLocked ∧
      (state.comm.thrustLocked = true →
        (step config state event).comm.getThrust = state.comm.getThrust) := by
  cases event with
  | lcTask stack msg =>
    simp only [step]
    rcases lcTask_cases stack msg state with heq | ⟨_, _, heq⟩ | ⟨_, heq⟩ | ⟨_, heq⟩ | ⟨_, heq⟩
    case inr.inr.inl =>
      rw [heq]
      exact lc_select_lock stack msg state.comm
    all_goals
      rw [heq]
      exact ⟨rfl, fun _ => rfl⟩
  | rcComm_selectThrust => exact commanderSetThrust_lock _ _
  | linuxComm_selectThrust => exact commanderSetThrust_lock _ _
  | stabilizerTask sensors =>
    obtain ⟨hcomm, _⟩ := stabilizerTask_frame config sensors state
    simp only [step]
    rw [hcomm]
    exact ⟨rfl, fun _ => rfl⟩
  | emergencyTask => exact absurd rfl hevent
  | _ => exact ⟨rfl, fun _ => rfl⟩

theorem step_held {state : Copter} {event : Event} (hevent : event ≠ .emergencyTask) (hheld : Held state)
    (config : Config) : Held (step config state event) := by
  obtain ⟨hlock, hsource⟩ := step_lock hevent config state
  exact ⟨hlock.trans hheld.1, (hsource hheld.1).trans hheld.2⟩

/-- The thrust a landing starts from, given the one read at its trigger. -/
def profile (config : Config) (read : UInt16) : UInt16 := if read > 0 then config.landingThrust else read

/-- No landing has read the thrust yet. -/
def Before (state : Copter) : Prop :=
  (state.emer.shutdown = false ∧ state.emer.Idle) ∨
    (state.emer.shutdown = true ∧ state.emer.task = .commanderGetThrust)

/-- A landing has read the thrust and not yet locked it. -/
def Triggered (config : Config) (read : UInt16) (state : Copter) : Prop :=
  state.emer.shutdown = true ∧
    ((state.emer.task = .scaleThrust ∧ state.emer.thrust = read) ∨
      (state.emer.task = .commanderLockThrust ∧ state.emer.thrust = profile config read))

/-- The thrust is locked and has not been cleared. -/
structure Descending (config : Config) (read : UInt16) (state : Copter) : Prop where
  held : Held state
  shutdown : state.emer.shutdown = true
  delaying : state.emer.Delaying
  thrust : state.emer.thrust = profile config read

/-- The thrust is locked and has been cleared. -/
structure Landed (state : Copter) : Prop where
  held : Held state
  shutdown : state.emer.shutdown = true
  idle : state.emer.Idle
  thrust : state.emer.thrust = 0

/-- The emergency task has cleared the thrust in one of the recorded steps. -/
def Cleared (steps : List (Copter × Event)) : Prop :=
  ∃ state, (state, Event.emergencyTask) ∈ steps ∧ state.emer.task = .clearThrust

/-- What the emergency task does to an idle or a reading task before its first
    landing. -/
theorem emergencyTask_before {state : Copter} (hbefore : Before state) (config : Config) :
    Before (emergencyTask config state) ∨
      (state.emer.task = .commanderGetThrust ∧
        Triggered config (state.thrust config) (emergencyTask config state)) := by
  rcases hbefore with ⟨hshutdown, hidle⟩ | ⟨hshutdown, htask⟩
  · refine .inl ?_
    obtain htask | htask | htask := hidle
    · simp only [emergencyTask, htask]
      exact .inl ⟨hshutdown, .inr (.inl rfl)⟩
    · simp only [emergencyTask, htask]
      exact .inl ⟨hshutdown, .inr (.inl htask)⟩
    · simp only [emergencyTask, htask, hshutdown, Bool.not_false, if_true]
      exact .inr ⟨rfl, rfl⟩
  · refine .inr ⟨htask, ?_⟩
    have hread := commanderGetThrust_eq config state state.stabilizer state.controller
    simp only [emergencyTask, htask]
    rw [hread]
    exact ⟨hshutdown, .inl ⟨rfl, rfl⟩⟩

/-- It scales the thrust and then locks it. -/
theorem emergencyTask_triggered {config : Config} {read : UInt16} {state : Copter}
    (htriggered : Triggered config read state) :
    (state.emer.task ≠ .commanderLockThrust ∧ Triggered config read (emergencyTask config state)) ∨
      (state.emer.task = .commanderLockThrust ∧ Descending config read (emergencyTask config state)) := by
  obtain ⟨hshutdown, ⟨htask, hthrust⟩ | ⟨htask, hthrust⟩⟩ := htriggered
  · refine .inl ⟨by simp [htask], ?_⟩
    simp only [emergencyTask, htask]
    refine ⟨hshutdown, .inr ⟨rfl, ?_⟩⟩
    simp only [profile, hthrust]
  · refine .inr ⟨htask, ?_⟩
    simp only [emergencyTask, htask]
    exact ⟨⟨rfl, rfl⟩, hshutdown, .inl rfl, hthrust⟩

/-- It waits and then clears the thrust. -/
theorem emergencyTask_descending {config : Config} {read : UInt16} {state : Copter}
    (hdescending : Descending config read state) :
    (state.emer.task ≠ .clearThrust ∧ Descending config read (emergencyTask config state)) ∨
      (state.emer.task = .clearThrust ∧ Landed (emergencyTask config state)) := by
  obtain ⟨hheld, hshutdown, hdelaying, hthrust⟩ := hdescending
  obtain htask | ⟨ticks, htask⟩ | htask := hdelaying
  · refine .inl ⟨by simp [htask], ?_⟩
    simp only [emergencyTask, htask]
    exact ⟨hheld, hshutdown, .inr (.inl ⟨_, rfl⟩), hthrust⟩
  · refine .inl ⟨by simp [htask], ?_⟩
    cases ticks with
    | zero =>
      simp only [emergencyTask, htask]
      exact ⟨hheld, hshutdown, .inr (.inr rfl), hthrust⟩
    | succ ticks =>
      simp only [emergencyTask, htask]
      exact ⟨hheld, hshutdown, .inr (.inl ⟨_, htask⟩), hthrust⟩
  · refine .inr ⟨htask, ?_⟩
    simp only [emergencyTask, htask]
    exact ⟨hheld, hshutdown, .inl rfl, rfl⟩

/-- After the landing it only suspends itself. -/
theorem emergencyTask_landed {state : Copter} (hlanded : Landed state) (config : Config) :
    Landed (emergencyTask config state) := by
  obtain ⟨hheld, hshutdown, hidle, hthrust⟩ := hlanded
  obtain htask | htask | htask := hidle
  · simp only [emergencyTask, htask]
    exact ⟨hheld, hshutdown, .inr (.inl rfl), hthrust⟩
  · simp only [emergencyTask, htask]
    exact ⟨hheld, hshutdown, .inr (.inl htask), hthrust⟩
  · simp only [emergencyTask, htask, hshutdown, Bool.not_true, Bool.false_eq_true, if_false]
    exact ⟨hheld, rfl, .inl rfl, hthrust⟩

/-- Before the landing a step waits, or is the read at the trigger. -/
theorem step_before {state : Copter} (hbefore : Before state) (config : Config) (event : Event) :
    Before (step config state event) ∨
      (event = .emergencyTask ∧ state.emer.task = .commanderGetThrust ∧
        Triggered config (state.thrust config) (step config state event)) := by
  by_cases hevent : event = .emergencyTask
  · subst hevent
    rcases emergencyTask_before hbefore config with hnext | hnext
    · exact .inl hnext
    · exact .inr ⟨rfl, hnext⟩
  · have hpassive := step_passive hevent config state
    refine .inl ?_
    rcases hbefore with ⟨hshutdown, hidle⟩ | ⟨hshutdown, htask⟩
    · exact .inl ⟨hpassive.shutdown.trans hshutdown, hpassive.idle hidle⟩
    · have hsame := hpassive.other (by simp [Emergency.Idle, htask]) (by simp [Emergency.Delaying, htask])
      exact .inr ⟨hpassive.shutdown.trans hshutdown, hsame.trans htask⟩

/-- After the trigger a step waits, scales or locks the thrust. -/
theorem step_triggered {config : Config} {read : UInt16} {state : Copter}
    (htriggered : Triggered config read state) (event : Event) :
    Triggered config read (step config state event) ∨
      (event = .emergencyTask ∧ Descending config read (step config state event)) := by
  by_cases hevent : event = .emergencyTask
  · subst hevent
    rcases emergencyTask_triggered htriggered with ⟨_, hnext⟩ | ⟨_, hnext⟩
    · exact .inl hnext
    · exact .inr ⟨rfl, hnext⟩
  · have hpassive := step_passive hevent config state
    obtain ⟨hshutdown, htask⟩ := htriggered
    have hsame : (step config state event).emer.task = state.emer.task := by
      apply hpassive.other
      · rcases htask with ⟨htask, _⟩ | ⟨htask, _⟩ <;> simp [Emergency.Idle, htask]
      · rcases htask with ⟨htask, _⟩ | ⟨htask, _⟩ <;> simp [Emergency.Delaying, htask]
    refine .inl ⟨hpassive.shutdown.trans hshutdown, ?_⟩
    rw [hsame, hpassive.thrust]
    exact htask

/-- During the delay only the end of the landing changes the thrust. -/
theorem step_descending {config : Config} {read : UInt16} {state : Copter}
    (hdescending : Descending config read state) (event : Event) :
    Descending config read (step config state event) ∨
      (event = .emergencyTask ∧ state.emer.task = .clearThrust ∧ Landed (step config state event)) := by
  by_cases hevent : event = .emergencyTask
  · subst hevent
    rcases emergencyTask_descending hdescending with ⟨_, hnext⟩ | hnext
    · exact .inl hnext
    · exact .inr ⟨rfl, hnext⟩
  · have hpassive := step_passive hevent config state
    exact .inl ⟨step_held hevent hdescending.held config, hpassive.shutdown.trans hdescending.shutdown,
      hpassive.delaying hdescending.delaying, hpassive.thrust.trans hdescending.thrust⟩

/-- No step leaves the landed state. -/
theorem step_landed {state : Copter} (hlanded : Landed state) (config : Config) (event : Event) :
    Landed (step config state event) := by
  by_cases hevent : event = .emergencyTask
  · subst hevent
    exact emergencyTask_landed hlanded config
  · have hpassive := step_passive hevent config state
    exact ⟨step_held hevent hlanded.held config, hpassive.shutdown.trans hlanded.shutdown,
      hpassive.idle hlanded.idle, hpassive.thrust.trans hlanded.thrust⟩

/-- A run either has not come to its trigger, or splits at it and is in one of the
    stages that follow. -/
theorem run_stage (config : Config) {start : Copter} (hstart : start.emer = emer0) (events : List Event) :
    Before (run (step config) start events) ∨
      ∃ first middle, events = first ++ .emergencyTask :: middle ∧
        (run (step config) start first).emer.task = .commanderGetThrust ∧
        let read := (run (step config) start first).thrust config
        Triggered config read (run (step config) start events) ∨
          Descending config read (run (step config) start events) ∨ Landed (run (step config) start events) := by
  induction events using List.reverseRecOn with
  | nil =>
    refine .inl (.inl ?_)
    rw [run_nil, hstart]
    exact ⟨rfl, .inl rfl⟩
  | append_singleton events last ih =>
    rw [run_concat]
    rcases ih with hbefore | ⟨first, middle, hsplit, htask, hstage⟩
    · rcases step_before hbefore config last with hnext | ⟨rfl, htask, hnext⟩
      · exact .inl hnext
      · exact .inr ⟨events, [], rfl, htask, .inl hnext⟩
    · refine .inr ⟨first, middle ++ [last], by simp [hsplit], htask, ?_⟩
      rcases hstage with htriggered | hdescending | hlanded
      · rcases step_triggered htriggered last with hnext | ⟨_, hnext⟩
        · exact .inl hnext
        · exact .inr (.inl hnext)
      · rcases step_descending hdescending last with hnext | ⟨_, _, hnext⟩
        · exact .inr (.inl hnext)
        · exact .inr (.inr hnext)
      · exact .inr (.inr (step_landed hlanded config last))

/-- At the step that locks the thrust, the run splits at its trigger. -/
theorem run_locking {config : Config} {start : Copter} (hstart : start.emer = emer0) {events : List Event}
    (hlock : (run (step config) start events).emer.task = .commanderLockThrust) :
    ∃ first middle, events = first ++ .emergencyTask :: middle ∧
      (run (step config) start first).emer.task = .commanderGetThrust ∧
      Descending config ((run (step config) start first).thrust config)
        (step config (run (step config) start events) .emergencyTask) := by
  rcases run_stage config hstart events with hbefore | ⟨first, middle, hsplit, htask, hstage⟩
  · rcases hbefore with ⟨_, hidle⟩ | ⟨_, hreading⟩
    · simp [Emergency.Idle, hlock] at hidle
    · simp [hlock] at hreading
  · refine ⟨first, middle, hsplit, htask, ?_⟩
    rcases hstage with htriggered | hdescending | hlanded
    · rcases emergencyTask_triggered htriggered with ⟨hother, _⟩ | ⟨_, hnext⟩
      · exact absurd hlock hother
      · exact hnext
    · have hdelaying := hdescending.delaying
      simp [Emergency.Delaying, hlock] at hdelaying
    · have hidle := hlanded.idle
      simp [Emergency.Idle, hlock] at hidle

/-- From the lock on, the landing is over exactly when the thrust has been cleared. -/
theorem run_descending {config : Config} {read : UInt16} {start : Copter}
    (hstart : Descending config read start) (events : List Event) :
    (¬ Cleared (trace (step config) start events) ∧ Descending config read (run (step config) start events)) ∨
      (Cleared (trace (step config) start events) ∧ Landed (run (step config) start events)) := by
  induction events using List.reverseRecOn with
  | nil =>
    refine .inl ⟨?_, hstart⟩
    simp [Cleared]
  | append_singleton events last ih =>
    simp only [run_concat, trace_concat]
    rcases ih with ⟨hnot, hdescending⟩ | ⟨⟨state, hmem, htask⟩, hlanded⟩
    · by_cases hclear : last = .emergencyTask ∧
          (run (step config) start events).emer.task = .clearThrust
      · obtain ⟨rfl, htask⟩ := hclear
        refine .inr ⟨⟨_, by simp, htask⟩, ?_⟩
        rcases emergencyTask_descending hdescending with ⟨hother, _⟩ | ⟨_, hnext⟩
        · exact absurd htask hother
        · exact hnext
      · refine .inl ⟨?_, ?_⟩
        · rintro ⟨state, hmem, htask⟩
          rcases List.mem_append.mp hmem with hmem | hmem
          · exact hnot ⟨state, hmem, htask⟩
          · simp only [List.mem_singleton, Prod.mk.injEq] at hmem
            obtain ⟨rfl, rfl⟩ := hmem
            exact hclear ⟨rfl, htask⟩
        · rcases step_descending hdescending last with hnext | ⟨hevent, htask, _⟩
          · exact hnext
          · exact absurd ⟨hevent, htask⟩ hclear
    · exact .inr ⟨⟨state, by simp [hmem], htask⟩, step_landed hlanded config last⟩

def isEmergencyTask : Event → Bool
  | .emergencyTask => true
  | _ => false

def isTick : Event → Bool
  | .xTaskIncrementTick => true
  | _ => false

theorem eq_of_isEmergencyTask {event : Event} (hmark : isEmergencyTask event = true) :
    event = .emergencyTask := by
  cases event <;> first | rfl | cases hmark

theorem eq_of_isTick {event : Event} (hmark : isTick event = true) : event = .xTaskIncrementTick := by
  cases event <;> first | rfl | cases hmark

/-- The emergency task has called its delay, all ticks of the delay have passed,
    and the task has executed two more statements. -/
def Finished (config : Config) (events : List Event) : Prop :=
  ∃ call delay rest, events = call ++ (delay ++ rest) ∧ 1 ≤ call.countP isEmergencyTask ∧
    3000 / config.portTICK_PERIOD_MS ≤ delay.countP isTick ∧ 2 ≤ rest.countP isEmergencyTask

/-- At most so many ticks and statements are missing to the end of the landing. -/
structure Due (config : Config) (ticks tasks : ℕ) (emer : Emergency) : Prop where
  shutdown : emer.shutdown = true
  stage : emer.Idle ∨ (emer.task = .clearThrust ∧ 1 ≤ tasks) ∨
    (∃ rest, rest ≤ ticks ∧ emer.task = .delayed rest ∧ 2 ≤ tasks) ∨
    (emer.task = .vTaskDelay ∧ 3000 / config.portTICK_PERIOD_MS ≤ ticks ∧ 3 ≤ tasks)

theorem Due.mono {config : Config} {ticks tasks : ℕ} {emer : Emergency} (hdue : Due config ticks tasks emer)
    {moreTicks moreTasks : ℕ} (hticks : ticks ≤ moreTicks) (htasks : tasks ≤ moreTasks) :
    Due config moreTicks moreTasks emer := by
  obtain ⟨hshutdown, hidle | ⟨htask, hclear⟩ | ⟨rest, hrest, htask, hdelayed⟩ | ⟨htask, hdelay, hcall⟩⟩ := hdue
  · exact ⟨hshutdown, .inl hidle⟩
  · exact ⟨hshutdown, .inr (.inl ⟨htask, by omega⟩)⟩
  · exact ⟨hshutdown, .inr (.inr (.inl ⟨rest, by omega, htask, by omega⟩))⟩
  · exact ⟨hshutdown, .inr (.inr (.inr ⟨htask, by omega, by omega⟩))⟩

/-- Nothing is left of the delay before the last statement. -/
theorem Due.of_tasks_le_one {config : Config} {ticks tasks : ℕ} {emer : Emergency}
    (hdue : Due config ticks tasks emer) (htasks : tasks ≤ 1) : Due config 0 tasks emer := by
  obtain ⟨hshutdown, hidle | hclear | ⟨_, _, _, hdelayed⟩ | ⟨_, _, hcall⟩⟩ := hdue
  · exact ⟨hshutdown, .inl hidle⟩
  · exact ⟨hshutdown, .inr (.inl hclear)⟩
  · omega
  · omega

/-- With nothing missing the landing has ended. -/
theorem Due.not_delaying {config : Config} {emer : Emergency} (hdue : Due config 0 0 emer) : ¬ emer.Delaying := by
  obtain ⟨_, hidle | ⟨_, hclear⟩ | ⟨_, _, _, hdelayed⟩ | ⟨_, _, hcall⟩⟩ := hdue
  · unfold Emergency.Delaying
    obtain htask | htask | htask := hidle <;> simp [htask]
  · omega
  · omega
  · omega

/-- A statement of the emergency task brings the end closer, except during the
    delay. -/
theorem emergencyTask_due {config : Config} {ticks tasks : ℕ} {state : Copter}
    (hdue : Due config ticks (tasks + 1) state.emer) (hdelay : ticks = 0 ∨ 2 ≤ tasks) :
    Due config ticks tasks (emergencyTask config state).emer := by
  obtain ⟨hshutdown, hstage⟩ := hdue
  rcases hstage with (htask | htask | htask) | ⟨htask, _⟩ | ⟨rest, hrest, htask, _⟩ | ⟨htask, hticks, _⟩
  · simp only [emergencyTask, htask]
    exact ⟨hshutdown, .inl (.inr (.inl rfl))⟩
  · simp only [emergencyTask, htask]
    exact ⟨hshutdown, .inl (.inr (.inl htask))⟩
  · simp only [emergencyTask, htask, hshutdown, Bool.not_true, Bool.false_eq_true, if_false]
    exact ⟨rfl, .inl (.inl rfl)⟩
  · simp only [emergencyTask, htask]
    exact ⟨hshutdown, .inl (.inl rfl)⟩
  · cases rest with
    | zero =>
      simp only [emergencyTask, htask]
      exact ⟨hshutdown, .inr (.inl ⟨rfl, by omega⟩)⟩
    | succ rest =>
      simp only [emergencyTask, htask]
      exact ⟨hshutdown, .inr (.inr (.inl ⟨_, hrest, htask, by omega⟩))⟩
  · simp only [emergencyTask, htask]
    exact ⟨hshutdown, .inr (.inr (.inl ⟨_, hticks, rfl, by omega⟩))⟩

/-- A tick brings the end of the delay closer once the delay has been called. -/
theorem xTaskIncrementTick_due {config : Config} {ticks fewer tasks : ℕ} {emer : Emergency}
    (hdue : Due config ticks tasks emer) (hfewer : ticks ≤ fewer + 1) (hdelay : tasks ≤ 2 ∨ ticks ≤ fewer) :
    Due config fewer tasks (xTaskIncrementTick emer) := by
  have hpassive := xTaskIncrementTick_passive emer
  obtain ⟨hshutdown, hstage⟩ := hdue
  refine ⟨hpassive.shutdown.trans hshutdown, ?_⟩
  rcases hstage with hidle | ⟨htask, hclear⟩ | ⟨rest, hrest, htask, hdelayed⟩ | ⟨htask, hticks, hcall⟩
  · exact .inl (hpassive.idle hidle)
  · exact .inr (.inl ⟨by simp only [xTaskIncrementTick, htask], hclear⟩)
  · refine .inr (.inr (.inl ?_))
    cases rest with
    | zero => exact ⟨0, by omega, by simp only [xTaskIncrementTick, htask], hdelayed⟩
    | succ rest => exact ⟨rest, by omega, by simp only [xTaskIncrementTick, htask], hdelayed⟩
  · exact .inr (.inr (.inr ⟨by simp only [xTaskIncrementTick, htask], by omega, hcall⟩))

/-- No step puts the end off. -/
theorem step_due {config : Config} {ticks tasks : ℕ} {state : Copter}
    (hdue : Due config ticks tasks state.emer) (event : Event) :
    Due config ticks tasks (step config state event).emer := by
  by_cases hevent : event = .emergencyTask
  · subst hevent
    by_cases htasks : tasks ≤ 1
    · have hnow := (hdue.of_tasks_le_one htasks).mono (le_refl 0) (Nat.le_succ tasks)
      exact (emergencyTask_due hnow (.inl rfl)).mono (Nat.zero_le ticks) (le_refl tasks)
    · exact emergencyTask_due (hdue.mono (le_refl ticks) (Nat.le_succ tasks)) (.inr (by omega))
  · rcases step_emer hevent config state with heq | heq | ⟨_, heq⟩
    · rw [heq]
      exact hdue
    · rw [heq]
      by_cases hsuspended : state.emer.task = .suspended
      · have hpassive := vTaskResume_passive state.emer
        exact ⟨hpassive.shutdown.trans hdue.shutdown, .inl (hpassive.idle (.inr (.inl hsuspended)))⟩
      · rw [vTaskResume_of_ne hsuspended]
        exact hdue
    · rw [heq]
      exact xTaskIncrementTick_due hdue (Nat.le_succ ticks) (.inr (le_refl ticks))

/-- After the lock a finished landing has been cleared. -/
theorem cleared_of_finished {config : Config} {read : UInt16} {start : Copter}
    (hstart : Descending config read start) (htask : start.emer.task = .vTaskDelay) {events : List Event}
    (hfinished : Finished config events) : Cleared (trace (step config) start events) := by
  obtain ⟨call, delay, rest, rfl, hcall, hdelay, hrest⟩ := hfinished
  have hlocked : Due config (3000 / config.portTICK_PERIOD_MS) 3 start.emer :=
    ⟨hstart.shutdown, .inr (.inr (.inr ⟨htask, le_refl _, le_refl _⟩))⟩
  have hcalled : Due config (3000 / config.portTICK_PERIOD_MS) 2 (run (step config) start call).emer := by
    refine run_countdown (fun tasks (state : Copter) =>
        Due config (3000 / config.portTICK_PERIOD_MS) (tasks + 2) state.emer)
      isEmergencyTask (fun _ _ event hdue => step_due hdue event) ?_ hlocked hcall
    intro tasks state event hmark hdue
    rw [eq_of_isEmergencyTask hmark]
    exact emergencyTask_due hdue (.inr (by omega))
  have hdelayed : Due config 0 2 (run (step config) (run (step config) start call) delay).emer := by
    refine run_countdown (fun ticks (state : Copter) => Due config ticks 2 state.emer) isTick
      (fun _ _ event hdue => step_due hdue event) ?_ hcalled hdelay
    intro ticks state event hmark hdue
    rw [eq_of_isTick hmark]
    exact xTaskIncrementTick_due hdue (le_refl _) (.inl (le_refl 2))
  have hended : Due config 0 0
      (run (step config) (run (step config) (run (step config) start call) delay) rest).emer := by
    refine run_countdown (fun tasks (state : Copter) => Due config 0 tasks state.emer) isEmergencyTask
      (fun _ _ event hdue => step_due hdue event) ?_ hdelayed hrest
    intro tasks state event hmark hdue
    rw [eq_of_isEmergencyTask hmark]
    exact emergencyTask_due hdue (.inl rfl)
  rw [← run_append, ← run_append] at hended
  rcases run_descending hstart (call ++ (delay ++ rest)) with ⟨_, hdescending⟩ | ⟨hcleared, _⟩
  · exact absurd hdescending.delaying hended.not_delaying
  · exact hcleared

/-- Behind the lock `commanderGetThrust` returns the thrust of the landing. -/
theorem thrust_of_held {state : Copter} (hheld : Held state) (config : Config) :
    state.thrust config = state.emer.thrust := by
  unfold Copter.thrust commanderGetThrust
  rw [hheld.2]
  rfl

/-- Without thrust a calibrated pass of the stabilizer idles all motors. -/
theorem stabilizerTask_of_thrust_zero {config : Config} {state : Copter} (hthrust : state.thrust config = 0)
    {sensors : Sensors} (hcalibrated : sensors.imu6IsCalibrated = true) :
    ∃ pulses, (stabilizerTask config sensors state).1 = some pulses ∧
      ∀ motor, (pulses motor).toNat = config.esc.CONFIG_MOTOR_ESC_MIN := by
  rw [stabilizerTask_of_calibrated hcalibrated, hthrust]
  dsimp only
  rw [actuate_zero]
  exact ⟨_, rfl, fun motor => motorsSetRatio_zero config.esc⟩

/-- A request during the delay changes nothing, and one after the landing neither
    the lock nor the thrust. -/
theorem emergency_landing_frame (emer : Emergency) :
    (emergency_landing emer).thrust = emer.thrust ∧ (emergency_landing emer).shutdown = emer.shutdown ∧
      (emer.Delaying → emergency_landing emer = emer) := by
  have hpassive := vTaskResume_passive emer
  refine ⟨hpassive.thrust, hpassive.shutdown, ?_⟩
  intro hdelaying
  apply vTaskResume_of_ne
  intro hsuspended
  simp [Emergency.Delaying, hsuspended] at hdelaying

/-- A landing request by a task, an interrupt or a message. -/
def Request : Event → Prop
  | .emergency_landing => True
  | .emergency_landingISR => True
  | .lcTask _ msg => msg.type = LC_TYPE_EMERGENCY
  | _ => False

/-- Every request resumes the task and does nothing else. -/
theorem step_request {event : Event} (hrequest : Request event) (config : Config) (state : Copter) :
    step config state event = { state with emer := emergency_landing state.emer } := by
  cases event with
  | emergency_landing => rfl
  | emergency_landingISR => rfl
  | lcTask stack msg =>
    have htype : msg.type.toNat = ((5 : Fin LC_COUNT) : ℕ) := by
      rw [hrequest]
      rfl
    simp only [step]
    rw [lcTask_of_callback 5 htype rfl]
    rfl
  | _ => exact hrequest.elim

/-- The thrust in a state after the lock, given what was read at the trigger and
    whether the landing is over: none or the emergency's, the latter only if there
    was thrust and the landing is not over. Then all motors idle. Further requests
    change neither the lock nor the thrust, and nothing at all before the end. -/
structure LandingProfile (config : Config) (read : UInt16) (ended : Prop) (state : Copter) : Prop where
  held : Held state
  thrust : state.thrust config = 0 ∨ state.thrust config = config.landingThrust
  powered : state.thrust config ≠ 0 → read > 0 ∧ ¬ ended
  idle : ended → state.thrust config = 0 ∧ ∀ sensors : Sensors, sensors.imu6IsCalibrated = true →
    ∃ pulses, (stabilizerTask config sensors state).1 = some pulses ∧
      ∀ motor, (pulses motor).toNat = config.esc.CONFIG_MOTOR_ESC_MIN
  request : ∀ event, Request event →
    (step config state event).comm = state.comm ∧
      (step config state event).emer.thrust = state.emer.thrust ∧
      (step config state event).emer.shutdown = state.emer.shutdown ∧
      (¬ ended → (step config state event).emer = state.emer)

/-- Before its end a landing gives the thrust it has started from. -/
theorem Descending.landingProfile {config : Config} {read : UInt16} {state : Copter} {ended : Prop}
    (hdescending : Descending config read state) (hnot : ¬ ended) : LandingProfile config read ended state := by
  have hthrust := (thrust_of_held hdescending.held config).trans hdescending.thrust
  refine ⟨hdescending.held, ?_, ?_, fun hended => absurd hended hnot, ?_⟩
  · rw [hthrust, profile]
    split
    · exact .inr rfl
    · rename_i hzero
      exact .inl (by simpa using hzero)
  · intro hpowered
    refine ⟨?_, hnot⟩
    by_contra hzero
    apply hpowered
    rw [hthrust, profile, if_neg hzero]
    simpa using hzero
  · intro event hrequest
    obtain ⟨hkept, hflag, hnothing⟩ := emergency_landing_frame state.emer
    rw [step_request hrequest]
    exact ⟨rfl, hkept, hflag, fun _ => hnothing hdescending.delaying⟩

/-- After its end it gives none. -/
theorem Landed.landingProfile {config : Config} {read : UInt16} {state : Copter} {ended : Prop}
    (hlanded : Landed state) (hended : ended) : LandingProfile config read ended state := by
  have hthrust := (thrust_of_held hlanded.held config).trans hlanded.thrust
  refine ⟨hlanded.held, .inl hthrust, fun hpowered => absurd hthrust hpowered, ?_, ?_⟩
  · intro _
    exact ⟨hthrust, fun sensors => stabilizerTask_of_thrust_zero hthrust⟩
  · intro event hrequest
    obtain ⟨hkept, hflag, _⟩ := emergency_landing_frame state.emer
    rw [step_request hrequest]
    exact ⟨rfl, hkept, hflag, fun hnot => absurd hended hnot⟩

/-- The delay has no tick left, or has already been left behind. -/
def DelayEnded (state : Copter) : Prop :=
  state.emer.task = .delayed 0 ∨ state.emer.task = .clearThrust ∨ state.emer.Idle

/-- From the step that locks the thrust on, every state of every run keeps the
    profile of the landing, which is over once the emergency task has cleared the
    thrust. It has done so two statements after the end of its delay. -/
theorem landing_profile (config : Config) {start : Copter} (hstart : start.emer = emer0)
    {before : List Event} (hlock : (run (step config) start before).emer.task = .commanderLockThrust)
    (after : List Event) :
    let locked := step config (run (step config) start before) .emergencyTask
    (config.landingThrust.toNat : ℤ) = truncate (65535 * ((config.CONFIG_EMERGENCY_THRUST : ℚ) / 100)) ∧
    (Finished config after → Cleared (trace (step config) locked after)) ∧
    ∃ first middle, before = first ++ .emergencyTask :: middle ∧
      (run (step config) start first).emer.task = .commanderGetThrust ∧
      LandingProfile config ((run (step config) start first).thrust config)
        (Cleared (trace (step config) locked after)) (run (step config) locked after) := by
  intro locked
  obtain ⟨first, middle, hsplit, htask, hdescending⟩ := run_locking hstart hlock
  have hdelay : locked.emer.task = .vTaskDelay := by simp only [locked, step, emergencyTask, hlock]
  refine ⟨landingThrust_toNat config.emergency_thrust_le _, cleared_of_finished hdescending hdelay,
    first, middle, hsplit, htask, ?_⟩
  rcases run_descending hdescending after with ⟨hnot, hstage⟩ | ⟨hcleared, hstage⟩
  · exact hstage.landingProfile hnot
  · exact hstage.landingProfile hcleared

/-- A flight under the Linux pilot at half thrust up to the lock of a landing. -/
def flight : List Event :=
  [.linuxComm_selectThrust, .lcTask (fun _ => 0) ⟨LC_TYPE_CONTROL, fun _ => 0⟩, .emergencyTask,
    .emergency_landing, .emergencyTask, .emergencyTask, .emergencyTask]

/-- The landing of that flight right after its lock. -/
theorem landing_profile_flight :
    let config := tlm_vf610_defconfig (fun _ => 0) (fun _ => 0)
    let locked := step config (run (step config) (copter0 config) flight) .emergencyTask
    locked.thrust config = 29490 ∧ ∃ first middle, flight = first ++ .emergencyTask :: middle ∧
      LandingProfile config ((run (step config) (copter0 config) first).thrust config)
        (Cleared (trace (step config) locked [])) (run (step config) locked []) := by
  intro config locked
  refine ⟨by decide +kernel, ?_⟩
  have hlock : (run (step config) (copter0 config) flight).emer.task = .commanderLockThrust := by
    decide +kernel
  obtain ⟨first, middle, hsplit, _, hprofile⟩ := (landing_profile config rfl hlock []).2.2
  exact ⟨first, middle, hsplit, hprofile⟩

/-- Ticks only count the delay down. -/
theorem run_ticks (config : Config) {state : Copter} {rest : ℕ} (ticks : ℕ)
    (htask : state.emer.task = .delayed (rest + ticks)) :
    let final := run (step config) state (List.replicate ticks .xTaskIncrementTick)
    final.comm = state.comm ∧ final.emer = { state.emer with task := .delayed rest } := by
  induction ticks generalizing state with
  | zero =>
    have htask : state.emer.task = .delayed rest := htask
    refine ⟨rfl, ?_⟩
    simp only [List.replicate_zero, run_nil]
    rw [← htask]
  | succ ticks ih =>
    have hnext : (step config state .xTaskIncrementTick).emer =
        { state.emer with task := .delayed (rest + ticks) } := by
      simp only [step, xTaskIncrementTick, htask, ← Nat.add_assoc]
    have htask : (step config state .xTaskIncrementTick).emer.task = .delayed (rest + ticks) := by rw [hnext]
    have hrun := ih htask
    simp only [List.replicate_succ, run_cons]
    rw [hnext] at hrun
    exact hrun

/-- When the ticks of the delay have passed and the emergency task has not run
    since, the thrust is still the one of the landing. -/
theorem thrust_of_delay_ended (config : Config) {state : Copter} {ticks : ℕ}
    (htask : state.emer.task = .delayed ticks) (hsource : state.comm.getThrust = some .batThrustContoll) :
    let final := run (step config) state (List.replicate ticks .xTaskIncrementTick)
    DelayEnded final ∧ final.thrust config = state.emer.thrust := by
  intro final
  have hzero : state.emer.task = .delayed (0 + ticks) := by rw [htask, Nat.zero_add]
  obtain ⟨hcomm, hemer⟩ := run_ticks config ticks hzero
  have hended : final.emer.task = .delayed 0 := by rw [hemer]
  refine ⟨.inl hended, ?_⟩
  unfold Copter.thrust commanderGetThrust
  rw [hcomm, hsource]
  simp only [callThrust, batThrustContoll]
  rw [hemer]

/-- All 3000 ticks of the delay have passed, and the motors still get the thrust
    of the landing. -/
theorem not_landingProfile_delay_ended :
    let config := tlm_vf610_defconfig (fun _ => 0) (fun _ => 0)
    let delayed := run (step config) (copter0 config) (flight ++ [.emergencyTask, .emergencyTask])
    let final := run (step config) delayed (List.replicate 3000 .xTaskIncrementTick)
    let read := (run (step config) (copter0 config) (flight.take 5)).thrust config
    ¬ LandingProfile config read (DelayEnded final) final := by
  intro config delayed final read hprofile
  have htask : delayed.emer.task = .delayed 3000 := by decide +kernel
  have hsource : delayed.comm.getThrust = some .batThrustContoll := by decide +kernel
  have hthrust : delayed.emer.thrust = 29490 := by decide +kernel
  obtain ⟨hended, hpower⟩ := thrust_of_delay_ended config htask hsource
  have hnonzero : delayed.emer.thrust ≠ 0 := by
    rw [hthrust]
    decide
  exact (hprofile.powered (fun hzero => hnonzero (hpower.symm.trans hzero))).2 hended

end copter.emergency
