import CopterOS.Lib.Run
import CopterOS.Commander

open transition

namespace copter.commander

/-- One complete call of a commander operation. -/
inductive Call (T R : Type) where
  | commanderInit
  | commanderSetThrust (callback : Option T)
  | commanderSetRPY (callback : Option R)
  | commanderSetRPYType (rollType pitchType yawType : RPYType)
  | commanderLockThrust (callback : Option T) (lock : Bool)

def perform {T R : Type} (comm : Commander T R) : Call T R → Commander T R
  | .commanderInit => copter.commander.commanderInit comm
  | .commanderSetThrust callback => copter.commander.commanderSetThrust callback comm
  | .commanderSetRPY callback => copter.commander.commanderSetRPY callback comm
  | .commanderSetRPYType rollType pitchType yawType =>
    copter.commander.commanderSetRPYType rollType pitchType yawType comm
  | .commanderLockThrust callback lock => copter.commander.commanderLockThrust callback lock comm

/-- The calls other than those of `commanderLockThrust`. -/
def Call.NotLock {T R : Type} (call : Call T R) : Prop :=
  ∀ callback lock, call ≠ .commanderLockThrust callback lock

/-- The commander is locked on the given thrust source. -/
def Commander.LockedOn {T R : Type} (comm : Commander T R) (callback : Option T) : Prop :=
  comm.getThrust = callback ∧ comm.thrustLocked = true

/-- Every lock taken from the static initial state on lasts until the next call
    of `commanderLockThrust`. -/
def KeepsLock {T R : Type} (calls : List (Call T R)) : Prop :=
  ∀ before callback after, calls = before ++ .commanderLockThrust callback true :: after →
    ∀ between, between <+: after → (∀ call ∈ between, call.NotLock) →
      (run perform comm (before ++ .commanderLockThrust callback true :: between)).LockedOn callback

/-- The first initialization is called while a lock is held. -/
def LockedBeforeInit {T R : Type} (calls : List (Call T R)) : Prop :=
  ∃ before callback between after,
    calls = before ++ .commanderLockThrust callback true :: (between ++ .commanderInit :: after) ∧
      .commanderInit ∉ before ∧ .commanderInit ∉ between ∧ ∀ call ∈ between, call.NotLock

/-- An initialized commander keeps its lock in every call but the lock's own,
    and so does any commander that is not being initialized. -/
theorem perform_lockedOn {T R : Type} {comm : Commander T R} {callback : Option T} {call : Call T R}
    (hlocked : comm.LockedOn callback) (hcall : call.NotLock)
    (hinit : call = .commanderInit → comm.isInit = true) : (perform comm call).LockedOn callback := by
  cases call with
  | commanderInit =>
    simp only [perform, commanderInit_of_isInit (hinit rfl)]
    exact hlocked
  | commanderSetThrust other =>
    simp only [perform, commanderSetThrust_of_locked hlocked.2]
    exact hlocked
  | commanderSetRPY other => exact hlocked
  | commanderSetRPYType rollType pitchType yawType => exact hlocked
  | commanderLockThrust other lock => exact absurd rfl (hcall other lock)

/-- Only an initialization sets the flag, and no call clears it. -/
theorem perform_isInit {T R : Type} (comm : Commander T R) (call : Call T R)
    (hcall : call ≠ .commanderInit) : (perform comm call).isInit = comm.isInit := by
  cases call with
  | commanderInit => exact absurd rfl hcall
  | commanderSetThrust callback => simp [perform]
  | commanderSetRPY callback => rfl
  | commanderSetRPYType rollType pitchType yawType => rfl
  | commanderLockThrust callback lock => rfl

theorem run_isInit_of_mem {T R : Type} {calls : List (Call T R)} (comm : Commander T R)
    (hmem : .commanderInit ∈ calls) : (run perform comm calls).isInit = true := by
  obtain ⟨before, after, rfl⟩ := List.append_of_mem hmem
  have hkept : ∀ (state : Commander T R) call, state.isInit = true → (perform state call).isInit = true := by
    intro state call hstate
    by_cases hcall : call = .commanderInit
    · simp [hcall, perform]
    · rw [perform_isInit state call hcall, hstate]
  simp only [run_append, run_cons]
  exact run_invariant hkept (by simp [perform]) after

theorem run_isInit_of_not_mem {T R : Type} {calls : List (Call T R)} (comm : Commander T R)
    (hmem : .commanderInit ∉ calls) : (run perform comm calls).isInit = comm.isInit := by
  have hkept : ∀ (state : Commander T R) call, call ≠ .commanderInit → state.isInit = comm.isInit →
      (perform state call).isInit = comm.isInit := by
    intro state call hcall hstate
    rw [perform_isInit state call hcall, hstate]
  exact run_invariant_of_forall hkept rfl (fun call hcall heq => hmem (heq ▸ hcall))

/-- A lock lasts over calls that are no locks when the commander has been
    initialized before it, or is not initialized meanwhile. -/
theorem run_lockedOn {T R : Type} {comm : Commander T R} {callback : Option T} {calls : List (Call T R)}
    (hlocked : comm.LockedOn callback) (hcalls : ∀ call ∈ calls, call.NotLock)
    (hinit : comm.isInit = true ∨ .commanderInit ∉ calls) :
    (run perform comm calls).LockedOn callback := by
  rcases hinit with hinit | hnone
  · have hkept : ∀ (state : Commander T R) call, call.NotLock →
        state.LockedOn callback ∧ state.isInit = true →
        (perform state call).LockedOn callback ∧ (perform state call).isInit = true := by
      rintro state call hcall ⟨hstate, hstateInit⟩
      refine ⟨perform_lockedOn hstate hcall (fun _ => hstateInit), ?_⟩
      by_cases heq : call = .commanderInit
      · simp [heq, perform]
      · rw [perform_isInit state call heq, hstateInit]
    exact (run_invariant_of_forall hkept ⟨hlocked, hinit⟩ hcalls).1
  · have hkept : ∀ (state : Commander T R) call, call.NotLock ∧ call ≠ .commanderInit →
        state.LockedOn callback → (perform state call).LockedOn callback :=
      fun state call hcall hstate => perform_lockedOn hstate hcall.1 (fun heq => absurd heq hcall.2)
    exact run_invariant_of_forall hkept hlocked
      (fun call hcall => ⟨hcalls call hcall, fun heq => hnone (heq ▸ hcall)⟩)

/-- From power-up, the thrust lock survives every call order except those in
    which the first initialization is called under a lock. -/
theorem keepsLock_iff {T R : Type} (calls : List (Call T R)) :
    KeepsLock calls ↔ ¬ LockedBeforeInit calls := by
  constructor
  · rintro hkeeps ⟨before, callback, between, after, hcalls, hbefore, hbetween, hlocks⟩
    have hprefix : between ++ [.commanderInit] <+: between ++ .commanderInit :: after := ⟨after, by simp⟩
    have hlocked := (hkeeps before callback _ hcalls _ hprefix (by
      intro call hcall
      rcases List.mem_append.mp hcall with hcall | hcall
      · exact hlocks call hcall
      · obtain rfl : call = .commanderInit := by simpa using hcall
        exact fun _ _ heq => by cases heq)).2
    have hnotInit : (run perform comm (before ++ .commanderLockThrust callback true :: between)).isInit =
        false := by
      rw [run_isInit_of_not_mem comm (by simp [hbefore, hbetween])]
      rfl
    simp only [run_append, run_cons, run_nil] at hlocked hnotInit
    have hcleared := commanderInit_thrustLocked hnotInit
    exact absurd (hlocked.symm.trans hcleared) (by decide)
  · intro hsafe before callback after hcalls between hprefix hlocks
    obtain ⟨rest, rfl⟩ := hprefix
    simp only [run_append, run_cons]
    refine run_lockedOn ⟨rfl, rfl⟩ hlocks ?_
    by_cases hbefore : .commanderInit ∈ before
    · exact .inl (run_isInit_of_mem comm hbefore)
    · refine .inr (fun hmem => hsafe ?_)
      obtain ⟨first, second, rfl, hfirst⟩ := List.eq_append_cons_of_mem hmem
      refine ⟨before, callback, first, second ++ rest, ?_, hbefore, hfirst, ?_⟩
      · simpa using hcalls
      · exact fun call hcall => hlocks call (by simp [hcall])

/-- A landing before the first initialization: the lock is taken, the initialization
    clears it and a message gives the thrust back to Linux. -/
theorem not_keepsLock_alarm_before_init :
    ¬ KeepsLock ([.commanderLockThrust (some .batThrustContoll) true, .commanderInit,
      .commanderSetThrust (some .linuxComm_GetThrust)] : List (Call ThrustCallback RPYCallback)) := by
  intro hkeeps
  have hlocked := (hkeeps [] _ _ rfl [.commanderInit] ⟨_, rfl⟩ (by
    intro call hcall
    obtain rfl : call = .commanderInit := by simpa using hcall
    exact fun _ _ heq => by cases heq)).2
  exact absurd hlocked (by decide)

end copter.commander
