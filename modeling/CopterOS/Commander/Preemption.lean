import CopterOS.Lib.Run
import CopterOS.LinuxCommander
import Mathlib.Data.List.Induction

open transition copter.linux_client copter.linux_commander copter.rc_commander

namespace copter.commander

/-- The two pilots a message can select. -/
inductive Pilot where
  | rc
  | linux
  deriving DecidableEq

def Pilot.getThrust : Pilot → ThrustCallback
  | .rc => .rcComm_GetThrust
  | .linux => .linuxComm_GetThrust

def Pilot.getRPY : Pilot → RPYCallback
  | .rc => .rcComm_GetRPY
  | .linux => .linuxComm_GetRPY

/-- A call of the commander in the handler of a selection. -/
inductive SelectCall where
  | commanderSetThrust (pilot : Pilot)
  | commanderSetRPY (pilot : Pilot)
  deriving DecidableEq

/-- The calls `lc_select` makes for the code of a message. -/
def selectCalls (code : UInt8) : List SelectCall :=
  match code.toNat with
  | 0 => [.commanderSetThrust .rc, .commanderSetRPY .rc]
  | 1 => [.commanderSetThrust .linux, .commanderSetRPY .linux]
  | 2 => [.commanderSetThrust .linux, .commanderSetRPY .rc]
  | 3 => [.commanderSetThrust .rc, .commanderSetRPY .linux]
  | _ => []

/-- Where `commanderLockThrust(batThrustContoll, true)` of the emergency task
    stands: not called, before its first store, before its second, or completed. -/
inductive Locking where
  | idle
  | storeLocked
  | storeThrust
  | completed
  deriving DecidableEq

/-- The commander under two tasks. `calls` are the calls the message handler has
    still to make; `pending` is a source whose test of the lock has passed and
    whose store comes next. -/
structure Machine where
  comm : Commander ThrustCallback RPYCallback
  calls : List SelectCall
  pending : Option Pilot
  locking : Locking
  deriving DecidableEq

/-- Every read and every write of the lock and of the source is one step of its
    task. `select` is the arrival of a message, and `preempt` the call of
    `commanderLockThrust` by the emergency task. -/
inductive Step where
  | select (code : UInt8)
  | lcTask
  | preempt
  | emergencyTask
  deriving DecidableEq

/-- The emergency task has the higher priority and runs its call to the end. -/
def Machine.Running (machine : Machine) : Prop :=
  machine.locking = .storeLocked ∨ machine.locking = .storeThrust

instance (machine : Machine) : Decidable machine.Running := by
  unfold Machine.Running
  infer_instance

/-- The next access of the message handler. -/
def lcStep (machine : Machine) : Machine :=
  match machine.pending, machine.calls with
  | some pilot, _ =>
    { machine with comm := { machine.comm with getThrust := some pilot.getThrust }, pending := none }
  | none, .commanderSetThrust pilot :: calls =>
    if !machine.comm.thrustLocked then { machine with calls := calls, pending := some pilot }
    else { machine with calls := calls }
  | none, .commanderSetRPY pilot :: calls =>
    { machine with comm := { machine.comm with getRPY := some pilot.getRPY }, calls := calls }
  | none, [] => machine

/-- The next access of the emergency task. -/
def lockStep (machine : Machine) : Machine :=
  match machine.locking with
  | .storeLocked =>
    { machine with comm := { machine.comm with thrustLocked := true }, locking := .storeThrust }
  | .storeThrust =>
    { machine with comm := { machine.comm with getThrust := some .batThrustContoll }, locking := .completed }
  | _ => machine

def interleave (machine : Machine) : Step → Machine
  | .select code =>
    if machine.Running ∨ machine.calls ≠ [] ∨ machine.pending ≠ none then machine
    else { machine with calls := selectCalls code }
  | .lcTask => if machine.Running then machine else lcStep machine
  | .preempt => if machine.locking = .idle then { machine with locking := .storeLocked } else machine
  | .emergencyTask => lockStep machine

/-- After `commanderInit`, with both tasks waiting. -/
def machine0 (comm : Commander ThrustCallback RPYCallback) : Machine where
  comm := commanderInit comm
  calls := []
  pending := none
  locking := .idle

/-- In every state in which the lock has been completed, the emergency's source
    is installed. -/
def HoldsLock (comm : Commander ThrustCallback RPYCallback) (steps : List Step) : Prop :=
  ∀ before, before <+: steps → (run interleave (machine0 comm) before).locking = .completed →
    (run interleave (machine0 comm) before).comm.getThrust = some .batThrustContoll

/-- The emergency task is not scheduled between the test of the lock in
    `commanderSetThrust` and the store that follows it. -/
def PreemptsOutsideWindow (comm : Commander ThrustCallback RPYCallback) (steps : List Step) : Prop :=
  ∀ before after, steps = before ++ .preempt :: after →
    (run interleave (machine0 comm) before).locking = .idle →
      (run interleave (machine0 comm) before).pending = none

/-- From the call of the lock on, no store of a pilot's source is pending. -/
def Machine.Safe (machine : Machine) : Prop :=
  match machine.locking with
  | .idle => True
  | .storeLocked => machine.pending = none
  | .storeThrust => machine.pending = none ∧ machine.comm.thrustLocked = true
  | .completed =>
    machine.pending = none ∧ machine.comm.thrustLocked = true ∧
      machine.comm.getThrust = some .batThrustContoll

/-- The lock has been called while a store was pending, and the store is still to
    come or has been made. -/
def Machine.Doomed (machine : Machine) : Prop :=
  match machine.locking with
  | .idle => False
  | .storeLocked => machine.pending ≠ none
  | .storeThrust => machine.pending ≠ none ∧ machine.comm.thrustLocked = true
  | .completed =>
    machine.comm.thrustLocked = true ∧
      (machine.pending ≠ none ∨ machine.comm.getThrust ≠ some .batThrustContoll)

theorem Pilot.getThrust_ne (pilot : Pilot) : some pilot.getThrust ≠ some ThrustCallback.batThrustContoll := by
  cases pilot <;> decide

/-- Without a preemption the accesses of a selection are the atomic selection. -/
theorem run_select (comm : Commander ThrustCallback RPYCallback) (stack : Data) (msg : LcMsg) :
    (run interleave ⟨comm, [], none, .idle⟩ [.select (msg.data 0), .lcTask, .lcTask, .lcTask]).comm =
      (lc_select stack msg comm).1 := by
  simp only [run_cons, run_nil, interleave, Machine.Running, lc_select, selectCalls]
  generalize (msg.data 0).toNat = code
  cases hlocked : comm.thrustLocked with
  | true =>
    have hrefused : ∀ callback, commanderSetThrust callback comm = comm := commanderSetThrust_of_locked hlocked
    rcases code with _ | _ | _ | _ | code <;>
      simp [lcStep, hlocked, rcComm_selectThrust, rcComm_selectRTY, linuxComm_selectThrust,
        linuxComm_selectRTY, hrefused, commanderSetRPY, Pilot.getRPY]
  | false =>
    rcases code with _ | _ | _ | _ | code <;>
      simp [lcStep, hlocked, rcComm_selectThrust, rcComm_selectRTY, linuxComm_selectThrust,
        linuxComm_selectRTY, commanderSetThrust, commanderSetRPY, Pilot.getThrust, Pilot.getRPY]

/-- Its two stores are the atomic lock. -/
theorem run_lock (comm : Commander ThrustCallback RPYCallback) :
    (run interleave ⟨comm, [], none, .idle⟩ [.preempt, .emergencyTask, .emergencyTask]).comm =
      commanderLockThrust (some .batThrustContoll) true comm := rfl

/-- Behind a held lock and without a pending store, the message handler changes
    neither the lock nor the thrust source. -/
theorem lcStep_of_locked {machine : Machine} (hpending : machine.pending = none)
    (hlocked : machine.comm.thrustLocked = true) :
    (lcStep machine).pending = none ∧ (lcStep machine).comm.thrustLocked = true ∧
      (lcStep machine).comm.getThrust = machine.comm.getThrust := by
  unfold lcStep
  rw [hpending]
  match machine.calls with
  | [] => exact ⟨hpending, hlocked, rfl⟩
  | .commanderSetThrust pilot :: calls => simp [hlocked]
  | .commanderSetRPY pilot :: calls => exact ⟨rfl, hlocked, rfl⟩

/-- A pending store is made whatever the lock is. -/
theorem lcStep_of_pending {machine : Machine} {pilot : Pilot} (hpending : machine.pending = some pilot) :
    lcStep machine =
      { machine with comm := { machine.comm with getThrust := some pilot.getThrust }, pending := none } := by
  unfold lcStep
  rw [hpending]

theorem lcStep_locking (machine : Machine) : (lcStep machine).locking = machine.locking := by
  unfold lcStep
  split
  · rfl
  · split <;> rfl
  · rfl
  · rfl

/-- A step keeps the lock safe unless it calls the lock on a pending store. -/
theorem interleave_safe {machine : Machine} {event : Step} (hsafe : machine.Safe)
    (hevent : event = .preempt → machine.locking = .idle → machine.pending = none) :
    (interleave machine event).Safe := by
  cases event with
  | select code =>
    simp only [interleave]
    split <;> exact hsafe
  | lcTask =>
    simp only [interleave]
    split
    · exact hsafe
    · rename_i hfree
      have hlocking := lcStep_locking machine
      unfold Machine.Safe at hsafe ⊢
      rw [hlocking]
      cases hphase : machine.locking with
      | idle => trivial
      | storeLocked => exact absurd (.inl hphase) hfree
      | storeThrust => exact absurd (.inr hphase) hfree
      | completed =>
        simp only [hphase] at hsafe ⊢
        obtain ⟨hpending, hlocked, hsource⟩ := hsafe
        obtain ⟨hnone, hkept, hsame⟩ := lcStep_of_locked hpending hlocked
        exact ⟨hnone, hkept, hsame.trans hsource⟩
  | preempt =>
    simp only [interleave]
    split
    · rename_i hidle
      exact hevent rfl hidle
    · exact hsafe
  | emergencyTask =>
    simp only [interleave, lockStep]
    unfold Machine.Safe at hsafe
    split
    · rename_i hphase
      rw [hphase] at hsafe
      exact ⟨hsafe, rfl⟩
    · rename_i hphase
      rw [hphase] at hsafe
      exact ⟨hsafe.1, hsafe.2, rfl⟩
    · exact hsafe

/-- No step undoes a call of the lock on a pending store. -/
theorem interleave_doomed {machine : Machine} (hdoomed : machine.Doomed) (event : Step) :
    (interleave machine event).Doomed := by
  cases event with
  | select code =>
    simp only [interleave]
    split <;> exact hdoomed
  | lcTask =>
    simp only [interleave]
    split
    · exact hdoomed
    · rename_i hfree
      have hlocking := lcStep_locking machine
      unfold Machine.Doomed at hdoomed ⊢
      rw [hlocking]
      cases hphase : machine.locking with
      | idle => simp only [hphase] at hdoomed
      | storeLocked => exact absurd (.inl hphase) hfree
      | storeThrust => exact absurd (.inr hphase) hfree
      | completed =>
        simp only [hphase] at hdoomed ⊢
        obtain ⟨hlocked, hsource⟩ := hdoomed
        cases hpending : machine.pending with
        | some pilot =>
          rw [lcStep_of_pending hpending]
          exact ⟨hlocked, .inr pilot.getThrust_ne⟩
        | none =>
          obtain ⟨_, hkept, hsame⟩ := lcStep_of_locked hpending hlocked
          rw [hsame]
          exact ⟨hkept, .inr (hsource.resolve_left (fun hsome => hsome hpending))⟩
  | preempt =>
    simp only [interleave]
    split
    · rename_i hidle
      unfold Machine.Doomed at hdoomed
      rw [hidle] at hdoomed
      exact hdoomed.elim
    · exact hdoomed
  | emergencyTask =>
    simp only [interleave, lockStep]
    unfold Machine.Doomed at hdoomed
    split
    · rename_i hphase
      rw [hphase] at hdoomed
      exact ⟨hdoomed, rfl⟩
    · rename_i hphase
      rw [hphase] at hdoomed
      exact ⟨hdoomed.2, .inl hdoomed.1⟩
    · exact hdoomed

/-- Once doomed, the lock completes and a pilot's source ends up installed. -/
theorem doomed_finish {machine : Machine} (hdoomed : machine.Doomed) :
    (run interleave machine [.emergencyTask, .emergencyTask, .lcTask]).locking = .completed ∧
      (run interleave machine [.emergencyTask, .emergencyTask, .lcTask]).comm.getThrust ≠
        some .batThrustContoll := by
  simp only [run_cons, run_nil]
  have hcompleted : (interleave (interleave machine .emergencyTask) .emergencyTask).locking = .completed := by
    unfold Machine.Doomed at hdoomed
    simp only [interleave, lockStep]
    cases hphase : machine.locking with
    | idle => simp only [hphase] at hdoomed
    | storeLocked => rfl
    | storeThrust => rfl
    | completed => simp only [hphase]
  have hstill := interleave_doomed (interleave_doomed hdoomed .emergencyTask) .emergencyTask
  generalize interleave (interleave machine .emergencyTask) .emergencyTask = finished at hcompleted hstill
  have hfree : ¬ finished.Running := by
    simp [Machine.Running, hcompleted]
  unfold Machine.Doomed at hstill
  rw [hcompleted] at hstill
  obtain ⟨hlocked, hsource⟩ := hstill
  simp only [interleave, hfree, if_false, lcStep_locking]
  refine ⟨hcompleted, ?_⟩
  cases hpending : finished.pending with
  | some pilot =>
    rw [lcStep_of_pending hpending]
    exact pilot.getThrust_ne
  | none =>
    rw [(lcStep_of_locked hpending hlocked).2.2]
    exact hsource.resolve_left (fun hsome => hsome hpending)

/-- Outside the window every state of a run is safe. -/
theorem run_safe {comm : Commander ThrustCallback RPYCallback} {steps : List Step}
    (houtside : PreemptsOutsideWindow comm steps) : (run interleave (machine0 comm) steps).Safe := by
  induction steps using List.reverseRecOn with
  | nil => trivial
  | append_singleton steps last ih =>
    have hsteps : PreemptsOutsideWindow comm steps := by
      intro before after hsplit
      exact houtside before (after ++ [last]) (by simp [hsplit])
    rw [run_concat]
    apply interleave_safe (ih hsteps)
    rintro rfl
    exact houtside steps [] rfl

/-- The lock holds in every run in which the emergency task is not scheduled
    between the test and the store of `commanderSetThrust`, and every run in which
    it is can go on to a state in which the lock has completed without holding. -/
theorem holdsLock_of_preemptsOutsideWindow (comm : Commander ThrustCallback RPYCallback)
    (steps : List Step) :
    (PreemptsOutsideWindow comm steps → HoldsLock comm steps) ∧
      (¬ PreemptsOutsideWindow comm steps → ∃ after, ¬ HoldsLock comm (steps ++ after)) := by
  constructor
  · rintro houtside before ⟨after, rfl⟩ hcompleted
    have hbefore : PreemptsOutsideWindow comm before := by
      intro first second hsplit
      exact houtside first (second ++ after) (by simp [hsplit])
    have hsafe := run_safe hbefore
    unfold Machine.Safe at hsafe
    rw [hcompleted] at hsafe
    exact hsafe.2.2
  · intro hinside
    simp only [PreemptsOutsideWindow, not_forall] at hinside
    obtain ⟨before, after, rfl, hidle, hpending⟩ := hinside
    have hdoomed : (interleave (run interleave (machine0 comm) before) .preempt).Doomed := by
      simp only [interleave, hidle, if_true]
      exact hpending
    have hkept : ∀ machine event, machine.Doomed → (interleave machine event).Doomed :=
      fun machine event hstate => interleave_doomed hstate event
    have hlater := run_invariant hkept hdoomed after
    obtain ⟨hcompleted, hlost⟩ := doomed_finish hlater
    refine ⟨[.emergencyTask, .emergencyTask, .lcTask], fun hholds => hlost ?_⟩
    have hsource := hholds _ (List.prefix_refl _)
    rw [run_append, run_append, run_cons] at hsource
    exact hsource hcompleted

/-- The emergency task is scheduled between the test and the store of a selection
    of the Linux pilot. -/
theorem not_holdsLock_in_window :
    ¬ HoldsLock comm [.select 1, .lcTask, .preempt, .emergencyTask, .emergencyTask, .lcTask] := by
  intro hholds
  have hsource := hholds _ (List.prefix_refl _) (by decide)
  exact absurd hsource (by decide)

end copter.commander
