import CopterOS.Lib.Run
import CopterOS.Lib.History
import CopterOS.RcCommander

open transition history copter.remote_control

namespace copter.rc_commander

/-- The receiver's channel table and the thrust latch. -/
structure Receiver where
  rc : Rc
  rcComm : RcComm

/-- An interrupt of the receiver, or a call of the thrust source together with
    the interrupts that arrive between its two readings. -/
inductive Event where
  | interrupt (event : Interrupt)
  | rcComm_GetThrust (between : List Interrupt)

/-- The two readings of one call. -/
structure Sighting where
  yaw : ℚ
  thrust : ℚ

/-- The yaw is read first and the thrust after the interrupts in between. -/
def Receiver.sight (receiver : Receiver) (between : List Interrupt) : Sighting where
  yaw := reading receiver.rc receiver.rcComm.yawID
  thrust := reading (run interrupt receiver.rc between) receiver.rcComm.thrustID

/-- The result of a call and the latch it leaves. -/
def Receiver.call (undefined : ℚ → UInt16) (calibration : Calibration) (receiver : Receiver)
    (between : List Interrupt) : UInt16 × RcComm :=
  thrustOfReadings undefined calibration (receiver.sight between).yaw (receiver.sight between).thrust
    receiver.rcComm

def receive (undefined : ℚ → UInt16) (calibration : Calibration) (receiver : Receiver) :
    Event → Receiver
  | .interrupt event => { receiver with rc := copter.remote_control.interrupt receiver.rc event }
  | .rcComm_GetThrust between =>
    { rc := run copter.remote_control.interrupt receiver.rc between
      rcComm := (receiver.call undefined calibration between).2 }

/-- From the given channel table on, the state after a sequence of events. -/
def receiverAfter (undefined : ℚ → UInt16) (calibration : Calibration) (rc : Rc) (events : List Event) :
    Receiver :=
  run (receive undefined calibration) ⟨rc, rcComm⟩ events

/-- What the calls of a run have seen, in order. -/
def sightings (undefined : ℚ → UInt16) (calibration : Calibration) (rc : Rc) (events : List Event) :
    List Sighting :=
  (trace (receive undefined calibration) ⟨rc, rcComm⟩ events).filterMap fun entry =>
    match entry.2 with
    | .rcComm_GetThrust between => some (entry.1.sight between)
    | .interrupt _ => none

/-- The call has seen a yaw or a thrust reading of zero. -/
def Sighting.Lost (sighting : Sighting) : Prop := sighting.thrust = 0 ∨ sighting.yaw = 0

/-- The call has seen both channels, with the thrust stick strictly below its base. -/
def Sighting.BelowBase (calibration : Calibration) (sighting : Sighting) : Prop :=
  ¬ sighting.Lost ∧ sighting.thrust < calibration.THRUST_BASE

/-- Since some call below the base, no call has seen a lost channel. -/
def Armed (calibration : Calibration) (seen : List Sighting) : Prop :=
  Since (fun sighting => ¬ sighting.Lost) (fun sighting => sighting.BelowBase calibration) seen

/-- A call without an interrupt in its middle is the call on one channel table. -/
theorem call_nil (undefined : ℚ → UInt16) (calibration : Calibration) (receiver : Receiver) :
    receiver.call undefined calibration [] =
      rcComm_GetThrust undefined calibration receiver.rc receiver.rcComm := rfl

/-- Only a call sees anything. -/
theorem sightings_concat (undefined : ℚ → UInt16) (calibration : Calibration) (rc : Rc)
    (events : List Event) (last : Event) :
    sightings undefined calibration rc (events ++ [last]) =
      match last with
      | .rcComm_GetThrust between =>
        sightings undefined calibration rc events ++
          [(receiverAfter undefined calibration rc events).sight between]
      | .interrupt _ => sightings undefined calibration rc events := by
  unfold sightings receiverAfter
  rw [trace_append, List.filterMap_append]
  cases last <;> simp

/-- One call opens the latch below the base, closes it on a lost channel and
    otherwise leaves it alone; with the latch closed it returns zero. -/
theorem call_thrustLocked (undefined : ℚ → UInt16) (calibration : Calibration) (receiver : Receiver)
    (between : List Interrupt) :
    ((receiver.call undefined calibration between).2.thrustLocked = false ↔
        (receiver.sight between).BelowBase calibration ∨
          ¬ (receiver.sight between).Lost ∧ receiver.rcComm.thrustLocked = false) ∧
      ((receiver.call undefined calibration between).1 ≠ 0 →
        ¬ (receiver.sight between).Lost ∧ receiver.rcComm.thrustLocked = false) := by
  unfold Receiver.call Sighting.BelowBase
  by_cases hlost : (receiver.sight between).Lost
  · rw [thrustOfReadings_of_lost hlost]
    simp [hlost]
  · by_cases hbase : (receiver.sight between).thrust < calibration.THRUST_BASE
    · rw [thrustOfReadings_of_lt_base hlost hbase]
      simp [hlost, hbase]
    · obtain ⟨hkept, hlocked⟩ := thrustOfReadings_of_base_le hlost hbase undefined receiver.rcComm
      rw [hkept]
      refine ⟨by simp [hlost, hbase], ?_⟩
      intro hnonzero
      refine ⟨hlost, ?_⟩
      cases hlatch : receiver.rcComm.thrustLocked with
      | false => rfl
      | true => exact absurd (hlocked hlatch) hnonzero

/-- The latch is open exactly when the calls so far have armed it. -/
theorem thrustLocked_eq_false_iff (undefined : ℚ → UInt16) (calibration : Calibration) (rc : Rc)
    (events : List Event) :
    (receiverAfter undefined calibration rc events).rcComm.thrustLocked = false ↔
      Armed calibration (sightings undefined calibration rc events) := by
  unfold Armed
  induction events using List.reverseRecOn with
  | nil => simp [receiverAfter, sightings, rcComm]
  | append_singleton events last ih =>
    rw [sightings_concat]
    simp only [receiverAfter, run_concat] at ih ⊢
    cases last with
    | interrupt event => exact ih
    | rcComm_GetThrust between =>
      rw [since_concat, ← ih]
      exact (call_thrustLocked undefined calibration _ between).1

/-- From power-up a call returns thrust only if an earlier call has seen the
    stick below its base and no call from that one on, the current one included,
    has seen a lost yaw or thrust channel. In particular a call on a lost channel
    is followed by zeros until the stick has been seen below its base again. -/
theorem rcComm_GetThrust_arming (undefined : ℚ → UInt16) (calibration : Calibration) (rc : Rc)
    (events : List Event) (between : List Interrupt) :
    let receiver := receiverAfter undefined calibration rc events
    let seen := sightings undefined calibration rc events
    ((receiver.call undefined calibration between).1 ≠ 0 →
      Armed calibration seen ∧ ¬ (receiver.sight between).Lost) ∧
    (∀ before lost after, seen = before ++ lost :: after → lost.Lost →
      (∀ sighting ∈ after, ¬ sighting.BelowBase calibration) →
        (receiver.call undefined calibration between).1 = 0) := by
  intro receiver seen
  have harmed : (receiver.call undefined calibration between).1 ≠ 0 →
      Armed calibration seen ∧ ¬ (receiver.sight between).Lost := by
    intro hnonzero
    obtain ⟨hread, hopen⟩ := (call_thrustLocked undefined calibration receiver between).2 hnonzero
    exact ⟨(thrustLocked_eq_false_iff undefined calibration rc events).mp hopen, hread⟩
  refine ⟨harmed, ?_⟩
  intro before lost after hseen hlost hafter
  by_contra hnonzero
  obtain ⟨hsince, _⟩ := harmed hnonzero
  rw [hseen] at hsince
  exact not_since_of_break (fun sighting hbelow => hbelow.1) (fun hkeep => hkeep hlost) hafter hsince

end copter.rc_commander
