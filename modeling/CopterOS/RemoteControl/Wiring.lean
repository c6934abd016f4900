import CopterOS.Lib.Projection
import CopterOS.RcCommander
import CopterOS.RemoteControl.Setup

open transition slots copter.rc_commander

namespace copter.remote_control

/-- An edge at a capture unit, or the overflow of the timer. -/
inductive PinInterrupt where
  | edge (capture : Capture) (time : UInt64)
  | overflow
  deriving DecidableEq

/-- The channel whose handler the driver calls for a capture unit. -/
def Rc.slotOf (rc : Rc) (capture : Capture) : Option (Fin RC_MAX_CHANNELS) :=
  (List.finRange RC_MAX_CHANNELS).find? fun index => (rc.channel index).capture == some capture

/-- An interrupt reaches the channel its capture unit has been set up for. -/
def pinInterrupt (rc : Rc) : PinInterrupt → Rc
  | .edge capture time =>
    match rc.slotOf capture with
    | some channel => interrupt rc (.edge channel time)
    | none => rc
  | .overflow => interrupt rc .overflow

/-- The start-up sets the units up one after the other, and goes on only while no call
    returns a negative value. -/
def bootSetups (table : Table) : List Setup → Option Table
  | [] => some table
  | call :: calls => if table.ret call < 0 then none else bootSetups (table.setup call) calls

/-- The first channels are bound to the given units in order. -/
def BoundTo (captures : List Capture) (rc : Rc) : Prop :=
  ∀ index, (rc.channel index).capture = captures[index.val]?

theorem boundTo_table0 : BoundTo [] table0.rc := fun _ => rfl

theorem freeSlot_of_boundTo {captures : List Capture} {rc : Rc} (hbound : BoundTo captures rc) :
    rc.freeSlot = if hfree : captures.length < RC_MAX_CHANNELS then some ⟨captures.length, hfree⟩ else none :=
  find?_of_getElem? fun index => congrArg Option.isNone (hbound index)

/-- A call that returns no negative value while there is a free slot has been served. -/
theorem served_of_ret {table : Table} {slot : Fin RC_MAX_CHANNELS} (hfree : table.rc.freeSlot = some slot)
    {call : Setup} (hret : ¬ table.ret call < 0) : call.served = true := by
  by_cases hcallback : call.setCallback < 0
  · exact absurd hcallback ((Table.setup_of_setCallback_failed hfree hcallback).1 ▸ hret)
  · by_cases hperiod : call.setPeriod < 0
    · exact absurd hperiod ((Table.setup_of_setPeriod_failed hfree (by omega) hperiod).1 ▸ hret)
    · unfold Setup.served
      rw [Bool.and_eq_true, decide_eq_true_iff, decide_eq_true_iff]
      omega

theorem boundTo_setup {captures : List Capture} {table : Table} (hbound : BoundTo captures table.rc)
    (hfit : captures.length < RC_MAX_CHANNELS) {call : Setup} (hret : ¬ table.ret call < 0) :
    BoundTo (captures ++ [call.capture]) (table.setup call).rc := by
  have hfree := freeSlot_of_boundTo hbound
  rw [dif_pos hfit] at hfree
  obtain ⟨_, hchannel, _⟩ := Table.setup_of_served hfree (served_of_ret hfree hret)
  intro index
  rw [hchannel]
  by_cases hindex : index = ⟨captures.length, hfit⟩
  · subst hindex
    rw [Function.update_self, List.getElem?_concat_length]
    rfl
  · have hne : index.val ≠ captures.length := fun heq => hindex (Fin.ext heq)
    rw [Function.update_of_ne hindex, hbound]
    rcases lt_or_gt_of_ne hne with hlt | hgt
    · rw [List.getElem?_append_left hlt]
    · rw [List.getElem?_eq_none (by omega), List.getElem?_eq_none (by simp; omega)]

theorem boundTo_bootSetups {captures : List Capture} {table booted : Table} (hbound : BoundTo captures table.rc)
    {calls : List Setup} (hfit : captures.length + calls.length ≤ RC_MAX_CHANNELS)
    (hboot : bootSetups table calls = some booted) : BoundTo (captures ++ calls.map Setup.capture) booted.rc := by
  induction calls generalizing captures table with
  | nil =>
    obtain rfl := Option.some.inj hboot
    rwa [List.map_nil, List.append_nil]
  | cons call calls ih =>
    rw [List.length_cons] at hfit
    unfold bootSetups at hboot
    split at hboot
    case isTrue => cases hboot
    case isFalse hret =>
      have hnext := ih (boundTo_setup hbound (by omega) hret) (by simp; omega) hboot
      rwa [List.append_assoc, List.singleton_append] at hnext

/-- With different units an edge reaches the channel of its own unit only. -/
theorem slotOf_eq_some_iff {captures : List Capture} {rc : Rc} (hbound : BoundTo captures rc)
    (hpins : captures.Nodup) (capture : Capture) (slot : Fin RC_MAX_CHANNELS) :
    rc.slotOf capture = some slot ↔ captures[slot.val]? = some capture := by
  unfold Rc.slotOf
  rw [find?_eq_some_iff, beq_iff_eq, hbound]
  refine ⟨And.left, fun hslot => ⟨hslot, ?_⟩⟩
  intro earlier hearlier
  rw [hbound, beq_eq_false_iff_ne]
  intro hsame
  obtain ⟨hlength, _⟩ := List.getElem?_eq_some_iff.mp hsame
  have heq := (List.getElem?_inj hlength hpins).mp (hsame.trans hslot.symm)
  exact absurd (Fin.ext heq) (ne_of_lt hearlier)

theorem boundTo_interrupt {captures : List Capture} {rc : Rc} (hbound : BoundTo captures rc) (event : Interrupt) :
    BoundTo captures (interrupt rc event) := by
  intro index
  rw [← hbound index]
  cases event with
  | overflow =>
    rw [interrupt_overflow]
    unfold RcChannel.overflow
    split <;> rfl
  | edge channel time =>
    by_cases hchannel : index = channel
    · subst hchannel
      rw [interrupt_edge_same]
      unfold rc_IRQHandler
      dsimp only
      split <;> rfl
    · rw [interrupt_edge_other hchannel]

theorem boundTo_pinInterrupt {captures : List Capture} {rc : Rc} (hbound : BoundTo captures rc)
    (event : PinInterrupt) : BoundTo captures (pinInterrupt rc event) := by
  cases event with
  | overflow => exact boundTo_interrupt hbound .overflow
  | edge capture time =>
    unfold pinInterrupt
    dsimp only
    split
    case h_1 channel _ => exact boundTo_interrupt hbound (.edge channel time)
    case h_2 => exact hbound

/-- The interrupts that concern one unit: its own edges and the overflow. -/
def concerns (capture : Capture) : PinInterrupt → Bool
  | .edge other _ => other == capture
  | .overflow => true

section channel

variable {captures : List Capture} {slot : Fin RC_MAX_CHANNELS} {capture : Capture} {left right : Rc}

/-- Two tables bound alike that agree on one channel. -/
structure SameChannel (captures : List Capture) (slot : Fin RC_MAX_CHANNELS) (left right : Rc) : Prop where
  boundLeft : BoundTo captures left
  boundRight : BoundTo captures right
  channel : left.channel slot = right.channel slot

theorem SameChannel.pinInterrupt (hsame : SameChannel captures slot left right) (hpins : captures.Nodup)
    (hslot : captures[slot.val]? = some capture) {event : PinInterrupt} (hevent : concerns capture event = true) :
    SameChannel captures slot (pinInterrupt left event) (pinInterrupt right event) := by
  obtain ⟨hleft, hright, hchannel⟩ := hsame
  refine ⟨boundTo_pinInterrupt hleft event, boundTo_pinInterrupt hright event, ?_⟩
  cases event with
  | overflow => exact congrArg RcChannel.overflow hchannel
  | edge other time =>
    obtain rfl := beq_iff_eq.mp hevent
    unfold copter.remote_control.pinInterrupt
    dsimp only
    rw [(slotOf_eq_some_iff hleft hpins other slot).mpr hslot, (slotOf_eq_some_iff hright hpins other slot).mpr hslot]
    dsimp only
    rw [interrupt_edge_same, interrupt_edge_same, hchannel]

theorem SameChannel.pinInterrupt_other (hsame : SameChannel captures slot left right) (hpins : captures.Nodup)
    (hslot : captures[slot.val]? = some capture) {event : PinInterrupt} (hevent : concerns capture event = false) :
    SameChannel captures slot (copter.remote_control.pinInterrupt left event) right := by
  obtain ⟨hleft, hright, hchannel⟩ := hsame
  refine ⟨boundTo_pinInterrupt hleft event, hright, ?_⟩
  cases event with
  | overflow => cases hevent
  | edge other time =>
    have hother : other ≠ capture := beq_eq_false_iff_ne.mp hevent
    rw [← hchannel]
    unfold copter.remote_control.pinInterrupt
    dsimp only
    split
    case h_2 => rfl
    case h_1 channel hfound =>
      have hne : slot ≠ channel := by
        rintro rfl
        have hunit := (slotOf_eq_some_iff hleft hpins other slot).mp hfound
        exact hother (Option.some.inj (hunit.symm.trans hslot))
      exact interrupt_edge_other hne _ time

end channel

/-- The sticks do not mix: after a start-up with different units, the reading of each
    channel is the one its own unit and the overflows give; whatever arrives at the
    other units, in whatever order, can be left out. -/
theorem rc_get_own_unit {calls : List Setup} (hfit : calls.length ≤ RC_MAX_CHANNELS)
    (hpins : (calls.map Setup.capture).Nodup) {booted : Table} (hboot : bootSetups table0 calls = some booted)
    {slot : Fin RC_MAX_CHANNELS} {capture : Capture} (hslot : (calls.map Setup.capture)[slot.val]? = some capture)
    (events : List PinInterrupt) :
    rc_get (run pinInterrupt booted.rc events) slot =
      rc_get (run pinInterrupt booted.rc (events.filter (concerns capture))) slot := by
  have hbound := boundTo_bootSetups boundTo_table0 (by simpa using hfit) hboot
  rw [List.nil_append] at hbound
  have hsame : SameChannel (calls.map Setup.capture) slot booted.rc booted.rc := ⟨hbound, hbound, rfl⟩
  have hseen : ∀ left right event, concerns capture event = true →
      SameChannel (calls.map Setup.capture) slot left right →
      SameChannel (calls.map Setup.capture) slot (pinInterrupt left event) (pinInterrupt right event) :=
    fun _ _ _ hevent hrelated => hrelated.pinInterrupt hpins hslot hevent
  have hunseen : ∀ left right event, concerns capture event = false →
      SameChannel (calls.map Setup.capture) slot left right →
      SameChannel (calls.map Setup.capture) slot (pinInterrupt left event) right :=
    fun _ _ _ hevent hrelated => hrelated.pinInterrupt_other hpins hslot hevent
  unfold rc_get
  rw [(run_filter hseen hunseen hsame events).channel]

/-- The six units of the build, all of them set up without a failure. -/
def unitCalls : List Setup :=
  [2, 4, 5, 6, 3, 7].map fun capture => { capture := capture, ret := 0, setCallback := 0, setPeriod := 0 }

def booted : Table := run Table.setup table0 unitCalls

/-- The thrust stick between edges of the roll stick and of an unused channel. -/
theorem rc_get_own_unit_thrust :
    let events : List PinInterrupt := [.edge 6 0, .edge 2 100, .edge 3 500, .edge 6 1500, .edge 2 1900, .overflow]
    rc_get (run pinInterrupt booted.rc events) rcComm.thrustID =
      rc_get (run pinInterrupt booted.rc (events.filter (concerns 6))) rcComm.thrustID := by
  have hboot : bootSetups table0 unitCalls = some booted := rfl
  exact rc_get_own_unit (by decide) (by decide) hboot rfl _

end copter.remote_control
