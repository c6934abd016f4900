import Mathlib.Logic.Function.Basic
import Mathlib.Data.List.FinRange

namespace copter.remote_control

abbrev RC_MAX_CHANNELS : ℕ := 8
def RC_MIN : UInt32 := 480
def RC_MAX : UInt32 := 2200
def UINT16_MAX : UInt32 := 65535

/-- Handle of a capture unit. -/
abbrev Capture := ℕ

structure RcChannel where
  capture : Option Capture
  raw : UInt32
  value : UInt32
  retry : Bool
  corret : Bool
  deriving DecidableEq

structure Rc where
  channel : Fin RC_MAX_CHANNELS → RcChannel

/-- The cleared table `rc_init` hands out. -/
def rc0 : Rc where
  channel _ := { capture := none, raw := 0, value := 0, retry := false, corret := false }

/-- The counter distance between the last edge of a channel and a new one. -/
def RcChannel.distance (channel : RcChannel) (time : UInt64) : UInt32 :=
  let tmp_1 := channel.raw
  let tmp_0 := time.toUInt32
  if tmp_0 > tmp_1 then tmp_0 - tmp_1 else (UINT16_MAX - tmp_1) + tmp_0

/-- The handler takes the distance for a pulse width. -/
def RcChannel.accepts (channel : RcChannel) (time : UInt64) : Bool :=
  channel.distance time > RC_MIN && channel.distance time < RC_MAX

def rc_IRQHandler (channel : RcChannel) (time : UInt64) : RcChannel :=
  let tmp := channel.distance time
  let updated :=
    if tmp > RC_MIN && tmp < RC_MAX then { channel with value := tmp, corret := true, retry := true }
    else channel
  { updated with raw := time.toUInt32 }

/-- One channel's part of the overflow loop. -/
def RcChannel.overflow (channel : RcChannel) : RcChannel :=
  if channel.retry then { channel with retry := false } else { channel with corret := false }

def rc_OverfowHandler (rc : Rc) : Rc :=
  { rc with channel := fun i => (rc.channel i).overflow }

/-- The first slot without a capture unit. -/
def Rc.freeSlot (rc : Rc) : Option (Fin RC_MAX_CHANNELS) :=
  (List.finRange RC_MAX_CHANNELS).find? fun index => (rc.channel index).capture.isNone

/-- The returned value is an index or the result of the failing call. The local
    `ret` has no initial value, and `setCallback` and `setPeriod` are the results
    of `capture_setCallback` and `capture_setPeriod`. -/
def rc_setup (ret setCallback setPeriod : ℤ) (rc : Rc) (capture : Capture) : ℤ × Rc :=
  match rc.freeSlot with
  | none => (ret, rc)
  | some index =>
    let fresh : RcChannel :=
      { capture := some capture, raw := 0, value := 0, retry := false, corret := false }
    if setCallback < 0 then
      (setCallback, { rc with channel := Function.update rc.channel index { fresh with capture := none } })
    else if setPeriod < 0 then
      (setPeriod, { rc with channel := Function.update rc.channel index fresh })
    else (index.val, { rc with channel := Function.update rc.channel index fresh })

def rc_get (rc : Rc) (channel : Fin RC_MAX_CHANNELS) : UInt32 :=
  if (rc.channel channel).corret then (rc.channel channel).value else 0

/-- An interrupt of the capture units or of the timer. The edge of a channel
    carries the counter value its unit has captured. -/
inductive Interrupt where
  | edge (channel : Fin RC_MAX_CHANNELS) (time : UInt64)
  | overflow
  deriving DecidableEq

def interrupt (rc : Rc) : Interrupt → Rc
  | .edge channel time =>
    { rc with channel := Function.update rc.channel channel (rc_IRQHandler (rc.channel channel) time) }
  | .overflow => rc_OverfowHandler rc

/-- An edge whose distance the handler takes for a pulse of the channel. -/
def accepted (channel : Fin RC_MAX_CHANNELS) (entry : Rc × Interrupt) : Bool :=
  match entry.2 with
  | .edge other time => other == channel && (entry.1.channel channel).accepts time
  | .overflow => false

def isOverflow (entry : Rc × Interrupt) : Bool := entry.2 == .overflow

theorem rc_IRQHandler_of_accepts {channel : RcChannel} {time : UInt64}
    (haccepts : channel.accepts time = true) :
    rc_IRQHandler channel time =
      { channel with
        value := channel.distance time, corret := true, retry := true, raw := time.toUInt32 } := by
  unfold RcChannel.accepts at haccepts
  simp only [rc_IRQHandler, haccepts, if_true]

theorem rc_IRQHandler_of_not_accepts {channel : RcChannel} {time : UInt64}
    (haccepts : channel.accepts time = false) :
    rc_IRQHandler channel time = { channel with raw := time.toUInt32 } := by
  unfold RcChannel.accepts at haccepts
  simp only [rc_IRQHandler, haccepts, Bool.false_eq_true, if_false]

@[simp] theorem rc_IRQHandler_raw (channel : RcChannel) (time : UInt64) :
    (rc_IRQHandler channel time).raw = time.toUInt32 := rfl

theorem accepts_iff (channel : RcChannel) (time : UInt64) :
    channel.accepts time = true ↔ RC_MIN < channel.distance time ∧ channel.distance time < RC_MAX := by
  simp [RcChannel.accepts]

@[simp] theorem interrupt_edge_same (rc : Rc) (channel : Fin RC_MAX_CHANNELS) (time : UInt64) :
    (interrupt rc (.edge channel time)).channel channel = rc_IRQHandler (rc.channel channel) time := by
  simp [interrupt]

/-- An edge leaves every other channel alone. -/
theorem interrupt_edge_other {channel other : Fin RC_MAX_CHANNELS} (hother : channel ≠ other) (rc : Rc)
    (time : UInt64) : (interrupt rc (.edge other time)).channel channel = rc.channel channel := by
  simp [interrupt, hother]

@[simp] theorem interrupt_overflow (rc : Rc) (channel : Fin RC_MAX_CHANNELS) :
    (interrupt rc .overflow).channel channel = (rc.channel channel).overflow := rfl

/-- A set-up without a failure binds the first free slot and clears its flags. -/
theorem rc_setup_success {rc : Rc} {index : Fin RC_MAX_CHANNELS} (hfree : rc.freeSlot = some index)
    {setCallback setPeriod : ℤ} (hcallback : 0 ≤ setCallback) (hperiod : 0 ≤ setPeriod) (ret : ℤ)
    (capture : Capture) :
    (rc_setup ret setCallback setPeriod rc capture).1 = index.val ∧
      (rc_setup ret setCallback setPeriod rc capture).2.channel index =
        { capture := some capture, raw := 0, value := 0, retry := false, corret := false } := by
  have hcallback : ¬ setCallback < 0 := by omega
  have hperiod : ¬ setPeriod < 0 := by omega
  simp [rc_setup, hfree, hcallback, hperiod]

end copter.remote_control
