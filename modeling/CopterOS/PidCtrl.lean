import CopterOS.Controller
import CopterOS.LinuxClient

open copter.commander copter.pid copter.controller copter.linux_client

namespace copter.pidctrl

def PID_ATT_MODE_R : ℕ := 0
def PID_ATT_MODE_P : ℕ := 1
def PID_ATT_MODE_Y : ℕ := 2

/-- The payload of a PID message: the header and nine gains in hundredths. -/
structure PidValues where
  type : UInt8
  mode : UInt8
  KpR : UInt16
  KiR : UInt16
  KdR : UInt16
  KpP : UInt16
  KiP : UInt16
  KdP : UInt16
  KpY : UInt16
  KiY : UInt16
  KdY : UInt16
  deriving DecidableEq

/-- The packed payload, with its counters in little-endian order. -/
def PidValues.ofData (data : Data) : PidValues :=
  let uint16 (low high : Fin LC_MSG_SIZE) : UInt16 := (data low).toUInt16 + 256 * (data high).toUInt16
  { type := data 0
    mode := data 1
    KpR := uint16 2 3
    KiR := uint16 4 5
    KdR := uint16 6 7
    KpP := uint16 8 9
    KiP := uint16 10 11
    KdP := uint16 12 13
    KpY := uint16 14 15
    KiY := uint16 16 17
    KdY := uint16 18 19 }

section functions

variable {A : Type} [RatCast A]

def setGains (kp ki kd : UInt16) (pid : PidObject A) : PidObject A :=
  let gain (value : UInt16) : A := ((value.toNat / 100 : ℚ) : A)
  pidSetKd (gain kd) (pidSetKi (gain ki) (pidSetKp (gain kp) pid))

/-- The switch over the type of the message. A type that is neither `PID_RATE`
    nor `PID_ATT` is only reported on the console. -/
def setPidValues (values : PidValues) (controller : Controller A) : Controller A :=
  match values.type.toNat with
  | 0 =>
    { controller with
      pid := fun
        | .pidRollRate => setGains values.KpR values.KiR values.KdR (controller.pid .pidRollRate)
        | .pidPitchRate => setGains values.KpP values.KiP values.KdP (controller.pid .pidPitchRate)
        | .pidYawRate => setGains values.KpY values.KiY values.KdY (controller.pid .pidYawRate)
        | name => controller.pid name }
  | 1 =>
    { controller with
      pid := fun
        | .pidRoll => setGains values.KpR values.KiR values.KdR (controller.pid .pidRoll)
        | .pidPitch => setGains values.KpP values.KiP values.KdP (controller.pid .pidPitch)
        | .pidYaw => setGains values.KpY values.KiY values.KdY (controller.pid .pidYaw)
        | name => controller.pid name }
  | _ => controller

/-- The cast of one bit of the mode byte. -/
def IS_BIT_SET (x : UInt8) (p : ℕ) : RPYType := if x.toNat.testBit p then .ANGLE else .RATE

def setModes {T R : Type} (values : PidValues) (comm : Commander T R) : Commander T R :=
  commanderSetRPYType (IS_BIT_SET values.mode PID_ATT_MODE_R) (IS_BIT_SET values.mode PID_ATT_MODE_P)
    (IS_BIT_SET values.mode PID_ATT_MODE_Y) comm

/-- Whatever the type of the message, the modes are set and the message is
    acknowledged. -/
def pidCrtlCallback {T R : Type} : Callback (Controller A × Commander T R) :=
  fun _ msg state =>
    let pPid := PidValues.ofData msg.data
    ((setPidValues pPid state.1, setModes pPid state.2), lc_sendAct)

end functions

/-- The handler that `pidCtrlInit` registers. -/
def pidCtrlInit {S : Type} (callback : Callback S) (lc : Lc S) : Lc S := lc_registerCallback 2 callback lc

end copter.pidctrl
