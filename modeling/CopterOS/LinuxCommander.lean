import CopterOS.LinuxClient
import CopterOS.RcCommander

open copter.commander copter.linux_client copter.rc_commander number

namespace copter.linux_commander

structure AutocoptControl where
  roll : Flt
  pitch : Flt
  yaw : Flt
  thrust : Flt
  deriving DecidableEq

/-- The static initial value. -/
def ctl0 : AutocoptControl where
  roll := 0
  pitch := 0
  yaw := 0
  thrust := ((-1 : ℚ) : Flt)

/-- The payload of a control message, four packed floats. -/
def AutocoptControl.ofData (data : Data) : AutocoptControl where
  roll := Flt.ofBytes (data 0) (data 1) (data 2) (data 3)
  pitch := Flt.ofBytes (data 4) (data 5) (data 6) (data 7)
  yaw := Flt.ofBytes (data 8) (data 9) (data 10) (data 11)
  thrust := Flt.ofBytes (data 12) (data 13) (data 14) (data 15)

/-- The test of the payload by eight comparisons. -/
def AutocoptControl.Refused (copt : AutocoptControl) : Prop :=
  copt.roll < ((-1 : ℚ) : Flt) ∨ ((1 : ℚ) : Flt) < copt.roll ∨
    copt.pitch < ((-1 : ℚ) : Flt) ∨ ((1 : ℚ) : Flt) < copt.pitch ∨
    copt.yaw < ((-1 : ℚ) : Flt) ∨ ((1 : ℚ) : Flt) < copt.yaw ∨
    copt.thrust < ((-1 : ℚ) : Flt) ∨ ((1 : ℚ) : Flt) < copt.thrust

instance (copt : AutocoptControl) : Decidable copt.Refused := by
  unfold AutocoptControl.Refused
  infer_instance

def lc_control : Callback AutocoptControl := fun stack msg ctl =>
  let copt := AutocoptControl.ofData msg.data
  if copt.Refused then (ctl, lc_sendFailt stack) else (copt, lc_sendAct)

/-- The value before its conversion to `uint16_t`. -/
def thrustValue (ctl : AutocoptControl) : Flt :=
  (ctl.thrust + ((1 : ℚ) : Flt)) / ((2 : ℚ) : Flt) * ((65535 : ℚ) : Flt)

def linuxComm_GetThrust (undefined : Flt → UInt16) (ctl : AutocoptControl) : UInt16 :=
  toUInt16 undefined (thrustValue ctl)

def linuxComm_GetRPY (ctl : AutocoptControl) : RPY Flt where
  roll := ctl.roll * (EULER_ROLL_MAX : Flt)
  pitch := -ctl.pitch * (EULER_PITCH_MAX : Flt)
  yaw := ctl.yaw * (EULER_YAW_MAX : Flt)

def linuxComm_selectThrust (comm : Commander ThrustCallback RPYCallback) :
    Commander ThrustCallback RPYCallback :=
  commanderSetThrust (some .linuxComm_GetThrust) comm

def linuxComm_selectRTY (comm : Commander ThrustCallback RPYCallback) :
    Commander ThrustCallback RPYCallback :=
  commanderSetRPY (some .linuxComm_GetRPY) comm

/-- A known code is acknowledged whether or not the thrust lock lets the first
    source through. -/
def lc_select : Callback (Commander ThrustCallback RPYCallback) := fun stack msg comm =>
  match (msg.data 0).toNat with
  | 0 => (rcComm_selectRTY (rcComm_selectThrust comm), lc_sendAct)
  | 1 => (linuxComm_selectRTY (linuxComm_selectThrust comm), lc_sendAct)
  | 2 => (rcComm_selectRTY (linuxComm_selectThrust comm), lc_sendAct)
  | 3 => (linuxComm_selectRTY (rcComm_selectThrust comm), lc_sendAct)
  | _ => (comm, lc_sendFailt stack)

/-- The handlers that `linuxComm_init` registers. -/
def linuxComm_init {S : Type} (control select : Callback S) (lc : Lc S) : Lc S :=
  lc_registerCallback 4 control (lc_registerCallback 3 select lc)

end copter.linux_commander
