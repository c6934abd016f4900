import CopterOS.Lib.Run
import CopterOS.Stabilizer.TimeBase

open number transition copter.pid

namespace copter.stabilizer

/-- A hundredth of a second. -/
def ALTHOLD_UPDATE_DT : ℚ := 1 / 100

def altHoldKp : ℚ := 1 / 2
def altHoldKi : ℚ := 18 / 100
def altHoldKd : ℚ := 0
def altHoldErrMax : ℚ := 1
def altHoldChange_SENS : ℚ := 200
def pidAslFac : ℚ := 13000
def pidAlpha : ℚ := 8 / 10
def vSpeedASLFac : ℚ := 0
def vSpeedAccFac : ℚ := -48
def vAccDeadband : ℚ := 5 / 100
def vSpeedASLDeadband : ℚ := 5 / 1000
def vSpeedLimit : ℚ := 5 / 100
def errDeadband : ℚ := 0
def vBiasAlpha : ℚ := 98 / 100
def aslAlpha : ℚ := 92 / 100
def aslAlphaLong : ℚ := 93 / 100
def altHoldMinThrust : ℤ := 0
def altHoldBaseThrust : ℤ := 43000
def altHoldMaxThrust : ℤ := 60000

def fabs (value : Flt) : Flt := if value < 0 then -value else value

/-- The macro `max`, and `min` below: the second argument where neither is larger. -/
def maxOf (a b : Flt) : Flt := if a > b then a else b

def minOf (a b : Flt) : Flt := if a < b then a else b

def constrain (value minVal maxVal : Flt) : Flt := minOf maxVal (maxOf minVal value)

protected def deadband (value threshold : Flt) : Flt :=
  if fabs value < threshold then 0
  else if value > 0 then value - threshold
  else if value < 0 then value + threshold
  else value

/-- What the pilot asks for: `altHold`, `setAltHold` and `altHoldChange`. -/
structure AltHoldCommand where
  altHold : Bool
  setAltHold : Bool
  altHoldChange : Flt

/-- The variables of the altitude hold. The thrust is missing once it has been computed
    by an operation without a result. -/
structure AltHold where
  asl : Flt
  aslLong : Flt
  altHoldPID : PidObject Flt
  vSpeedASL : Flt
  vSpeedAcc : Flt
  vSpeed : Flt
  altHoldPIDVal : Flt
  altHoldErr : Flt
  altHoldTarget : Flt
  actuatorThrust : Option UInt16

/-- The static initial values. -/
def altHold0 : AltHold where
  asl := 0
  aslLong := 0
  altHoldPID := ⟨0, 0, 0, 0, 0, 0, 0, 0, 0, 0, 0, 0, 0, 0⟩
  vSpeedASL := 0
  vSpeedAcc := 0
  vSpeed := 0
  altHoldPIDVal := 0
  altHoldErr := 0
  altHoldTarget := .finite (-1)
  actuatorThrust := some 0

/-- The new thrust for an output of the controller; neither the conversion nor the sum
    may leave the range of `int32_t`. -/
def altHoldThrust (altHoldPIDVal : Flt) : Option UInt16 := do
  let change ← (Truncate.toInt (altHoldPIDVal * .finite pidAslFac)).bind int32
  let sum ← int32 (altHoldBaseThrust + change)
  let thrust : ℤ := (limitThrust sum).toNat
  return UInt16.ofNat (max altHoldMinThrust (min altHoldMaxThrust thrust)).toNat

/-- The altitudes and the vertical speed from a reading of the barometer. -/
def estimate (aslRaw : Flt) (hold : AltHold) : AltHold :=
  let asl := hold.asl * .finite aslAlpha + aslRaw * .finite (1 - aslAlpha)
  let aslLong := hold.aslLong * .finite aslAlphaLong + aslRaw * .finite (1 - aslAlphaLong)
  let vSpeedASL := stabilizer.deadband (asl - aslLong) (.finite vSpeedASLDeadband)
  let vSpeed := constrain hold.vSpeed (.finite (-vSpeedLimit)) (.finite vSpeedLimit)
  let vSpeed := vSpeed * .finite vBiasAlpha + vSpeedASL * .finite (1 - vBiasAlpha)
  { hold with asl := asl, aslLong := aslLong, vSpeedASL := vSpeedASL, vSpeed := vSpeed, vSpeedAcc := vSpeed }

/-- The hold has just been activated: the present altitude is the target, and only the
    integral is kept. -/
def activate (hold : AltHold) : AltHold :=
  let pid := pidInit hold.asl (.finite altHoldKp) (.finite altHoldKi) (.finite altHoldKd) (.finite ALTHOLD_UPDATE_DT)
    hold.altHoldPID
  let (altHoldPIDVal, altHoldPID) := pidUpdate hold.asl false { pid with integ := hold.altHoldPID.integ }
  { hold with altHoldTarget := hold.asl, altHoldPIDVal := altHoldPIDVal, altHoldPID := altHoldPID }

/-- The controller follows the target. -/
def follow (altHoldChange : Flt) (hold : AltHold) : AltHold :=
  let altHoldTarget := hold.altHoldTarget + altHoldChange / .finite altHoldChange_SENS
  let altHoldErr := constrain (stabilizer.deadband (hold.asl - altHoldTarget) (.finite errDeadband))
    (.finite (-altHoldErrMax)) (.finite altHoldErrMax)
  let (output, altHoldPID) :=
    pidUpdate hold.asl false (pidSetError (-altHoldErr) (pidSetDesired altHoldTarget hold.altHoldPID))
  let altHoldPIDVal := .finite pidAlpha * hold.altHoldPIDVal + .finite (1 - pidAlpha) *
    (hold.vSpeedAcc * .finite vSpeedAccFac + hold.vSpeedASL * .finite vSpeedASLFac + output)
  { hold with
    altHoldTarget := altHoldTarget
    altHoldErr := altHoldErr
    altHoldPID := altHoldPID
    altHoldPIDVal := altHoldPIDVal
    actuatorThrust := altHoldThrust altHoldPIDVal }

def stabilizerAltHoldUpdate (command : AltHoldCommand) (aslRaw : Flt) (hold : AltHold) : AltHold :=
  let hold := estimate aslRaw hold
  let hold := if command.setAltHold then activate hold else hold
  if command.altHold then follow command.altHoldChange hold
  else { hold with altHoldTarget := 0, altHoldErr := 0, altHoldPIDVal := 0 }

/-- The part of an attitude update: the speed from the acceleration. -/
def accelerate (accWZ : Flt) (hold : AltHold) : AltHold :=
  { hold with
    vSpeed := hold.vSpeed + stabilizer.deadband accWZ (.finite vAccDeadband) * .finite FUSION_UPDATE_DT }

inductive AltHoldEvent where
  | accelerate (accWZ : Flt)
  | stabilizerAltHoldUpdate (command : AltHoldCommand) (aslRaw : Flt)

def AltHold.step (hold : AltHold) : AltHoldEvent → AltHold
  | .accelerate accWZ => copter.stabilizer.accelerate accWZ hold
  | .stabilizerAltHoldUpdate command aslRaw => copter.stabilizer.stabilizerAltHoldUpdate command aslRaw hold

/-- The altitude hold after a sequence of events. -/
def altHoldAfter (events : List AltHoldEvent) : AltHold := run AltHold.step altHold0 events

end copter.stabilizer
