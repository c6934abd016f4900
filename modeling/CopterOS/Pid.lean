import CopterOS.Lib.Number

namespace copter.pid

structure PidObject (A : Type) where
  desired : A
  error : A
  prevError : A
  integ : A
  deriv : A
  kp : A
  ki : A
  kd : A
  outP : A
  outI : A
  outD : A
  iLimit : A
  iLimitLow : A
  dt : A
  deriving DecidableEq

def DEFAULT_PID_INTEGRATION_LIMIT : ℚ := 5000

section functions

variable {A : Type} [Zero A] [Add A] [Sub A] [Mul A] [Div A] [Neg A] [LT A] [DecidableLT A] [RatCast A]

def pidInit (desired kp ki kd dt : A) (pid : PidObject A) : PidObject A :=
  { pid with
    error := 0
    prevError := 0
    integ := 0
    deriv := 0
    desired := desired
    kp := kp
    ki := ki
    kd := kd
    iLimit := (DEFAULT_PID_INTEGRATION_LIMIT : A)
    iLimitLow := -(DEFAULT_PID_INTEGRATION_LIMIT : A)
    dt := dt }

/-- The integral after one more error. -/
def integrate (error : A) (pid : PidObject A) : A :=
  let integ := pid.integ + error * pid.dt
  if integ > pid.iLimit then pid.iLimit else if integ < pid.iLimitLow then pid.iLimitLow else integ

def pidUpdate (measured : A) (updateError : Bool) (pid : PidObject A) : A × PidObject A :=
  let error := if updateError then pid.desired - measured else pid.error
  let integ := integrate error pid
  let deriv := (error - pid.prevError) / pid.dt
  let outP := pid.kp * error
  let outI := pid.ki * integ
  let outD := pid.kd * deriv
  (outP + outI + outD,
    { pid with
      error := error
      integ := integ
      deriv := deriv
      outP := outP
      outI := outI
      outD := outD
      prevError := error })

def pidReset (pid : PidObject A) : PidObject A :=
  { pid with error := 0, prevError := 0, integ := 0, deriv := 0 }

end functions

def pidSetIntegralLimit {A : Type} (limit : A) (pid : PidObject A) : PidObject A :=
  { pid with iLimit := limit }

def pidSetError {A : Type} (error : A) (pid : PidObject A) : PidObject A := { pid with error := error }

def pidSetDesired {A : Type} (desired : A) (pid : PidObject A) : PidObject A :=
  { pid with desired := desired }

def pidSetKp {A : Type} (kp : A) (pid : PidObject A) : PidObject A := { pid with kp := kp }

def pidSetKi {A : Type} (ki : A) (pid : PidObject A) : PidObject A := { pid with ki := ki }

def pidSetKd {A : Type} (kd : A) (pid : PidObject A) : PidObject A := { pid with kd := kd }

end copter.pid
