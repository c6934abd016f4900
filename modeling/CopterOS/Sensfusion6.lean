import CopterOS.Lib.InverseSqrt
import CopterOS.Lib.Run
import CopterOS.Stabilizer

open inverse_sqrt transition copter.commander copter.stabilizer

namespace copter.sensfusion6

/-- The binary32 number nearest to the ratio of a circle to its diameter. -/
def M_PI_F : ℚ := 13176795 / 2 ^ 22

/-- The two gains of the feedback; positive by default. -/
structure Gains where
  twoKp : ℚ
  twoKi : ℚ

/-- The binary32 numbers nearest to 0.4 and 0.001, doubled. -/
def gains0 : Gains where
  twoKp := 2 * (13421773 / 2 ^ 25)
  twoKi := 2 * (8589935 / 2 ^ 33)

/-- The integral error terms and the quaternion of the sensor frame relative to the
    auxiliary frame. -/
structure Sensfusion6 where
  integralFB : Axis3f ℚ
  q0 : ℚ
  q1 : ℚ
  q2 : ℚ
  q3 : ℚ

def sensfusion60 : Sensfusion6 where
  integralFB := ⟨0, 0, 0⟩
  q0 := 1
  q1 := 0
  q2 := 0
  q3 := 0

/-- The bits of the argument are those of the nearest number of 32 bits, without bounds of
    the exponent; the rest is exact. -/
def invSqrt (x : ℚ) : ℚ :=
  let halfx := 1 / 2 * x
  let i := toBits x
  let i := 0x5f3759df - i >>> (1 : ℕ)
  let y := ofBits i
  y * (3 / 2 - halfx * y * y)

/-- A vector brought to length one. -/
def normalise (a : Axis3f ℚ) : Axis3f ℚ :=
  let recipNorm := invSqrt (a.x * a.x + a.y * a.y + a.z * a.z)
  ⟨a.x * recipNorm, a.y * recipNorm, a.z * recipNorm⟩

/-- Half the estimated direction of gravity. -/
def halfv (fusion : Sensfusion6) : Axis3f ℚ where
  x := fusion.q1 * fusion.q3 - fusion.q0 * fusion.q2
  y := fusion.q0 * fusion.q1 + fusion.q2 * fusion.q3
  z := fusion.q0 * fusion.q0 - 1 / 2 + fusion.q3 * fusion.q3

/-- Half the cross product of the measured and the estimated direction. -/
def halfe (a halfv : Axis3f ℚ) : Axis3f ℚ where
  x := a.y * halfv.z - a.z * halfv.y
  y := a.z * halfv.x - a.x * halfv.z
  z := a.x * halfv.y - a.y * halfv.x

/-- The rates with the feedback of the accelerometer, and the new integral. -/
def feedback (gains : Gains) (g a : Axis3f ℚ) (dt : ℚ) (fusion : Sensfusion6) : Axis3f ℚ × Axis3f ℚ :=
  let halfe := halfe (normalise a) (halfv fusion)
  let integralFB : Axis3f ℚ :=
    if gains.twoKi > 0 then
      { x := fusion.integralFB.x + gains.twoKi * halfe.x * dt
        y := fusion.integralFB.y + gains.twoKi * halfe.y * dt
        z := fusion.integralFB.z + gains.twoKi * halfe.z * dt }
    else ⟨0, 0, 0⟩
  let g : Axis3f ℚ :=
    if gains.twoKi > 0 then ⟨g.x + integralFB.x, g.y + integralFB.y, g.z + integralFB.z⟩ else g
  (⟨g.x + gains.twoKp * halfe.x, g.y + gains.twoKp * halfe.y, g.z + gains.twoKp * halfe.z⟩, integralFB)

/-- The quaternion turned by the rates in radians, to the first order. -/
def integrate (g : Axis3f ℚ) (dt : ℚ) (fusion : Sensfusion6) : Sensfusion6 :=
  let g : Axis3f ℚ := ⟨g.x * (1 / 2 * dt), g.y * (1 / 2 * dt), g.z * (1 / 2 * dt)⟩
  let qa := fusion.q0
  let qb := fusion.q1
  let qc := fusion.q2
  { fusion with
    q0 := fusion.q0 + (-qb * g.x - qc * g.y - fusion.q3 * g.z)
    q1 := fusion.q1 + (qa * g.x + qc * g.z - fusion.q3 * g.y)
    q2 := fusion.q2 + (qa * g.y - qb * g.z + fusion.q3 * g.x)
    q3 := fusion.q3 + (qa * g.z + qb * g.y - qc * g.x) }

/-- The quaternion brought to length one. -/
def normaliseQ (fusion : Sensfusion6) : Sensfusion6 :=
  let recipNorm := invSqrt
    (fusion.q0 * fusion.q0 + fusion.q1 * fusion.q1 + fusion.q2 * fusion.q2 + fusion.q3 * fusion.q3)
  { fusion with
    q0 := fusion.q0 * recipNorm
    q1 := fusion.q1 * recipNorm
    q2 := fusion.q2 * recipNorm
    q3 := fusion.q3 * recipNorm }

/-- The rates come in degrees per second; an accelerometer that shows nothing is not
    used. -/
def sensfusion6UpdateQ (gains : Gains) (g a : Axis3f ℚ) (dt : ℚ) (fusion : Sensfusion6) : Sensfusion6 :=
  let g : Axis3f ℚ := ⟨g.x * M_PI_F / 180, g.y * M_PI_F / 180, g.z * M_PI_F / 180⟩
  if ¬ (a.x = 0 ∧ a.y = 0 ∧ a.z = 0) then
    let (g, integralFB) := feedback gains g a dt fusion
    normaliseQ (integrate g dt { fusion with integralFB := integralFB })
  else normaliseQ (integrate g dt fusion)

/-- The functions of the mathematical library. -/
structure Libm where
  atan2f : ℚ → ℚ → ℚ
  asinf : ℚ → ℚ

/-- The estimated direction of gravity. -/
def gravity (fusion : Sensfusion6) : Axis3f ℚ where
  x := 2 * (fusion.q1 * fusion.q3 - fusion.q0 * fusion.q2)
  y := 2 * (fusion.q0 * fusion.q1 + fusion.q2 * fusion.q3)
  z := fusion.q0 * fusion.q0 - fusion.q1 * fusion.q1 - fusion.q2 * fusion.q2 + fusion.q3 * fusion.q3

def limitGx (gx : ℚ) : ℚ :=
  let gx := if gx > 1 then 1 else gx
  if gx < -1 then -1 else gx

def sensfusion6GetEulerRPY (libm : Libm) (fusion : Sensfusion6) : RPY ℚ :=
  let g := gravity fusion
  { roll := libm.atan2f g.y g.z * 180 / M_PI_F
    pitch := libm.asinf (limitGx g.x) * 180 / M_PI_F
    yaw :=
      libm.atan2f (2 * (fusion.q0 * fusion.q3 + fusion.q1 * fusion.q2))
        (fusion.q0 * fusion.q0 + fusion.q1 * fusion.q1 - fusion.q2 * fusion.q2 - fusion.q3 * fusion.q3) *
        180 / M_PI_F }

/-- The acceleration along the estimated vertical, without that of gravity. -/
def sensfusion6GetAccZWithoutGravity (a : Axis3f ℚ) (fusion : Sensfusion6) : ℚ :=
  let g := gravity fusion
  (a.x * g.x + a.y * g.y + a.z * g.z) - 1

/-- What one update gets from the sensors, and the time since the last one. -/
structure Sample where
  g : Axis3f ℚ
  a : Axis3f ℚ
  dt : ℚ

/-- The filter after a sequence of updates. -/
def fusionAfter (gains : Gains) (fusion : Sensfusion6) (samples : List Sample) : Sensfusion6 :=
  run (fun fusion sample => sensfusion6UpdateQ gains sample.g sample.a sample.dt fusion) fusion samples

end copter.sensfusion6
