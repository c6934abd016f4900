import CopterOS.Sensfusion6.Euler

open Quaternion attitude rotation transition copter.commander copter.stabilizer

namespace copter.sensfusion6

/-- The second estimate is the first one, turned around the vertical axis of the world. -/
structure Turned (angle : Angle ℚ) (fusion turned : Sensfusion6) : Prop where
  integralFB : turned.integralFB = fusion.integralFB
  quaternion : turned.quaternion = heading angle * fusion.quaternion

section turned

variable {angle : Angle ℚ} {fusion turned : Sensfusion6}

theorem Turned.normSq (hturned : Turned angle fusion turned) :
    normSq turned.quaternion = Quaternion.normSq fusion.quaternion := by
  rw [hturned.quaternion, map_mul, normSq_heading, one_mul]

theorem Turned.gravity (hturned : Turned angle fusion turned) : gravity turned = gravity fusion := by
  have hdown : ofAxes (copter.sensfusion6.gravity turned) = ofAxes (copter.sensfusion6.gravity fusion) := by
    rw [ofAxes_gravity, ofAxes_gravity, hturned.quaternion, down_heading_mul]
  have hx := congrArg QuaternionAlgebra.imI hdown
  have hy := congrArg QuaternionAlgebra.imJ hdown
  have hz := congrArg QuaternionAlgebra.imK hdown
  exact Axis3f.mk.injEq .. ▸ ⟨hx, hy, hz⟩

/-- The direction the feedback works with, by the estimated gravity. -/
theorem halfv_eq (fusion : Sensfusion6) :
    halfv fusion =
      { x := (copter.sensfusion6.gravity fusion).x / 2
        y := (copter.sensfusion6.gravity fusion).y / 2
        z := ((copter.sensfusion6.gravity fusion).z + Quaternion.normSq fusion.quaternion - 1) / 2 } := by
  rw [normSq_quaternion]
  unfold halfv copter.sensfusion6.gravity
  congr 1 <;> ring

theorem Turned.fed (hturned : Turned angle fusion turned) (gains : Gains) (g a : Axis3f ℚ) (dt : ℚ) :
    fed gains g a dt turned = fed gains g a dt fusion := by
  have hhalfv : halfv turned = halfv fusion := by rw [halfv_eq, halfv_eq, hturned.gravity, hturned.normSq]
  unfold copter.sensfusion6.fed feedback
  rw [hhalfv, hturned.integralFB]

/-- An update that both estimates make leaves them turned by the same angle. -/
theorem Turned.sensfusion6UpdateQ (hturned : Turned angle fusion turned) (gains : Gains) (g a : Axis3f ℚ)
    (dt : ℚ) : Turned angle (sensfusion6UpdateQ gains g a dt fusion) (sensfusion6UpdateQ gains g a dt turned) := by
  rw [sensfusion6UpdateQ_eq, sensfusion6UpdateQ_eq, hturned.fed]
  generalize copter.sensfusion6.fed gains g a dt fusion = fed
  refine ⟨rfl, ?_⟩
  have hintegrate : (integrate fed.1 dt { turned with integralFB := fed.2 }).quaternion =
      heading angle * (integrate fed.1 dt { fusion with integralFB := fed.2 }).quaternion := by
    rw [quaternion_integrate, quaternion_integrate]
    change advance turned.quaternion _ _ _ = _ * advance fusion.quaternion _ _ _
    rw [hturned.quaternion, advance_heading_mul]
  rw [quaternion_normaliseQ, quaternion_normaliseQ, hintegrate, map_mul, normSq_heading, one_mul, mul_smul_comm]

theorem Turned.fusionAfter (hturned : Turned angle fusion turned) (gains : Gains) (samples : List Sample) :
    Turned angle (fusionAfter gains fusion samples) (fusionAfter gains turned samples) := by
  induction samples generalizing fusion turned with
  | nil => exact hturned
  | cons sample samples ih => exact ih (hturned.sensfusion6UpdateQ gains sample.g sample.a sample.dt)

end turned

/-- The vector whose angle is the estimated yaw. -/
def front (fusion : Sensfusion6) : ℚ × ℚ :=
  (fusion.q0 * fusion.q0 + fusion.q1 * fusion.q1 - fusion.q2 * fusion.q2 - fusion.q3 * fusion.q3,
    2 * (fusion.q0 * fusion.q3 + fusion.q1 * fusion.q2))

theorem Turned.front {angle : Angle ℚ} {fusion turned : Sensfusion6} (hturned : Turned angle fusion turned) :
    front turned = angle.turn (angle.turn (front fusion)) := by
  have hre := congrArg QuaternionAlgebra.re hturned.quaternion
  have hi := congrArg QuaternionAlgebra.imI hturned.quaternion
  have hj := congrArg QuaternionAlgebra.imJ hturned.quaternion
  have hk := congrArg QuaternionAlgebra.imK hturned.quaternion
  unfold Sensfusion6.quaternion heading at hre hi hj hk
  simp at hre hi hj hk
  unfold copter.sensfusion6.front Angle.turn
  rw [hre, hi, hj, hk]
  ext <;> dsimp only <;> ring

theorem Turned.roll_pitch {angle : Angle ℚ} {fusion turned : Sensfusion6} (hturned : Turned angle fusion turned)
    (libm : Libm) :
    (sensfusion6GetEulerRPY libm turned).roll = (sensfusion6GetEulerRPY libm fusion).roll ∧
      (sensfusion6GetEulerRPY libm turned).pitch = (sensfusion6GetEulerRPY libm fusion).pitch := by
  unfold sensfusion6GetEulerRPY
  rw [hturned.gravity]
  exact ⟨rfl, rfl⟩

/-- A compass would be needed to tell the heading: two estimates that differ by a turn
    around the vertical axis only, fed with the same sensor values, have the same roll,
    pitch and vertical acceleration at all times, and their yaw differs by twice the
    half angle of that turn. -/
theorem heading_unobservable {angle : Angle ℚ} {fusion turned : Sensfusion6} (hturned : Turned angle fusion turned)
    (gains : Gains) (samples : List Sample) (libm : Libm) :
    let estimate := fusionAfter gains fusion samples
    let other := fusionAfter gains turned samples
    (sensfusion6GetEulerRPY libm other).roll = (sensfusion6GetEulerRPY libm estimate).roll ∧
      (sensfusion6GetEulerRPY libm other).pitch = (sensfusion6GetEulerRPY libm estimate).pitch ∧
      (∀ a, sensfusion6GetAccZWithoutGravity a other = sensfusion6GetAccZWithoutGravity a estimate) ∧
      other.integralFB = estimate.integralFB ∧
      front other = angle.turn (angle.turn (front estimate)) := by
  intro estimate other
  have hafter : Turned angle estimate other := hturned.fusionAfter gains samples
  obtain ⟨hroll, hpitch⟩ := hafter.roll_pitch libm
  refine ⟨hroll, hpitch, ?_, hafter.integralFB, hafter.front⟩
  intro a
  unfold sensfusion6GetAccZWithoutGravity
  rw [hafter.gravity]

/-- The angle of a triangle with the sides 3, 4 and 5. -/
def triangle : Angle ℚ where
  cos := 3 / 5
  sin := 4 / 5
  circle := by norm_num

theorem turned_triangle : Turned triangle sensfusion60 { sensfusion60 with q0 := 3 / 5, q3 := 4 / 5 } where
  integralFB := rfl
  quaternion := by
    unfold Sensfusion6.quaternion heading sensfusion60
    ext <;> simp [triangle]

theorem heading_unobservable_triangle :
    let estimate := fusionAfter gains0 sensfusion60 [levelSample]
    let other := fusionAfter gains0 { sensfusion60 with q0 := 3 / 5, q3 := 4 / 5 } [levelSample]
    (sensfusion6GetEulerRPY levelLibm other).roll = (sensfusion6GetEulerRPY levelLibm estimate).roll ∧
      (sensfusion6GetEulerRPY levelLibm other).pitch = (sensfusion6GetEulerRPY levelLibm estimate).pitch ∧
      (∀ a, sensfusion6GetAccZWithoutGravity a other = sensfusion6GetAccZWithoutGravity a estimate) ∧
      other.integralFB = estimate.integralFB ∧
      front other = triangle.turn (triangle.turn (front estimate)) :=
  heading_unobservable turned_triangle gains0 [levelSample] levelLibm

end copter.sensfusion6
