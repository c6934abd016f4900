import CopterOS.Lib.Rotation
import Mathlib.Algebra.Quaternion

open Quaternion rotation

namespace attitude

variable {R : Type} [CommRing R]

/-- A quaternion by its four components. -/
def ofParts (w x y z : R) : ℍ[R] := ⟨w, x, y, z⟩

@[simp] theorem re_ofParts (w x y z : R) : (ofParts w x y z).re = w := rfl
@[simp] theorem imI_ofParts (w x y z : R) : (ofParts w x y z).imI = x := rfl
@[simp] theorem imJ_ofParts (w x y z : R) : (ofParts w x y z).imJ = y := rfl
@[simp] theorem imK_ofParts (w x y z : R) : (ofParts w x y z).imK = z := rfl

theorem normSq_ofParts (w x y z : R) : normSq (ofParts w x y z) = w ^ 2 + x ^ 2 + y ^ 2 + z ^ 2 := normSq_def' _

/-- The vertical axis of the world. -/
def vertical : ℍ[R] := ofParts 0 0 0 1

/-- The vertical axis as it is seen from a body of the given attitude. -/
def down (q : ℍ[R]) : ℍ[R] := star q * vertical * q

/-- The attitude after a small turn of the body, to the first order. -/
def advance (q : ℍ[R]) (x y z : R) : ℍ[R] := q * ofParts 1 x y z

/-- A turn of the world around its vertical axis. -/
def heading (angle : Angle R) : ℍ[R] := ofParts angle.cos 0 0 angle.sin

/-- A turn to the first order makes the quaternion longer, by the square of the turn. -/
theorem normSq_advance (q : ℍ[R]) (x y z : R) :
    normSq (advance q x y z) = normSq q * (1 + (x ^ 2 + y ^ 2 + z ^ 2)) := by
  unfold advance
  rw [map_mul, normSq_ofParts]
  ring

theorem normSq_down (q : ℍ[R]) : normSq (down q) = normSq q ^ 2 := by
  have hvertical : normSq (vertical : ℍ[R]) = 1 := by
    unfold vertical
    rw [normSq_ofParts]
    ring
  unfold down
  rw [map_mul, map_mul, normSq_star, hvertical]
  ring

@[simp] theorem normSq_heading (angle : Angle R) : normSq (heading angle) = 1 := by
  unfold heading
  rw [normSq_ofParts]
  linear_combination angle.circle

/-- The turn of the body and the turn of the world do not depend on each other. -/
theorem advance_heading_mul (angle : Angle R) (q : ℍ[R]) (x y z : R) :
    advance (heading angle * q) x y z = heading angle * advance q x y z := mul_assoc _ _ _

/-- A turn around the vertical axis cannot be seen in the direction of that axis. -/
theorem down_heading_mul (angle : Angle R) (q : ℍ[R]) : down (heading angle * q) = down q := by
  have hvertical : star (heading angle) * vertical * heading angle = vertical := by
    unfold heading vertical
    ext
    · simp
      ring
    · simp
    · simp
    · simp
      linear_combination angle.circle
  unfold down
  rw [star_mul]
  calc star q * star (heading angle) * vertical * (heading angle * q)
      = star q * (star (heading angle) * vertical * heading angle) * q := by simp only [mul_assoc]
    _ = star q * vertical * q := by rw [hvertical]

end attitude
