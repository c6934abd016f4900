import Mathlib.Tactic.LinearCombination
import Mathlib.Tactic.Ring

namespace rotation

/-- An angle by its cosine and its sine. -/
structure Angle (A : Type) [CommRing A] where
  cos : A
  sin : A
  circle : cos * cos + sin * sin = 1

section functions

variable {A : Type} [CommRing A]

def Angle.zero : Angle A where
  cos := 1
  sin := 0
  circle := by ring

def Angle.opposite (angle : Angle A) : Angle A where
  cos := angle.cos
  sin := -angle.sin
  circle := by
    rw [neg_mul_neg]
    exact angle.circle

/-- The rotation of a point of the plane. -/
def Angle.turn (angle : Angle A) (point : A × A) : A × A :=
  (point.1 * angle.cos - point.2 * angle.sin, point.1 * angle.sin + point.2 * angle.cos)

def dot (left right : A × A) : A := left.1 * right.1 + left.2 * right.2

end functions

@[simp] theorem Angle.turn_zero {A : Type} [CommRing A] (point : A × A) : Angle.zero.turn point = point := by
  simp [Angle.turn, Angle.zero]

/-- A rotation preserves lengths and angles. -/
theorem Angle.dot_turn {A : Type} [CommRing A] (angle : Angle A) (left right : A × A) :
    dot (angle.turn left) (angle.turn right) = dot left right := by
  simp only [dot, Angle.turn]
  linear_combination (left.1 * right.1 + left.2 * right.2) * angle.circle

@[simp] theorem Angle.turn_opposite_turn {A : Type} [CommRing A] (angle : Angle A) (point : A × A) :
    angle.opposite.turn (angle.turn point) = point := by
  apply Prod.ext
  · simp only [Angle.turn, Angle.opposite]
    linear_combination point.1 * angle.circle
  · simp only [Angle.turn, Angle.opposite]
    linear_combination point.2 * angle.circle

end rotation
