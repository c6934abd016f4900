import CopterOS.Imu
import CopterOS.Lib.Rotation

open rotation copter.stabilizer

namespace copter.imu

/-- The pre-calculated values for the alignment of the accelerometer. -/
structure AccAlignment where
  cosPitch : ℚ
  sinPitch : ℚ
  cosRoll : ℚ
  sinRoll : ℚ

/-- The rotation around the x-axis, with what the assignment to 16 bits makes of a
    number. -/
def rotateX (narrow : ℚ → ℚ) (alignment : AccAlignment) (input : Axis3f ℚ) : Axis3f ℚ where
  x := input.x
  y := narrow (input.y * alignment.cosRoll - input.z * alignment.sinRoll)
  z := narrow (input.y * alignment.sinRoll + input.z * alignment.cosRoll)

/-- What stands for the rotation around the y-axis. -/
def rotateY (narrow : ℚ → ℚ) (alignment : AccAlignment) (rx : Axis3f ℚ) : Axis3f ℚ where
  x := narrow (rx.x * alignment.cosPitch - rx.z * alignment.sinPitch)
  y := rx.y
  z := narrow (-rx.x * alignment.sinPitch + rx.z * alignment.cosPitch)

def imuAccAlignToGravity (narrow : ℚ → ℚ) (alignment : AccAlignment) (input : Axis3f ℚ) : Axis3f ℚ :=
  rotateY narrow alignment (rotateX narrow alignment input)

/-- The trim of the accelerometer: two angles, whose values need no rounding. -/
structure Trim where
  roll : Angle ℚ
  pitch : Angle ℚ

def Trim.cosRoll (trim : Trim) : ℚ := trim.roll.cos
def Trim.sinRoll (trim : Trim) : ℚ := trim.roll.sin
def Trim.cosPitch (trim : Trim) : ℚ := trim.pitch.cos
def Trim.sinPitch (trim : Trim) : ℚ := trim.pitch.sin

@[simps]
def Trim.alignment (trim : Trim) : AccAlignment where
  cosPitch := trim.cosPitch
  sinPitch := trim.sinPitch
  cosRoll := trim.cosRoll
  sinRoll := trim.sinRoll

/-- The rotation of space around the x-axis. -/
def turnX (angle : Angle ℚ) (v : Axis3f ℚ) : Axis3f ℚ where
  x := v.x
  y := (angle.turn (v.y, v.z)).1
  z := (angle.turn (v.y, v.z)).2

/-- The rotation of space around the y-axis. -/
def turnY (angle : Angle ℚ) (v : Axis3f ℚ) : Axis3f ℚ where
  x := (angle.turn (v.x, v.z)).1
  y := v.y
  z := (angle.turn (v.x, v.z)).2

def dot3 (left right : Axis3f ℚ) : ℚ := left.x * right.x + left.y * right.y + left.z * right.z

def Trim.zero : Trim := ⟨.zero, .zero⟩

def Trim.opposite (trim : Trim) : Trim := ⟨trim.roll.opposite, trim.pitch.opposite⟩

/-- The two rotations of a trim in reverse order. -/
def turnBack (trim : Trim) (v : Axis3f ℚ) : Axis3f ℚ := turnX trim.roll (turnY trim.pitch v)

/-- The two steps of the alignment in reverse order. -/
def rotateBack (trim : Trim) (v : Axis3f ℚ) : Axis3f ℚ := rotateX id trim.alignment (rotateY id trim.alignment v)

/-- Without rounding the alignment is a rotation. -/
structure Aligns (undo : Trim → Axis3f ℚ → Axis3f ℚ) (trim : Trim) : Prop where
  dot : ∀ left right,
    dot3 (imuAccAlignToGravity id trim.alignment left) (imuAccAlignToGravity id trim.alignment right) = dot3 left right
  undone : ∀ input, undo trim.opposite (imuAccAlignToGravity id trim.alignment input) = input
  identity : trim = .zero → ∀ input, imuAccAlignToGravity id trim.alignment input = input

theorem rotateX_eq_turnX (trim : Trim) (v : Axis3f ℚ) : rotateX id trim.alignment v = turnX trim.roll v := rfl

/-- Without a pitch trim both steps are rotations. -/
theorem rotateY_eq_turnY {trim : Trim} (hpitch : trim.sinPitch = 0) (v : Axis3f ℚ) :
    rotateY id trim.alignment v = turnY trim.pitch v := by
  have hsin : trim.pitch.sin = 0 := hpitch
  simp [rotateY, turnY, Angle.turn, Trim.cosPitch, Trim.sinPitch, hsin]

theorem dot3_turnX (angle : Angle ℚ) (left right : Axis3f ℚ) :
    dot3 (turnX angle left) (turnX angle right) = dot3 left right := by
  have hplane := angle.dot_turn (left.y, left.z) (right.y, right.z)
  simp only [rotation.dot] at hplane
  simp only [dot3, turnX]
  linear_combination hplane

theorem dot3_turnY (angle : Angle ℚ) (left right : Axis3f ℚ) :
    dot3 (turnY angle left) (turnY angle right) = dot3 left right := by
  have hplane := angle.dot_turn (left.x, left.z) (right.x, right.z)
  simp only [rotation.dot] at hplane
  simp only [dot3, turnY]
  linear_combination hplane

@[simp] theorem turnX_opposite_turnX (angle : Angle ℚ) (v : Axis3f ℚ) :
    turnX angle.opposite (turnX angle v) = v := by
  simp [turnX]

@[simp] theorem turnY_opposite_turnY (angle : Angle ℚ) (v : Axis3f ℚ) :
    turnY angle.opposite (turnY angle v) = v := by
  simp [turnY]

/-- The rotations of a trim are undone by those of the opposite trim. -/
theorem turnBack_turn (trim : Trim) (v : Axis3f ℚ) :
    turnBack trim.opposite (turnY trim.pitch (turnX trim.roll v)) = v := by
  simp [turnBack, Trim.opposite]

/-- The alignment of the zero trim leaves every vector alone. -/
theorem imuAccAlignToGravity_zero (input : Axis3f ℚ) : imuAccAlignToGravity id Trim.zero.alignment input = input := by
  simp [imuAccAlignToGravity, rotateX, rotateY, Trim.zero, Angle.zero, Trim.cosRoll, Trim.sinRoll,
    Trim.cosPitch, Trim.sinPitch]

/-- Without a pitch trim the alignment is a rotation. -/
theorem aligns_of_sinPitch {trim : Trim} (hpitch : trim.sinPitch = 0) :
    Aligns turnBack trim ∧ Aligns rotateBack trim := by
  have halign : ∀ v, imuAccAlignToGravity id trim.alignment v = turnY trim.pitch (turnX trim.roll v) := by
    intro v
    rw [imuAccAlignToGravity, rotateX_eq_turnX, rotateY_eq_turnY hpitch]
  have hopposite : trim.opposite.sinPitch = 0 := neg_eq_zero.mpr hpitch
  have hback : ∀ v, rotateBack trim.opposite v = turnBack trim.opposite v := by
    intro v
    rw [rotateBack, turnBack, rotateX_eq_turnX, rotateY_eq_turnY hopposite]
  have hdot : ∀ left right,
      dot3 (imuAccAlignToGravity id trim.alignment left) (imuAccAlignToGravity id trim.alignment right) =
        dot3 left right := by
    intro left right
    rw [halign, halign, dot3_turnY, dot3_turnX]
  have hzero : trim = .zero → ∀ input, imuAccAlignToGravity id trim.alignment input = input := by
    rintro rfl
    exact imuAccAlignToGravity_zero
  refine ⟨⟨hdot, ?_, hzero⟩, ⟨hdot, ?_, hzero⟩⟩
  · intro input
    rw [halign, turnBack_turn]
  · intro input
    rw [halign, hback, turnBack_turn]

/-- The image of the x-axis goes back to it only without a pitch trim. -/
theorem sinPitch_of_undone {trim : Trim} {undo : Trim → Axis3f ℚ → Axis3f ℚ}
    (hundo : ∀ v, (undo trim.opposite v).x = v.x * trim.cosPitch + v.z * trim.sinPitch)
    (haligns : Aligns undo trim) : trim.sinPitch = 0 := by
  have hback := congrArg Axis3f.x (haligns.undone ⟨1, 0, 0⟩)
  rw [hundo] at hback
  simp only [imuAccAlignToGravity, rotateX, rotateY, Trim.alignment_cosPitch, Trim.alignment_sinPitch, id_eq, zero_mul,
    sub_zero, add_zero, one_mul] at hback
  have hcircle : trim.cosPitch * trim.cosPitch + trim.sinPitch * trim.sinPitch = 1 := trim.pitch.circle
  have hsquare : trim.sinPitch * trim.sinPitch = 0 := by linarith
  exact mul_self_eq_zero.mp hsquare

/-- The alignment is a rotation exactly when the pitch trim has no sine. -/
theorem aligns_iff (trim : Trim) :
    (Aligns turnBack trim ↔ trim.sinPitch = 0) ∧ (Aligns rotateBack trim ↔ trim.sinPitch = 0) := by
  refine ⟨⟨?_, fun hpitch => (aligns_of_sinPitch hpitch).1⟩, ⟨?_, fun hpitch => (aligns_of_sinPitch hpitch).2⟩⟩
  · apply sinPitch_of_undone
    intro v
    simp [turnBack, turnX, turnY, Angle.turn, Angle.opposite, Trim.opposite, Trim.cosPitch, Trim.sinPitch]
  · apply sinPitch_of_undone
    intro v
    simp [rotateBack, rotateX, rotateY, Angle.opposite, Trim.opposite, Trim.cosPitch, Trim.sinPitch]

/-- A pitch trim of -0.32 degrees, as near as small fractions come to it. -/
def slightPitch : Trim where
  roll := .zero
  pitch :=
    { cos := 128163 / 128165
      sin := -716 / 128165
      circle := by norm_num }

/-- The slight trim takes the right angle between the x- and the z-axis away. -/
theorem not_aligns_slightPitch : ¬ Aligns turnBack slightPitch ∧ ¬ Aligns rotateBack slightPitch := by
  have hangle : dot3 (imuAccAlignToGravity id slightPitch.alignment ⟨1, 0, 0⟩)
      (imuAccAlignToGravity id slightPitch.alignment ⟨0, 0, 1⟩) ≠ dot3 ⟨1, 0, 0⟩ ⟨0, 0, 1⟩ := by
    decide +kernel
  exact ⟨fun haligns => hangle (haligns.dot _ _), fun haligns => hangle (haligns.dot _ _)⟩

end copter.imu
