import CopterOS.Copter.RateMode
import CopterOS.Flight.Pulses
import CopterOS.Sensfusion6.Heading

open number rotation transition unwinding copter.imu copter.rc_commander copter.sensfusion6 copter.stabilizer

namespace copter.flight

/-- Two flights that differ in the estimated heading, and in what the attitude controller
    of the yaw has made of it. -/
structure SameButHeading (angle : Angle ℚ) (left right : Flight) : Prop where
  imu : left.imu = right.imu
  accelStoredFilterValues : left.accelStoredFilterValues = right.accelStoredFilterValues
  fusion : Turned angle left.fusion right.fusion
  tasks : SameInRate .yaw left.tasks right.tasks

/-- The event is no PID message that leaves the rate mode of the yaw. -/
def KeepsYawRate : Event → Prop
  | .other event _ => KeepsRate .yaw event
  | _ => True

section heading

variable {angle : Angle ℚ} {left right : Flight}

/-- Both read the same values. -/
theorem sameButHeading_imu9Read (hsame : SameButHeading angle left right) (config : Config) (reading : Reading) :
    (imu9Read config reading left).1 = (imu9Read config reading right).1 ∧
      SameButHeading angle (imu9Read config reading left).2 (imu9Read config reading right).2 := by
  obtain ⟨himu, hstored, hfusion, htasks⟩ := hsame
  unfold imu9Read
  dsimp only
  rw [himu, hstored]
  exact ⟨rfl, rfl, rfl, hfusion, htasks⟩

theorem SameButHeading.due_iff (hsame : SameButHeading angle left right) : left.Due ↔ right.Due := by
  have hstabilizer : left.tasks.stabilizer = right.tasks.stabilizer := hsame.tasks.loop.stabilizer
  unfold Flight.Due
  rw [hsame.imu, hstabilizer]

theorem SameButHeading.updateFusion (hsame : SameButHeading angle left right) (config : Config)
    {values values' : Axis3f ℚ × Axis3f ℚ} (hvalues : values = values') :
    Turned angle (updateFusion config values.1 values.2 left) (updateFusion config values'.1 values'.2 right) := by
  subst hvalues
  unfold copter.flight.updateFusion
  by_cases hdue : left.Due
  · rw [if_pos hdue, if_pos (hsame.due_iff.mp hdue)]
    exact hsame.fusion.sensfusion6UpdateQ config.gains values.1 values.2 FUSION_UPDATE_DT
  · rw [if_neg hdue, if_neg (hsame.due_iff.not.mp hdue)]
    exact hsame.fusion

/-- The sensors of the two flights show the same but the yaw. -/
theorem sameRest_sensors {fusion turned : Sensfusion6} (hturned : Turned angle fusion turned) (config : Config)
    (gyro : Axis3f ℚ) (imu : Imu) :
    SameRest .yaw (sensors config gyro fusion imu) (sensors config gyro turned imu) := by
  obtain ⟨hroll, hpitch⟩ := hturned.roll_pitch config.libm
  refine ⟨rfl, rfl, ?_⟩
  intro other hother
  cases other with
  | roll => exact congrArg Flt.finite hroll.symm
  | pitch => exact congrArg Flt.finite hpitch.symm
  | yaw => exact absurd rfl hother

theorem sameButHeading_sense (hsame : SameButHeading angle left right) (config : Config) (reading : Reading) :
    SameRest .yaw (sense config reading left).1 (sense config reading right).1 ∧
      SameButHeading angle (sense config reading left).2 (sense config reading right).2 := by
  obtain ⟨hvalues, hread⟩ := sameButHeading_imu9Read hsame config reading
  have hfusion : Turned angle (sense config reading left).2.fusion (sense config reading right).2.fusion :=
    hread.updateFusion config hvalues
  have hshown : SameRest .yaw
      (sensors config (imu9Read config reading left).1.1 (sense config reading left).2.fusion
        (imu9Read config reading left).2.imu)
      (sensors config (imu9Read config reading right).1.1 (sense config reading right).2.fusion
        (imu9Read config reading right).2.imu) := by
    rw [hvalues, hread.imu]
    exact sameRest_sensors hfusion config _ _
  exact ⟨hshown, hread.imu, hread.accelStoredFilterValues, hfusion, hread.tasks⟩

theorem sameButHeading_step (hsame : SameButHeading angle left right) {event : Event}
    (hkeeps : KeepsYawRate event) (config : Config) :
    SameButHeading angle (step config left event) (step config right event) := by
  cases event with
  | imu6ManufacturingTest reading => exact (sameButHeading_imu9Read hsame config reading).2
  | stabilizerTask reading =>
    obtain ⟨hshown, himu, hstored, hfusion, htasks⟩ := sameButHeading_sense hsame config reading
    exact ⟨himu, hstored, hfusion, htasks.step (.stabilizerTask hshown) trivial config.toConfig⟩
  | other event hother =>
    exact ⟨hsame.imu, hsame.accelStoredFilterValues, hsame.fusion,
      hsame.tasks.step (.same event) hkeeps config.toConfig⟩

theorem sameButHeading_run (hsame : SameButHeading angle left right) {events : List Event}
    (hevents : ∀ event ∈ events, KeepsYawRate event) (config : Config) :
    SameButHeading angle (run (step config) left events) (run (step config) right events) := by
  induction events generalizing left right with
  | nil => exact hsame
  | cons event events ih =>
    obtain ⟨hkeeps, hrest⟩ := List.forall_mem_cons.mp hevents
    exact ih (sameButHeading_step hsame hkeeps config) hrest

end heading

/-- As long as the yaw is in rate mode, a wrong heading does no harm: two flights that
    start from estimates turned against each other around the vertical only drive the
    motors alike in every pass, whatever arrives. -/
theorem heading_harmless {config : Config} {angle : Angle ℚ} {start : Flight} {turned : Sensfusion6}
    (hturned : Turned angle start.fusion turned) (hmode : start.tasks.mode .yaw = .RATE) {events : List Event}
    (hevents : ∀ event ∈ events, KeepsYawRate event) (reading : Reading) :
    (stabilizerTask config reading (run (step config) start events)).1 =
      (stabilizerTask config reading (run (step config) { start with fusion := turned } events)).1 := by
  have hstart : SameButHeading angle start { start with fusion := turned } :=
    ⟨rfl, rfl, hturned, hmode, rfl, rfl, fun _ _ => rfl, rfl⟩
  have hsame := sameButHeading_run hstart hevents config
  obtain ⟨hshown, hsensed⟩ := sameButHeading_sense hsame config reading
  exact (hsensed.tasks.pass hshown config.toConfig).1

theorem calibrating_keepsYawRate : ∀ event ∈ calibrating, KeepsYawRate event := by
  unfold calibrating
  intro event hevent
  rw [List.mem_append, List.mem_replicate, List.mem_singleton] at hevent
  obtain ⟨_, rfl⟩ | rfl := hevent <;> trivial

theorem heading_harmless_calibrating :
    (stabilizerTask board resting (run (step board) (flight0 board) calibrating)).1 =
      (stabilizerTask board resting (run (step board)
        { flight0 board with fusion := { sensfusion60 with q0 := 3 / 5, q3 := 4 / 5 } } calibrating)).1 :=
  heading_harmless turned_triangle rfl calibrating_keepsYawRate resting

end copter.flight
