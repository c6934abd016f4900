import CopterOS.Sensfusion6.Norm

open Quaternion attitude transition copter.commander copter.stabilizer

namespace copter.sensfusion6

theorem ofAxes_gravity (fusion : Sensfusion6) : ofAxes (gravity fusion) = down fusion.quaternion := by
  unfold ofAxes gravity Sensfusion6.quaternion down vertical
  ext <;> simp <;> ring

theorem lengthSq_gravity (fusion : Sensfusion6) : lengthSq (gravity fusion) = normSq fusion.quaternion ^ 2 := by
  rw [← normSq_ofAxes, ofAxes_gravity, normSq_down]

/-- The estimated gravity is a vector of length one at most. -/
theorem Normalised.lengthSq_gravity_le {fusion : Sensfusion6} (hfusion : Normalised fusion) :
    lengthSq (gravity fusion) ≤ 1 := by
  rw [lengthSq_gravity]
  exact pow_le_one₀ hfusion.pos.le hfusion.high

theorem abs_le_one_of_lengthSq_le {v : Axis3f ℚ} (hv : lengthSq v ≤ 1) : |v.x| ≤ 1 ∧ |v.y| ≤ 1 ∧ |v.z| ≤ 1 := by
  unfold lengthSq at hv
  refine ⟨?_, ?_, ?_⟩ <;> rw [← sq_le_one_iff_abs_le_one] <;> nlinarith [mul_self_nonneg v.x, mul_self_nonneg v.y, mul_self_nonneg v.z]

theorem limitGx_of_abs_le {gx : ℚ} (hgx : |gx| ≤ 1) : limitGx gx = gx := by
  obtain ⟨hlow, hhigh⟩ := abs_le.mp hgx
  unfold limitGx
  rw [if_neg (not_lt.mpr hhigh), if_neg (not_lt.mpr hlow)]

/-- The results of the library functions are angles in radians. -/
structure Libm.Documented (libm : Libm) : Prop where
  atan2f : ∀ y x, |libm.atan2f y x| ≤ M_PI_F
  asinf : ∀ x, |x| ≤ 1 → |libm.asinf x| ≤ M_PI_F / 2

theorem abs_degrees_le {angle bound : ℚ} (hangle : |angle| ≤ bound) : |angle * 180 / M_PI_F| ≤ bound * 180 / M_PI_F := by
  have hpi : 0 < M_PI_F := by norm_num [M_PI_F]
  rw [abs_div, abs_mul, abs_of_pos hpi, abs_of_pos (by norm_num : (0 : ℚ) < 180)]
  gcongr

/-- Angles in degrees, as the attitude controller takes them. -/
structure InDegrees (euler : RPY ℚ) : Prop where
  roll : |euler.roll| ≤ 180
  pitch : |euler.pitch| ≤ 90
  yaw : |euler.yaw| ≤ 180

theorem Normalised.inDegrees {fusion : Sensfusion6} (hfusion : Normalised fusion) {libm : Libm}
    (hlibm : libm.Documented) : InDegrees (sensfusion6GetEulerRPY libm fusion) := by
  have hpi : M_PI_F ≠ 0 := by norm_num [M_PI_F]
  have hturn : M_PI_F * 180 / M_PI_F = 180 := mul_div_cancel_left₀ _ hpi
  have hquarter : M_PI_F / 2 * 180 / M_PI_F = 90 := by
    field_simp
    norm_num
  have hgx := (abs_le_one_of_lengthSq_le hfusion.lengthSq_gravity_le).1
  refine ⟨?_, ?_, ?_⟩
  · exact (abs_degrees_le (hlibm.atan2f _ _)).trans_eq hturn
  · have hasin := hlibm.asinf (limitGx (gravity fusion).x) (by rwa [limitGx_of_abs_le hgx])
    exact (abs_degrees_le hasin).trans_eq hquarter
  · exact (abs_degrees_le (hlibm.atan2f _ _)).trans_eq hturn

/-- The part of an acceleration along the estimated vertical is no longer than the
    acceleration. -/
theorem Normalised.accZ_sq_le {fusion : Sensfusion6} (hfusion : Normalised fusion) (a : Axis3f ℚ) :
    (sensfusion6GetAccZWithoutGravity a fusion + 1) ^ 2 ≤ lengthSq a := by
  have hgravity := hfusion.lengthSq_gravity_le
  have hlagrange : lengthSq a * lengthSq (gravity fusion) - (sensfusion6GetAccZWithoutGravity a fusion + 1) ^ 2 =
      lengthSq (halfe a (gravity fusion)) := by
    unfold sensfusion6GetAccZWithoutGravity lengthSq halfe
    ring
  have hcross := lengthSq_nonneg (halfe a (gravity fusion))
  have hproduct := mul_le_of_le_one_right (lengthSq_nonneg a) hgravity
  linarith

/-- Whatever the sensors show, the sine of the pitch needs no limit, the angles are in
    degrees, and the vertical acceleration is part of the measured one. -/
theorem euler_fusionAfter {libm : Libm} (hlibm : libm.Documented) (gains : Gains) (samples : List Sample) :
    let fusion := fusionAfter gains sensfusion60 samples
    limitGx (gravity fusion).x = (gravity fusion).x ∧ InDegrees (sensfusion6GetEulerRPY libm fusion) ∧
      ∀ a, (sensfusion6GetAccZWithoutGravity a fusion + 1) ^ 2 ≤ lengthSq a := by
  intro fusion
  have hfusion : Normalised fusion := normalised_run normalised_sensfusion60 gains samples
  have hgx := (abs_le_one_of_lengthSq_le hfusion.lengthSq_gravity_le).1
  exact ⟨limitGx_of_abs_le hgx, hfusion.inDegrees hlibm, hfusion.accZ_sq_le⟩

/-- The library functions on a level board. -/
def levelLibm : Libm where
  atan2f _ _ := 0
  asinf _ := 0

theorem levelLibm_documented : levelLibm.Documented where
  atan2f _ _ := by norm_num [levelLibm, M_PI_F]
  asinf _ _ := by norm_num [levelLibm, M_PI_F]

def levelSample : Sample where
  g := ⟨0, 0, 0⟩
  a := ⟨0, 0, 1⟩
  dt := 1 / 250

theorem euler_fusionAfter_level :
    let fusion := fusionAfter gains0 sensfusion60 [levelSample, levelSample]
    limitGx (gravity fusion).x = (gravity fusion).x ∧ InDegrees (sensfusion6GetEulerRPY levelLibm fusion) ∧
      ∀ a, (sensfusion6GetAccZWithoutGravity a fusion + 1) ^ 2 ≤ lengthSq a :=
  euler_fusionAfter levelLibm_documented gains0 [levelSample, levelSample]

end copter.sensfusion6
