import CopterOS.Lib.Attitude
import CopterOS.Sensfusion6
import Mathlib.Analysis.Real.Sqrt

open Quaternion attitude inverse_sqrt transition copter.stabilizer

namespace copter.sensfusion6

/-- The attitude as a quaternion. -/
def Sensfusion6.quaternion (fusion : Sensfusion6) : ℍ[ℚ] := ofParts fusion.q0 fusion.q1 fusion.q2 fusion.q3

/-- A vector as a quaternion without a real part. -/
def ofAxes (v : Axis3f ℚ) : ℍ[ℚ] := ofParts 0 v.x v.y v.z

def lengthSq (v : Axis3f ℚ) : ℚ := v.x * v.x + v.y * v.y + v.z * v.z

theorem lengthSq_nonneg (v : Axis3f ℚ) : 0 ≤ lengthSq v :=
  add_nonneg (add_nonneg (mul_self_nonneg _) (mul_self_nonneg _)) (mul_self_nonneg _)

/-- The quaternion has length one up to the error of `invSqrt`. -/
structure Normalised (fusion : Sensfusion6) : Prop where
  low : 249 / 250 ≤ normSq fusion.quaternion
  high : normSq fusion.quaternion ≤ 1

theorem invSqrt_eq (x : ℚ) : invSqrt x = newton x (guess 0x5f3759df x) := by
  unfold invSqrt newton guess
  ring

/-- For a number of 32 bits the first guess is made from its own bits. -/
theorem invSqrt_ofBits (bits : ℤ) :
    invSqrt (ofBits bits) = newton (ofBits bits) (ofBits (0x5f3759df - bits >>> (1 : ℕ))) := by
  rw [invSqrt_eq]
  unfold guess
  rw [toBits_ofBits]

/-- For every positive argument the result is positive, and its square is the
    inverse of the argument up to less than half a percent. -/
theorem invSqrt_bounds {x : ℚ} (hx : 0 < x) :
    0 < invSqrt x ∧ 249 / 250 ≤ x * invSqrt x ^ 2 ∧ x * invSqrt x ^ 2 ≤ 1 := by
  rw [invSqrt_eq]
  exact newton_guess_bounds hx

/-- The result never exceeds the inverse of the square root, and misses it by less
    than one part in 499. -/
theorem invSqrt_accurate {x : ℚ} (hx : 0 < x) :
    (498 / 499 : ℝ) ≤ invSqrt x * √(x : ℝ) ∧ invSqrt x * √(x : ℝ) ≤ 1 := by
  obtain ⟨hpos, hlow, hhigh⟩ := invSqrt_bounds hx
  have hroot : √(x : ℝ) ^ 2 = x := Real.sq_sqrt (by exact_mod_cast hx.le)
  have hsquare : ((invSqrt x : ℝ) * √(x : ℝ)) ^ 2 = ((x * invSqrt x ^ 2 : ℚ) : ℝ) := by
    rw [mul_pow, hroot]
    push_cast
    ring
  have hnonneg : 0 ≤ (invSqrt x : ℝ) * √(x : ℝ) := mul_nonneg (by exact_mod_cast hpos.le) (Real.sqrt_nonneg _)
  have hlow : (249 / 250 : ℝ) ≤ ((invSqrt x : ℝ) * √(x : ℝ)) ^ 2 := by
    have hcast : ((249 / 250 : ℚ) : ℝ) ≤ ((x * invSqrt x ^ 2 : ℚ) : ℝ) := Rat.cast_le.mpr hlow
    rw [hsquare]
    exact (by norm_num : (249 / 250 : ℝ) = ((249 / 250 : ℚ) : ℝ)).trans_le hcast
  have hhigh : ((invSqrt x : ℝ) * √(x : ℝ)) ^ 2 ≤ 1 := by
    rw [hsquare]
    exact_mod_cast hhigh
  refine ⟨?_, (sq_le_one_iff₀ hnonneg).mp hhigh⟩
  exact le_of_sq_le_sq (le_trans (by norm_num) hlow) hnonneg

theorem invSqrt_accurate_two :
    0 < (2 : ℚ) ∧ (498 / 499 : ℝ) ≤ invSqrt 2 * √((2 : ℚ) : ℝ) ∧ invSqrt 2 * √((2 : ℚ) : ℝ) ≤ 1 :=
  ⟨two_pos, invSqrt_accurate two_pos⟩

theorem normSq_quaternion (fusion : Sensfusion6) :
    normSq fusion.quaternion =
      fusion.q0 * fusion.q0 + fusion.q1 * fusion.q1 + fusion.q2 * fusion.q2 + fusion.q3 * fusion.q3 := by
  unfold Sensfusion6.quaternion
  rw [normSq_ofParts]
  ring

theorem normSq_ofAxes (v : Axis3f ℚ) : normSq (ofAxes v) = lengthSq v := by
  unfold ofAxes lengthSq
  rw [normSq_ofParts]
  ring

theorem quaternion_integrate (g : Axis3f ℚ) (dt : ℚ) (fusion : Sensfusion6) :
    (integrate g dt fusion).quaternion =
      advance fusion.quaternion (g.x * (1 / 2 * dt)) (g.y * (1 / 2 * dt)) (g.z * (1 / 2 * dt)) := by
  unfold integrate Sensfusion6.quaternion advance
  ext <;> simp <;> ring

theorem normaliseQ_eq (fusion : Sensfusion6) :
    normaliseQ fusion =
      { fusion with
        q0 := fusion.q0 * invSqrt (normSq fusion.quaternion)
        q1 := fusion.q1 * invSqrt (normSq fusion.quaternion)
        q2 := fusion.q2 * invSqrt (normSq fusion.quaternion)
        q3 := fusion.q3 * invSqrt (normSq fusion.quaternion) } := by
  rw [normSq_quaternion]
  rfl

theorem quaternion_normaliseQ (fusion : Sensfusion6) :
    (normaliseQ fusion).quaternion = invSqrt (normSq fusion.quaternion) • fusion.quaternion := by
  rw [normaliseQ_eq]
  generalize invSqrt _ = recipNorm
  unfold Sensfusion6.quaternion
  ext <;> simp [mul_comm]

theorem normalised_normaliseQ {fusion : Sensfusion6} (hfusion : 0 < normSq fusion.quaternion) :
    Normalised (normaliseQ fusion) := by
  obtain ⟨_, hlow, hhigh⟩ := invSqrt_bounds hfusion
  have hnorm : normSq (normaliseQ fusion).quaternion =
      normSq fusion.quaternion * invSqrt (normSq fusion.quaternion) ^ 2 := by
    rw [quaternion_normaliseQ, normSq_smul, mul_comm]
  exact ⟨hnorm ▸ hlow, hnorm ▸ hhigh⟩

/-- No rates bring an attitude to zero. -/
theorem normSq_integrate_pos {fusion : Sensfusion6} (hfusion : 0 < normSq fusion.quaternion) (g : Axis3f ℚ)
    (dt : ℚ) : 0 < normSq (integrate g dt fusion).quaternion := by
  rw [quaternion_integrate, normSq_advance]
  exact mul_pos hfusion (by positivity)

/-- The rates in radians an update integrates, and the integral it leaves. -/
def fed (gains : Gains) (g a : Axis3f ℚ) (dt : ℚ) (fusion : Sensfusion6) : Axis3f ℚ × Axis3f ℚ :=
  let g : Axis3f ℚ := ⟨g.x * M_PI_F / 180, g.y * M_PI_F / 180, g.z * M_PI_F / 180⟩
  if ¬ (a.x = 0 ∧ a.y = 0 ∧ a.z = 0) then feedback gains g a dt fusion else (g, fusion.integralFB)

theorem sensfusion6UpdateQ_eq (gains : Gains) (g a : Axis3f ℚ) (dt : ℚ) (fusion : Sensfusion6) :
    sensfusion6UpdateQ gains g a dt fusion =
      normaliseQ (integrate (fed gains g a dt fusion).1 dt
        { fusion with integralFB := (fed gains g a dt fusion).2 }) := by
  unfold sensfusion6UpdateQ fed
  dsimp only
  split <;> rfl

theorem normalised_sensfusion6UpdateQ {fusion : Sensfusion6} (hfusion : 0 < normSq fusion.quaternion)
    (gains : Gains) (g a : Axis3f ℚ) (dt : ℚ) : Normalised (sensfusion6UpdateQ gains g a dt fusion) := by
  rw [sensfusion6UpdateQ_eq]
  apply normalised_normaliseQ
  apply normSq_integrate_pos
  exact hfusion

theorem Normalised.pos {fusion : Sensfusion6} (hfusion : Normalised fusion) : 0 < normSq fusion.quaternion :=
  lt_of_lt_of_le (by norm_num) hfusion.low

theorem normalised_sensfusion60 : Normalised sensfusion60 := by
  have hnorm : normSq sensfusion60.quaternion = 1 := by
    rw [normSq_quaternion]
    norm_num [sensfusion60]
  constructor <;> rw [hnorm]
  norm_num

theorem normalised_run {fusion : Sensfusion6} (hfusion : Normalised fusion) (gains : Gains) (samples : List Sample) :
    Normalised (fusionAfter gains fusion samples) :=
  run_invariant (fun _ sample hfusion => normalised_sensfusion6UpdateQ hfusion.pos gains sample.g sample.a sample.dt)
    hfusion samples

/-- From the initial attitude on, the quaternion has length one after every sequence
    of updates. -/
theorem normalised_fusionAfter (gains : Gains) (samples : List Sample) :
    Normalised (fusionAfter gains sensfusion60 samples) :=
  normalised_run normalised_sensfusion60 gains samples

end copter.sensfusion6
