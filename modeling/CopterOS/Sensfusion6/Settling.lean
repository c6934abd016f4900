import CopterOS.Sensfusion6.Turning

open Quaternion attitude transition copter.stabilizer

namespace copter.sensfusion6

/-- A copter at rest on level ground; the accelerometer may be off in its scale. -/
structure Still (sample : Sample) : Prop extends Spins sample where
  gz : sample.g.z = 0
  az : 0 < sample.a.z

/-- The square of the cosine of half the tilt, up to the length. -/
def standing (fusion : Sensfusion6) : ℚ := fusion.q0 * fusion.q0 + fusion.q3 * fusion.q3

/-- The square of the sine of half the tilt, up to the length. -/
def lying (fusion : Sensfusion6) : ℚ := fusion.q1 * fusion.q1 + fusion.q2 * fusion.q2

/-- The square of the tangent of half the tilt. -/
def tilt (fusion : Sensfusion6) : ℚ := lying fusion / standing fusion

/-- How far an update turns the estimate back. -/
def pull (gains : Gains) (sample : Sample) : ℚ := 1 / 2 * sample.dt * gains.twoKp * (normalise sample.a).z

theorem lying_nonneg (fusion : Sensfusion6) : 0 ≤ lying fusion :=
  add_nonneg (mul_self_nonneg _) (mul_self_nonneg _)

theorem standing_add_lying (fusion : Sensfusion6) : standing fusion + lying fusion = normSq fusion.quaternion := by
  rw [normSq_quaternion]
  unfold standing lying
  ring

/-- At rest the proportional feedback turns the estimate straight back: the parts of the
    quaternion that stand for the heading are stretched, those of the tilt are shortened. -/
theorem Still.update {sample : Sample} (hstill : Still sample) {gains : Gains} (hgains : gains.twoKi ≤ 0)
    {fusion : Sensfusion6} (hfusion : 0 < normSq fusion.quaternion) :
    let next := sensfusion6UpdateQ gains sample.g sample.a sample.dt fusion
    ∃ length, 0 < length ∧ next.q0 = length * (1 + pull gains sample * lying fusion) * fusion.q0 ∧
      next.q1 = length * (1 - pull gains sample * standing fusion) * fusion.q1 ∧
      next.q2 = length * (1 - pull gains sample * standing fusion) * fusion.q2 ∧
      next.q3 = length * (1 + pull gains sample * lying fusion) * fusion.q3 := by
  intro next
  obtain ⟨⟨hgx, hgy, hx, hy⟩, hgz, hz⟩ := hstill
  have hshown : ¬ (sample.a.x = 0 ∧ sample.a.y = 0 ∧ sample.a.z = 0) := fun hzero => hz.ne' hzero.2.2
  have hax : (normalise sample.a).x = 0 := by simp [normalise, hx]
  have hay : (normalise sample.a).y = 0 := by simp [normalise, hy]
  have hfed : fed gains sample.g sample.a sample.dt fusion =
      (⟨-gains.twoKp * ((normalise sample.a).z * (halfv fusion).y),
        gains.twoKp * ((normalise sample.a).z * (halfv fusion).x), 0⟩, ⟨0, 0, 0⟩) := by
    unfold fed
    rw [if_pos hshown]
    unfold feedback halfe
    simp [not_lt.mpr hgains, hgx, hgy, hgz, hax, hay]
  set turned := integrate (fed gains sample.g sample.a sample.dt fusion).1 sample.dt
    { fusion with integralFB := (fed gains sample.g sample.a sample.dt fusion).2 } with hturned
  have hpos : 0 < normSq turned.quaternion := normSq_integrate_pos hfusion _ sample.dt
  obtain ⟨hlength, _, _⟩ := invSqrt_bounds hpos
  have hnext : next = normaliseQ turned := sensfusion6UpdateQ_eq gains sample.g sample.a sample.dt fusion
  rw [hnext, normaliseQ_eq]
  refine ⟨_, hlength, ?_⟩
  dsimp only
  generalize invSqrt (normSq turned.quaternion) = length
  rw [hturned, hfed]
  unfold integrate halfv pull standing lying
  dsimp only
  refine ⟨?_, ?_, ?_, ?_⟩ <;> ring

/-- At rest the accelerometer shows the vertical with length one. -/
theorem Still.normalise_z {sample : Sample} (hstill : Still sample) :
    249 / 250 ≤ (normalise sample.a).z ∧ (normalise sample.a).z ≤ 1 := by
  obtain ⟨⟨_, _, hx, hy⟩, _, hz⟩ := hstill
  have hlength : sample.a.x * sample.a.x + sample.a.y * sample.a.y + sample.a.z * sample.a.z =
      sample.a.z * sample.a.z := by
    rw [hx, hy]
    ring
  obtain ⟨hpos, hlow, hhigh⟩ := invSqrt_bounds (mul_pos hz hz)
  unfold normalise
  rw [hlength]
  dsimp only
  have hnonneg := mul_pos hz hpos
  have hsquare : sample.a.z * sample.a.z * invSqrt (sample.a.z * sample.a.z) ^ 2 =
      (sample.a.z * invSqrt (sample.a.z * sample.a.z)) ^ 2 := by ring
  rw [hsquare] at hlow hhigh
  have hone := (sq_le_one_iff₀ hnonneg.le).mp hhigh
  exact ⟨by nlinarith, hone⟩

/-- The pull of an update, for gains and time steps as they are in use. -/
theorem Still.pull_bounds {sample : Sample} (hstill : Still sample) {gains : Gains}
    (hgain : 0 < gains.twoKp * sample.dt) (hsmall : gains.twoKp * sample.dt ≤ 2) {fusion : Sensfusion6}
    (hfusion : Normalised fusion) :
    0 < pull gains sample ∧ pull gains sample ≤ 1 ∧
      99 / 200 * (gains.twoKp * sample.dt) ≤ pull gains sample * normSq fusion.quaternion := by
  obtain ⟨hlow, hhigh⟩ := hstill.normalise_z
  have hlength := hfusion.low
  have hpull : pull gains sample = 1 / 2 * (gains.twoKp * sample.dt) * (normalise sample.a).z := by
    unfold pull
    ring
  generalize (normalise sample.a).z = z at *
  generalize normSq fusion.quaternion = n at *
  generalize gains.twoKp * sample.dt = gain at *
  rw [hpull]
  have hproduct : 249 / 250 * (249 / 250) ≤ z * n := mul_le_mul hlow hlength (by norm_num) (by linarith)
  refine ⟨by nlinarith, by nlinarith, ?_⟩
  calc 99 / 200 * gain ≤ 1 / 2 * gain * (249 / 250 * (249 / 250)) := by linarith
    _ ≤ 1 / 2 * gain * (z * n) := mul_le_mul_of_nonneg_left hproduct (by linarith)
    _ = 1 / 2 * gain * z * n := by ring

/-- An update takes from the tilt what it can reach. -/
theorem Still.tilt_update {sample : Sample} (hstill : Still sample) {gains : Gains} (hgains : gains.twoKi ≤ 0)
    (hgain : 0 < gains.twoKp * sample.dt) (hsmall : gains.twoKp * sample.dt ≤ 2) {fusion : Sensfusion6}
    (hfusion : Normalised fusion) :
    let next := sensfusion6UpdateQ gains sample.g sample.a sample.dt fusion
    (∃ length, 0 < length ∧ next.q0 = length * fusion.q0 ∧ next.q3 = length * fusion.q3) ∧
      (0 < standing fusion → tilt next ≤ tilt fusion / (1 + 99 / 200 * (gains.twoKp * sample.dt)) ^ 2) := by
  intro next
  obtain ⟨hpos, hone, hreach⟩ := hstill.pull_bounds hgain hsmall hfusion
  obtain ⟨length, hlength, hq0, hq1, hq2, hq3⟩ := hstill.update hgains hfusion.pos
  have hlying := lying_nonneg fusion
  have hsum := standing_add_lying fusion
  have hhigh := hfusion.high
  rw [← hsum] at hreach hhigh
  have hstretch : 0 < 1 + pull gains sample * lying fusion := by positivity
  refine ⟨⟨_, mul_pos hlength hstretch, hq0, hq3⟩, ?_⟩
  intro hstanding
  have hstandingNext : standing next =
      (length * (1 + pull gains sample * lying fusion)) ^ 2 * standing fusion := by
    unfold standing
    rw [hq0, hq3]
    ring
  have hlyingNext : lying next =
      (length * (1 - pull gains sample * standing fusion)) ^ 2 * lying fusion := by
    unfold lying
    rw [hq1, hq2]
    ring
  have hwithin : 0 ≤ 1 - pull gains sample * standing fusion := by nlinarith
  have hshrink : (1 - pull gains sample * standing fusion) * (1 + 99 / 200 * (gains.twoKp * sample.dt)) ≤
      1 + pull gains sample * lying fusion := by
    have htaken := mul_nonneg (mul_pos hpos hstanding).le (mul_pos (by norm_num : (0 : ℚ) < 99 / 200) hgain).le
    linarith
  have hsquare := pow_le_pow_left₀ (mul_nonneg hwithin (by linarith)) hshrink 2
  have hscale : 0 ≤ length ^ 2 * (standing fusion * lying fusion) := by positivity
  have hscaled := mul_le_mul_of_nonneg_left hsquare hscale
  have hreachPos : 0 < (1 + 99 / 200 * (gains.twoKp * sample.dt)) ^ 2 := by positivity
  unfold tilt
  rw [hstandingNext, hlyingNext, div_div, div_le_div_iff₀ (by positivity) (mul_pos hstanding hreachPos)]
  linarith

/-- A copter at rest on level ground finds back to a level estimate: without an integral
    each update of the fusion divides the tilt by at least the same factor, from every
    estimate but an exactly inverted one, and the turn around the vertical stays. -/
theorem fusionAfter_settles {gains : Gains} (hgains : gains.twoKi ≤ 0) {dt : ℚ} (hgain : 0 < gains.twoKp * dt)
    (hsmall : gains.twoKp * dt ≤ 2) {fusion : Sensfusion6} (hfusion : Normalised fusion) {samples : List Sample}
    (hstill : ∀ sample ∈ samples, Still sample ∧ sample.dt = dt) :
    (∃ length, 0 < length ∧ (fusionAfter gains fusion samples).q0 = length * fusion.q0 ∧
      (fusionAfter gains fusion samples).q3 = length * fusion.q3) ∧
    (0 < standing fusion →
      tilt (fusionAfter gains fusion samples) ≤
        tilt fusion / (1 + 99 / 200 * (gains.twoKp * dt)) ^ (2 * samples.length)) := by
  induction samples generalizing fusion with
  | nil => exact ⟨⟨1, one_pos, (one_mul _).symm, (one_mul _).symm⟩, fun _ => by simp [fusionAfter]⟩
  | cons sample samples ih =>
    rw [List.forall_mem_cons] at hstill
    obtain ⟨⟨hfirst, rfl⟩, hrest⟩ := hstill
    obtain ⟨⟨length, hlength, hq0, hq3⟩, htilt⟩ := hfirst.tilt_update hgains hgain hsmall hfusion
    obtain ⟨⟨later, hlater, hlaterQ0, hlaterQ3⟩, htilts⟩ :=
      ih (normalised_sensfusion6UpdateQ hfusion.pos gains sample.g sample.a sample.dt) hrest
    refine ⟨⟨later * length, mul_pos hlater hlength, ?_, ?_⟩, ?_⟩
    · rw [mul_assoc, ← hq0]
      exact hlaterQ0
    · rw [mul_assoc, ← hq3]
      exact hlaterQ3
    · intro hstanding
      have hstandingNext : 0 < standing (sensfusion6UpdateQ gains sample.g sample.a sample.dt fusion) := by
        have hscaled : standing (sensfusion6UpdateQ gains sample.g sample.a sample.dt fusion) =
            length ^ 2 * standing fusion := by
          unfold standing
          rw [hq0, hq3]
          ring
        rw [hscaled]
        positivity
      have hfactor : 0 < 1 + 99 / 200 * (gains.twoKp * sample.dt) := by positivity
      calc tilt (fusionAfter gains (sensfusion6UpdateQ gains sample.g sample.a sample.dt fusion) samples)
          ≤ tilt (sensfusion6UpdateQ gains sample.g sample.a sample.dt fusion) /
              (1 + 99 / 200 * (gains.twoKp * sample.dt)) ^ (2 * samples.length) := htilts hstandingNext
        _ ≤ tilt fusion / (1 + 99 / 200 * (gains.twoKp * sample.dt)) ^ 2 /
              (1 + 99 / 200 * (gains.twoKp * sample.dt)) ^ (2 * samples.length) :=
            div_le_div_of_nonneg_right (htilt hstanding) (pow_pos hfactor _).le
        _ = tilt fusion / (1 + 99 / 200 * (gains.twoKp * sample.dt)) ^ (2 * (sample :: samples).length) := by
            rw [div_div, ← pow_add, List.length_cons]
            ring_nf

/-- Half a minute on the ground after a start that has been tilted. -/
theorem fusionAfter_settles_tilted :
    let gains : Gains := { gains0 with twoKi := 0 }
    let fusion : Sensfusion6 := { sensfusion60 with q0 := 4 / 5, q1 := 3 / 5 }
    let samples : List Sample := List.replicate 7500 { g := ⟨0, 0, 0⟩, a := ⟨0, 0, 1⟩, dt := 1 / 250 }
    (∃ length, 0 < length ∧ (fusionAfter gains fusion samples).q0 = length * fusion.q0 ∧
      (fusionAfter gains fusion samples).q3 = length * fusion.q3) ∧
    (0 < standing fusion →
      tilt (fusionAfter gains fusion samples) ≤
        tilt fusion / (1 + 99 / 200 * (gains.twoKp * (1 / 250))) ^ (2 * samples.length)) := by
  intro gains fusion samples
  have hfusion : Normalised fusion := by
    constructor <;> rw [normSq_quaternion] <;> norm_num [fusion, sensfusion60]
  have hstill : ∀ sample ∈ samples, Still sample ∧ sample.dt = 1 / 250 := by
    intro sample hsample
    obtain rfl := List.eq_of_mem_replicate hsample
    exact ⟨⟨⟨rfl, rfl, rfl, rfl⟩, rfl, one_pos⟩, rfl⟩
  have hgain : 0 < gains.twoKp * (1 / 250) := by norm_num [gains, gains0]
  have hsmall : gains.twoKp * (1 / 250) ≤ 2 := by norm_num [gains, gains0]
  exact fusionAfter_settles (le_refl 0) hgain hsmall hfusion hstill

end copter.sensfusion6
