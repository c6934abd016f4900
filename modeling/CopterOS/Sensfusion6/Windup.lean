import CopterOS.Sensfusion6.Heading

open Quaternion attitude transition copter.stabilizer

namespace copter.sensfusion6

/-- The time a sequence of updates covers. -/
def duration (samples : List Sample) : ℚ := (samples.map fun sample => |sample.dt|).sum

/-- The integral error terms by their largest part. -/
def IntegralWithin (bound : ℚ) (integralFB : Axis3f ℚ) : Prop :=
  |integralFB.x| ≤ bound ∧ |integralFB.y| ≤ bound ∧ |integralFB.z| ≤ bound

theorem lengthSq_normalise_le {a : Axis3f ℚ} (ha : ¬ (a.x = 0 ∧ a.y = 0 ∧ a.z = 0)) :
    lengthSq (normalise a) ≤ 1 := by
  have hpos : 0 < a.x * a.x + a.y * a.y + a.z * a.z := by
    by_contra hnot
    apply ha
    have hx := mul_self_nonneg a.x
    have hy := mul_self_nonneg a.y
    have hz := mul_self_nonneg a.z
    refine ⟨?_, ?_, ?_⟩ <;> rw [← mul_self_eq_zero] <;> linarith
  obtain ⟨_, _, hhigh⟩ := invSqrt_bounds hpos
  have hlength : lengthSq (normalise a) =
      (a.x * a.x + a.y * a.y + a.z * a.z) * invSqrt (a.x * a.x + a.y * a.y + a.z * a.z) ^ 2 := by
    unfold lengthSq normalise
    generalize invSqrt _ = recipNorm
    ring
  exact hlength.trans_le hhigh

/-- Half the direction of gravity has length one half at most, also where its last
    part is taken from a quaternion that is a little too short. -/
theorem Normalised.lengthSq_halfv_le {fusion : Sensfusion6} (hfusion : Normalised fusion) :
    lengthSq (halfv fusion) ≤ 1 / 4 := by
  have hgravity := lengthSq_gravity fusion
  have hlow := hfusion.pos.le
  have hhigh := hfusion.high
  rw [halfv_eq]
  unfold lengthSq at hgravity ⊢
  generalize normSq fusion.quaternion = n at hgravity hlow hhigh
  generalize gravity fusion = v at hgravity
  have hz : -n ≤ v.z := by
    have hsquare : v.z ^ 2 ≤ n ^ 2 := by nlinarith [mul_self_nonneg v.x, mul_self_nonneg v.y]
    exact (abs_le_of_sq_le_sq' hsquare hlow).1
  have hcross := mul_nonneg (sub_nonneg.mpr hhigh) (sub_nonneg.mpr hz)
  dsimp only
  nlinarith

/-- A cross product is no longer than the product of the lengths. -/
theorem lengthSq_halfe_le (a v : Axis3f ℚ) : lengthSq (halfe a v) ≤ lengthSq a * lengthSq v := by
  have hlagrange : lengthSq a * lengthSq v - lengthSq (halfe a v) = (a.x * v.x + a.y * v.y + a.z * v.z) ^ 2 := by
    unfold lengthSq halfe
    ring
  linarith [sq_nonneg (a.x * v.x + a.y * v.y + a.z * v.z)]

theorem abs_le_half_of_lengthSq_le {v : Axis3f ℚ} (hv : lengthSq v ≤ 1 / 4) : IntegralWithin (1 / 2) v := by
  have hx := mul_self_nonneg v.x
  have hy := mul_self_nonneg v.y
  have hz := mul_self_nonneg v.z
  unfold lengthSq at hv
  refine ⟨?_, ?_, ?_⟩ <;> apply abs_le_of_sq_le_sq _ (by norm_num) <;> linarith

/-- The error is one half at most, whatever the accelerometer shows. -/
theorem Normalised.halfe_within {fusion : Sensfusion6} (hfusion : Normalised fusion) {a : Axis3f ℚ}
    (ha : ¬ (a.x = 0 ∧ a.y = 0 ∧ a.z = 0)) : IntegralWithin (1 / 2) (halfe (normalise a) (halfv fusion)) := by
  apply abs_le_half_of_lengthSq_le
  calc lengthSq (halfe (normalise a) (halfv fusion))
      ≤ lengthSq (normalise a) * lengthSq (halfv fusion) := lengthSq_halfe_le _ _
    _ ≤ 1 * (1 / 4) := by
      exact mul_le_mul (lengthSq_normalise_le ha) hfusion.lengthSq_halfv_le (lengthSq_nonneg _) zero_le_one
    _ = 1 / 4 := one_mul _

theorem abs_add_le_of_half {total error gain dt bound : ℚ} (htotal : |total| ≤ bound) (herror : |error| ≤ 1 / 2) :
    |total + gain * error * dt| ≤ bound + |gain| * |dt| / 2 := by
  have hstep : |gain * error * dt| ≤ |gain| * |dt| / 2 := by
    rw [abs_mul, abs_mul]
    have hscaled := mul_le_mul_of_nonneg_left herror (mul_nonneg (abs_nonneg gain) (abs_nonneg dt))
    linarith
  linarith [abs_add_le total (gain * error * dt)]

/-- One update adds at most half the gain times the elapsed time. -/
theorem Normalised.integralFB_sensfusion6UpdateQ {fusion : Sensfusion6} (hfusion : Normalised fusion) {bound : ℚ}
    (hbound : IntegralWithin bound fusion.integralFB) (gains : Gains) (g a : Axis3f ℚ) (dt : ℚ) :
    IntegralWithin (bound + |gains.twoKi| * |dt| / 2) (sensfusion6UpdateQ gains g a dt fusion).integralFB := by
  have hmore : 0 ≤ |gains.twoKi| * |dt| / 2 := by positivity
  have hnonneg : 0 ≤ bound := (abs_nonneg _).trans hbound.1
  have hintegral : (sensfusion6UpdateQ gains g a dt fusion).integralFB = (fed gains g a dt fusion).2 := by
    rw [sensfusion6UpdateQ_eq]
    rfl
  rw [hintegral]
  unfold fed
  dsimp only
  split
  case isTrue ha =>
    obtain ⟨hx, hy, hz⟩ := hfusion.halfe_within ha
    unfold feedback
    dsimp only
    split
    case isTrue => exact ⟨abs_add_le_of_half hbound.1 hx, abs_add_le_of_half hbound.2.1 hy, abs_add_le_of_half hbound.2.2 hz⟩
    case isFalse =>
      have hzero : |(0 : ℚ)| ≤ bound + |gains.twoKi| * |dt| / 2 := by
        rw [abs_zero]
        linarith
      exact ⟨hzero, hzero, hzero⟩
  case isFalse => exact ⟨by linarith [hbound.1], by linarith [hbound.2.1], by linarith [hbound.2.2]⟩

theorem integralFB_fusionAfter {fusion : Sensfusion6} (hfusion : Normalised fusion) {bound : ℚ}
    (hbound : IntegralWithin bound fusion.integralFB) (gains : Gains) (samples : List Sample) :
    IntegralWithin (bound + |gains.twoKi| * duration samples / 2) (fusionAfter gains fusion samples).integralFB := by
  induction samples generalizing fusion bound with
  | nil => simpa [duration, fusionAfter] using hbound
  | cons sample samples ih =>
    have hstep := hfusion.integralFB_sensfusion6UpdateQ hbound gains sample.g sample.a sample.dt
    have hnormalised := normalised_sensfusion6UpdateQ hfusion.pos gains sample.g sample.a sample.dt
    have htotal : bound + |gains.twoKi| * |sample.dt| / 2 + |gains.twoKi| * duration samples / 2 =
        bound + |gains.twoKi| * duration (sample :: samples) / 2 := by
      unfold duration
      rw [List.map_cons, List.sum_cons]
      ring
    exact htotal ▸ ih hnormalised hstep

/-- Without a gain the integral stays at zero. -/
theorem integralFB_of_nonpos {gains : Gains} (hgains : gains.twoKi ≤ 0) (samples : List Sample) :
    (fusionAfter gains sensfusion60 samples).integralFB = ⟨0, 0, 0⟩ := by
  refine run_invariant (P := fun fusion : Sensfusion6 => fusion.integralFB = ⟨0, 0, 0⟩)
    (fun fusion sample hzero => ?_) rfl samples
  rw [sensfusion6UpdateQ_eq]
  change (fed gains sample.g sample.a sample.dt fusion).2 = ⟨0, 0, 0⟩
  unfold fed
  split
  case isTrue =>
    unfold feedback
    exact if_neg (not_lt.mpr hgains)
  case isFalse => exact hzero

/-- An attitude without tilt and without a turn. -/
structure Upright (fusion : Sensfusion6) : Prop where
  normalised : Normalised fusion
  q1 : fusion.q1 = 0
  q2 : fusion.q2 = 0
  q3 : fusion.q3 = 0

/-- An acceleration to the front, with rates that cancel what it feeds back. -/
def masked (gains : Gains) (dt : ℚ) (fusion : Sensfusion6) : Sample :=
  let rates := (fed gains ⟨0, 0, 0⟩ ⟨1, 0, 0⟩ dt fusion).1
  { g := ⟨-rates.x * 180 / M_PI_F, -rates.y * 180 / M_PI_F, -rates.z * 180 / M_PI_F⟩
    a := ⟨1, 0, 0⟩
    dt := dt }

theorem fed_masked (gains : Gains) (dt : ℚ) (fusion : Sensfusion6) :
    fed gains (masked gains dt fusion).g (masked gains dt fusion).a dt fusion =
      (⟨0, 0, 0⟩, (fed gains ⟨0, 0, 0⟩ ⟨1, 0, 0⟩ dt fusion).2) := by
  have hradians : ∀ rate : ℚ, -rate * 180 / M_PI_F * M_PI_F / 180 = -rate := by
    intro rate
    unfold M_PI_F
    ring
  have hfront : ¬ ((1 : ℚ) = 0 ∧ (0 : ℚ) = 0 ∧ (0 : ℚ) = 0) := fun hzero => one_ne_zero hzero.1
  unfold masked fed
  dsimp only
  rw [if_pos hfront, if_pos hfront]
  simp only [hradians]
  unfold feedback
  dsimp only
  split <;> simp only [Prod.mk.injEq, Axis3f.mk.injEq, and_true] <;> refine ⟨?_, ?_, ?_⟩ <;> ring

/-- The attitude stays, and the integral grows by two fifths of what it is fed with. -/
theorem Upright.masked {fusion : Sensfusion6} (hupright : Upright fusion) {gains : Gains} (hgains : 0 < gains.twoKi)
    {dt : ℚ} (hdt : 0 < dt) :
    let next := sensfusion6UpdateQ gains (masked gains dt fusion).g (masked gains dt fusion).a dt fusion
    Upright next ∧ next.integralFB.y ≤ fusion.integralFB.y - 2 / 5 * (gains.twoKi * dt) := by
  intro next
  have hnext : next = normaliseQ (integrate ⟨0, 0, 0⟩ dt
      { fusion with integralFB := (fed gains ⟨0, 0, 0⟩ ⟨1, 0, 0⟩ dt fusion).2 }) := by
    change sensfusion6UpdateQ _ _ _ _ _ = _
    rw [sensfusion6UpdateQ_eq, fed_masked]
  obtain ⟨hnormalised, hq1, hq2, hq3⟩ := hupright
  refine ⟨⟨normalised_sensfusion6UpdateQ hnormalised.pos _ _ _ _, ?_, ?_, ?_⟩, ?_⟩
  · rw [hnext]
    simp [normaliseQ, integrate, hq1, hq2, hq3]
  · rw [hnext]
    simp [normaliseQ, integrate, hq1, hq2, hq3]
  · rw [hnext]
    simp [normaliseQ, integrate, hq1, hq2, hq3]
  · have hfed : next.integralFB.y =
        fusion.integralFB.y - gains.twoKi * (invSqrt 1 * (fusion.q0 * fusion.q0 - 1 / 2)) * dt := by
      rw [hnext]
      change (fed gains ⟨0, 0, 0⟩ ⟨1, 0, 0⟩ dt fusion).2.y = _
      unfold fed feedback
      simp [hgains, halfe, halfv, normalise, hq3]
      ring
    have hlength := hnormalised.low
    rw [normSq_quaternion, hq1, hq2, hq3] at hlength
    obtain ⟨hpos, hlow, _⟩ := invSqrt_bounds one_pos
    have hrecip : 9 / 10 ≤ invSqrt 1 := by nlinarith
    have herror : 2 / 5 ≤ invSqrt 1 * (fusion.q0 * fusion.q0 - 1 / 2) := by nlinarith
    have hstep := mul_le_mul_of_nonneg_right herror (mul_pos hgains hdt).le
    rw [hfed]
    linarith

/-- Any number of such updates in a row. -/
theorem exists_masked {gains : Gains} (hgains : 0 < gains.twoKi) {dt : ℚ} (hdt : 0 < dt) (n : ℕ) :
    ∃ samples, (∀ sample ∈ samples, sample.dt = dt) ∧ Upright (fusionAfter gains sensfusion60 samples) ∧
      (fusionAfter gains sensfusion60 samples).integralFB.y ≤ -(n * (2 / 5 * (gains.twoKi * dt))) := by
  induction n with
  | zero =>
    refine ⟨[], by simp, ⟨normalised_sensfusion60, rfl, rfl, rfl⟩, ?_⟩
    simp [fusionAfter, sensfusion60]
  | succ n ih =>
    obtain ⟨samples, htime, hupright, htotal⟩ := ih
    have hnext := hupright.masked hgains hdt
    refine ⟨samples ++ [masked gains dt (fusionAfter gains sensfusion60 samples)], ?_, ?_⟩
    · intro sample hsample
      obtain hbefore | hlast := List.mem_append.mp hsample
      · exact htime sample hbefore
      · rw [List.mem_singleton.mp hlast]
        rfl
    · unfold fusionAfter at hnext htotal ⊢
      rw [run_concat]
      refine ⟨hnext.1, hnext.2.trans ?_⟩
      push_cast
      linarith

/-- The integral has no limit of its own. After any sensor values it is at most half
    the gain times the time; but with a gain no bound holds for all runs, however
    regularly the updates come. -/
theorem fusionAfter_windup (gains : Gains) {dt : ℚ} (hdt : 0 < dt) :
    (∀ samples, IntegralWithin (|gains.twoKi| * duration samples / 2)
      (fusionAfter gains sensfusion60 samples).integralFB) ∧
    ((∃ bound, ∀ samples, (∀ sample ∈ samples, sample.dt = dt) →
      IntegralWithin bound (fusionAfter gains sensfusion60 samples).integralFB) ↔ gains.twoKi ≤ 0) := by
  constructor
  · intro samples
    have hzero : IntegralWithin 0 sensfusion60.integralFB := by
      simp [IntegralWithin, sensfusion60]
    have hafter := integralFB_fusionAfter normalised_sensfusion60 hzero gains samples
    rwa [zero_add] at hafter
  constructor
  · rintro ⟨bound, hbound⟩
    by_contra hpositive
    have hgains : 0 < gains.twoKi := not_le.mp hpositive
    have hgrowth : 0 < 2 / 5 * (gains.twoKi * dt) := by positivity
    obtain ⟨n, hn⟩ := exists_nat_gt (bound / (2 / 5 * (gains.twoKi * dt)))
    rw [div_lt_iff₀ hgrowth] at hn
    obtain ⟨samples, htime, _, htotal⟩ := exists_masked hgains hdt n
    have hwithin := (abs_le.mp (hbound samples htime).2.1).1
    linarith
  · intro hgains
    refine ⟨0, fun samples _ => ?_⟩
    rw [integralFB_of_nonpos hgains]
    simp [IntegralWithin]

/-- With the default gain, at the rate of the attitude updates. -/
theorem fusionAfter_windup_default :
    (0 : ℚ) < 1 / 250 ∧
    (∀ samples, IntegralWithin (|gains0.twoKi| * duration samples / 2)
      (fusionAfter gains0 sensfusion60 samples).integralFB) ∧
    ((∃ bound, ∀ samples, (∀ sample ∈ samples, sample.dt = 1 / 250) →
      IntegralWithin bound (fusionAfter gains0 sensfusion60 samples).integralFB) ↔ gains0.twoKi ≤ 0) := by
  have hdt : (0 : ℚ) < 1 / 250 := by norm_num
  exact ⟨hdt, fusionAfter_windup gains0 hdt⟩

end copter.sensfusion6
