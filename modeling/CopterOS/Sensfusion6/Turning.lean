import CopterOS.Sensfusion6.Heading

open Quaternion attitude transition copter.commander copter.stabilizer

namespace copter.sensfusion6

/-- The turn of one update by the gyroscope alone, to the first order. -/
def turnOf (sample : Sample) : ℍ[ℚ] :=
  ofParts 1 (sample.g.x * M_PI_F / 180 * (1 / 2 * sample.dt)) (sample.g.y * M_PI_F / 180 * (1 / 2 * sample.dt))
    (sample.g.z * M_PI_F / 180 * (1 / 2 * sample.dt))

/-- The turns of a sequence of updates one after the other. -/
def turns (samples : List Sample) : ℍ[ℚ] := (samples.map turnOf).prod

/-- The attitude up to its length. -/
def SameAttitude (fusion : Sensfusion6) (q : ℍ[ℚ]) : Prop := ∃ c : ℚ, 0 < c ∧ fusion.quaternion = c • q

/-- Nothing is fed back in the update. -/
def Unfed (gains : Gains) (fusion : Sensfusion6) (sample : Sample) : Prop :=
  fed gains sample.g sample.a sample.dt fusion =
    (⟨sample.g.x * M_PI_F / 180, sample.g.y * M_PI_F / 180, sample.g.z * M_PI_F / 180⟩, fusion.integralFB)

/-- Without feedback an update is the turn of the gyroscope; `invSqrt` only changes the
    length. -/
theorem Unfed.sameAttitude {gains : Gains} {fusion : Sensfusion6} {sample : Sample} (hunfed : Unfed gains fusion sample)
    (hfusion : 0 < normSq fusion.quaternion) {q : ℍ[ℚ]} (hsame : SameAttitude fusion q) :
    SameAttitude (sensfusion6UpdateQ gains sample.g sample.a sample.dt fusion) (q * turnOf sample) := by
  obtain ⟨c, hc, hquaternion⟩ := hsame
  have hpos := normSq_integrate_pos hfusion
    ⟨sample.g.x * M_PI_F / 180, sample.g.y * M_PI_F / 180, sample.g.z * M_PI_F / 180⟩ sample.dt
  obtain ⟨hrecip, _, _⟩ := invSqrt_bounds hpos
  refine ⟨_, mul_pos hrecip hc, ?_⟩
  rw [sensfusion6UpdateQ_eq, hunfed]
  change (normaliseQ (integrate _ _ fusion)).quaternion = _
  rw [quaternion_normaliseQ, mul_smul]
  congr 1
  rw [quaternion_integrate, hquaternion]
  exact smul_mul_assoc c q (turnOf sample)

theorem Unfed.integralFB {gains : Gains} {fusion : Sensfusion6} {sample : Sample} (hunfed : Unfed gains fusion sample) :
    (sensfusion6UpdateQ gains sample.g sample.a sample.dt fusion).integralFB = fusion.integralFB := by
  rw [sensfusion6UpdateQ_eq, hunfed]
  rfl

theorem unfed_of_freeFall {sample : Sample} (hfree : sample.a = ⟨0, 0, 0⟩) (gains : Gains) (fusion : Sensfusion6) :
    Unfed gains fusion sample := by
  unfold Unfed fed
  rw [hfree]
  exact if_neg fun hnot => hnot ⟨rfl, rfl, rfl⟩

theorem sameAttitude_of_freeFall {fusion : Sensfusion6} (hfusion : 0 < normSq fusion.quaternion) {q : ℍ[ℚ]}
    (hsame : SameAttitude fusion q) (gains : Gains) {samples : List Sample}
    (hfree : ∀ sample ∈ samples, sample.a = ⟨0, 0, 0⟩) :
    SameAttitude (fusionAfter gains fusion samples) (q * turns samples) ∧
      (fusionAfter gains fusion samples).integralFB = fusion.integralFB := by
  induction samples generalizing fusion q with
  | nil =>
    refine ⟨?_, rfl⟩
    rw [turns, List.map_nil, List.prod_nil, mul_one]
    exact hsame
  | cons sample samples ih =>
    rw [List.forall_mem_cons] at hfree
    have hunfed := unfed_of_freeFall hfree.1 gains fusion
    have hpos := (normalised_sensfusion6UpdateQ hfusion gains sample.g sample.a sample.dt).pos
    obtain ⟨hafter, hintegral⟩ := ih hpos (hunfed.sameAttitude hfusion hsame) hfree.2
    refine ⟨?_, hintegral.trans hunfed.integralFB⟩
    rw [turns, List.map_cons, List.prod_cons, ← mul_assoc]
    exact hafter

/-- In free fall the estimate is the product of the turns the gyroscope shows, in their
    order; the error of `invSqrt` does not turn it, however long the fall is, and the
    integral is kept. -/
theorem fusionAfter_freeFall {fusion : Sensfusion6} (hfusion : Normalised fusion) (gains : Gains) {samples : List Sample}
    (hfree : ∀ sample ∈ samples, sample.a = ⟨0, 0, 0⟩) :
    SameAttitude (fusionAfter gains fusion samples) (fusion.quaternion * turns samples) ∧
      (fusionAfter gains fusion samples).integralFB = fusion.integralFB :=
  sameAttitude_of_freeFall hfusion.pos ⟨1, one_pos, (one_smul ℚ _).symm⟩ gains hfree

/-- A roll and a pitch. -/
def tumbling : List Sample :=
  [{ g := ⟨90, 0, 0⟩, a := ⟨0, 0, 0⟩, dt := 1 / 250 }, { g := ⟨0, 45, 0⟩, a := ⟨0, 0, 0⟩, dt := 1 / 250 }]

theorem fusionAfter_freeFall_tumbling :
    Normalised sensfusion60 ∧ (∀ sample ∈ tumbling, sample.a = ⟨0, 0, 0⟩) ∧
      SameAttitude (fusionAfter gains0 sensfusion60 tumbling) (sensfusion60.quaternion * turns tumbling) ∧
      (fusionAfter gains0 sensfusion60 tumbling).integralFB = sensfusion60.integralFB := by
  have hfree : ∀ sample ∈ tumbling, sample.a = ⟨0, 0, 0⟩ := by simp [tumbling]
  exact ⟨normalised_sensfusion60, hfree, fusionAfter_freeFall normalised_sensfusion60 gains0 hfree⟩

/-- A turn around the vertical axis, and an acceleration along it. -/
structure Spins (sample : Sample) : Prop where
  gx : sample.g.x = 0
  gy : sample.g.y = 0
  ax : sample.a.x = 0
  ay : sample.a.y = 0

/-- The estimate is not tilted, and no error has been summed up. -/
structure Level (fusion : Sensfusion6) : Prop where
  normalised : Normalised fusion
  q1 : fusion.q1 = 0
  q2 : fusion.q2 = 0
  integralFB : fusion.integralFB = ⟨0, 0, 0⟩

theorem level_sensfusion60 : Level sensfusion60 := ⟨normalised_sensfusion60, rfl, rfl, rfl⟩

theorem Level.unfed {fusion : Sensfusion6} (hlevel : Level fusion) {sample : Sample} (hspins : Spins sample)
    (gains : Gains) : Unfed gains fusion sample := by
  obtain ⟨_, hq1, hq2, hintegral⟩ := hlevel
  obtain ⟨_, _, hax, hay⟩ := hspins
  have herror : halfe (normalise sample.a) (halfv fusion) = ⟨0, 0, 0⟩ := by
    simp [halfe, normalise, halfv, hax, hay, hq1, hq2]
  unfold Unfed fed
  split
  case isTrue =>
    unfold feedback
    rw [herror, hintegral]
    dsimp only
    split <;> simp
  case isFalse => rfl

theorem Level.step {fusion : Sensfusion6} (hlevel : Level fusion) {sample : Sample} (hspins : Spins sample)
    (gains : Gains) : Level (sensfusion6UpdateQ gains sample.g sample.a sample.dt fusion) := by
  have hunfed := hlevel.unfed hspins gains
  obtain ⟨hnormalised, hq1, hq2, hintegral⟩ := hlevel
  refine ⟨normalised_sensfusion6UpdateQ hnormalised.pos _ _ _ _, ?_, ?_, hunfed.integralFB.trans hintegral⟩
  · rw [sensfusion6UpdateQ_eq, hunfed]
    simp [normaliseQ, integrate, hq1, hq2, hspins.gx, hspins.gy]
  · rw [sensfusion6UpdateQ_eq, hunfed]
    simp [normaliseQ, integrate, hq1, hq2, hspins.gx, hspins.gy]

theorem Level.gravity {fusion : Sensfusion6} (hlevel : Level fusion) :
    gravity fusion = ⟨0, 0, normSq fusion.quaternion⟩ := by
  rw [normSq_quaternion]
  simp [copter.sensfusion6.gravity, hlevel.q1, hlevel.q2]

theorem Level.roll_pitch {fusion : Sensfusion6} (hlevel : Level fusion) {libm : Libm}
    (hatan2f : ∀ x, 0 < x → libm.atan2f 0 x = 0) (hasinf : libm.asinf 0 = 0) :
    (sensfusion6GetEulerRPY libm fusion).roll = 0 ∧ (sensfusion6GetEulerRPY libm fusion).pitch = 0 := by
  unfold sensfusion6GetEulerRPY
  rw [hlevel.gravity]
  dsimp only
  constructor
  · rw [hatan2f _ hlevel.normalised.pos, zero_mul, zero_div]
  · rw [limitGx_of_abs_le (by norm_num), hasinf, zero_mul, zero_div]

theorem level_run {fusion : Sensfusion6} (hlevel : Level fusion) {q : ℍ[ℚ]} (hsame : SameAttitude fusion q)
    (gains : Gains) {samples : List Sample} (hspins : ∀ sample ∈ samples, Spins sample) :
    Level (fusionAfter gains fusion samples) ∧ SameAttitude (fusionAfter gains fusion samples) (q * turns samples) := by
  induction samples generalizing fusion q with
  | nil =>
    refine ⟨hlevel, ?_⟩
    rw [turns, List.map_nil, List.prod_nil, mul_one]
    exact hsame
  | cons sample samples ih =>
    rw [List.forall_mem_cons] at hspins
    have hunfed := hlevel.unfed hspins.1 gains
    obtain ⟨hafter, hattitude⟩ :=
      ih (hlevel.step hspins.1 gains) (hunfed.sameAttitude hlevel.normalised.pos hsame) hspins.2
    refine ⟨hafter, ?_⟩
    rw [turns, List.map_cons, List.prod_cons, ← mul_assoc]
    exact hattitude

/-- A copter that turns around the vertical axis only, at any rates and with any
    acceleration along it, keeps a level estimate: the roll, the pitch and the integral
    stay at zero, the turn is the product of the turns the gyroscope shows, and the
    acceleration without gravity is right up to one part in 250. -/
theorem fusionAfter_level (gains : Gains) {samples : List Sample} (hspins : ∀ sample ∈ samples, Spins sample) {libm : Libm}
    (hatan2f : ∀ x, 0 < x → libm.atan2f 0 x = 0) (hasinf : libm.asinf 0 = 0) :
    let fusion := fusionAfter gains sensfusion60 samples
    (sensfusion6GetEulerRPY libm fusion).roll = 0 ∧ (sensfusion6GetEulerRPY libm fusion).pitch = 0 ∧
      fusion.integralFB = ⟨0, 0, 0⟩ ∧ SameAttitude fusion (turns samples) ∧
      ∀ a : Axis3f ℚ, |sensfusion6GetAccZWithoutGravity a fusion - (a.z - 1)| ≤ |a.z| / 250 := by
  intro fusion
  obtain ⟨hlevel, hattitude⟩ := level_run level_sensfusion60 ⟨1, one_pos, (one_smul ℚ _).symm⟩ gains hspins
  have hstart : sensfusion60.quaternion = 1 := rfl
  rw [hstart, one_mul] at hattitude
  have hlow := hlevel.normalised.low
  have hhigh := hlevel.normalised.high
  obtain ⟨hroll, hpitch⟩ := hlevel.roll_pitch hatan2f hasinf
  refine ⟨hroll, hpitch, hlevel.integralFB, hattitude, ?_⟩
  intro a
  have herror : sensfusion6GetAccZWithoutGravity a fusion - (a.z - 1) = -(a.z * (1 - normSq fusion.quaternion)) := by
    unfold sensfusion6GetAccZWithoutGravity
    rw [hlevel.gravity]
    ring
  have hshort : |1 - normSq fusion.quaternion| ≤ 1 / 250 := by
    rw [abs_le]
    constructor <;> linarith
  rw [herror, abs_neg, abs_mul, div_eq_mul_one_div]
  exact mul_le_mul_of_nonneg_left hshort (abs_nonneg _)

/-- A quarter turn a second on the spot, with a hop. -/
def spinning : List Sample :=
  [{ g := ⟨0, 0, 90⟩, a := ⟨0, 0, 1⟩, dt := 1 / 250 }, { g := ⟨0, 0, 90⟩, a := ⟨0, 0, 3 / 2⟩, dt := 1 / 250 }]

theorem fusionAfter_level_spinning :
    (∀ sample ∈ spinning, Spins sample) ∧
    let fusion := fusionAfter gains0 sensfusion60 spinning
    (sensfusion6GetEulerRPY levelLibm fusion).roll = 0 ∧ (sensfusion6GetEulerRPY levelLibm fusion).pitch = 0 ∧
      fusion.integralFB = ⟨0, 0, 0⟩ ∧ SameAttitude fusion (turns spinning) ∧
      ∀ a : Axis3f ℚ, |sensfusion6GetAccZWithoutGravity a fusion - (a.z - 1)| ≤ |a.z| / 250 := by
  have hspins : ∀ sample ∈ spinning, Spins sample := by
    unfold spinning
    rw [List.forall_mem_cons, List.forall_mem_singleton]
    exact ⟨⟨rfl, rfl, rfl, rfl⟩, ⟨rfl, rfl, rfl, rfl⟩⟩
  exact ⟨hspins, fusionAfter_level gains0 hspins (fun _ _ => rfl) rfl⟩

end copter.sensfusion6
