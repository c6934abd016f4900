import CopterOS.RcCommander

open copter.remote_control number

namespace copter.rc_commander

/-- The number that is cast for a thrust reading. -/
def thrustNumber (calibration : Calibration) (t : ℚ) : ℚ :=
  getPercent t calibration.THRUST_BASE calibration.THRUST_MIN calibration.THRUST_MAX * UINT16_MAX.toNat

/-- At the present thrust reading the cast is one inside the counter range, and
    no lower stick gives more thrust. A reading below the base is not cast. -/
def FollowsThrottle (undefined : ℚ → UInt16) (calibration : Calibration) (rcComm : RcComm) (rc : Rc) :
    Prop :=
  (calibration.THRUST_BASE ≤ reading rc rcComm.thrustID →
    0 ≤ thrustNumber calibration (reading rc rcComm.thrustID) ∧
      thrustNumber calibration (reading rc rcComm.thrustID) ≤ 65535) ∧
  ∀ lower : Rc, rc_get lower rcComm.yawID ≠ 0 → rc_get lower rcComm.thrustID ≠ 0 →
    rc_get lower rcComm.thrustID ≤ rc_get rc rcComm.thrustID →
      (rcComm_GetThrust undefined calibration lower rcComm).1 ≤
        (rcComm_GetThrust undefined calibration rc rcComm).1

theorem uint16_max_cast : ((UINT16_MAX.toNat : ℕ) : ℚ) = 65535 := by
  have htoNat : UINT16_MAX.toNat = 65535 := rfl
  rw [htoNat]
  norm_num

theorem thrustNumber_mono (calibration : Calibration) {low high : ℚ} (hreading : low ≤ high) :
    thrustNumber calibration low ≤ thrustNumber calibration high := by
  have hpercent := getPercent_mono calibration.thrust_min_lt_base calibration.thrust_base_lt_max hreading
  exact mul_le_mul_of_nonneg_right hpercent (Nat.cast_nonneg _)

theorem thrustNumber_base (calibration : Calibration) :
    thrustNumber calibration calibration.THRUST_BASE = 0 := by
  rw [thrustNumber, getPercent_of_le le_rfl]
  simp

theorem thrustNumber_max (calibration : Calibration) :
    thrustNumber calibration calibration.THRUST_MAX = 65535 := by
  rw [thrustNumber, getPercent_max calibration.thrust_base_lt_max, uint16_max_cast, one_mul]

/-- Behind the calibrated end stop the number leaves the counter range. -/
theorem thrustNumber_gt {calibration : Calibration} {t : ℚ} (ht : calibration.THRUST_MAX < t) :
    65535 < thrustNumber calibration t := by
  have hpercent := one_lt_getPercent calibration.thrust_base_lt_max ht calibration.THRUST_MIN
  rw [thrustNumber, uint16_max_cast]
  linarith

theorem not_lost {rc : Rc} {rcComm : RcComm} (hyaw : rc_get rc rcComm.yawID ≠ 0)
    (hthrust : rc_get rc rcComm.thrustID ≠ 0) :
    ¬ (reading rc rcComm.thrustID = 0 ∨ reading rc rcComm.yawID = 0) := by
  simp [hyaw, hthrust]

/-- Up to the calibrated end stop a higher stick gives no less thrust. -/
theorem rcComm_GetThrust_mono (undefined : ℚ → UInt16) {calibration : Calibration} {rcComm : RcComm}
    (hunlocked : rcComm.thrustLocked = false) {lower rc : Rc} (hlowerYaw : rc_get lower rcComm.yawID ≠ 0)
    (hlowerThrust : rc_get lower rcComm.thrustID ≠ 0) (hyaw : rc_get rc rcComm.yawID ≠ 0)
    (hthrust : rc_get rc rcComm.thrustID ≠ 0)
    (hreading : reading lower rcComm.thrustID ≤ reading rc rcComm.thrustID)
    (hmax : reading rc rcComm.thrustID ≤ calibration.THRUST_MAX) :
    (rcComm_GetThrust undefined calibration lower rcComm).1 ≤
      (rcComm_GetThrust undefined calibration rc rcComm).1 := by
  have hlower := not_lost hlowerYaw hlowerThrust
  have hupper := not_lost hyaw hthrust
  unfold rcComm_GetThrust
  by_cases hbelow : reading lower rcComm.thrustID < calibration.THRUST_BASE
  · rw [thrustOfReadings_of_lt_base hlower hbelow]
    exact UInt16.le_iff_toNat_le.mpr (Nat.zero_le _)
  · have habove : ¬ reading rc rcComm.thrustID < calibration.THRUST_BASE := by linarith
    rw [thrustOfReadings_of_unlocked hlower hbelow hunlocked,
      thrustOfReadings_of_unlocked hupper habove hunlocked]
    apply toUInt16_mono
    · calc (0 : ℚ) = thrustNumber calibration calibration.THRUST_BASE := (thrustNumber_base calibration).symm
        _ ≤ thrustNumber calibration (reading lower rcComm.thrustID) :=
          thrustNumber_mono calibration (by linarith)
    · exact thrustNumber_mono calibration hreading
    · calc thrustNumber calibration (reading rc rcComm.thrustID)
        _ ≤ thrustNumber calibration calibration.THRUST_MAX := thrustNumber_mono calibration hmax
        _ = 65535 := thrustNumber_max calibration

/-- With an unlocked stick and both channels valid, the thrust follows the stick
    exactly for the readings up to the calibrated end stop. -/
theorem followsThrottle_iff (undefined : ℚ → UInt16) (calibration : Calibration) {rcComm : RcComm}
    (hunlocked : rcComm.thrustLocked = false) {rc : Rc} (hyaw : rc_get rc rcComm.yawID ≠ 0)
    (hthrust : rc_get rc rcComm.thrustID ≠ 0) :
    FollowsThrottle undefined calibration rcComm rc ↔
      reading rc rcComm.thrustID ≤ calibration.THRUST_MAX := by
  constructor
  · rintro ⟨hrange, _⟩
    by_contra hmax
    have hmax : calibration.THRUST_MAX < reading rc rcComm.thrustID := by linarith
    have hbase := calibration.thrust_base_lt_max
    have hbound := (hrange (by linarith)).2
    exact absurd (thrustNumber_gt hmax) (by linarith)
  · intro hmax
    refine ⟨?_, ?_⟩
    · intro hbase
      have hlow := thrustNumber_mono calibration hbase
      have hhigh := thrustNumber_mono calibration hmax
      rw [thrustNumber_base] at hlow
      rw [thrustNumber_max] at hhigh
      exact ⟨hlow, hhigh⟩
    · intro lower hlowerYaw hlowerThrust hreading
      have hcast : reading lower rcComm.thrustID ≤ reading rc rcComm.thrustID :=
        Nat.cast_le.mpr (UInt32.le_iff_toNat_le.mp hreading)
      exact rcComm_GetThrust_mono undefined hunlocked hlowerYaw hlowerThrust hyaw hthrust hcast hmax

theorem followsThrottle_iff_full_throttle :
    FollowsThrottle (fun _ => 0) uliRc { rcComm with thrustLocked := false } (rcReading 1895) ↔
      (reading (rcReading 1895) 3 ≤ 1895) :=
  followsThrottle_iff (fun _ => 0) uliRc rfl (by decide) (by decide)

/-- One tick behind the end stop the number no longer fits the counter. -/
theorem not_followsThrottle_behind_end_stop :
    ¬ FollowsThrottle (fun _ => 0) uliRc { rcComm with thrustLocked := false } (rcReading 1896) := by
  rintro ⟨hrange, _⟩
  have hvalue : (1896 : UInt32).toNat = 1896 := rfl
  have hreading : reading (rcReading 1896) 3 = 1896 := by
    rw [reading_rcReading, hvalue]
    norm_num
  have hbound : thrustNumber uliRc (reading (rcReading 1896) 3) ≤ 65535 :=
    (hrange (by norm_num [rcComm, hreading, uliRc])).2
  rw [hreading] at hbound
  have hmax : uliRc.THRUST_MAX < 1896 := by norm_num [uliRc]
  exact absurd (thrustNumber_gt hmax) (by linarith)

end copter.rc_commander
