import CopterOS.RcCommander

open copter.commander copter.remote_control

namespace copter.rc_commander

inductive Axis where
  | roll
  | pitch
  | yaw
  deriving DecidableEq

/-- A calibration with the positions of the two sticks whose constants are never
    used. -/
structure Sticks extends Calibration where
  PITCH_BASE : ℚ
  PITCH_MIN : ℚ
  PITCH_MAX : ℚ
  YAW_BASE : ℚ
  YAW_MIN : ℚ
  YAW_MAX : ℚ

/-- The two builds of the module. -/
inductive Build where
  | davidRc
  | uliRc
  deriving DecidableEq

def Build.sticks : Build → Sticks
  | .davidRc =>
    { copter.rc_commander.davidRc with
      PITCH_BASE := 1494, PITCH_MIN := 1093, PITCH_MAX := 1896
      YAW_BASE := 1494, YAW_MIN := 1135, YAW_MAX := 1836 }
  | .uliRc =>
    { copter.rc_commander.uliRc with
      PITCH_BASE := 1497, PITCH_MIN := 1094, PITCH_MAX := 1895
      YAW_BASE := 1485, YAW_MIN := 1094, YAW_MAX := 1895 }

/-- The calibrated positions of one stick. -/
structure Stops where
  base : ℚ
  min : ℚ
  max : ℚ

def Sticks.stops (sticks : Sticks) : Axis → Stops
  | .roll => ⟨sticks.ROLL_BASE, sticks.ROLL_MIN, sticks.ROLL_MAX⟩
  | .pitch => ⟨sticks.PITCH_BASE, sticks.PITCH_MIN, sticks.PITCH_MAX⟩
  | .yaw => ⟨sticks.YAW_BASE, sticks.YAW_MIN, sticks.YAW_MAX⟩

def Axis.eulerMax : Axis → ℚ
  | .roll => EULER_ROLL_MAX
  | .pitch => EULER_PITCH_MAX
  | .yaw => EULER_YAW_MAX

def Axis.deadBand : Axis → ℚ
  | .roll => MIN_RP
  | .pitch => MIN_RP
  | .yaw => MIN_Y

def RcComm.channel (rcComm : RcComm) : Axis → Fin RC_MAX_CHANNELS
  | .roll => rcComm.rollID
  | .pitch => rcComm.pitchID
  | .yaw => rcComm.yawID

/-- The set point of one axis. -/
def setpoint (sticks : Sticks) (rcComm : RcComm) (axis : Axis) (rc : Rc) : ℚ :=
  match axis with
  | .roll => (rcComm_GetRPY sticks.toCalibration rc rcComm).roll
  | .pitch => (rcComm_GetRPY sticks.toCalibration rc rcComm).pitch
  | .yaw => (rcComm_GetRPY sticks.toCalibration rc rcComm).yaw

/-- All three sticks have a reading, and that of the axis lies between its own
    end stops. -/
def Readable (sticks : Sticks) (rcComm : RcComm) (axis : Axis) (rc : Rc) : Prop :=
  (∀ other, rc_get rc (rcComm.channel other) ≠ 0) ∧
    (sticks.stops axis).min ≤ reading rc (rcComm.channel axis) ∧
    reading rc (rcComm.channel axis) ≤ (sticks.stops axis).max

/-- The axis follows its own calibration for all readings. -/
structure Follows (sticks : Sticks) (rcComm : RcComm) (axis : Axis) : Prop where
  /-- Neither another stick nor another stick's constants matter. -/
  own : ∀ other rc rc', Readable sticks rcComm axis rc → Readable other rcComm axis rc' →
    other.stops axis = sticks.stops axis →
      reading rc' (rcComm.channel axis) = reading rc (rcComm.channel axis) →
        setpoint other rcComm axis rc' = setpoint sticks rcComm axis rc
  bounded : ∀ rc, Readable sticks rcComm axis rc →
    -axis.eulerMax ≤ setpoint sticks rcComm axis rc ∧ setpoint sticks rcComm axis rc ≤ axis.eulerMax
  monotone : ∀ rc rc', Readable sticks rcComm axis rc → Readable sticks rcComm axis rc' →
    reading rc (rcComm.channel axis) ≤ reading rc' (rcComm.channel axis) →
      setpoint sticks rcComm axis rc' ≤ setpoint sticks rcComm axis rc
  centre : ∀ rc, Readable sticks rcComm axis rc →
    (setpoint sticks rcComm axis rc = 0 ↔
      |getPercent (reading rc (rcComm.channel axis)) (sticks.stops axis).base (sticks.stops axis).min
        (sticks.stops axis).max| ≤ axis.deadBand)
  atMin : ∀ rc, Readable sticks rcComm axis rc →
    reading rc (rcComm.channel axis) = (sticks.stops axis).min →
      setpoint sticks rcComm axis rc = axis.eulerMax
  atMax : ∀ rc, Readable sticks rcComm axis rc →
    reading rc (rcComm.channel axis) = (sticks.stops axis).max →
      setpoint sticks rcComm axis rc = -axis.eulerMax

/-- Every set point comes from the axis's reading and the constants of the roll
    stick. -/
theorem setpoint_eq {sticks : Sticks} {rcComm : RcComm} {axis : Axis} {rc : Rc}
    (hreadable : Readable sticks rcComm axis rc) :
    setpoint sticks rcComm axis rc =
      deadband (getPercent (reading rc (rcComm.channel axis)) sticks.ROLL_BASE sticks.ROLL_MIN
        sticks.ROLL_MAX * -1) axis.deadBand axis.eulerMax := by
  obtain ⟨hvalid, _⟩ := hreadable
  have hroll : rc_get rc rcComm.rollID ≠ 0 := hvalid .roll
  have hpitch : rc_get rc rcComm.pitchID ≠ 0 := hvalid .pitch
  have hyaw : rc_get rc rcComm.yawID ≠ 0 := hvalid .yaw
  cases axis <;>
    simp [setpoint, rcComm_GetRPY, hroll, hpitch, hyaw, RcComm.channel, Axis.deadBand, Axis.eulerMax]

theorem deadBand_nonneg (axis : Axis) : 0 ≤ axis.deadBand := by
  cases axis <;> norm_num [Axis.deadBand, MIN_RP, MIN_Y]

theorem deadBand_lt_one (axis : Axis) : axis.deadBand < 1 := by
  cases axis <;> norm_num [Axis.deadBand, MIN_RP, MIN_Y]

theorem eulerMax_pos (axis : Axis) : 0 < axis.eulerMax := by
  cases axis <;> norm_num [Axis.eulerMax, EULER_ROLL_MAX, EULER_PITCH_MAX, EULER_YAW_MAX]

theorem deadband_of_outside {percent min : ℚ} (houtside : min < |percent|) (max : ℚ) :
    deadband percent min max = percent * max := by
  have hsides : percent < -min ∨ percent > min := by
    rcases lt_abs.mp houtside with hpos | hneg
    · exact .inr hpos
    · exact .inl (by linarith)
  rw [deadband, if_pos hsides]

theorem deadband_of_inside {percent min : ℚ} (hinside : |percent| ≤ min) (max : ℚ) :
    deadband percent min max = 0 := by
  obtain ⟨hlow, hhigh⟩ := abs_le.mp hinside
  have hsides : ¬ (percent < -min ∨ percent > min) := by
    rintro (hneg | hpos) <;> linarith
  rw [deadband, if_neg hsides]

/-- The scaled percentage vanishes exactly inside the dead band. -/
theorem deadband_eq_zero_iff {percent min max : ℚ} (hmin : 0 ≤ min) (hmax : 0 < max) :
    deadband percent min max = 0 ↔ |percent| ≤ min := by
  constructor
  · intro hzero
    by_contra houtside
    have houtside : min < |percent| := by linarith
    rw [deadband_of_outside houtside] at hzero
    have hpercent : percent = 0 := (mul_eq_zero.mp hzero).resolve_right hmax.ne'
    rw [hpercent, abs_zero] at houtside
    linarith
  · intro hinside
    exact deadband_of_inside hinside max

theorem deadband_bounded {percent min max : ℚ} (hmax : 0 < max) (hpercent : |percent| ≤ 1) :
    -max ≤ deadband percent min max ∧ deadband percent min max ≤ max := by
  obtain ⟨hlow, hhigh⟩ := abs_le.mp hpercent
  rcases le_or_gt |percent| min with hinside | houtside
  · rw [deadband_of_inside hinside]
    exact ⟨by linarith, hmax.le⟩
  · rw [deadband_of_outside houtside]
    exact ⟨by nlinarith, by nlinarith⟩

/-- The dead band is flat between two rising sides. -/
theorem deadband_mono {min max low high : ℚ} (hmin : 0 ≤ min) (hmax : 0 < max) (hpercent : low ≤ high) :
    deadband low min max ≤ deadband high min max := by
  have hsides : low * max ≤ high * max := mul_le_mul_of_nonneg_right hpercent hmax.le
  rcases le_or_gt |low| min with hlow | hlow
  · rw [deadband_of_inside hlow]
    rcases le_or_gt |high| min with hhigh | hhigh
    · rw [deadband_of_inside hhigh]
    · rw [deadband_of_outside hhigh]
      have hbound := (abs_le.mp hlow).1
      have hpos : 0 ≤ high := by
        rcases lt_abs.mp hhigh with hpos | hneg <;> linarith
      exact mul_nonneg hpos hmax.le
  · rw [deadband_of_outside hlow]
    rcases le_or_gt |high| min with hhigh | hhigh
    · rw [deadband_of_inside hhigh]
      have hbound := (abs_le.mp hhigh).2
      have hneg : low ≤ 0 := by
        rcases lt_abs.mp hlow with hpos | hneg <;> linarith
      exact mul_nonpos_of_nonpos_of_nonneg hneg hmax.le
    · rw [deadband_of_outside hhigh]
      exact hsides

/-- Between its end stops the percentage of the roll stick is at most a full
    deflection. -/
theorem abs_getPercent_le {sticks : Sticks} {rcComm : RcComm} {rc : Rc}
    (hreadable : Readable sticks rcComm .roll rc) :
    |getPercent (reading rc (rcComm.channel .roll)) sticks.ROLL_BASE sticks.ROLL_MIN sticks.ROLL_MAX| ≤ 1 := by
  obtain ⟨_, hlow, hhigh⟩ := hreadable
  have hmin := getPercent_mono sticks.roll_min_lt_base sticks.roll_base_lt_max hlow
  have hmax := getPercent_mono sticks.roll_min_lt_base sticks.roll_base_lt_max hhigh
  have hbottom : getPercent sticks.ROLL_MIN sticks.ROLL_BASE sticks.ROLL_MIN sticks.ROLL_MAX = -1 :=
    getPercent_min sticks.roll_min_lt_base _
  have htop : getPercent sticks.ROLL_MAX sticks.ROLL_BASE sticks.ROLL_MIN sticks.ROLL_MAX = 1 :=
    getPercent_max sticks.roll_base_lt_max _
  rw [show (sticks.stops .roll).min = sticks.ROLL_MIN from rfl, hbottom] at hmin
  rw [show (sticks.stops .roll).max = sticks.ROLL_MAX from rfl, htop] at hmax
  exact abs_le.mpr ⟨hmin, hmax⟩

theorem follows_roll (sticks : Sticks) (rcComm : RcComm) : Follows sticks rcComm .roll where
  own := by
    intro other rc rc' hrc hrc' hstops hreading
    obtain ⟨hbase, hmin, hmax⟩ : other.ROLL_BASE = sticks.ROLL_BASE ∧ other.ROLL_MIN = sticks.ROLL_MIN ∧
        other.ROLL_MAX = sticks.ROLL_MAX := by simpa [Sticks.stops] using hstops
    rw [setpoint_eq hrc, setpoint_eq hrc', hreading, hbase, hmin, hmax]
  bounded := by
    intro rc hrc
    rw [setpoint_eq hrc]
    apply deadband_bounded (eulerMax_pos .roll)
    rw [mul_neg_one, abs_neg]
    exact abs_getPercent_le hrc
  monotone := by
    intro rc rc' hrc hrc' hreading
    have hpercent := getPercent_mono sticks.roll_min_lt_base sticks.roll_base_lt_max hreading
    rw [setpoint_eq hrc, setpoint_eq hrc']
    exact deadband_mono (deadBand_nonneg .roll) (eulerMax_pos .roll) (by linarith)
  centre := by
    intro rc hrc
    rw [setpoint_eq hrc, deadband_eq_zero_iff (deadBand_nonneg .roll) (eulerMax_pos .roll), mul_neg_one,
      abs_neg]
    rfl
  atMin := by
    intro rc hrc hreading
    have hpercent := getPercent_min sticks.roll_min_lt_base sticks.ROLL_MAX
    rw [setpoint_eq hrc, hreading, show (sticks.stops .roll).min = sticks.ROLL_MIN from rfl, hpercent,
      deadband_of_outside (by simpa using deadBand_lt_one .roll)]
    ring
  atMax := by
    intro rc hrc hreading
    have hpercent := getPercent_max sticks.roll_base_lt_max sticks.ROLL_MIN
    rw [setpoint_eq hrc, hreading, show (sticks.stops .roll).max = sticks.ROLL_MAX from rfl, hpercent,
      deadband_of_outside (by simpa using deadBand_lt_one .roll)]
    ring

/-- Outside the dead band the percentage can be read off the set point. -/
theorem percent_of_deadband {axis : Axis} {percent sign : ℚ} (hsign : sign ≠ 0)
    (hset : deadband percent axis.deadBand axis.eulerMax = sign * axis.eulerMax) : percent = sign := by
  have hpos := (eulerMax_pos axis).ne'
  have hne : deadband percent axis.deadBand axis.eulerMax ≠ 0 := by
    rw [hset]
    exact mul_ne_zero hsign hpos
  rw [ne_eq, deadband_eq_zero_iff (deadBand_nonneg axis) (eulerMax_pos axis), not_le] at hne
  rw [deadband_of_outside hne] at hset
  exact mul_right_cancel₀ hpos hset

/-- Any position between the end stops can be read. -/
theorem exists_readable {sticks : Sticks} {axis : Axis} {n : ℕ} (hpos : 0 < n) (hlt : n < 2 ^ 32)
    (hlow : (sticks.stops axis).min ≤ n) (hhigh : n ≤ (sticks.stops axis).max) (rcComm : RcComm) :
    ∃ rc, Readable sticks rcComm axis rc ∧ reading rc (rcComm.channel axis) = n := by
  have htoNat : (UInt32.ofNat n).toNat = n := UInt32.toNat_ofNat_of_lt' hlt
  have hread : ∀ channel, reading (rcReading (UInt32.ofNat n)) channel = n := by
    intro channel
    rw [reading_rcReading, htoNat]
  refine ⟨rcReading (UInt32.ofNat n), ⟨?_, by rwa [hread], by rwa [hread]⟩, hread _⟩
  intro other hzero
  rw [← reading_eq_zero_iff, hread, Nat.cast_eq_zero] at hzero
  omega

/-- An axis that follows its calibration has its lower end stop where the roll
    stick has its own. -/
theorem Follows.getPercent_min {sticks : Sticks} {rcComm : RcComm} {axis : Axis}
    (hfollows : Follows sticks rcComm axis) {n : ℕ} (hpos : 0 < n) (hlt : n < 2 ^ 32)
    (hstop : (sticks.stops axis).min = n) (hrange : (n : ℚ) ≤ (sticks.stops axis).max) :
    getPercent n sticks.ROLL_BASE sticks.ROLL_MIN sticks.ROLL_MAX = -1 := by
  obtain ⟨rc, hreadable, hreading⟩ := exists_readable hpos hlt hstop.le hrange rcComm
  have hset := hfollows.atMin rc hreadable (hreading.trans hstop.symm)
  rw [setpoint_eq hreadable, hreading] at hset
  have hpercent := percent_of_deadband one_ne_zero (hset.trans (one_mul _).symm)
  linarith

theorem Follows.getPercent_max {sticks : Sticks} {rcComm : RcComm} {axis : Axis}
    (hfollows : Follows sticks rcComm axis) {n : ℕ} (hpos : 0 < n) (hlt : n < 2 ^ 32)
    (hstop : (sticks.stops axis).max = n) (hrange : (sticks.stops axis).min ≤ n) :
    getPercent n sticks.ROLL_BASE sticks.ROLL_MIN sticks.ROLL_MAX = 1 := by
  obtain ⟨rc, hreadable, hreading⟩ := exists_readable hpos hlt hrange hstop.ge rcComm
  have hset := hfollows.atMax rc hreadable (hreading.trans hstop.symm)
  rw [setpoint_eq hreadable, hreading] at hset
  have hsign : (-1 : ℚ) ≠ 0 := by norm_num
  have hpercent := percent_of_deadband hsign (hset.trans (neg_one_mul _).symm)
  linarith

/-- The pitch stick has one end stop elsewhere than the roll stick in both
    builds. -/
theorem not_follows_pitch (build : Build) (rcComm : RcComm) : ¬ Follows build.sticks rcComm .pitch := by
  intro hfollows
  cases build with
  | davidRc =>
    have hstop : (Build.davidRc.sticks.stops .pitch).max = (1896 : ℕ) := rfl
    have hrange : (Build.davidRc.sticks.stops .pitch).min ≤ (1896 : ℕ) := by
      norm_num [Build.sticks, Sticks.stops]
    have hpercent := hfollows.getPercent_max (by norm_num) (by norm_num) hstop hrange
    norm_num [Build.sticks, davidRc, getPercent] at hpercent
  | uliRc =>
    have hstop : (Build.uliRc.sticks.stops .pitch).min = (1094 : ℕ) := rfl
    have hrange : (1094 : ℕ) ≤ (Build.uliRc.sticks.stops .pitch).max := by
      norm_num [Build.sticks, Sticks.stops]
    have hpercent := hfollows.getPercent_min (by norm_num) (by norm_num) hstop hrange
    norm_num [Build.sticks, uliRc, getPercent] at hpercent

theorem not_follows_yaw (build : Build) (rcComm : RcComm) : ¬ Follows build.sticks rcComm .yaw := by
  intro hfollows
  cases build with
  | davidRc =>
    have hstop : (Build.davidRc.sticks.stops .yaw).min = (1135 : ℕ) := rfl
    have hrange : (1135 : ℕ) ≤ (Build.davidRc.sticks.stops .yaw).max := by
      norm_num [Build.sticks, Sticks.stops]
    have hpercent := hfollows.getPercent_min (by norm_num) (by norm_num) hstop hrange
    norm_num [Build.sticks, davidRc, getPercent] at hpercent
  | uliRc =>
    have hstop : (Build.uliRc.sticks.stops .yaw).min = (1094 : ℕ) := rfl
    have hrange : (1094 : ℕ) ≤ (Build.uliRc.sticks.stops .yaw).max := by
      norm_num [Build.sticks, Sticks.stops]
    have hpercent := hfollows.getPercent_min (by norm_num) (by norm_num) hstop hrange
    norm_num [Build.sticks, uliRc, getPercent] at hpercent

/-- In both builds the roll axis alone follows its own calibration. -/
theorem follows_iff (build : Build) (rcComm : RcComm) (axis : Axis) :
    Follows build.sticks rcComm axis ↔ axis = .roll := by
  cases axis with
  | roll => simp [follows_roll]
  | pitch => simp [not_follows_pitch]
  | yaw => simp [not_follows_yaw]

/-- A pitch stick at its lower end stop asks for more than the largest angle. -/
theorem not_follows_uliRc_pitch :
    ¬ Follows Build.uliRc.sticks rcComm .pitch ∧
      EULER_PITCH_MAX < setpoint Build.uliRc.sticks rcComm .pitch (rcReading 1094) := by
  refine ⟨not_follows_pitch .uliRc rcComm, ?_⟩
  have hvalue : (1094 : UInt32).toNat = 1094 := rfl
  have hreadable : Readable Build.uliRc.sticks rcComm .pitch (rcReading 1094) := by
    refine ⟨fun other => ?_, ?_, ?_⟩
    · cases other <;> decide
    · norm_num [hvalue, Build.sticks, Sticks.stops]
    · norm_num [hvalue, Build.sticks, Sticks.stops]
  rw [setpoint_eq hreadable, reading_rcReading, hvalue]
  norm_num [Build.sticks, uliRc, getPercent, deadband, Axis.deadBand, Axis.eulerMax, MIN_RP,
    EULER_PITCH_MAX]

end copter.rc_commander
