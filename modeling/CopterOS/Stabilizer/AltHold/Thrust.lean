import CopterOS.Stabilizer.AltHold

open number transition copter.pid

namespace copter.stabilizer

theorem neg_finite (a : ℚ) : -Flt.finite a = .finite (-a) := rfl

theorem sub_finite (a b : ℚ) : Flt.finite a - .finite b = .finite (a - b) := congrArg Flt.finite (sub_eq_add_neg a b).symm

theorem zero_eq_finite : (0 : Flt) = .finite 0 := rfl

/-- A weighted mean stays inside the bounds of what it is made of. -/
theorem abs_mean_le {weight old new bound : ℚ} (hweight : 0 ≤ weight ∧ weight ≤ 1) (hold : |old| ≤ bound)
    (hnew : |new| ≤ bound) : |old * weight + new * (1 - weight)| ≤ bound := by
  obtain ⟨hlow, hhigh⟩ := hweight
  rw [abs_le] at hold hnew ⊢
  constructor <;> nlinarith

/-- A value outside the dead band comes closer to zero. -/
theorem deadband_finite {threshold : ℚ} (hthreshold : 0 ≤ threshold) (value : ℚ) :
    ∃ q, stabilizer.deadband (.finite value) (.finite threshold) = .finite q ∧ |q| ≤ |value| := by
  unfold stabilizer.deadband fabs
  simp only [zero_eq_finite, neg_finite, sub_finite, Flt.add_finite, gt_iff_lt, Flt.finite_lt_finite]
  by_cases hneg : value < 0
  · rw [if_pos hneg]
    split
    case isTrue => exact ⟨0, rfl, by simp⟩
    case isFalse houtside =>
      rw [Flt.finite_lt_finite, not_lt] at houtside
      rw [if_neg (not_lt.mpr hneg.le)]
      refine ⟨value + threshold, rfl, ?_⟩
      rw [abs_of_neg hneg, abs_le]
      constructor <;> linarith
  · rw [if_neg hneg]
    split
    case isTrue => exact ⟨0, rfl, by simp⟩
    case isFalse houtside =>
      rw [Flt.finite_lt_finite, not_lt] at houtside
      split
      case isTrue =>
        refine ⟨value - threshold, rfl, ?_⟩
        rw [abs_of_nonneg (not_lt.mp hneg), abs_le]
        constructor <;> linarith
      case isFalse => exact ⟨value, rfl, le_refl _⟩

theorem constrain_finite {low high : ℚ} (hrange : low ≤ high) (value : ℚ) :
    ∃ q, constrain (.finite value) (.finite low) (.finite high) = .finite q ∧ low ≤ q ∧ q ≤ high := by
  unfold constrain minOf maxOf
  simp only [gt_iff_lt, Flt.finite_lt_finite]
  by_cases hlow : value < low
  · rw [if_pos hlow, if_neg (by rw [Flt.finite_lt_finite]; exact not_lt.mpr hrange)]
    exact ⟨low, rfl, le_refl low, hrange⟩
  · rw [if_neg hlow]
    split
    case isTrue => exact ⟨high, rfl, hrange, le_refl high⟩
    case isFalse hhigh =>
      rw [Flt.finite_lt_finite] at hhigh
      exact ⟨value, rfl, not_lt.mp hlow, not_lt.mp hhigh⟩

/-- The altitudes are numbers within the given bound, the speed and the target numbers. -/
structure Estimated (bound : ℚ) (hold : AltHold) : Prop where
  asl : ∃ q, hold.asl = .finite q ∧ |q| ≤ bound
  aslLong : ∃ q, hold.aslLong = .finite q ∧ |q| ≤ bound
  vSpeed : hold.vSpeed.IsFinite
  altHoldTarget : hold.altHoldTarget.IsFinite

/-- What the controller adds to its output, after an update of the estimate. -/
structure SpeedWithin (bound : ℚ) (hold : AltHold) : Prop where
  vSpeedASL : hold.vSpeedASL.IsFinite
  vSpeedAcc : ∃ q, hold.vSpeedAcc = .finite q ∧ |q| ≤ 49 / 1000 + bound / 25

theorem Estimated.estimate {bound : ℚ} {hold : AltHold} (hestimated : Estimated bound hold) {aslRaw : ℚ}
    (haslRaw : |aslRaw| ≤ bound) :
    Estimated bound (estimate (.finite aslRaw) hold) ∧ SpeedWithin bound (estimate (.finite aslRaw) hold) := by
  obtain ⟨⟨asl, hasl, haslLe⟩, ⟨aslLong, haslLong, haslLongLe⟩, ⟨vSpeed, hvSpeed⟩, htarget⟩ := hestimated
  have hshort := abs_mean_le (by norm_num [aslAlpha] : 0 ≤ aslAlpha ∧ aslAlpha ≤ 1) haslLe haslRaw
  have hlong := abs_mean_le (by norm_num [aslAlphaLong] : 0 ≤ aslAlphaLong ∧ aslAlphaLong ≤ 1) haslLongLe haslRaw
  unfold copter.stabilizer.estimate
  rw [hasl, haslLong, hvSpeed]
  simp only [Flt.mul_finite, Flt.add_finite, sub_finite]
  generalize asl * aslAlpha + aslRaw * (1 - aslAlpha) = short at hshort
  generalize aslLong * aslAlphaLong + aslRaw * (1 - aslAlphaLong) = long at hlong
  obtain ⟨band, hband, hbandLe⟩ := deadband_finite (by norm_num [vSpeedASLDeadband] : 0 ≤ vSpeedASLDeadband) (short - long)
  obtain ⟨limited, hlimited, hlow, hhigh⟩ :=
    constrain_finite (by norm_num [vSpeedLimit] : -vSpeedLimit ≤ vSpeedLimit) vSpeed
  rw [hband, hlimited]
  simp only [Flt.mul_finite, Flt.add_finite]
  have hbandBound : |band| ≤ 2 * bound := by
    have hdifference := abs_sub short long
    linarith
  refine ⟨⟨⟨_, rfl, hshort⟩, ⟨_, rfl, hlong⟩, ⟨_, rfl⟩, htarget⟩, ⟨_, rfl⟩, _, rfl, ?_⟩
  unfold vSpeedLimit vBiasAlpha at *
  rw [abs_le] at hbandBound ⊢
  constructor <;> linarith

/-- The controller has its gains and its sampling time, and its integral is limited. -/
structure ActivePid (pid : PidObject Flt) : Prop where
  kp : pid.kp = .finite altHoldKp
  ki : pid.ki = .finite altHoldKi
  kd : pid.kd = .finite altHoldKd
  dt : pid.dt = .finite ALTHOLD_UPDATE_DT
  iLimit : pid.iLimit = .finite 5000
  iLimitLow : pid.iLimitLow = .finite (-5000)
  prevError : pid.prevError.IsFinite
  integ : ∃ q, pid.integ = .finite q ∧ |q| ≤ 5000

/-- An update for an error of at most one metre: the integral contributes 900 and the
    error a half at most. -/
theorem ActivePid.pidUpdate {pid : PidObject Flt} (hpid : ActivePid pid) {error : ℚ}
    (herror : pid.error = .finite error) (hle : |error| ≤ 1) (measured : Flt) :
    (∃ output, (pidUpdate measured false pid).1 = .finite output ∧ |output| ≤ 1801 / 2) ∧
      ActivePid (pidUpdate measured false pid).2 := by
  obtain ⟨prevError, hprevError⟩ := hpid.prevError
  obtain ⟨integ, hinteg, hintegLe⟩ := hpid.integ
  have hnext : ∃ q, integrate (.finite error) pid = .finite q ∧ |q| ≤ 5000 := by
    unfold integrate
    rw [hinteg, hpid.dt, hpid.iLimit, hpid.iLimitLow]
    simp only [Flt.mul_finite, Flt.add_finite, gt_iff_lt, Flt.finite_lt_finite]
    split
    · exact ⟨5000, rfl, by norm_num⟩
    · rename_i hhigh
      split
      · exact ⟨-5000, rfl, by norm_num⟩
      · rename_i hlow
        exact ⟨_, rfl, abs_le.mpr ⟨not_lt.mp hlow, not_lt.mp hhigh⟩⟩
  obtain ⟨next, hintegrate, hnextLe⟩ := hnext
  have hdt : ALTHOLD_UPDATE_DT ≠ 0 := by norm_num [ALTHOLD_UPDATE_DT]
  unfold copter.pid.pidUpdate
  simp only [Bool.false_eq_true, if_false, herror, hintegrate, hprevError, hpid.kp, hpid.ki, hpid.kd, hpid.dt,
    sub_finite, Flt.div_finite hdt, Flt.mul_finite, Flt.add_finite]
  refine ⟨⟨_, rfl, ?_⟩, ⟨rfl, rfl, rfl, rfl, hpid.iLimit, hpid.iLimitLow, ⟨_, rfl⟩, _, rfl, hnextLe⟩⟩
  unfold altHoldKp altHoldKi altHoldKd
  rw [abs_le] at hle hnextLe ⊢
  constructor <;> linarith

/-- Before the first activation the controller has neither gains nor a sampling time. -/
structure DormantPid (pid : PidObject Flt) : Prop where
  kp : pid.kp = .finite 0
  ki : pid.ki = .finite 0
  kd : pid.kd = .finite 0
  dt : pid.dt = .finite 0
  iLimit : pid.iLimit = .finite 0
  iLimitLow : pid.iLimitLow = .finite 0
  prevError : pid.prevError.IsFinite
  integ : pid.integ = .finite 0

/-- The derivative divides by a sampling time of zero, so the output is no number. -/
theorem DormantPid.pidUpdate {pid : PidObject Flt} (hpid : DormantPid pid) (herror : pid.error.IsFinite)
    (measured : Flt) : (pidUpdate measured false pid).1 = .nan ∧ DormantPid (pidUpdate measured false pid).2 := by
  obtain ⟨prevError, hprevError⟩ := hpid.prevError
  obtain ⟨error, herror⟩ := herror
  have hintegrate : integrate (.finite error) pid = .finite 0 := by
    unfold integrate
    rw [hpid.integ, hpid.dt, hpid.iLimit, hpid.iLimitLow]
    simp
  have hderiv : Flt.finite 0 * ((Flt.finite error - .finite prevError) / .finite 0) = .nan := by
    rw [sub_finite]
    change Flt.mul _ (Flt.div _ _) = _
    by_cases hsame : error - prevError = 0
    · simp [Flt.div, Flt.mul, hsame]
    · simp [Flt.div, Flt.mul, hsame]
  unfold copter.pid.pidUpdate
  simp only [Bool.false_eq_true, if_false, herror, hintegrate, hprevError, hpid.kp, hpid.ki, hpid.kd, hpid.dt, hderiv]
  exact ⟨rfl, rfl, rfl, rfl, rfl, hpid.iLimit, hpid.iLimitLow, ⟨_, rfl⟩, rfl⟩

theorem activate_active {hold : AltHold} (hinteg : ∃ q, hold.altHoldPID.integ = .finite q ∧ |q| ≤ 5000) :
    (∃ output, (activate hold).altHoldPIDVal = .finite output ∧ |output| ≤ 1801 / 2) ∧
      ActivePid (activate hold).altHoldPID := by
  have hstart : ActivePid { pidInit hold.asl (.finite altHoldKp) (.finite altHoldKi) (.finite altHoldKd)
      (.finite ALTHOLD_UPDATE_DT) hold.altHoldPID with integ := hold.altHoldPID.integ } :=
    ⟨rfl, rfl, rfl, rfl, rfl, rfl, ⟨0, rfl⟩, hinteg⟩
  exact hstart.pidUpdate zero_eq_finite (by norm_num) hold.asl

/-- The error of a hold, limited to a metre. -/
theorem follow_error {hold : AltHold} {bound : ℚ} (hestimated : Estimated bound hold) (altHoldChange : ℚ) :
    ∃ target error, hold.altHoldTarget + .finite altHoldChange / .finite altHoldChange_SENS = .finite target ∧
      constrain (stabilizer.deadband (hold.asl - .finite target) (.finite errDeadband)) (.finite (-altHoldErrMax))
        (.finite altHoldErrMax) = .finite error ∧ |error| ≤ 1 := by
  obtain ⟨⟨asl, hasl, _⟩, _, _, target, htarget⟩ := hestimated
  have hsens : altHoldChange_SENS ≠ 0 := by norm_num [altHoldChange_SENS]
  rw [htarget, Flt.div_finite hsens, Flt.add_finite, hasl]
  obtain ⟨band, hband, _⟩ := deadband_finite (le_refl errDeadband) (asl - (target + altHoldChange / altHoldChange_SENS))
  obtain ⟨error, herror, hlow, hhigh⟩ :=
    constrain_finite (by norm_num [altHoldErrMax] : -altHoldErrMax ≤ altHoldErrMax) band
  refine ⟨_, error, rfl, ?_, abs_le.mpr ⟨hlow, hhigh⟩⟩
  rw [sub_finite, hband, herror]

/-- Altitudes below which nothing overflows, in metres. -/
def aslLimit : ℚ := 85000

/-- What the smoothed output is limited to by that altitude. -/
def outputLimit : ℚ := 48 * (49 / 1000 + aslLimit / 25) + 1801 / 2

theorem altHoldThrust_finite {value : ℚ} (hvalue : |value| ≤ outputLimit) :
    ∃ thrust, altHoldThrust (.finite value) = some thrust ∧ thrust.toNat ≤ 60000 := by
  have hscaled : |value * pidAslFac| ≤ 2147440000 := by
    have hfactor : |pidAslFac| = 13000 := by norm_num [pidAslFac]
    rw [abs_mul, hfactor]
    exact (mul_le_mul_of_nonneg_right hvalue (by norm_num)).trans (by norm_num [outputLimit, aslLimit])
  obtain ⟨hlow, hhigh⟩ := abs_le.mp hscaled
  have hchange := truncate_mem_of_mem (value * pidAslFac) 2147440000 (by exact_mod_cast hlow) (by exact_mod_cast hhigh)
  unfold altHoldThrust
  rw [Flt.mul_finite]
  change ∃ thrust, ((some (truncate (value * pidAslFac))).bind int32).bind _ = some thrust ∧ _
  generalize truncate (value * pidAslFac) = change at hchange
  rw [Option.bind_some, int32_eq_some (by omega) (by omega), Option.bind_some]
  unfold altHoldBaseThrust
  rw [int32_eq_some (by omega) (by omega)]
  refine ⟨_, rfl, ?_⟩
  have hclamped : (max altHoldMinThrust (min altHoldMaxThrust (limitThrust (43000 + change)).toNat)).toNat ≤ 60000 := by
    unfold altHoldMinThrust altHoldMaxThrust
    omega
  exact (Nat.mod_le _ _).trans hclamped

/-- The hold is active, and its output limited. -/
structure Holding (hold : AltHold) : Prop where
  pid : ActivePid hold.altHoldPID
  value : ∃ q, hold.altHoldPIDVal = .finite q ∧ |q| ≤ outputLimit

theorem follow_holding {hold : AltHold} (hholding : Holding hold) (hestimated : Estimated aslLimit hold)
    (hspeed : SpeedWithin aslLimit hold) (altHoldChange : ℚ) :
    Holding (follow (.finite altHoldChange) hold) ∧
      ∃ thrust, (follow (.finite altHoldChange) hold).actuatorThrust = some thrust ∧ thrust.toNat ≤ 60000 := by
  obtain ⟨hpid, value, hvalue, hvalueLe⟩ := hholding
  obtain ⟨⟨vSpeedASL, hvSpeedASL⟩, vSpeedAcc, hvSpeedAcc, hvSpeedAccLe⟩ := hspeed
  obtain ⟨target, error, htarget, herror, herrorLe⟩ := follow_error hestimated altHoldChange
  have hset : ActivePid (pidSetError (-Flt.finite error) (pidSetDesired (.finite target) hold.altHoldPID)) :=
    ⟨hpid.kp, hpid.ki, hpid.kd, hpid.dt, hpid.iLimit, hpid.iLimitLow, hpid.prevError, hpid.integ⟩
  have hnegated : |-error| ≤ 1 := by rwa [abs_neg]
  obtain ⟨⟨output, houtput, houtputLe⟩, hnext⟩ := hset.pidUpdate (neg_finite error) hnegated hold.asl
  have hadded : |vSpeedAcc * vSpeedAccFac + vSpeedASL * vSpeedASLFac + output| ≤ outputLimit := by
    unfold vSpeedAccFac vSpeedASLFac outputLimit
    rw [abs_le] at hvSpeedAccLe houtputLe ⊢
    constructor <;> linarith
  have hmean := abs_mean_le (by norm_num [pidAlpha] : 0 ≤ pidAlpha ∧ pidAlpha ≤ 1) hvalueLe hadded
  obtain ⟨thrust, hthrust, hthrustLe⟩ := altHoldThrust_finite hmean
  have hnew : (follow (.finite altHoldChange) hold).altHoldPIDVal = .finite (value * pidAlpha +
      (vSpeedAcc * vSpeedAccFac + vSpeedASL * vSpeedASLFac + output) * (1 - pidAlpha)) := by
    unfold follow
    simp only [htarget, herror, houtput, hvalue, hvSpeedASL, hvSpeedAcc, Flt.mul_finite, Flt.add_finite]
    congr 1
    ring
  have hpidNext : ActivePid (follow (.finite altHoldChange) hold).altHoldPID := by
    unfold follow
    simp only [htarget, herror]
    exact hnext
  refine ⟨⟨hpidNext, _, hnew, hmean⟩, thrust, ?_, hthrustLe⟩
  rw [← hthrust, ← hnew]
  rfl

/-- A hold that has never been activated computes with NaN. -/
theorem follow_dormant {hold : AltHold} {bound : ℚ} (hpid : DormantPid hold.altHoldPID)
    (hestimated : Estimated bound hold) (altHoldChange : ℚ) :
    DormantPid (follow (.finite altHoldChange) hold).altHoldPID ∧
      (follow (.finite altHoldChange) hold).altHoldPIDVal = .nan ∧
      (follow (.finite altHoldChange) hold).actuatorThrust = none := by
  obtain ⟨target, error, htarget, herror, _⟩ := follow_error hestimated altHoldChange
  have hset : DormantPid (pidSetError (-Flt.finite error) (pidSetDesired (.finite target) hold.altHoldPID)) :=
    ⟨hpid.kp, hpid.ki, hpid.kd, hpid.dt, hpid.iLimit, hpid.iLimitLow, hpid.prevError, hpid.integ⟩
  obtain ⟨houtput, hnext⟩ := hset.pidUpdate ⟨-error, neg_finite error⟩ hold.asl
  have hadd : ∀ a : Flt, a + .nan = .nan := fun a => by cases a <;> rfl
  have hmul : ∀ q : ℚ, .finite q * Flt.nan = .nan := fun _ => rfl
  unfold follow
  simp only [htarget, herror, houtput, hadd, hmul]
  exact ⟨hnext, trivial, rfl⟩

theorem Estimated.activate {hold : AltHold} {bound : ℚ} (hestimated : Estimated bound hold) :
    Estimated bound (activate hold) := by
  obtain ⟨hasl, haslLong, hvSpeed, _⟩ := hestimated
  obtain ⟨asl, heq, _⟩ := id hasl
  exact ⟨hasl, haslLong, hvSpeed, asl, heq⟩

theorem Estimated.follow {hold : AltHold} {bound : ℚ} (hestimated : Estimated bound hold) (altHoldChange : ℚ) :
    Estimated bound (follow (.finite altHoldChange) hold) := by
  obtain ⟨target, _, htarget, _⟩ := follow_error hestimated altHoldChange
  exact ⟨hestimated.asl, hestimated.aslLong, hestimated.vSpeed, target, htarget⟩

/-- The update has `setAltHold`. -/
def AltHoldEvent.activates : AltHoldEvent → Bool
  | .accelerate _ => false
  | .stabilizerAltHoldUpdate command _ => command.setAltHold

/-- The pilot and the accelerometer give numbers, and the barometer an altitude the hold
    is made for. -/
def AltHoldEvent.Within (bound : ℚ) : AltHoldEvent → Prop
  | .accelerate accWZ => accWZ.IsFinite
  | .stabilizerAltHoldUpdate command aslRaw =>
    command.altHoldChange.IsFinite ∧ ∃ q, aslRaw = .finite q ∧ |q| ≤ bound

/-- What holds after a run, with or without an activation in it. -/
structure Sound (activated : Bool) (hold : AltHold) : Prop where
  estimated : Estimated aslLimit hold
  holding : activated = true → Holding hold
  dormant : activated = false → DormantPid hold.altHoldPID

/-- The update up to the point where the hold follows its target. -/
theorem Sound.activate {activated : Bool} {hold : AltHold} (hsound : Sound activated hold) (setAltHold : Bool) :
    Sound (activated || setAltHold) (if setAltHold then activate hold else hold) := by
  obtain ⟨hestimated, hholding, hdormant⟩ := hsound
  cases setAltHold with
  | false =>
    rw [Bool.or_false, if_neg Bool.false_ne_true]
    exact ⟨hestimated, hholding, hdormant⟩
  | true =>
    have hinteg : ∃ q, hold.altHoldPID.integ = .finite q ∧ |q| ≤ 5000 := by
      cases activated with
      | false => exact ⟨0, (hdormant rfl).integ, by norm_num⟩
      | true => exact (hholding rfl).pid.integ
    obtain ⟨⟨output, houtput, houtputLe⟩, hpid⟩ := activate_active hinteg
    rw [Bool.or_true, if_pos rfl]
    refine ⟨hestimated.activate, fun _ => ⟨hpid, output, houtput, ?_⟩, nofun⟩
    exact houtputLe.trans (by norm_num [outputLimit, aslLimit])

theorem activate_speed {hold : AltHold} {bound : ℚ} (hspeed : SpeedWithin bound hold) (setAltHold : Bool) :
    SpeedWithin bound (if setAltHold then activate hold else hold) := by
  cases setAltHold
  · exact hspeed
  · exact ⟨hspeed.vSpeedASL, hspeed.vSpeedAcc⟩

/-- The hold divides by a sampling time of zero, and has a NaN to convert. -/
structure Undefined (hold : AltHold) : Prop where
  dt : hold.altHoldPID.dt = 0
  value : hold.altHoldPIDVal = .nan
  thrust : hold.actuatorThrust = none

/-- One update: what it leaves, and the thrust of a hold. -/
theorem Sound.update {activated : Bool} {hold : AltHold} (hsound : Sound activated hold) {command : AltHoldCommand}
    {aslRaw : Flt} (hwithin : (AltHoldEvent.stabilizerAltHoldUpdate command aslRaw).Within aslLimit) :
    Sound (activated || command.setAltHold) (stabilizerAltHoldUpdate command aslRaw hold) ∧
      (command.altHold = true →
        ((activated || command.setAltHold) = true → ∃ thrust,
          (stabilizerAltHoldUpdate command aslRaw hold).actuatorThrust = some thrust ∧ thrust.toNat ≤ 60000) ∧
        ((activated || command.setAltHold) = false →
          Undefined (stabilizerAltHoldUpdate command aslRaw hold))) := by
  obtain ⟨⟨altHoldChange, hchange⟩, aslRaw, rfl, haslRaw⟩ := hwithin
  obtain ⟨hestimated, hspeed⟩ := hsound.estimated.estimate haslRaw
  have hsoundNext : Sound activated (copter.stabilizer.estimate (.finite aslRaw) hold) :=
    ⟨hestimated, fun hactivated => ⟨(hsound.holding hactivated).pid, (hsound.holding hactivated).value⟩,
      hsound.dormant⟩
  have hactivated := hsoundNext.activate command.setAltHold
  have hspeedNext := activate_speed hspeed command.setAltHold
  unfold stabilizerAltHoldUpdate
  dsimp only
  generalize (if command.setAltHold then copter.stabilizer.activate (copter.stabilizer.estimate (.finite aslRaw) hold)
    else copter.stabilizer.estimate (.finite aslRaw) hold) = next at hactivated hspeedNext
  generalize (activated || command.setAltHold) = active at hactivated
  split
  case isTrue hhold =>
    rw [hchange]
    refine ⟨⟨hactivated.estimated.follow _, ?_, ?_⟩, fun _ => ⟨?_, ?_⟩⟩
    · exact fun hactive => (follow_holding (hactivated.holding hactive) hactivated.estimated hspeedNext _).1
    · exact fun hactive => (follow_dormant (hactivated.dormant hactive) hactivated.estimated _).1
    · exact fun hactive => (follow_holding (hactivated.holding hactive) hactivated.estimated hspeedNext _).2
    · intro hactive
      obtain ⟨hpid, hvalue, hthrust⟩ := follow_dormant (hactivated.dormant hactive) hactivated.estimated altHoldChange
      exact ⟨hpid.dt, hvalue, hthrust⟩
  case isFalse hfree =>
    refine ⟨⟨⟨hactivated.estimated.asl, hactivated.estimated.aslLong, hactivated.estimated.vSpeed, ⟨0, rfl⟩⟩, ?_, ?_⟩,
      fun hhold => absurd hhold hfree⟩
    · exact fun hactive => ⟨(hactivated.holding hactive).pid, 0, rfl, by norm_num [outputLimit, aslLimit]⟩
    · exact hactivated.dormant

theorem Sound.accelerate {activated : Bool} {hold : AltHold} (hsound : Sound activated hold) {accWZ : Flt}
    (hfinite : accWZ.IsFinite) : Sound activated (accelerate accWZ hold) := by
  obtain ⟨accWZ, rfl⟩ := hfinite
  obtain ⟨hestimated, hholding, hdormant⟩ := hsound
  obtain ⟨vSpeed, hvSpeed⟩ := hestimated.vSpeed
  obtain ⟨band, hband, _⟩ := deadband_finite (by norm_num [vAccDeadband] : 0 ≤ vAccDeadband) accWZ
  refine ⟨⟨hestimated.asl, hestimated.aslLong, ?_, hestimated.altHoldTarget⟩,
    fun hactivated => ⟨(hholding hactivated).pid, (hholding hactivated).value⟩, hdormant⟩
  unfold copter.stabilizer.accelerate
  rw [hvSpeed, hband]
  exact ⟨_, rfl⟩

theorem sound_altHold0 : Sound false altHold0 where
  estimated := ⟨⟨0, rfl, by norm_num [aslLimit]⟩, ⟨0, rfl, by norm_num [aslLimit]⟩, ⟨0, rfl⟩, ⟨-1, rfl⟩⟩
  holding := nofun
  dormant _ := ⟨rfl, rfl, rfl, rfl, rfl, rfl, ⟨0, rfl⟩, rfl⟩

theorem altHoldAfter_sound {events : List AltHoldEvent} (hevents : ∀ event ∈ events, event.Within aslLimit) :
    Sound (events.any AltHoldEvent.activates) (altHoldAfter events) := by
  induction events using List.reverseRecOn with
  | nil => exact sound_altHold0
  | append_singleton events event ih =>
    rw [List.forall_mem_append, List.forall_mem_singleton] at hevents
    have hsound := ih hevents.1
    unfold altHoldAfter at hsound ⊢
    rw [run_concat, List.any_append]
    cases event with
    | accelerate accWZ =>
      have hany : [AltHoldEvent.accelerate accWZ].any AltHoldEvent.activates = false := rfl
      rw [hany, Bool.or_false]
      exact hsound.accelerate hevents.2
    | stabilizerAltHoldUpdate command aslRaw =>
      have hany : [AltHoldEvent.stabilizerAltHoldUpdate command aslRaw].any AltHoldEvent.activates =
          command.setAltHold := Bool.or_false _
      rw [hany]
      exact (hsound.update hevents.2).1

/-- Whatever numbers the accelerometer, the pilot and a barometer below 85 km give, in
    every run: an update that holds the altitude computes a thrust of at most 60000
    without an overflow if the hold has been activated in it or before, also again and
    after a pause; else it divides by a sampling time of zero, and the thrust is what
    the processor makes of a NaN. -/
theorem altHold_thrust {events : List AltHoldEvent} (hevents : ∀ event ∈ events, event.Within aslLimit)
    {command : AltHoldCommand} (hhold : command.altHold = true) {aslRaw : Flt}
    (hwithin : (AltHoldEvent.stabilizerAltHoldUpdate command aslRaw).Within aslLimit) :
    let update := AltHoldEvent.stabilizerAltHoldUpdate command aslRaw
    ((events ++ [update]).any AltHoldEvent.activates = true →
      ∃ thrust, (altHoldAfter (events ++ [update])).actuatorThrust = some thrust ∧ thrust.toNat ≤ 60000) ∧
    ((events ++ [update]).any AltHoldEvent.activates = false → Undefined (altHoldAfter (events ++ [update]))) := by
  intro update
  have hany : (events ++ [update]).any AltHoldEvent.activates =
      (events.any AltHoldEvent.activates || command.setAltHold) := by
    rw [List.any_append]
    exact congrArg _ (Bool.or_false _)
  have hafter : altHoldAfter (events ++ [update]) = stabilizerAltHoldUpdate command aslRaw (altHoldAfter events) :=
    run_concat _ _ _ _
  rw [hany, hafter]
  exact ((altHoldAfter_sound hevents).update hwithin).2 hhold

/-- A hold that is activated, paused and resumed. -/
def resuming : List AltHoldEvent :=
  [.stabilizerAltHoldUpdate ⟨true, true, 0⟩ (.finite 500), .accelerate (.finite (1 / 2)),
    .stabilizerAltHoldUpdate ⟨false, false, 0⟩ (.finite 501)]

theorem altHold_thrust_resuming :
    let update := AltHoldEvent.stabilizerAltHoldUpdate ⟨true, false, .finite 10⟩ (.finite 499)
    ((resuming ++ [update]).any AltHoldEvent.activates = true →
      ∃ thrust, (altHoldAfter (resuming ++ [update])).actuatorThrust = some thrust ∧ thrust.toNat ≤ 60000) ∧
    ((resuming ++ [update]).any AltHoldEvent.activates = false → Undefined (altHoldAfter (resuming ++ [update]))) := by
  have hbaro : ∀ q : ℚ, |q| ≤ 501 → ∃ asl, Flt.finite q = .finite asl ∧ |asl| ≤ aslLimit :=
    fun q hq => ⟨q, rfl, hq.trans (by norm_num [aslLimit])⟩
  have hevents : ∀ event ∈ resuming, event.Within aslLimit := by
    unfold resuming
    simp only [List.forall_mem_cons, AltHoldEvent.Within]
    exact ⟨⟨⟨0, rfl⟩, hbaro 500 (by norm_num)⟩, ⟨_, rfl⟩, ⟨⟨0, rfl⟩, hbaro 501 (by norm_num)⟩, nofun⟩
  exact altHold_thrust hevents rfl ⟨⟨10, rfl⟩, hbaro 499 (by norm_num)⟩

end copter.stabilizer
