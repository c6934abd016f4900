import CopterOS.Lib.Sampling
import CopterOS.Stabilizer.Finite
import CopterOS.Stabilizer.Reset

open transition sampling number copter.commander copter.controller copter.pid

namespace copter.stabilizer

/-- The time step the sensor fusion is given whenever the attitude is corrected:
    `1.0 / (IMU_UPDATE_FREQ / ATTITUDE_UPDATE_RATE_DIVIDER)`. -/
def FUSION_UPDATE_DT : ℚ := 1 / (500 / 2)

theorem dt_ne_zero : IMU_UPDATE_DT ≠ 0 := by norm_num [IMU_UPDATE_DT]

/-- The attitude is corrected at the interval the sensor fusion is given. -/
theorem divider_mul_dt : (ATTITUDE_UPDATE_RATE_DIVIDER.toNat : ℚ) * IMU_UPDATE_DT = FUSION_UPDATE_DT := by
  have hdivider : ATTITUDE_UPDATE_RATE_DIVIDER.toNat = 2 := rfl
  rw [hdivider]
  norm_num [IMU_UPDATE_DT, FUSION_UPDATE_DT]

/-- The memory after `controllerInit`, before the first pass. -/
def initialMemory (config : PidValuesConfig) : Memory where
  loop := stabilizer0
  controller := controllerInit config controller0

def memoryAfter (config : PidValuesConfig) (undefined : Flt → Int16) (passes : List Pass) : Memory :=
  run (Memory.pass undefined) (initialMemory config) passes

/-- Whether the next pass updates one of the objects. -/
def Memory.updates (memory : Memory) : PidName → Bool
  | .pidRollRate | .pidPitchRate | .pidYawRate => true
  | .pidRoll | .pidPitch | .pidYaw => memory.loop.attitudeCounter + 1 ≥ ATTITUDE_UPDATE_RATE_DIVIDER

/-- The error of the update that a pass makes to one of the objects. -/
def Memory.error? (undefined : Flt → Int16) (name : PidName) (memory : Memory) (pass : Pass) : Option Flt :=
  if memory.updates name then some ((memory.control undefined pass).controller.pid name).error else none

/-- Pass by pass the error one of the objects has been updated with. -/
def errorSignal (config : PidValuesConfig) (undefined : Flt → Int16) (name : PidName) (passes : List Pass) :
    List (Option Flt) :=
  (trace (Memory.pass undefined) (initialMemory config) passes).map fun entry =>
    entry.1.error? undefined name entry.2

/-- After a run the integral of an object is the sum of its errors, each times the
    time since the update before it, and the derivative is the last difference of
    them over that time. -/
def OnTime (config : PidValuesConfig) (undefined : Flt → Int16) (name : PidName) (passes : List Pass) : Prop :=
  ∃ errors : List (Option ℚ), errorSignal config undefined name passes = errors.map (Option.map Flt.finite) ∧
    ((memoryAfter config undefined passes).controller.pid name).integ =
        .finite (integral (recorded IMU_UPDATE_DT errors).samples) ∧
      ((memoryAfter config undefined passes).controller.pid name).deriv =
        .finite (slope (recorded IMU_UPDATE_DT errors).samples)

/-- A run over numbers in which nothing is reset and no integral gets to a limit. -/
structure Undisturbed (config : PidValuesConfig) (undefined : Flt → Int16) (passes : List Pass) : Prop where
  sensors : ∀ pass ∈ passes, pass.sensors.Finite
  eulerDesired : ∀ pass ∈ passes, FiniteRPY pass.eulerDesired
  thrust : ∀ pass ∈ passes, pass.thrust > 0
  limits : ∀ before, before <+: passes → ∀ name,
    let pid := (memoryAfter config undefined before).controller.pid name
    pid.iLimitLow < pid.integ ∧ pid.integ < pid.iLimit

/-- The attitude error a pass has for one of the three attitude controllers. -/
def Pass.attitudeError? (pass : Pass) : PidName → Option Flt
  | .pidRoll => some (pass.eulerDesired.roll - pass.sensors.eulerActual.roll)
  | .pidPitch => some (pass.eulerDesired.pitch - pass.sensors.eulerActual.pitch)
  | .pidYaw => some (yawError pass.sensors.eulerActual.yaw (-pass.eulerDesired.yaw))
  | .pidRollRate | .pidPitchRate | .pidYawRate => none

/-- The passes between two updates of an object. -/
def updateDivider : PidName → ℕ
  | .pidRollRate | .pidPitchRate | .pidYawRate => 1
  | .pidRoll | .pidPitch | .pidYaw => ATTITUDE_UPDATE_RATE_DIVIDER.toNat

/-- What an update does to an object, whatever the error is computed from. -/
structure Updated (before after : PidObject Flt) : Prop where
  prevError : after.prevError = after.error
  integ : after.integ = integrate after.error before
  deriv : after.deriv = (after.error - before.prevError) / before.dt
  iLimit : after.iLimit = before.iLimit
  iLimitLow : after.iLimitLow = before.iLimitLow
  dt : after.dt = before.dt

theorem Undisturbed.of_prefix {config : PidValuesConfig} {undefined : Flt → Int16} {before passes : List Pass}
    (hrun : Undisturbed config undefined passes) (hbefore : before <+: passes) :
    Undisturbed config undefined before where
  sensors pass hpass := hrun.sensors pass (hbefore.subset hpass)
  eulerDesired pass hpass := hrun.eulerDesired pass (hbefore.subset hpass)
  thrust pass hpass := hrun.thrust pass (hbefore.subset hpass)
  limits first hfirst := hrun.limits first (hfirst.trans hbefore)

@[simp] theorem memoryAfter_concat (config : PidValuesConfig) (undefined : Flt → Int16) (passes : List Pass)
    (last : Pass) :
    memoryAfter config undefined (passes ++ [last]) = (memoryAfter config undefined passes).pass undefined last := by
  simp [memoryAfter]

@[simp] theorem errorSignal_concat (config : PidValuesConfig) (undefined : Flt → Int16) (name : PidName)
    (passes : List Pass) (last : Pass) :
    errorSignal config undefined name (passes ++ [last]) =
      errorSignal config undefined name passes ++
        [(memoryAfter config undefined passes).error? undefined name last] := by
  simp [errorSignal, memoryAfter]

/-- With thrust a pass ends with what it has controlled. -/
theorem pass_of_thrust (undefined : Flt → Int16) (memory : Memory) {pass : Pass} (hthrust : pass.thrust > 0) :
    memory.pass undefined pass = memory.control undefined pass := by
  unfold Memory.pass actuate
  rw [if_pos hthrust]

/-- A pass updates an object or leaves it alone. -/
theorem control_pid (undefined : Flt → Int16) (memory : Memory) (pass : Pass) (name : PidName) :
    if memory.updates name then
      Updated (memory.controller.pid name) ((memory.control undefined pass).controller.pid name)
    else (memory.control undefined pass).controller.pid name = memory.controller.pid name := by
  unfold Memory.control copter.stabilizer.control correctAttitude
  dsimp only
  by_cases hdue : memory.loop.attitudeCounter + 1 ≥ ATTITUDE_UPDATE_RATE_DIVIDER
  · cases name <;> simp only [Memory.updates, hdue, decide_true, if_true] <;> exact ⟨rfl, rfl, rfl, rfl, rfl, rfl⟩
  · cases name
    case pidRoll | pidPitch | pidYaw =>
      simp only [Memory.updates, hdue, decide_false, Bool.false_eq_true, if_false]
      rfl
    all_goals
      simp only [Memory.updates, hdue, if_true, if_false]
      exact ⟨rfl, rfl, rfl, rfl, rfl, rfl⟩

/-- The counter after a run of calibrated passes. -/
theorem memoryAfter_attitudeCounter (config : PidValuesConfig) (undefined : Flt → Int16) (passes : List Pass) :
    (memoryAfter config undefined passes).loop.attitudeCounter.toNat =
      passes.length % ATTITUDE_UPDATE_RATE_DIVIDER.toNat := by
  have hdivider : ATTITUDE_UPDATE_RATE_DIVIDER.toNat = 2 := rfl
  induction passes using List.reverseRecOn with
  | nil => rfl
  | append_singleton passes last ih =>
    have hnext : ((memoryAfter config undefined passes).pass undefined last).loop.attitudeCounter =
        if (memoryAfter config undefined passes).loop.attitudeCounter + 1 ≥ ATTITUDE_UPDATE_RATE_DIVIDER then 0
        else (memoryAfter config undefined passes).loop.attitudeCounter + 1 :=
      control_attitudeCounter undefined _ last
    have hcount : ((memoryAfter config undefined passes).loop.attitudeCounter + 1).toNat = passes.length % 2 + 1 := by
      rw [UInt32.toNat_add, ih, hdivider, UInt32.toNat_one]
      omega
    rw [memoryAfter_concat, hnext, List.length_append, List.length_singleton, hdivider]
    simp only [ge_iff_le, UInt32.le_iff_toNat_le, hcount, hdivider]
    split
    · rw [UInt32.toNat_zero]
      omega
    · rw [hcount]
      omega

/-- An object is updated in every pass that its divider says. -/
theorem updates_iff (config : PidValuesConfig) (undefined : Flt → Int16) (name : PidName) (passes : List Pass) :
    (memoryAfter config undefined passes).updates name ↔ updateDivider name ∣ passes.length + 1 := by
  have hdue : (memoryAfter config undefined passes).loop.attitudeCounter + 1 ≥ ATTITUDE_UPDATE_RATE_DIVIDER ↔
      ATTITUDE_UPDATE_RATE_DIVIDER.toNat ∣ passes.length + 1 := by
    have hcounter := memoryAfter_attitudeCounter config undefined passes
    have hdivider : ATTITUDE_UPDATE_RATE_DIVIDER.toNat = 2 := rfl
    rw [ge_iff_le, UInt32.le_iff_toNat_le, UInt32.toNat_add, hcounter, hdivider, UInt32.toNat_one]
    omega
  cases name <;> simp [Memory.updates, updateDivider, hdue]

/-- A run over numbers keeps the objects and the rates asked for numbers. -/
theorem memoryAfter_finite {config : PidValuesConfig} {undefined : Flt → Int16} {passes : List Pass}
    (hrun : Undisturbed config undefined passes) :
    FiniteRPY (memoryAfter config undefined passes).loop.rateDesired ∧
      FiniteController (memoryAfter config undefined passes).controller := by
  induction passes using List.reverseRecOn with
  | nil => exact ⟨⟨⟨0, rfl⟩, ⟨0, rfl⟩, ⟨0, rfl⟩⟩, controllerInit_finite config⟩
  | append_singleton passes last ih =>
    obtain ⟨hrate, hcontroller⟩ := ih (hrun.of_prefix (List.prefix_append _ _))
    have hlast : last ∈ passes ++ [last] := by simp
    rw [memoryAfter_concat, pass_of_thrust undefined _ (hrun.thrust last hlast)]
    exact control_finite hcontroller hrate (hrun.sensors last hlast) (hrun.eulerDesired last hlast) undefined
      last.types

/-- An integral that is at no limit after an update has not been cut off. -/
theorem Updated.integ_eq {before after : PidObject Flt} (hupdated : Updated before after)
    (hlow : after.iLimitLow < after.integ) (hhigh : after.integ < after.iLimit) :
    after.integ = before.integ + after.error * before.dt := by
  have hinteg := hupdated.integ
  unfold integrate at hinteg
  dsimp only at hinteg
  rw [← hupdated.iLimit, ← hupdated.iLimitLow] at hinteg
  split at hinteg
  case isTrue =>
    rw [hinteg] at hhigh
    exact absurd hhigh (Flt.lt_irrefl _)
  case isFalse =>
    split at hinteg
    case isTrue =>
      rw [hinteg] at hlow
      exact absurd hlow (Flt.lt_irrefl _)
    case isFalse => exact hinteg

/-- The object is an integrator with the time step it has been initialized with. -/
structure Integrates (pid : PidObject Flt) (integrator : Integrator ℚ) : Prop where
  integ : pid.integ = .finite integrator.integ
  deriv : pid.deriv = .finite integrator.deriv
  prevError : pid.prevError = .finite integrator.previous
  dt : pid.dt = .finite IMU_UPDATE_DT

/-- An update with a number feeds the integrator. -/
theorem Integrates.feed {before after : PidObject Flt} {integrator : Integrator ℚ}
    (hbefore : Integrates before integrator) (hupdated : Updated before after)
    (hlow : after.iLimitLow < after.integ) (hhigh : after.integ < after.iLimit) {error : ℚ}
    (herror : after.error = .finite error) :
    Integrates after (sampling.feed IMU_UPDATE_DT integrator (some error)) where
  integ := by
    rw [hupdated.integ_eq hlow hhigh, hbefore.integ, hbefore.dt, herror]
    rfl
  deriv := by
    have hdifference : Flt.finite error - Flt.finite integrator.previous = .finite (error - integrator.previous) :=
      congrArg Flt.finite (sub_eq_add_neg error integrator.previous).symm
    rw [hupdated.deriv, hbefore.prevError, hbefore.dt, herror, hdifference, Flt.div_finite dt_ne_zero]
    rfl
  prevError := hupdated.prevError.trans herror
  dt := hupdated.dt.trans hbefore.dt

/-- Along a run each object is an integrator that is fed its errors. -/
theorem memoryAfter_integrates {config : PidValuesConfig} {undefined : Flt → Int16} {passes : List Pass}
    (hrun : Undisturbed config undefined passes) (name : PidName) :
    ∃ errors : List (Option ℚ), errorSignal config undefined name passes = errors.map (Option.map Flt.finite) ∧
      Every (updateDivider name) errors ∧
        Integrates ((memoryAfter config undefined passes).controller.pid name) (fed IMU_UPDATE_DT errors) := by
  induction passes using List.reverseRecOn with
  | nil => exact ⟨[], rfl, every_nil _, ⟨rfl, rfl, rfl, rfl⟩⟩
  | append_singleton passes last ih =>
    obtain ⟨errors, hsignal, hevery, hintegrates⟩ := ih (hrun.of_prefix (List.prefix_append _ _))
    have hlength : errors.length = passes.length := by
      have hlengths := congrArg List.length hsignal
      simpa [errorSignal, length_trace] using hlengths.symm
    have hdue := updates_iff config undefined name passes
    have hpid := control_pid undefined (memoryAfter config undefined passes) last name
    have hafter : memoryAfter config undefined (passes ++ [last]) =
        (memoryAfter config undefined passes).control undefined last := by
      rw [memoryAfter_concat, pass_of_thrust undefined _ (hrun.thrust last (by simp))]
    rw [errorSignal_concat, hsignal, hafter]
    unfold Memory.error?
    by_cases hupdates : (memoryAfter config undefined passes).updates name
    · rw [if_pos hupdates] at hpid ⊢
      have hfinite := (memoryAfter_finite hrun).2 name
      obtain ⟨hlow, hhigh⟩ := hrun.limits _ (List.prefix_refl _) name
      rw [hafter] at hfinite hlow hhigh
      obtain ⟨error, herror⟩ := hfinite.error
      refine ⟨errors ++ [some error], by simp [herror], ?_, ?_⟩
      · rw [every_concat, hlength, ← hdue]
        exact ⟨hevery, by simp [hupdates]⟩
      · rw [fed_concat]
        exact hintegrates.feed hpid hlow hhigh herror
    · rw [if_neg hupdates] at hpid ⊢
      refine ⟨errors ++ [none], by simp, ?_, ?_⟩
      · rw [every_concat, hlength, ← hdue]
        exact ⟨hevery, by simp [hupdates]⟩
      · rw [fed_concat, hpid]
        exact hintegrates

/-- An attitude controller has half the integral and twice the derivative of what
    the time between its updates makes of its errors. -/
theorem attitude_scaled {config : PidValuesConfig} {undefined : Flt → Int16} {passes : List Pass}
    (hrun : Undisturbed config undefined passes) {name : PidName}
    (hname : updateDivider name = ATTITUDE_UPDATE_RATE_DIVIDER.toNat) :
    ∃ errors : List (Option ℚ), errorSignal config undefined name passes = errors.map (Option.map Flt.finite) ∧
      ((memoryAfter config undefined passes).controller.pid name).integ =
          .finite (integral (recorded IMU_UPDATE_DT errors).samples / 2) ∧
        ((memoryAfter config undefined passes).controller.pid name).deriv =
          .finite (2 * slope (recorded IMU_UPDATE_DT errors).samples) := by
  obtain ⟨errors, hsignal, hevery, hintegrates⟩ := memoryAfter_integrates hrun name
  rw [hname] at hevery
  have hdouble : (ATTITUDE_UPDATE_RATE_DIVIDER.toNat : ℚ) * IMU_UPDATE_DT = 2 * IMU_UPDATE_DT := rfl
  have hinterval : (ATTITUDE_UPDATE_RATE_DIVIDER.toNat : ℚ) * IMU_UPDATE_DT ≠ 0 := by
    rw [hdouble]
    exact mul_ne_zero two_ne_zero dt_ne_zero
  obtain ⟨_, hinteg, hderiv⟩ := fed_scaled (by decide) hinterval dt_ne_zero hevery
  rw [hdouble, ← mul_assoc] at hinteg hderiv
  refine ⟨errors, hsignal, hintegrates.integ.trans (congrArg Flt.finite ?_),
    hintegrates.deriv.trans (congrArg Flt.finite ?_)⟩
  · rw [eq_div_iff two_ne_zero]
    exact mul_right_cancel₀ dt_ne_zero hinteg
  · rw [mul_comm 2]
    exact mul_right_cancel₀ dt_ne_zero hderiv

theorem map_finite_injective : Function.Injective (List.map (Option.map Flt.finite)) :=
  List.map_injective_iff.mpr (Option.map_injective fun _ _ hfinite => Flt.finite.inj hfinite)

/-- An object is on time when its integrator is. -/
theorem onTime_iff {config : PidValuesConfig} {undefined : Flt → Int16} {passes : List Pass}
    (hrun : Undisturbed config undefined passes) {name : PidName} {errors : List (Option ℚ)}
    (herrors : errorSignal config undefined name passes = errors.map (Option.map Flt.finite)) :
    OnTime config undefined name passes ↔ sampling.OnTime IMU_UPDATE_DT IMU_UPDATE_DT errors := by
  obtain ⟨errors', hsignal, _, hintegrates⟩ := memoryAfter_integrates hrun name
  obtain rfl := map_finite_injective (herrors.symm.trans hsignal)
  unfold OnTime sampling.OnTime
  rw [herrors, hintegrates.integ, hintegrates.deriv]
  simp only [Flt.finite.injEq]
  constructor
  · rintro ⟨same, hsame, htime⟩
    obtain rfl := map_finite_injective hsame
    exact htime
  · intro htime
    exact ⟨errors, rfl, htime⟩

/-- The prefixes of a run are those of its errors. -/
theorem forall_onTime {config : PidValuesConfig} {undefined : Flt → Int16} {passes : List Pass}
    (hrun : Undisturbed config undefined passes) {name : PidName} {errors : List (Option ℚ)}
    (herrors : errorSignal config undefined name passes = errors.map (Option.map Flt.finite)) :
    (∀ before, before <+: passes → OnTime config undefined name before) ↔
      ∀ before, before <+: errors → sampling.OnTime IMU_UPDATE_DT IMU_UPDATE_DT before := by
  have htake : ∀ n, OnTime config undefined name (passes.take n) ↔
      sampling.OnTime IMU_UPDATE_DT IMU_UPDATE_DT (errors.take n) := by
    intro n
    apply onTime_iff (hrun.of_prefix (List.take_prefix n passes))
    have hsignal : errorSignal config undefined name (passes.take n) =
        (errorSignal config undefined name passes).take n := by
      simp [errorSignal, trace_take]
    rw [hsignal, herrors, List.map_take]
  constructor
  · intro hall before hbefore
    rw [List.prefix_iff_eq_take.mp hbefore]
    exact (htake _).mp (hall _ (List.take_prefix _ _))
  · intro hall before hbefore
    rw [List.prefix_iff_eq_take.mp hbefore]
    exact (htake _).mpr (hall _ (List.take_prefix _ _))

/-- An attitude controller is updated with the error of the attitude. -/
theorem error?_of_attitude (undefined : Flt → Int16) (memory : Memory) (pass : Pass) {name : PidName}
    (hname : updateDivider name = ATTITUDE_UPDATE_RATE_DIVIDER.toNat) :
    memory.error? undefined name pass = if memory.updates name then pass.attitudeError? name else none := by
  unfold Memory.error?
  split
  case isFalse => rfl
  case isTrue hupdates =>
    have hdue : memory.loop.attitudeCounter + 1 ≥ ATTITUDE_UPDATE_RATE_DIVIDER := by
      cases name
      case pidRoll | pidPitch | pidYaw => simpa [Memory.updates] using hupdates
      all_goals exact absurd hname (by decide)
    unfold Memory.control copter.stabilizer.control correctAttitude
    dsimp only
    rw [if_pos hdue]
    cases name
    case pidRoll | pidPitch | pidYaw => rfl
    all_goals exact absurd hname (by decide)

/-- The errors an attitude controller is updated with are those of the passes that
    correct the attitude. -/
theorem mem_errorSignal {config : PidValuesConfig} {undefined : Flt → Int16} {name : PidName}
    (hname : updateDivider name = ATTITUDE_UPDATE_RATE_DIVIDER.toNat) {passes : List Pass} {error : Flt} :
    some error ∈ errorSignal config undefined name passes ↔
      ∃ before pass after, passes = before ++ pass :: after ∧
        ATTITUDE_UPDATE_RATE_DIVIDER.toNat ∣ before.length + 1 ∧ error ∈ pass.attitudeError? name := by
  have hentry : ∀ before pass, some error = (memoryAfter config undefined before).error? undefined name pass ↔
      ATTITUDE_UPDATE_RATE_DIVIDER.toNat ∣ before.length + 1 ∧ error ∈ pass.attitudeError? name := by
    intro before pass
    rw [error?_of_attitude undefined _ pass hname, ← hname, ← updates_iff config undefined name before]
    by_cases hupdates : (memoryAfter config undefined before).updates name
    · simp [hupdates, eq_comm]
    · simp [hupdates]
  unfold errorSignal
  simp only [List.mem_map, mem_trace_iff]
  constructor
  · rintro ⟨entry, ⟨before, after, hpasses, hstate⟩, herror⟩
    rw [hstate] at herror
    exact ⟨before, entry.2, after, hpasses, (hentry before entry.2).mp herror.symm⟩
  · rintro ⟨before, pass, after, hpasses, herror⟩
    exact ⟨(memoryAfter config undefined before, pass), ⟨before, after, hpasses, rfl⟩,
      ((hentry before pass).mpr herror).symm⟩

/-- The errors are zero when the passes that correct the attitude have none. -/
theorem errors_eq_zero_iff {config : PidValuesConfig} {undefined : Flt → Int16} {name : PidName}
    (hname : updateDivider name = ATTITUDE_UPDATE_RATE_DIVIDER.toNat) {passes : List Pass} {errors : List (Option ℚ)}
    (hsignal : errorSignal config undefined name passes = errors.map (Option.map Flt.finite)) :
    (∀ value, some value ∈ errors → value = 0) ↔
      ∀ before pass after, passes = before ++ pass :: after →
        ATTITUDE_UPDATE_RATE_DIVIDER.toNat ∣ before.length + 1 → ∀ error ∈ pass.attitudeError? name, error = 0 := by
  constructor
  · intro hzero before pass after hpasses hdue error herror
    have hmem : some error ∈ errorSignal config undefined name passes :=
      (mem_errorSignal hname).mpr ⟨before, pass, after, hpasses, hdue, herror⟩
    rw [hsignal] at hmem
    obtain ⟨entry, hentry, heq⟩ := List.mem_map.mp hmem
    obtain ⟨value, rfl, rfl⟩ := Option.map_eq_some_iff.mp heq
    exact congrArg Flt.finite (hzero value hentry)
  · intro hzero value hvalue
    have hmem : some (Flt.finite value) ∈ errorSignal config undefined name passes := by
      rw [hsignal]
      exact List.mem_map.mpr ⟨some value, hvalue, rfl⟩
    obtain ⟨before, pass, after, hpasses, hdue, herror⟩ := (mem_errorSignal hname).mp hmem
    exact Flt.finite.inj (hzero before pass after hpasses hdue _ herror)

/-- Each object is on time all along a run exactly when the attitude errors it is
    updated with are zero: the time step of all six is that of the rate loop. -/
theorem timeBase_iff {config : PidValuesConfig} {undefined : Flt → Int16} {passes : List Pass}
    (hrun : Undisturbed config undefined passes) (name : PidName) :
    (∀ before, before <+: passes → OnTime config undefined name before) ↔
      ∀ before pass after, passes = before ++ pass :: after →
        ATTITUDE_UPDATE_RATE_DIVIDER.toNat ∣ before.length + 1 → ∀ error ∈ pass.attitudeError? name, error = 0 := by
  obtain ⟨errors, hsignal, hevery, _⟩ := memoryAfter_integrates hrun name
  rw [forall_onTime hrun hsignal]
  by_cases hname : updateDivider name = ATTITUDE_UPDATE_RATE_DIVIDER.toNat
  · rw [hname] at hevery
    have hstep : IMU_UPDATE_DT ≠ FUSION_UPDATE_DT := by norm_num [IMU_UPDATE_DT, FUSION_UPDATE_DT]
    have hinterval : (ATTITUDE_UPDATE_RATE_DIVIDER.toNat : ℚ) * IMU_UPDATE_DT ≠ 0 := by
      rw [divider_mul_dt]
      norm_num [FUSION_UPDATE_DT]
    rw [forall_onTime_iff (by decide) hinterval dt_ne_zero hevery, divider_mul_dt, or_iff_right hstep]
    exact errors_eq_zero_iff hname hsignal
  · have hrate : updateDivider name = 1 ∧ ∀ pass : Pass, pass.attitudeError? name = none := by
      cases name
      case pidRoll | pidPitch | pidYaw => exact absurd rfl hname
      all_goals exact ⟨rfl, fun _ => rfl⟩
    rw [hrate.1] at hevery
    have hsame : ((1 : ℕ) : ℚ) * IMU_UPDATE_DT = IMU_UPDATE_DT := by rw [Nat.cast_one, one_mul]
    have hinterval : ((1 : ℕ) : ℚ) * IMU_UPDATE_DT ≠ 0 := by
      rw [hsame]
      exact dt_ne_zero
    rw [forall_onTime_iff one_pos hinterval dt_ne_zero hevery, hsame]
    simp [hrate.2]

/-- The roll asked for is one degree off the level copter. -/
def rollPass : Pass where
  sensors := { imu6IsCalibrated := true, gyro := ⟨0, 0, 0⟩, eulerActual := ⟨0, 0, 0⟩ }
  eulerDesired := ⟨.finite 1, 0, 0⟩
  types := ⟨.ANGLE, .ANGLE, .RATE⟩
  thrust := 30000

theorem undisturbed_rollPass : Undisturbed .CONFIG_PIDVALUES_TCM (fun _ => 0) [rollPass, rollPass] where
  sensors pass hpass := by
    obtain rfl : pass = rollPass := by simpa using hpass
    exact ⟨⟨0, rfl⟩, ⟨0, rfl⟩, ⟨0, rfl⟩, ⟨0, rfl⟩, ⟨0, rfl⟩, ⟨0, rfl⟩⟩
  eulerDesired pass hpass := by
    obtain rfl : pass = rollPass := by simpa using hpass
    exact ⟨⟨1, rfl⟩, ⟨0, rfl⟩, ⟨0, rfl⟩⟩
  thrust pass hpass := by
    obtain rfl : pass = rollPass := by simpa using hpass
    decide
  limits before hbefore name := by
    have hcases : before = [] ∨ before = [rollPass] ∨ before = [rollPass, rollPass] := by
      simpa using (List.mem_inits before _).mpr hbefore
    obtain rfl | rfl | rfl := hcases <;> cases name <;> decide +kernel

/-- After two passes the roll controller has integrated one degree over 1/500 of a
    second, not over the 1/250 that have passed. -/
theorem not_onTime_roll :
    Undisturbed .CONFIG_PIDVALUES_TCM (fun _ => 0) [rollPass, rollPass] ∧
      ¬ OnTime .CONFIG_PIDVALUES_TCM (fun _ => 0) .pidRoll [rollPass, rollPass] := by
  refine ⟨undisturbed_rollPass, ?_⟩
  rintro ⟨errors, hsignal, hinteg, _⟩
  have herrors : errorSignal .CONFIG_PIDVALUES_TCM (fun _ => 0) .pidRoll [rollPass, rollPass] =
      [none, some (1 : ℚ)].map (Option.map Flt.finite) := by decide +kernel
  obtain rfl := map_finite_injective (hsignal.symm.trans herrors)
  exact absurd hinteg (by decide +kernel)

/-- The pitch controller in the same passes, whose errors are zero. -/
theorem timeBase_iff_level :
    (∀ before, before <+: [rollPass, rollPass] →
        OnTime .CONFIG_PIDVALUES_TCM (fun _ => 0) .pidPitch before) ↔
      ∀ before pass after, [rollPass, rollPass] = before ++ pass :: after →
        ATTITUDE_UPDATE_RATE_DIVIDER.toNat ∣ before.length + 1 →
          ∀ error ∈ pass.attitudeError? .pidPitch, error = 0 :=
  timeBase_iff undisturbed_rollPass .pidPitch

end copter.stabilizer
