import CopterOS.Lib.ClampSum
import CopterOS.Lib.History
import CopterOS.Lib.Run
import CopterOS.PidCtrl
import Mathlib.Algebra.Order.Ring.Abs
import Mathlib.Algebra.Order.Ring.Rat

open transition history clamp_sum copter.commander copter.pid copter.pidctrl

namespace copter.controller

/-- A call of the controller, or a received PID message. -/
inductive Operation where
  | controllerCorrectAttitudePID (eulerActual eulerDesired : RPY ℚ)
  | controllerCorrectRatePID (rateActual rateDesired : RPY ℚ)
  | controllerResetAllPID
  | pidCrtlCallback (values : PidValues)

def perform (undefined : ℚ → Int16) (controller : Controller ℚ) : Operation → Controller ℚ
  | .controllerCorrectAttitudePID eulerActual eulerDesired =>
    (copter.controller.controllerCorrectAttitudePID eulerActual eulerDesired controller).2
  | .controllerCorrectRatePID rateActual rateDesired =>
    copter.controller.controllerCorrectRatePID undefined rateActual rateDesired controller
  | .controllerResetAllPID => copter.controller.controllerResetAllPID controller
  | .pidCrtlCallback values => setPidValues values controller

/-- After `controllerInit` and a sequence of operations. -/
def controllerAfter (config : PidValuesConfig) (undefined : ℚ → Int16) (operations : List Operation) :
    Controller ℚ :=
  run (perform undefined) (controllerInit config controller0) operations

/-- The integral of each object is inside its limit, and its share of the
    output inside the limit times the gain. -/
def WithinLimits (controller : Controller ℚ) : Prop :=
  ∀ name : PidName,
    -name.INTEGRATION_LIMIT ≤ (controller.pid name).integ ∧
      (controller.pid name).integ ≤ name.INTEGRATION_LIMIT ∧
      |(controller.pid name).ki * (controller.pid name).integ| ≤
        |(controller.pid name).ki| * name.INTEGRATION_LIMIT

/-- The error an operation feeds to one of the objects. -/
def Operation.error? : Operation → PidName → Option ℚ
  | .controllerCorrectAttitudePID actual desired, .pidRoll => some (desired.roll - actual.roll)
  | .controllerCorrectAttitudePID actual desired, .pidPitch => some (desired.pitch - actual.pitch)
  | .controllerCorrectAttitudePID actual desired, .pidYaw => some (yawError actual.yaw desired.yaw)
  | .controllerCorrectRatePID actual desired, .pidRollRate => some (desired.roll - actual.roll)
  | .controllerCorrectRatePID actual desired, .pidPitchRate => some (desired.pitch - actual.pitch)
  | .controllerCorrectRatePID actual desired, .pidYawRate => some (desired.yaw - actual.yaw)
  | _, _ => none

/-- What an operation does to the integral of one of the objects. -/
def Operation.input? (name : PidName) : Operation → Option (Input ℚ)
  | .controllerResetAllPID => some .reset
  | operation => (operation.error? name).map fun error => .add (error * IMU_UPDATE_DT)

/-- The error times the sampling time, for every update of one of the objects
    since the last reset. -/
def errorsSinceReset (name : PidName) (operations : List Operation) : List ℚ :=
  sinceReset (operations.filterMap (Operation.input? name))

/-- The object keeps the limits it has been initialized with, of which only the
    upper one is the configured limit. -/
structure Limited (name : PidName) (pid : PidObject ℚ) : Prop where
  iLimit : pid.iLimit = name.INTEGRATION_LIMIT
  iLimitLow : pid.iLimitLow = -DEFAULT_PID_INTEGRATION_LIMIT
  dt : pid.dt = IMU_UPDATE_DT

theorem INTEGRATION_LIMIT_bounds (name : PidName) :
    0 ≤ name.INTEGRATION_LIMIT ∧ -DEFAULT_PID_INTEGRATION_LIMIT < -name.INTEGRATION_LIMIT := by
  cases name <;> norm_num [PidName.INTEGRATION_LIMIT, DEFAULT_PID_INTEGRATION_LIMIT]

theorem controllerInit_limited (config : PidValuesConfig) (name : PidName) :
    Limited name ((controllerInit config (controller0 : Controller ℚ)).pid name) ∧
      ((controllerInit config (controller0 : Controller ℚ)).pid name).integ = 0 :=
  ⟨⟨rfl, rfl, rfl⟩, rfl⟩

/-- No operation changes a limit or the sampling time. -/
theorem perform_limited {name : PidName} {controller : Controller ℚ}
    (hlimited : Limited name (controller.pid name)) (undefined : ℚ → Int16) (operation : Operation) :
    Limited name ((perform undefined controller operation).pid name) := by
  obtain ⟨hlimit, hlow, hdt⟩ := hlimited
  cases operation with
  | controllerCorrectAttitudePID actual desired => cases name <;> exact ⟨hlimit, hlow, hdt⟩
  | controllerCorrectRatePID actual desired => cases name <;> exact ⟨hlimit, hlow, hdt⟩
  | controllerResetAllPID => exact ⟨hlimit, hlow, hdt⟩
  | pidCrtlCallback values =>
    simp only [perform, setPidValues]
    split <;> cases name <;> exact ⟨hlimit, hlow, hdt⟩

/-- One error is added to the integral and cut off at the two limits. -/
theorem integrate_eq_clampAdd {name : PidName} {pid : PidObject ℚ} (hlimited : Limited name pid)
    (error : ℚ) :
    integrate error pid =
      clampAdd (-DEFAULT_PID_INTEGRATION_LIMIT) name.INTEGRATION_LIMIT pid.integ (error * IMU_UPDATE_DT) := by
  rw [← hlimited.iLimit, ← hlimited.iLimitLow, ← hlimited.dt]
  rfl

/-- One operation does to the integral what its input says. -/
theorem perform_integ {name : PidName} {controller : Controller ℚ}
    (hlimited : Limited name (controller.pid name)) (undefined : ℚ → Int16) (operation : Operation) :
    ((perform undefined controller operation).pid name).integ =
      match operation.input? name with
      | none => (controller.pid name).integ
      | some .reset => 0
      | some (.add x) =>
        clampAdd (-DEFAULT_PID_INTEGRATION_LIMIT) name.INTEGRATION_LIMIT (controller.pid name).integ x := by
  have hadd := integrate_eq_clampAdd hlimited
  cases operation with
  | controllerCorrectAttitudePID actual desired =>
    cases name
    case pidRoll => exact hadd _
    case pidPitch => exact hadd _
    case pidYaw => exact hadd _
    all_goals rfl
  | controllerCorrectRatePID actual desired =>
    cases name
    case pidRollRate => exact hadd _
    case pidPitchRate => exact hadd _
    case pidYawRate => exact hadd _
    all_goals rfl
  | controllerResetAllPID => rfl
  | pidCrtlCallback values =>
    simp only [perform, setPidValues]
    split <;> cases name <;> rfl

/-- After any operations the integral is the clamped sum of their inputs. -/
theorem controllerAfter_integ (config : PidValuesConfig) (undefined : ℚ → Int16) (name : PidName)
    (operations : List Operation) :
    Limited name ((controllerAfter config undefined operations).pid name) ∧
      ((controllerAfter config undefined operations).pid name).integ =
        clampSum (-DEFAULT_PID_INTEGRATION_LIMIT) name.INTEGRATION_LIMIT
          (operations.filterMap (Operation.input? name)) := by
  unfold controllerAfter
  induction operations using List.reverseRecOn with
  | nil => exact controllerInit_limited config name
  | append_singleton operations last ih =>
    obtain ⟨hlimited, hinteg⟩ := ih
    rw [run_concat, List.filterMap_append]
    refine ⟨perform_limited hlimited undefined last, ?_⟩
    rw [perform_integ hlimited undefined last, hinteg]
    cases hinput : last.input? name with
    | none => simp [hinput]
    | some input =>
      have hlast : [last].filterMap (Operation.input? name) = [input] := by simp [hinput]
      rw [hlast, clampSum_concat]
      cases input <;> rfl

/-- An object is inside its limits exactly when its integral is not below the
    configured one. -/
theorem withinLimits_iff (config : PidValuesConfig) (undefined : ℚ → Int16) (operations : List Operation) :
    WithinLimits (controllerAfter config undefined operations) ↔
      ∀ name : PidName, -name.INTEGRATION_LIMIT ≤
        clampSum (-DEFAULT_PID_INTEGRATION_LIMIT) name.INTEGRATION_LIMIT
          (operations.filterMap (Operation.input? name)) := by
  have hinteg := fun name => (controllerAfter_integ config undefined name operations).2
  constructor
  · intro hwithin name
    rw [← hinteg name]
    exact (hwithin name).1
  · intro hlow name
    obtain ⟨hnonneg, hdefault⟩ := INTEGRATION_LIMIT_bounds name
    have hhigh := clampSum_le (hdefault.le.trans (neg_le_self hnonneg)) hnonneg
      (operations.filterMap (Operation.input? name))
    rw [← hinteg name] at hhigh
    have hlow := hlow name
    rw [← hinteg name] at hlow
    refine ⟨hlow, hhigh, ?_⟩
    rw [abs_mul]
    exact mul_le_mul_of_nonneg_left (abs_le.mpr ⟨hlow, hhigh⟩) (abs_nonneg _)

/-- The six integrals stay inside their limits along a run exactly when, for each
    object and at every moment, the errors since its last reset are bounded: their
    sum is not below the lower limit, and no run of consecutive ones that ends
    there sums up to less than twice the lower limit. -/
theorem withinLimits_run_iff (config : PidValuesConfig) (undefined : ℚ → Int16)
    (operations : List Operation) :
    (∀ before, before <+: operations → WithinLimits (controllerAfter config undefined before)) ↔
      ∀ name before, before <+: operations →
        Bounded name.INTEGRATION_LIMIT (errorsSinceReset name before) := by
  simp only [withinLimits_iff, errorsSinceReset]
  have hname : ∀ name : PidName, (∀ before, before <+: operations → -name.INTEGRATION_LIMIT ≤
        clampSum (-DEFAULT_PID_INTEGRATION_LIMIT) name.INTEGRATION_LIMIT
          (before.filterMap (Operation.input? name))) ↔
      ∀ before, before <+: operations →
        Bounded name.INTEGRATION_LIMIT (sinceReset (before.filterMap (Operation.input? name))) := by
    intro name
    obtain ⟨hnonneg, hdefault⟩ := INTEGRATION_LIMIT_bounds name
    rw [← forall_prefix_filterMap (Operation.input? name) (fun inputs => -name.INTEGRATION_LIMIT ≤
        clampSum (-DEFAULT_PID_INTEGRATION_LIMIT) name.INTEGRATION_LIMIT inputs),
      ← forall_prefix_filterMap (Operation.input? name)
        (fun inputs => Bounded name.INTEGRATION_LIMIT (sinceReset inputs))]
    exact forall_neg_le_clampSum_iff hdefault hnonneg _
  constructor
  · intro hall name
    exact (hname name).mp fun before hbefore => hall before hbefore name
  · intro hall before hbefore name
    exact (hname name).mpr (hall name) before hbefore

/-- Nine updates in which the copter rolls by 2000 degrees in a second: the
    integral of the roll rate is below its lower limit of -33.3. -/
theorem not_withinLimits_roll :
    ¬ WithinLimits (controllerAfter .CONFIG_PIDVALUES_TCM (fun _ => 0)
      (List.replicate 9 (.controllerCorrectRatePID ⟨2000, 0, 0⟩ ⟨0, 0, 0⟩))) := by
  intro hwithin
  have hlow := (withinLimits_iff _ _ _).mp hwithin .pidRollRate
  exact absurd hlow (by decide +kernel)

end copter.controller
