import CopterOS.Controller
import CopterOS.Motors
import Mathlib.Tactic.Ring

open copter.commander copter.controller copter.motors number

namespace copter.stabilizer

/-- The four motors, in the order of their numbers. -/
inductive Motor where
  | MOTOR_M1
  | MOTOR_M2
  | MOTOR_M3
  | MOTOR_M4
  deriving DecidableEq

/-- The result of an operation on `int`, which has none when it overflows. -/
def int32 (value : ℤ) : Option ℤ := if -2 ^ 31 ≤ value ∧ value < 2 ^ 31 then some value else none

/-- The conversion of a negated value back to `int16_t`. -/
def negate (value : Int16) : Option Int16 :=
  if -2 ^ 15 ≤ -value.toInt ∧ -value.toInt < 2 ^ 15 then some (Int16.ofInt (-value.toInt)) else none

def limitThrust (value : ℤ) : UInt16 :=
  if value > 65535 then 65535 else if value < 0 then 0 else UInt16.ofNat value.toNat

/-- The powers of the four motors in the formation X. -/
def distributePower (thrust : UInt16) (roll pitch yaw : Int16) : Option (Motor → UInt16) := do
  let thrust : ℤ := thrust.toNat
  let r := roll.toInt >>> (1 : ℕ)
  let p := pitch.toInt >>> (1 : ℕ)
  let yaw := yaw.toInt
  let m1 ← int32 ((← int32 ((← int32 (thrust - r)) + p)) + yaw)
  let m2 ← int32 ((← int32 ((← int32 (thrust - r)) - p)) - yaw)
  let m3 ← int32 ((← int32 ((← int32 (thrust + r)) - p)) + yaw)
  let m4 ← int32 ((← int32 ((← int32 (thrust + r)) + p)) - yaw)
  return fun
    | .MOTOR_M1 => limitThrust m1
    | .MOTOR_M2 => limitThrust m2
    | .MOTOR_M3 => limitThrust m3
    | .MOTOR_M4 => limitThrust m4

/-- The mix of a thrust and three axis commands in the formation X. -/
def xMix (thrust r p yaw : ℤ) : Motor → ℤ
  | .MOTOR_M1 => thrust - r + p + yaw
  | .MOTOR_M2 => thrust - r - p - yaw
  | .MOTOR_M3 => thrust + r - p + yaw
  | .MOTOR_M4 => thrust + r + p - yaw

theorem int32_eq_some {value : ℤ} (hlow : -2 ^ 31 ≤ value) (hhigh : value < 2 ^ 31) :
    int32 value = some value := if_pos ⟨hlow, hhigh⟩

/-- The saturated outputs are symmetric. -/
theorem saturateSignedInt16_bounds (undefined : ℚ → Int16) (input : ℚ) :
    -32767 ≤ (saturateSignedInt16 undefined input).toInt ∧
      (saturateSignedInt16 undefined input).toInt ≤ 32767 := by
  unfold saturateSignedInt16
  split
  · decide
  · rename_i hhigh
    split
    · decide
    · rename_i hlow
      have hhigh : input ≤ 32767 := not_lt.mp hhigh
      have hlow : -32767 ≤ input := not_lt.mp hlow
      have hbounds := truncate_mem_of_mem input 32767 (by push_cast; exact hlow) (by push_cast; exact hhigh)
      rw [toInt_rat, Int16.toInt_ofInt_of_le (by omega) (by omega)]
      exact hbounds

/-- The symmetric range makes the negation fit. -/
theorem negate_eq_some {value : Int16} (hlow : -32767 ≤ value.toInt) :
    ∃ negated, negate value = some negated ∧ negated.toInt = -value.toInt := by
  have hhigh := value.toInt_lt
  refine ⟨Int16.ofInt (-value.toInt), if_pos (by omega), ?_⟩
  exact Int16.toInt_ofInt_of_le (by omega) (by omega)

theorem limitThrust_toNat (value : ℤ) : ((limitThrust value).toNat : ℤ) = max 0 (min 65535 value) := by
  unfold limitThrust
  by_cases hhigh : value > 65535
  · rw [if_pos hhigh]
    have hfull : ((65535 : UInt16).toNat : ℤ) = 65535 := rfl
    omega
  · rw [if_neg hhigh]
    by_cases hlow : value < 0
    · rw [if_pos hlow]
      have hzero : ((0 : UInt16).toNat : ℤ) = 0 := rfl
      omega
    · have hfits : value.toNat < UInt16.size := by
        have hsize : UInt16.size = 65536 := rfl
        omega
      rw [if_neg hlow, UInt16.toNat_ofNat_of_lt' hfits]
      omega

/-- No sum overflows, and every motor gets its share of the mix inside the range
    of `uint16_t`. -/
theorem distributePower_eq (thrust : UInt16) (roll pitch yaw : Int16) :
    distributePower thrust roll pitch yaw =
      some fun motor => limitThrust (xMix thrust.toNat (roll.toInt / 2) (pitch.toInt / 2) yaw.toInt motor) := by
  have hthrust := thrust.toNat_lt
  have hroll := And.intro roll.le_toInt roll.toInt_lt
  have hpitch := And.intro pitch.le_toInt pitch.toInt_lt
  have hyaw := And.intro yaw.le_toInt yaw.toInt_lt
  have hr : roll.toInt >>> (1 : ℕ) = roll.toInt / 2 := Int.shiftRight_eq_div_pow _ _
  have hp : pitch.toInt >>> (1 : ℕ) = pitch.toInt / 2 := Int.shiftRight_eq_div_pow _ _
  unfold distributePower
  simp (disch := omega) only [hr, hp, int32_eq_some, Option.bind_eq_bind, Option.bind_some]
  congr 1
  funext motor
  cases motor <;> rfl

/-- The mix determines the thrust and the three commands: the four shares and
    their signed sums give each of them four times, without the others. -/
theorem xMix_recover (thrust r p yaw : ℤ) :
    let mix := xMix thrust r p yaw
    mix .MOTOR_M1 + mix .MOTOR_M2 + mix .MOTOR_M3 + mix .MOTOR_M4 = 4 * thrust ∧
      -mix .MOTOR_M1 - mix .MOTOR_M2 + mix .MOTOR_M3 + mix .MOTOR_M4 = 4 * r ∧
      mix .MOTOR_M1 - mix .MOTOR_M2 - mix .MOTOR_M3 + mix .MOTOR_M4 = 4 * p ∧
      mix .MOTOR_M1 - mix .MOTOR_M2 + mix .MOTOR_M3 - mix .MOTOR_M4 = 4 * yaw := by
  simp only [xMix]
  refine ⟨by ring, by ring, by ring, by ring⟩

/-- From any rational outputs of the rate controllers and any thrust to the
    pulses: the saturated outputs are symmetric, the negated yaw fits, the powers
    are the clamped mix without an overflow, the pulses stay in their range and
    grow with the power, and without a clamp the mix can be undone exactly. -/
theorem motor_command_chain (esc : EscConfig) (undefined : ℚ → Int16) (output : RPY ℚ) (thrust : UInt16) :
    let roll := saturateSignedInt16 undefined output.roll
    let pitch := saturateSignedInt16 undefined output.pitch
    let yaw := saturateSignedInt16 undefined output.yaw
    (∀ command ∈ [roll, pitch, yaw], -32767 ≤ command.toInt ∧ command.toInt ≤ 32767) ∧
    (∃ yawCommand power, negate yaw = some yawCommand ∧ yawCommand.toInt = -yaw.toInt ∧
      distributePower thrust roll pitch yawCommand = some power ∧
      let mix := xMix thrust.toNat (roll.toInt / 2) (pitch.toInt / 2) yawCommand.toInt
      let m (motor : Motor) : ℤ := (power motor).toNat
      (∀ motor, m motor = max 0 (min 65535 (mix motor))) ∧
      ((∀ motor, 0 ≤ mix motor ∧ mix motor ≤ 65535) →
        m .MOTOR_M1 + m .MOTOR_M2 + m .MOTOR_M3 + m .MOTOR_M4 = 4 * thrust.toNat ∧
          -m .MOTOR_M1 - m .MOTOR_M2 + m .MOTOR_M3 + m .MOTOR_M4 = 4 * (roll.toInt / 2) ∧
          m .MOTOR_M1 - m .MOTOR_M2 - m .MOTOR_M3 + m .MOTOR_M4 = 4 * (pitch.toInt / 2) ∧
          m .MOTOR_M1 - m .MOTOR_M2 + m .MOTOR_M3 - m .MOTOR_M4 = 4 * yawCommand.toInt)) ∧
    (∀ ratio : UInt16,
      ratio.toNat * (esc.CONFIG_MOTOR_ESC_MAX - esc.CONFIG_MOTOR_ESC_MIN) < 2 ^ 32 ∧
        (motorsSetRatio esc ratio).toNat =
          ratio.toNat * (esc.CONFIG_MOTOR_ESC_MAX - esc.CONFIG_MOTOR_ESC_MIN) / 65535 +
            esc.CONFIG_MOTOR_ESC_MIN ∧
        esc.CONFIG_MOTOR_ESC_MIN ≤ (motorsSetRatio esc ratio).toNat ∧
        (motorsSetRatio esc ratio).toNat ≤ esc.CONFIG_MOTOR_ESC_MAX) ∧
    (∀ low high : UInt16, low ≤ high → motorsSetRatio esc low ≤ motorsSetRatio esc high) ∧
    (motorsSetRatio esc 0).toNat = esc.CONFIG_MOTOR_ESC_MIN ∧
    (motorsSetRatio esc 65535).toNat = esc.CONFIG_MOTOR_ESC_MAX := by
  intro roll pitch yaw
  obtain ⟨yawCommand, hnegate, hyaw⟩ := negate_eq_some (saturateSignedInt16_bounds undefined output.yaw).1
  refine ⟨?_, ?_, ?_, fun low high hle => motorsSetRatio_mono esc hle, motorsSetRatio_zero esc,
    motorsSetRatio_full esc⟩
  · intro command hcommand
    simp only [List.mem_cons, List.not_mem_nil, or_false] at hcommand
    obtain rfl | rfl | rfl := hcommand
    · exact saturateSignedInt16_bounds undefined output.roll
    · exact saturateSignedInt16_bounds undefined output.pitch
    · exact saturateSignedInt16_bounds undefined output.yaw
  · refine ⟨yawCommand, _, hnegate, hyaw, distributePower_eq thrust roll pitch yawCommand, ?_⟩
    intro mix m
    have hclamped : ∀ motor, m motor = max 0 (min 65535 (mix motor)) :=
      fun motor => limitThrust_toNat (mix motor)
    refine ⟨hclamped, ?_⟩
    intro hinside
    have hexact : ∀ motor, m motor = mix motor := by
      intro motor
      rw [hclamped motor, min_eq_right (hinside motor).2, max_eq_right (hinside motor).1]
    simp only [hexact]
    exact xMix_recover _ _ _ _
  · intro ratio
    exact ⟨ratio_mul_range_lt esc ratio, motorsSetRatio_toNat esc ratio, motorsSetRatio_bounds esc ratio⟩

end copter.stabilizer
