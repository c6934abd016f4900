import Mathlib.Data.UInt
import Mathlib.Tactic.Linarith

namespace copter.motors

/-- The configured range of the speed controllers' pulses. -/
structure EscConfig where
  CONFIG_MOTOR_ESC_MIN : ℕ
  CONFIG_MOTOR_ESC_MAX : ℕ
  min_le_max : CONFIG_MOTOR_ESC_MIN ≤ CONFIG_MOTOR_ESC_MAX
  max_le : CONFIG_MOTOR_ESC_MAX ≤ 65535

/-- The value handed to `motor_set`, in the arithmetic of `uint32_t`. -/
def motorsSetRatio (esc : EscConfig) (ratio : UInt16) : UInt32 :=
  ratio.toUInt32 * UInt32.ofNat (esc.CONFIG_MOTOR_ESC_MAX - esc.CONFIG_MOTOR_ESC_MIN) / 65535 +
    UInt32.ofNat esc.CONFIG_MOTOR_ESC_MIN

theorem ratio_toNat_le (ratio : UInt16) : ratio.toNat ≤ 65535 := by
  have hratio := ratio.toNat_lt
  omega

/-- A fraction of 65535 never exceeds the whole. -/
theorem ratio_mul_div_le (ratio : UInt16) (range : ℕ) : ratio.toNat * range / 65535 ≤ range := by
  calc ratio.toNat * range / 65535 ≤ 65535 * range / 65535 :=
        Nat.div_le_div_right (Nat.mul_le_mul_right range (ratio_toNat_le ratio))
    _ = range := Nat.mul_div_cancel_left range (by omega)

/-- The product of the ratio and the range fits 32 bits. -/
theorem ratio_mul_range_lt (esc : EscConfig) (ratio : UInt16) :
    ratio.toNat * (esc.CONFIG_MOTOR_ESC_MAX - esc.CONFIG_MOTOR_ESC_MIN) < 2 ^ 32 := by
  have hrange : esc.CONFIG_MOTOR_ESC_MAX - esc.CONFIG_MOTOR_ESC_MIN ≤ 65535 := by
    have hmax := esc.max_le
    omega
  have hproduct := Nat.mul_le_mul (ratio_toNat_le ratio) hrange
  omega

theorem toNat_ofNat_of_le {n : ℕ} (hn : n ≤ 65535) : (UInt32.ofNat n).toNat = n :=
  UInt32.toNat_ofNat_of_lt' (hn.trans_lt (by decide))

/-- No operation of the scaling wraps. -/
theorem motorsSetRatio_toNat (esc : EscConfig) (ratio : UInt16) :
    (motorsSetRatio esc ratio).toNat =
      ratio.toNat * (esc.CONFIG_MOTOR_ESC_MAX - esc.CONFIG_MOTOR_ESC_MIN) / 65535 +
        esc.CONFIG_MOTOR_ESC_MIN := by
  have hmax := esc.max_le
  have hmin := esc.min_le_max
  have hproduct := ratio_mul_range_lt esc ratio
  have hpart := ratio_mul_div_le ratio (esc.CONFIG_MOTOR_ESC_MAX - esc.CONFIG_MOTOR_ESC_MIN)
  have hrange : (UInt32.ofNat (esc.CONFIG_MOTOR_ESC_MAX - esc.CONFIG_MOTOR_ESC_MIN)).toNat =
      esc.CONFIG_MOTOR_ESC_MAX - esc.CONFIG_MOTOR_ESC_MIN := toNat_ofNat_of_le (by omega)
  have hlow : (UInt32.ofNat esc.CONFIG_MOTOR_ESC_MIN).toNat = esc.CONFIG_MOTOR_ESC_MIN :=
    toNat_ofNat_of_le (by omega)
  have hdivisor : (65535 : UInt32).toNat = 65535 := rfl
  unfold motorsSetRatio
  rw [UInt32.toNat_add, UInt32.toNat_div, UInt32.toNat_mul, UInt16.toNat_toUInt32, hrange, hlow, hdivisor,
    Nat.mod_eq_of_lt hproduct, Nat.mod_eq_of_lt (by omega)]

/-- Every pulse is in the configured range. -/
theorem motorsSetRatio_bounds (esc : EscConfig) (ratio : UInt16) :
    esc.CONFIG_MOTOR_ESC_MIN ≤ (motorsSetRatio esc ratio).toNat ∧
      (motorsSetRatio esc ratio).toNat ≤ esc.CONFIG_MOTOR_ESC_MAX := by
  have hmin := esc.min_le_max
  have hpart := ratio_mul_div_le ratio (esc.CONFIG_MOTOR_ESC_MAX - esc.CONFIG_MOTOR_ESC_MIN)
  rw [motorsSetRatio_toNat]
  omega

/-- More power never gives a shorter pulse. -/
theorem motorsSetRatio_mono (esc : EscConfig) {low high : UInt16} (hle : low ≤ high) :
    motorsSetRatio esc low ≤ motorsSetRatio esc high := by
  rw [UInt32.le_iff_toNat_le, motorsSetRatio_toNat, motorsSetRatio_toNat]
  have hproduct := Nat.mul_le_mul_right (esc.CONFIG_MOTOR_ESC_MAX - esc.CONFIG_MOTOR_ESC_MIN)
    (UInt16.le_iff_toNat_le.mp hle)
  exact Nat.add_le_add_right (Nat.div_le_div_right hproduct) _

/-- No power is exactly the shortest pulse. -/
theorem motorsSetRatio_zero (esc : EscConfig) :
    (motorsSetRatio esc 0).toNat = esc.CONFIG_MOTOR_ESC_MIN := by
  rw [motorsSetRatio_toNat]
  simp

/-- Full power is exactly the longest pulse. -/
theorem motorsSetRatio_full (esc : EscConfig) :
    (motorsSetRatio esc 65535).toNat = esc.CONFIG_MOTOR_ESC_MAX := by
  have hmin := esc.min_le_max
  have hfull : (65535 : UInt16).toNat = 65535 := rfl
  rw [motorsSetRatio_toNat, hfull, Nat.mul_div_cancel_left _ (by omega)]
  omega

end copter.motors
