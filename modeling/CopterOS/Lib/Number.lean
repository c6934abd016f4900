import Mathlib.Data.Int.Log
import Mathlib.Data.Rat.Floor
import Mathlib.Tactic.Linarith

namespace number

/-- Truncation toward zero, as in a conversion to an integer type. -/
def truncate (q : ℚ) : ℤ := if 0 ≤ q then ⌊q⌋ else ⌈q⌉

theorem truncate_of_nonneg {q : ℚ} (hq : 0 ≤ q) : truncate q = ⌊q⌋ := if_pos hq

theorem truncate_nonneg {q : ℚ} (hq : 0 ≤ q) : 0 ≤ truncate q := by
  rw [truncate_of_nonneg hq]
  exact Int.floor_nonneg.mpr hq

/-- Truncation stays inside a symmetric range with integer ends. -/
theorem truncate_mem_of_mem (q : ℚ) (bound : ℤ) (hlow : -(bound : ℚ) ≤ q) (hhigh : q ≤ bound) :
    -bound ≤ truncate q ∧ truncate q ≤ bound := by
  unfold truncate
  by_cases hq : 0 ≤ q
  · rw [if_pos hq]
    have hfloor : (⌊q⌋ : ℚ) ≤ bound := (Int.floor_le q).trans hhigh
    have hzero : 0 ≤ ⌊q⌋ := Int.floor_nonneg.mpr hq
    have hbound : ⌊q⌋ ≤ bound := by exact_mod_cast hfloor
    omega
  · rw [if_neg hq]
    have hceil : -(bound : ℚ) ≤ ⌈q⌉ := hlow.trans (Int.le_ceil q)
    have hzero : ⌈q⌉ ≤ 0 := Int.ceil_le.mpr (by push_cast; linarith)
    have hbound : -bound ≤ ⌈q⌉ := by exact_mod_cast hceil
    omega

/-- The nearest integer, and the even one of two. -/
def roundEven (x : ℚ) : ℤ :=
  if x - ⌊x⌋ < 1 / 2 then ⌊x⌋ else if 1 / 2 < x - ⌊x⌋ then ⌊x⌋ + 1 else ⌊x⌋ + ⌊x⌋ % 2

theorem roundEven_error (x : ℚ) : |(roundEven x : ℚ) - x| ≤ 1 / 2 := by
  have hlow := Int.floor_le x
  have hhigh := Int.lt_floor_add_one x
  have hparity : (0 : ℚ) ≤ (⌊x⌋ % 2 : ℤ) ∧ ((⌊x⌋ % 2 : ℤ) : ℚ) ≤ 1 := by
    have hmod : 0 ≤ ⌊x⌋ % 2 ∧ ⌊x⌋ % 2 ≤ 1 := by omega
    exact_mod_cast hmod
  unfold roundEven
  rw [abs_le]
  split
  · constructor <;> linarith
  · split
    · push_cast
      constructor <;> linarith
    · push_cast
      constructor <;> linarith [hparity.1, hparity.2]

theorem roundEven_intCast (n : ℤ) : roundEven n = n := by
  simp [roundEven]

/-- The binary64 number nearest to a given one, without bounds of the exponent. -/
def toDouble (q : ℚ) : ℚ :=
  let unit : ℚ := 2 ^ (Int.log 2 |q| - 52)
  roundEven (q / unit) * unit

/-- Numbers that can be converted to an integer; a value that is no number has
    no conversion. -/
class Truncate (A : Type) where
  toInt : A → Option ℤ

instance : Truncate ℚ := ⟨fun q => some (truncate q)⟩

@[simp] theorem toInt_rat (q : ℚ) : Truncate.toInt q = some (truncate q) := rfl

/-- Conversion to a 16-bit counter. It is defined only for numbers whose integer
    part fits; elsewhere the result is whatever the machine makes of it. -/
def toUInt16 {A : Type} [Truncate A] (undefined : A → UInt16) (a : A) : UInt16 :=
  match Truncate.toInt a with
  | some n => if 0 ≤ n ∧ n < 2 ^ 16 then UInt16.ofNat n.toNat else undefined a
  | none => undefined a

/-- A number inside the range of the counter is cut down to its integer part. -/
theorem toUInt16_toNat {q : ℚ} (hlow : 0 ≤ q) (hhigh : q ≤ 65535) (undefined : ℚ → UInt16) :
    ((toUInt16 undefined q).toNat : ℤ) = ⌊q⌋ := by
  have hnonneg : 0 ≤ ⌊q⌋ := Int.floor_nonneg.mpr hlow
  have hfloor : (⌊q⌋ : ℚ) ≤ 65535 := (Int.floor_le q).trans hhigh
  have hbound : ⌊q⌋ ≤ 65535 := by exact_mod_cast hfloor
  have hrange : 0 ≤ ⌊q⌋ ∧ ⌊q⌋ < 2 ^ 16 := by omega
  simp only [toUInt16, toInt_rat, truncate_of_nonneg hlow, if_pos hrange]
  rw [UInt16.toNat_ofNat']
  omega

theorem toUInt16_mono {p q : ℚ} (hlow : 0 ≤ p) (hpq : p ≤ q) (hhigh : q ≤ 65535) (undefined : ℚ → UInt16) :
    toUInt16 undefined p ≤ toUInt16 undefined q := by
  have hp := toUInt16_toNat hlow (hpq.trans hhigh) undefined
  have hq := toUInt16_toNat (hlow.trans hpq) hhigh undefined
  have hfloor : ⌊p⌋ ≤ ⌊q⌋ := Int.floor_le_floor hpq
  rw [UInt16.le_iff_toNat_le]
  omega

/-- A sum in machine words is the exact one up to wrapping. -/
theorem toInt_foldl_int32 {I : Type} (term : I → Int32) (entries : List I) (start : Int32) :
    (entries.foldl (fun sum i => sum + term i) start).toInt =
      (start.toInt + (entries.map fun i => (term i).toInt).sum).bmod (2 ^ 32) := by
  induction entries generalizing start with
  | nil => simp
  | cons entry entries ih =>
    rw [List.foldl_cons, ih, Int32.toInt_add, List.map_cons, List.sum_cons, Int.bmod_add_bmod, add_assoc]

theorem toInt_foldl_int64 {I : Type} (term : I → Int64) (entries : List I) (start : Int64) :
    (entries.foldl (fun sum i => sum + term i) start).toInt =
      (start.toInt + (entries.map fun i => (term i).toInt).sum).bmod (2 ^ 64) := by
  induction entries generalizing start with
  | nil => simp
  | cons entry entries ih =>
    rw [List.foldl_cons, ih, Int64.toInt_add, List.map_cons, List.sum_cons, Int.bmod_add_bmod, add_assoc]

/-- A floating-point value with exact arithmetic on its numbers: rounding,
    overflow to infinity and the sign of zero are left out. -/
inductive Flt where
  | finite (q : ℚ)
  | infinity (negative : Bool)
  | nan
  deriving DecidableEq

namespace Flt

/-- The binary32 value of a bit pattern. -/
def ofBits (bits : ℕ) : Flt :=
  let negative := bits / 2 ^ 31 % 2 == 1
  let exponent := bits / 2 ^ 23 % 2 ^ 8
  let fraction := bits % 2 ^ 23
  if exponent = 255 then
    if fraction = 0 then .infinity negative else .nan
  else
    let significand : ℕ := if exponent = 0 then 2 * fraction else (2 ^ 23 + fraction) * 2 ^ exponent
    let magnitude : ℚ := (significand : ℚ) / 2 ^ 150
    .finite (if negative then -magnitude else magnitude)

/-- Four bytes in little-endian order, read as a binary32 value. -/
def ofBytes (b0 b1 b2 b3 : UInt8) : Flt :=
  ofBits (b0.toNat + 2 ^ 8 * b1.toNat + 2 ^ 16 * b2.toNat + 2 ^ 24 * b3.toNat)

protected def neg : Flt → Flt
  | .finite a => .finite (-a)
  | .infinity negative => .infinity (!negative)
  | .nan => .nan

protected def add : Flt → Flt → Flt
  | .finite a, .finite b => .finite (a + b)
  | .finite _, .infinity negative => .infinity negative
  | .infinity negative, .finite _ => .infinity negative
  | .infinity left, .infinity right => if left = right then .infinity left else .nan
  | _, _ => .nan

protected def mul : Flt → Flt → Flt
  | .finite a, .finite b => .finite (a * b)
  | .finite a, .infinity negative => if a = 0 then .nan else .infinity (xor negative (a < 0))
  | .infinity negative, .finite b => if b = 0 then .nan else .infinity (xor negative (b < 0))
  | .infinity left, .infinity right => .infinity (xor left right)
  | _, _ => .nan

protected def div : Flt → Flt → Flt
  | .finite a, .finite b =>
    if b = 0 then if a = 0 then .nan else .infinity (a < 0) else .finite (a / b)
  | .finite _, .infinity _ => .finite 0
  | .infinity negative, .finite b => .infinity (xor negative (b < 0))
  | _, _ => .nan

/-- The ordered comparison: false as soon as one side is NaN. -/
protected def lt : Flt → Flt → Bool
  | .finite a, .finite b => a < b
  | .finite _, .infinity negative => !negative
  | .infinity negative, .finite _ => negative
  | .infinity left, .infinity right => left && !right
  | _, _ => false

instance : Zero Flt := ⟨.finite 0⟩
instance : RatCast Flt := ⟨.finite⟩
instance : Neg Flt := ⟨Flt.neg⟩
instance : Add Flt := ⟨Flt.add⟩
instance : Sub Flt := ⟨fun a b => a.add b.neg⟩
instance : Mul Flt := ⟨Flt.mul⟩
instance : Div Flt := ⟨Flt.div⟩
instance : LT Flt := ⟨fun a b => Flt.lt a b = true⟩
instance : DecidableLT Flt := fun a b => inferInstanceAs (Decidable (Flt.lt a b = true))

instance : Truncate Flt where
  toInt
    | .finite q => some (truncate q)
    | _ => none

@[simp] theorem ratCast_eq (q : ℚ) : (q : Flt) = finite q := rfl
@[simp] theorem add_finite (a b : ℚ) : finite a + finite b = finite (a + b) := rfl
@[simp] theorem mul_finite (a b : ℚ) : finite a * finite b = finite (a * b) := rfl

theorem div_finite {b : ℚ} (hb : b ≠ 0) (a : ℚ) : finite a / finite b = finite (a / b) := by
  change Flt.div (finite a) (finite b) = finite (a / b)
  simp [Flt.div, hb]

@[simp] theorem finite_lt_finite (a b : ℚ) : finite a < finite b ↔ a < b := by
  change decide (a < b) = true ↔ a < b
  simp

@[simp] theorem not_nan_lt (a : Flt) : ¬ nan < a := by
  change ¬ Flt.lt nan a = true
  simp [Flt.lt]

@[simp] theorem not_lt_nan (a : Flt) : ¬ a < nan := by
  change ¬ Flt.lt a nan = true
  cases a <;> simp [Flt.lt]

theorem lt_irrefl (a : Flt) : ¬ a < a := by
  change ¬ Flt.lt a a = true
  cases a <;> simp [Flt.lt]

/-- A value that is a number. -/
def IsFinite (a : Flt) : Prop := ∃ q, a = finite q

@[simp] theorem isFinite_finite (q : ℚ) : (finite q).IsFinite := ⟨q, rfl⟩

theorem IsFinite.neg {a : Flt} (ha : a.IsFinite) : (-a).IsFinite := by
  obtain ⟨q, rfl⟩ := ha
  exact ⟨-q, rfl⟩

theorem IsFinite.add {a b : Flt} (ha : a.IsFinite) (hb : b.IsFinite) : (a + b).IsFinite := by
  obtain ⟨p, rfl⟩ := ha
  obtain ⟨q, rfl⟩ := hb
  exact ⟨p + q, rfl⟩

theorem IsFinite.sub {a b : Flt} (ha : a.IsFinite) (hb : b.IsFinite) : (a - b).IsFinite :=
  IsFinite.add ha hb.neg

theorem IsFinite.mul {a b : Flt} (ha : a.IsFinite) (hb : b.IsFinite) : (a * b).IsFinite := by
  obtain ⟨p, rfl⟩ := ha
  obtain ⟨q, rfl⟩ := hb
  exact ⟨p * q, rfl⟩

/-- A test that rejects by two comparisons lets NaN through. -/
theorem not_outside_iff (a : Flt) (low high : ℚ) :
    ¬ (a < finite low ∨ finite high < a) ↔ a = nan ∨ ∃ q, a = finite q ∧ low ≤ q ∧ q ≤ high := by
  cases a with
  | finite q => simp
  | nan => simp
  | infinity negative =>
    have hlow : infinity negative < finite low ↔ negative = true := Iff.rfl
    have hhigh : finite high < infinity negative ↔ (!negative) = true := Iff.rfl
    cases negative <;> simp [hlow, hhigh]

end Flt

end number
