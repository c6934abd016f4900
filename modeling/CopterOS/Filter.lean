import CopterOS.Lib.LowPass
import CopterOS.Lib.Number
import Mathlib.Data.List.Induction

open transition low_pass number

namespace copter.filter

def IIR_SHIFT : Int32 := 8

/-- The attenuation, brought into the range from 1 to 256. -/
def limitAttenuation (attenuation : Int32) : Int32 :=
  if attenuation > 1 <<< IIR_SHIFT then 1 <<< IIR_SHIFT else if attenuation < 1 then 1 else attenuation

def inScaled (input : Int32) : Int32 := input <<< IIR_SHIFT

/-- What is added to the stored value. -/
def product (input attenuation filt : Int32) : Int32 := ((inScaled input - filt) >>> IIR_SHIFT) * attenuation

def filttmp (input attenuation filt : Int32) : Int32 := filt + product input attenuation filt

/-- The lowest bit of the rounding. -/
def roundBit (filttmp : Int32) : Int32 := (filttmp &&& (1 <<< (IIR_SHIFT - 1))) >>> (IIR_SHIFT - 1)

/-- The rounded value, before it is assigned to the 16-bit output. -/
def rounded (filttmp : Int32) : Int32 := (filttmp >>> 8) + roundBit filttmp

/-- The output and the new stored value. -/
def iirLPFilterSingle (input attenuation filt : Int32) : Int16 × Int32 :=
  let attenuation := limitAttenuation attenuation
  let filttmp := filttmp input attenuation filt
  ((rounded filttmp).toInt16, filttmp)

/-- The stored value after a sequence of samples. -/
def filtAfter (attenuation filt : Int32) (samples : List Int16) : Int32 :=
  run (fun filt sample => (iirLPFilterSingle sample.toInt32 attenuation filt).2) filt samples

/-- Each operation of the filter gives its exact result. -/
structure Exact (input attenuation filt : Int32) : Prop where
  inScaled : (inScaled input).toInt = input.toInt * 2 ^ 8
  difference : (copter.filter.inScaled input - filt).toInt = (copter.filter.inScaled input).toInt - filt.toInt
  product : (product input attenuation filt).toInt =
    ((copter.filter.inScaled input - filt) >>> IIR_SHIFT).toInt * attenuation.toInt
  filttmp : (filttmp input attenuation filt).toInt =
    filt.toInt + (copter.filter.product input attenuation filt).toInt
  rounded : (rounded (copter.filter.filttmp input attenuation filt)).toInt =
    (copter.filter.filttmp input attenuation filt >>> 8).toInt +
      (roundBit (copter.filter.filttmp input attenuation filt)).toInt

theorem toInt_inScaled (input : Int32) : (inScaled input).toInt = (input.toInt * 256).bmod (2 ^ 32) := by
  change (input.toBitVec <<< 8).toInt = _
  rw [BitVec.shiftLeft_eq_mul_twoPow, BitVec.toInt_mul]
  rfl

/-- The shift to the right rounds down, also for negative numbers. -/
theorem toInt_shiftRight_8 (a : Int32) : (a >>> IIR_SHIFT).toInt = a.toInt / 256 := by
  have hshift := BitVec.toInt_sshiftRight (x := a.toBitVec) (n := 8)
  rw [Int.shiftRight_eq_div_pow] at hshift
  exact hshift

theorem toInt_roundBit (filttmp : Int32) : (roundBit filttmp).toInt = filttmp.toInt / 128 % 2 := by
  change ((filttmp.toBitVec &&& BitVec.twoPow 32 7).sshiftRight 7).toInt = filttmp.toBitVec.toInt / 128 % 2
  have hbit : filttmp.toBitVec.getLsbD 7 = true ↔ filttmp.toBitVec.toNat / 128 % 2 = 1 := by
    rw [BitVec.getLsbD, Nat.testBit_eq_decide_div_mod_eq, decide_eq_true_iff]
  rw [BitVec.and_twoPow, BitVec.toInt_eq_toNat_cond filttmp.toBitVec]
  split
  case isTrue hset =>
    have hone := hbit.mp hset
    change (1 : ℤ) = _
    split <;> omega
  case isFalse hclear =>
    have hzero := mt hbit.mpr hclear
    change (0 : ℤ) = _
    split <;> omega

theorem toInt_rounded_eq_add (filttmp : Int32) :
    (rounded filttmp).toInt = (filttmp >>> 8).toInt + (roundBit filttmp).toInt := by
  have hlow := filttmp.le_toInt
  have hhigh := filttmp.toInt_lt
  have hshift : (filttmp >>> 8).toInt = filttmp.toInt / 256 := toInt_shiftRight_8 filttmp
  unfold rounded
  rw [Int32.toInt_add, hshift, toInt_roundBit]
  exact Int.bmod_eq_of_le (by omega) (by omega)

/-- Half a sample is rounded up. -/
theorem toInt_rounded (filttmp : Int32) : (rounded filttmp).toInt = (filttmp.toInt + 128) / 256 := by
  have hshift : (filttmp >>> 8).toInt = filttmp.toInt / 256 := toInt_shiftRight_8 filttmp
  rw [toInt_rounded_eq_add, hshift, toInt_roundBit]
  omega

/-- The output is the rounded value, narrowed to 16 bits. -/
theorem toInt_output (input attenuation filt : Int32) :
    (iirLPFilterSingle input attenuation filt).1.toInt =
      (((filttmp input (limitAttenuation attenuation) filt).toInt + 128) / 256).bmod (2 ^ 16) := by
  rw [← toInt_rounded]
  exact Int32.toInt_toInt16 _

theorem limitAttenuation_bounds (attenuation : Int32) :
    0 < (limitAttenuation attenuation).toInt ∧ (limitAttenuation attenuation).toInt ≤ 256 := by
  have hshift : (1 : Int32) <<< IIR_SHIFT = 256 := rfl
  unfold limitAttenuation
  rw [hshift]
  split
  case isTrue => decide
  case isFalse hmax =>
    split
    case isTrue => decide
    case isFalse hmin =>
      rw [gt_iff_lt, Int32.lt_iff_toInt_lt] at hmax
      rw [Int32.lt_iff_toInt_lt] at hmin
      have h256 : (256 : Int32).toInt = 256 := rfl
      have h1 : (1 : Int32).toInt = 1 := rfl
      omega

/-- The filter in exact integers. -/
def lowPass (attenuation : Int32) : Filter where
  scale := 256
  gain := (limitAttenuation attenuation).toInt
  gain_pos := (limitAttenuation_bounds attenuation).1
  gain_le := (limitAttenuation_bounds attenuation).2

/-- Between 16-bit samples no operation of the filter overflows. -/
theorem exact_of_within {input attenuation filt : Int32} (hlow : -2 ^ 15 ≤ input.toInt)
    (hhigh : input.toInt ≤ 2 ^ 15) (hwithin : (lowPass attenuation).Within (-2 ^ 15) (2 ^ 15) filt.toInt) :
    Exact input (limitAttenuation attenuation) filt ∧
      (filttmp input (limitAttenuation attenuation) filt).toInt =
        (lowPass attenuation).next filt.toInt input.toInt := by
  obtain ⟨hgainPos, hgainLe⟩ := limitAttenuation_bounds attenuation
  obtain ⟨hover, hunder⟩ := hwithin
  have hgain : (lowPass attenuation).gain = (limitAttenuation attenuation).toInt := rfl
  have hscale : (lowPass attenuation).scale = 256 := rfl
  rw [hscale, hgain] at hover
  rw [hscale] at hunder
  have hscaled : (inScaled input).toInt = input.toInt * 2 ^ 8 := by
    rw [toInt_inScaled]
    exact Int.bmod_eq_of_le (by omega) (by omega)
  have hdifference : (inScaled input - filt).toInt = (inScaled input).toInt - filt.toInt := by
    rw [Int32.toInt_sub, hscaled]
    exact Int.bmod_eq_of_le (by omega) (by omega)
  have hquotient : ((inScaled input - filt) >>> IIR_SHIFT).toInt =
      (lowPass attenuation).difference filt.toInt input.toInt := by
    rw [toInt_shiftRight_8, hdifference, hscaled, Filter.difference, hscale, mul_comm input.toInt]
    rfl
  have hbound : |(lowPass attenuation).difference filt.toInt input.toInt * (limitAttenuation attenuation).toInt| ≤
      65537 * 256 := by
    have hfloor := (lowPass attenuation).difference_bounds filt.toInt input.toInt
    rw [hscale] at hfloor
    rw [abs_mul]
    exact mul_le_mul (abs_le.mpr ⟨by omega, by omega⟩) (abs_le.mpr ⟨by omega, by omega⟩) (abs_nonneg _) (by norm_num)
  obtain ⟨hproductLow, hproductHigh⟩ := abs_le.mp hbound
  have hproduct : (product input (limitAttenuation attenuation) filt).toInt =
      ((inScaled input - filt) >>> IIR_SHIFT).toInt * (limitAttenuation attenuation).toInt := by
    unfold product
    rw [Int32.toInt_mul, hquotient]
    exact Int.bmod_eq_of_le (by omega) (by omega)
  have hsum : (filttmp input (limitAttenuation attenuation) filt).toInt =
      filt.toInt + (product input (limitAttenuation attenuation) filt).toInt := by
    unfold filttmp
    rw [Int32.toInt_add, hproduct, hquotient]
    exact Int.bmod_eq_of_le (by omega) (by omega)
  refine ⟨⟨hscaled, hdifference, hproduct, hsum, toInt_rounded_eq_add _⟩, ?_⟩
  rw [hsum, hproduct, hquotient]
  rfl

@[simp] theorem filtAfter_concat (attenuation filt : Int32) (samples : List Int16) (sample : Int16) :
    filtAfter attenuation filt (samples ++ [sample]) =
      filttmp sample.toInt32 (limitAttenuation attenuation) (filtAfter attenuation filt samples) := by
  simp [filtAfter, iirLPFilterSingle]

/-- From a stored value of 16 bits and a fraction the filter runs as in exact
    integers. -/
theorem filtAfter_exact {attenuation filt : Int32}
    (hwithin : (lowPass attenuation).Within (-2 ^ 15) (2 ^ 15) filt.toInt) (samples : List Int16) :
    (filtAfter attenuation filt samples).toInt =
        run (lowPass attenuation).next filt.toInt (samples.map Int16.toInt) ∧
      (lowPass attenuation).Within (-2 ^ 15) (2 ^ 15) (filtAfter attenuation filt samples).toInt := by
  induction samples using List.reverseRecOn with
  | nil => exact ⟨rfl, hwithin⟩
  | append_singleton samples sample ih =>
    obtain ⟨hstored, hrange⟩ := ih
    have hsample := sample.toInt_toInt32
    have hlow : -2 ^ 15 ≤ sample.toInt := sample.le_toInt
    have hhigh : sample.toInt ≤ 2 ^ 15 := sample.toInt_lt.le
    rw [← hsample] at hlow hhigh
    obtain ⟨_, hnext⟩ := exact_of_within hlow hhigh hrange
    rw [hsample] at hlow hhigh hnext
    rw [filtAfter_concat, hnext, List.map_append, run_append, ← hstored]
    exact ⟨rfl, hrange.next hlow hhigh⟩

/-- The same sample again and again, as in exact integers. -/
theorem filtAfter_replicate {attenuation filt : Int32}
    (hwithin : (lowPass attenuation).Within (-2 ^ 15) (2 ^ 15) filt.toInt) (n : ℕ) (sample : Int16) :
    (filtAfter attenuation filt (List.replicate n sample)).toInt =
      run (lowPass attenuation).next filt.toInt (List.replicate n sample.toInt) := by
  rw [(filtAfter_exact hwithin _).1, List.map_replicate]

end copter.filter
