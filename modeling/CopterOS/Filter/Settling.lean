import CopterOS.Filter

open transition low_pass

namespace copter.filter

/-- The output of the application after `n` ones to the same sample. -/
def outputAfter (attenuation filt : Int32) (sample : Int16) (n : ℕ) : Int16 :=
  (iirLPFilterSingle sample.toInt32 attenuation (filtAfter attenuation filt (List.replicate n sample))).1

/-- A stored value of 16 bits and a fraction is within the reach of the filter. -/
theorem within_of_abs_le {filt : Int32} (hfilt : |filt.toInt| ≤ 2 ^ 23) (attenuation : Int32) :
    (lowPass attenuation).Within (-2 ^ 15) (2 ^ 15) filt.toInt := by
  obtain ⟨hlow, hhigh⟩ := abs_le.mp hfilt
  have hpos := (lowPass attenuation).gain_pos
  have hscale : (lowPass attenuation).scale = 256 := rfl
  unfold Filter.Within
  rw [hscale]
  omega

/-- A stored value at rest gives the sample or the number below it. -/
theorem output_of_rest {attenuation filt : Int32} {sample : Int16} (hsample : -2 ^ 15 < sample.toInt)
    (hwithin : (lowPass attenuation).Within (-2 ^ 15) (2 ^ 15) filt.toInt)
    (hrest : (lowPass attenuation).next filt.toInt sample.toInt = filt.toInt) :
    (iirLPFilterSingle sample.toInt32 attenuation filt).1.toInt = sample.toInt ∨
      (iirLPFilterSingle sample.toInt32 attenuation filt).1.toInt = sample.toInt - 1 := by
  have hwide := sample.toInt_toInt32
  have hhigh := sample.toInt_lt
  obtain ⟨_, hnext⟩ := exact_of_within (by omega : -2 ^ 15 ≤ sample.toInt32.toInt) (by omega) hwithin
  rw [hwide, hrest] at hnext
  obtain ⟨hbelow, hnear⟩ := ((lowPass attenuation).next_eq_iff _ _).mp hrest
  have hscale : (lowPass attenuation).scale = 256 := rfl
  rw [hscale] at hbelow hnear
  have hout : (iirLPFilterSingle sample.toInt32 attenuation filt).1.toInt = (filt.toInt + 128) / 256 := by
    rw [toInt_output, hnext]
    exact Int.bmod_eq_of_le (by omega) (by omega)
  rw [hout]
  omega

/-- Under a constant sample the stored value stops after finitely many applications
    of the filter, and from then on the output is the sample or one less. -/
theorem filter_settles {attenuation filt : Int32} {sample : Int16} (hfilt : |filt.toInt| ≤ 2 ^ 23)
    (hsample : -32768 < sample.toInt) :
    ∃ n, ∀ m, n ≤ m →
      filtAfter attenuation filt (List.replicate m sample) = filtAfter attenuation filt (List.replicate n sample) ∧
        ((outputAfter attenuation filt sample m).toInt = sample.toInt ∨
          (outputAfter attenuation filt sample m).toInt = sample.toInt - 1) := by
  have hstart := within_of_abs_le hfilt attenuation
  obtain ⟨n, hsettled⟩ := (lowPass attenuation).settles filt.toInt sample.toInt
  refine ⟨n, fun m hm => ?_⟩
  have hexact := fun k => filtAfter_replicate hstart k sample
  have hstays : (filtAfter attenuation filt (List.replicate m sample)).toInt =
      (filtAfter attenuation filt (List.replicate n sample)).toInt := by
    obtain ⟨k, rfl⟩ := Nat.exists_eq_add_of_le hm
    rw [hexact, hexact, List.replicate_add, run_append, run_replicate_of_fixed hsettled]
  have hsame := Int32.toInt_inj.mp hstays
  refine ⟨hsame, ?_⟩
  unfold outputAfter
  rw [hsame]
  rw [← hexact] at hsettled
  exact output_of_rest hsample (filtAfter_exact hstart _).2 hsettled

/-- From the highest stored value down to a small negative sample. -/
theorem filter_settles_from_above :
    ∃ n, ∀ m, n ≤ m →
      filtAfter 13 (2 ^ 23) (List.replicate m (-5)) = filtAfter 13 (2 ^ 23) (List.replicate n (-5)) ∧
        ((outputAfter 13 (2 ^ 23) (-5) m).toInt = -5 ∨ (outputAfter 13 (2 ^ 23) (-5) m).toInt = -5 - 1) :=
  filter_settles (by decide) (by decide)

end copter.filter
