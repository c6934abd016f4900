import CopterOS.Filter
import CopterOS.Lib.History

open transition low_pass history

namespace copter.filter

/-- The lowest of zero and all samples. -/
def lowest (samples : List Int16) : ℤ := (samples.map Int16.toInt).foldl min 0

/-- The highest of zero and all samples. -/
def highest (samples : List Int16) : ℤ := (samples.map Int16.toInt).foldl max 0

/-- What is promised of one more sample: no operation overflows, the output is the
    rounded value, and it is near the samples so far. -/
structure Sound (attenuation : Int32) (before : List Int16) (sample : Int16) : Prop where
  exact : Exact sample.toInt32 (limitAttenuation attenuation) (filtAfter attenuation 0 before)
  fits : (iirLPFilterSingle sample.toInt32 attenuation (filtAfter attenuation 0 before)).1.toInt =
    (rounded (filtAfter attenuation 0 (before ++ [sample]))).toInt
  low : lowest (before ++ [sample]) - 1 ≤
    (iirLPFilterSingle sample.toInt32 attenuation (filtAfter attenuation 0 before)).1.toInt
  high : (iirLPFilterSingle sample.toInt32 attenuation (filtAfter attenuation 0 before)).1.toInt ≤
    highest (before ++ [sample])

def NeverWraps (attenuation : Int32) (samples : List Int16) : Prop :=
  ∀ before sample after, samples = before ++ sample :: after → Sound attenuation before sample

/-- How far the multiples of the attenuation miss the lowest scaled sample. -/
def residue (attenuation : Int32) : ℤ := -2 ^ 23 % (limitAttenuation attenuation).toInt

/-- A step from the stored value that ends more than half a sample below the lowest
    16-bit number. -/
def Undershoots (attenuation filt : Int32) (sample : Int16) : Prop :=
  sample.toInt = -2 ^ 15 ∧ 128 < residue attenuation ∧
    (filt.toInt + 2 ^ 23 + residue attenuation) * (256 - (limitAttenuation attenuation).toInt) <
      (limitAttenuation attenuation).toInt * (256 - residue attenuation)

instance (attenuation filt : Int32) (sample : Int16) : Decidable (Undershoots attenuation filt sample) :=
  inferInstanceAs (Decidable (_ ∧ _ ∧ _))

@[simp] theorem lowest_concat (samples : List Int16) (sample : Int16) :
    lowest (samples ++ [sample]) = min (lowest samples) sample.toInt := by
  simp [lowest]

@[simp] theorem highest_concat (samples : List Int16) (sample : Int16) :
    highest (samples ++ [sample]) = max (highest samples) sample.toInt := by
  simp [highest]

theorem lowest_bounds (samples : List Int16) : -2 ^ 15 ≤ lowest samples ∧ lowest samples ≤ 0 := by
  induction samples using List.reverseRecOn with
  | nil => decide
  | append_singleton samples sample ih =>
    have hsample := sample.le_toInt
    rw [lowest_concat]
    omega

theorem highest_bounds (samples : List Int16) : 0 ≤ highest samples ∧ highest samples < 2 ^ 15 := by
  induction samples using List.reverseRecOn with
  | nil => decide
  | append_singleton samples sample ih =>
    have hsample := sample.toInt_lt
    rw [highest_concat]
    omega

/-- What is known of the stored value after the samples. -/
structure Tracks (attenuation : Int32) (samples : List Int16) (filt : Int32) : Prop where
  gain_dvd : (lowPass attenuation).gain ∣ filt.toInt
  within : (lowPass attenuation).Within (lowest samples) (highest samples) filt.toInt

theorem Tracks.wide {attenuation filt : Int32} {samples : List Int16} (htracks : Tracks attenuation samples filt) :
    (lowPass attenuation).Within (-2 ^ 15) (2 ^ 15) filt.toInt :=
  htracks.within.mono (lowest_bounds samples).1 (highest_bounds samples).2.le

theorem Tracks.exact {attenuation filt : Int32} {samples : List Int16} (htracks : Tracks attenuation samples filt)
    (sample : Int16) :
    Exact sample.toInt32 (limitAttenuation attenuation) filt ∧
      (filttmp sample.toInt32 (limitAttenuation attenuation) filt).toInt =
        (lowPass attenuation).next filt.toInt sample.toInt := by
  have hsample := sample.toInt_toInt32
  have hlow : -2 ^ 15 ≤ sample.toInt32.toInt := by
    rw [hsample]
    exact sample.le_toInt
  have hhigh : sample.toInt32.toInt ≤ 2 ^ 15 := by
    rw [hsample]
    exact sample.toInt_lt.le
  have hexact := exact_of_within hlow hhigh htracks.wide
  rwa [hsample] at hexact

theorem Tracks.concat {attenuation filt : Int32} {samples : List Int16} (htracks : Tracks attenuation samples filt)
    (sample : Int16) :
    Tracks attenuation (samples ++ [sample]) (filttmp sample.toInt32 (limitAttenuation attenuation) filt) := by
  have hnext := (htracks.exact sample).2
  refine ⟨?_, ?_⟩
  · rw [hnext]
    exact Filter.gain_dvd_next htracks.gain_dvd _
  · rw [hnext, lowest_concat, highest_concat]
    exact (htracks.within.mono (min_le_left _ _) (le_max_left _ _)).next (min_le_right _ _) (le_max_right _ _)

theorem filtAfter_tracks (attenuation : Int32) (samples : List Int16) :
    Tracks attenuation samples (filtAfter attenuation 0 samples) := by
  induction samples using List.reverseRecOn with
  | nil =>
    have hpos := (lowPass attenuation).gain_pos
    refine ⟨⟨0, by simp [filtAfter]⟩, ?_, ?_⟩
    · change 256 * 0 - (lowPass attenuation).gain < 0
      omega
    · change (0 : ℤ) ≤ 256 * 0
      omega
  | append_singleton samples sample ih =>
    rw [filtAfter_concat]
    exact ih.concat sample

theorem lowPass_residue (attenuation : Int32) : (lowPass attenuation).residue (-2 ^ 15) = residue attenuation := rfl

theorem lowPass_bottom (attenuation : Int32) :
    (lowPass attenuation).bottom (-2 ^ 15) = -2 ^ 23 - residue attenuation := rfl

/-- Over the lowest 16-bit number lie all stored values but one. -/
theorem Tracks.over {attenuation filt : Int32} {samples : List Int16} (htracks : Tracks attenuation samples filt) :
    (lowPass attenuation).scale * -2 ^ 15 - (lowPass attenuation).gain < filt.toInt :=
  htracks.wide.1

/-- Under the lowest sample the stored value falls to the one below that number
    exactly when it is near enough. -/
theorem Tracks.next_lowest_iff {attenuation filt : Int32} {samples : List Int16}
    (htracks : Tracks attenuation samples filt) :
    (lowPass attenuation).next filt.toInt (-2 ^ 15) = -2 ^ 23 - residue attenuation ↔
      (filt.toInt + 2 ^ 23 + residue attenuation) * (256 - (limitAttenuation attenuation).toInt) <
        (limitAttenuation attenuation).toInt * (256 - residue attenuation) := by
  have hiff := Filter.next_low_eq_bottom_iff htracks.gain_dvd htracks.over
  rw [lowPass_bottom, lowPass_residue] at hiff
  have hsum : filt.toInt - (-2 ^ 23 - residue attenuation) = filt.toInt + 2 ^ 23 + residue attenuation := by ring
  rw [hsum] at hiff
  exact hiff

/-- Only the lowest sample leads below the 16-bit numbers, and only to one value. -/
theorem Tracks.lowest_of_next_lt {attenuation filt : Int32} {samples : List Int16}
    (htracks : Tracks attenuation samples filt) {sample : Int16}
    (hless : (lowPass attenuation).next filt.toInt sample.toInt < -2 ^ 23 - 128) :
    sample.toInt = -2 ^ 15 ∧ (lowPass attenuation).next filt.toInt (-2 ^ 15) = -2 ^ 23 - residue attenuation := by
  have hscale : (lowPass attenuation).scale * -2 ^ 15 = -2 ^ 23 := rfl
  have hsample : sample.toInt = -2 ^ 15 := by
    by_contra hne
    have hlow := sample.le_toInt
    have hhigher : -2 ^ 15 < sample.toInt := by omega
    have habove := Filter.lt_next_of_lt htracks.gain_dvd htracks.over hhigher
    omega
  rw [hsample] at hless
  have hdvd := Filter.gain_dvd_next htracks.gain_dvd (-2 ^ 15)
  have hover : (lowPass attenuation).scale * -2 ^ 15 - (lowPass attenuation).gain <
      (lowPass attenuation).next filt.toInt (-2 ^ 15) :=
    (htracks.wide.next (le_refl _) (by norm_num)).1
  obtain hlands | habove := Filter.eq_bottom_or_lt hdvd hover
  · exact ⟨hsample, hlands.trans (lowPass_bottom attenuation)⟩
  · omega

/-- The step ends below the 16-bit numbers exactly from where it undershoots. -/
theorem Tracks.undershoots_iff {attenuation filt : Int32} {samples : List Int16}
    (htracks : Tracks attenuation samples filt) (sample : Int16) :
    Undershoots attenuation filt sample ↔
      (lowPass attenuation).next filt.toInt sample.toInt < -2 ^ 23 - 128 := by
  unfold Undershoots
  rw [← htracks.next_lowest_iff]
  constructor
  · rintro ⟨hsample, hresidue, hlands⟩
    rw [hsample, hlands]
    omega
  · intro hless
    obtain ⟨hsample, hlands⟩ := htracks.lowest_of_next_lt hless
    rw [hsample, hlands] at hless
    exact ⟨hsample, by omega, hlands⟩

/-- One more sample is treated as promised unless the step undershoots. -/
theorem Tracks.sound_iff {attenuation : Int32} {samples : List Int16}
    (htracks : Tracks attenuation samples (filtAfter attenuation 0 samples)) (sample : Int16) :
    Sound attenuation samples sample ↔ ¬ Undershoots attenuation (filtAfter attenuation 0 samples) sample := by
  obtain ⟨hexact, hnext⟩ := htracks.exact sample
  obtain ⟨hover, hunder⟩ := (htracks.concat sample).within
  have hgain : (lowPass attenuation).gain ≤ 256 := (lowPass attenuation).gain_le
  have hscale : (lowPass attenuation).scale = 256 := rfl
  have hlowest := lowest_bounds (samples ++ [sample])
  have hhighest := highest_bounds (samples ++ [sample])
  rw [htracks.undershoots_iff, ← hnext]
  rw [hscale] at hover hunder
  constructor
  · rintro ⟨_, hfits, _, _⟩ hless
    rw [toInt_output, filtAfter_concat, toInt_rounded] at hfits
    have hrange := Int.le_bmod (x := ((filttmp sample.toInt32 (limitAttenuation attenuation)
      (filtAfter attenuation 0 samples)).toInt + 128) / 256) (m := 2 ^ 16) (by decide)
    omega
  · intro hfloor
    have hfits : (iirLPFilterSingle sample.toInt32 attenuation (filtAfter attenuation 0 samples)).1.toInt =
        ((filttmp sample.toInt32 (limitAttenuation attenuation)
          (filtAfter attenuation 0 samples)).toInt + 128) / 256 := by
      rw [toInt_output]
      exact Int.bmod_eq_of_le (by omega) (by omega)
    refine ⟨hexact, ?_, ?_, ?_⟩
    · rw [hfits, filtAfter_concat, toInt_rounded]
    · rw [hfits]
      omega
    · rw [hfits]
      omega

/-- The lowest sample, again and again, leads to the bottom, and stays there. -/
theorem exists_undershoots {attenuation : Int32} (hresidue : 128 < residue attenuation) :
    ∃ n, Undershoots attenuation (filtAfter attenuation 0 (List.replicate n (-32768))) (-32768) := by
  obtain ⟨n, hsettled⟩ := (lowPass attenuation).settles 0 (-2 ^ 15)
  have htracks := filtAfter_tracks attenuation (List.replicate n (-32768))
  have hstored : (filtAfter attenuation 0 (List.replicate n (-32768))).toInt =
      run (lowPass attenuation).next 0 (List.replicate n (-2 ^ 15)) :=
    filtAfter_replicate (filtAfter_tracks attenuation []).wide n (-32768)
  rw [← hstored] at hsettled
  refine ⟨n, (htracks.undershoots_iff _).mpr ?_⟩
  have hbelow := (((lowPass attenuation).next_eq_iff _ _).mp hsettled).1
  obtain hbottom | habove := Filter.eq_bottom_or_lt htracks.gain_dvd htracks.over
  · rw [lowPass_bottom] at hbottom
    have hsample : (-32768 : Int16).toInt = -2 ^ 15 := rfl
    rw [hsample, hsettled, hbottom]
    omega
  · exact absurd hbelow (not_le.mpr habove)

theorem neverWraps_iff_forall (attenuation : Int32) (samples : List Int16) :
    NeverWraps attenuation samples ↔
      ∀ before sample after, samples = before ++ sample :: after →
        ¬ Undershoots attenuation (filtAfter attenuation 0 before) sample := by
  have hsound := fun before => (filtAfter_tracks attenuation before).sound_iff
  constructor
  · intro hnever before sample after hsplit
    exact (hsound before sample).mp (hnever before sample after hsplit)
  · intro hnever before sample after hsplit
    exact (hsound before sample).mpr (hnever before sample after hsplit)

/-- Where the multiples of the attenuation come near enough to the lowest scaled sample,
    no sequence wraps. -/
theorem neverWraps_of_residue {attenuation : Int32} (hresidue : residue attenuation ≤ 128) (samples : List Int16) :
    NeverWraps attenuation samples := by
  rw [neverWraps_iff_forall]
  rintro before sample after _ ⟨_, hwide, _⟩
  omega

/-- The filter never wraps along the sequences of samples without a step that
    undershoots, and along all sequences exactly if the multiples of the attenuation
    miss the lowest scaled sample by half a sample at most. -/
theorem neverWraps_iff (attenuation : Int32) :
    (∀ samples, NeverWraps attenuation samples ↔
      ∀ before sample after, samples = before ++ sample :: after →
        ¬ Undershoots attenuation (filtAfter attenuation 0 before) sample) ∧
      ((∀ samples, NeverWraps attenuation samples) ↔ residue attenuation ≤ 128) := by
  refine ⟨neverWraps_iff_forall attenuation, ?_, ?_⟩
  · intro hnever
    by_contra hnot
    obtain ⟨n, hundershoots⟩ := exists_undershoots (not_le.mp hnot)
    exact (neverWraps_iff_forall attenuation _).mp (hnever (List.replicate n (-32768) ++ [-32768]))
      _ _ [] rfl hundershoots
  · exact neverWraps_of_residue

/-- At the attenuation 254 the fourth of the lowest samples is put out as the
    highest number. -/
theorem not_neverWraps_254 : ¬ NeverWraps 254 (List.replicate 4 (-32768)) := by
  intro hnever
  have hfits := (hnever (List.replicate 3 (-32768)) (-32768) [] rfl).fits
  exact absurd hfits (by decide)

end copter.filter
