import CopterOS.Lib.Run
import CopterOS.Lib.History
import CopterOS.RcCommander

open transition history copter.commander copter.rc_commander

namespace copter.remote_control

/-- The width an accepted pulse leaves in its channel. -/
def stored (channel : Fin RC_MAX_CHANNELS) (entry : Rc × Interrupt) : UInt32 :=
  ((interrupt entry.1 entry.2).channel channel).value

/-- A channel has a link: it has had an accepted pulse, and fewer than two
    overflows have followed the last one. -/
def Linked (channel : Fin RC_MAX_CHANNELS) (start : Rc) (events : List Interrupt) : Prop :=
  ∃ entry after, Latest (accepted channel) (trace interrupt start events) entry after ∧
    after.countP isOverflow < 2

/-- The two flags of a channel count the overflows since its last accepted
    pulse up to two, and the value is the one that pulse has stored. -/
def Tracks (channel : Fin RC_MAX_CHANNELS) (rc : Rc) : Option ((Rc × Interrupt) × ℕ) → Prop
  | none => (rc.channel channel).retry = false ∧ (rc.channel channel).corret = false
  | some (entry, overflows) =>
    (rc.channel channel).retry = decide (overflows = 0) ∧
      (rc.channel channel).corret = decide (overflows < 2) ∧
      (rc.channel channel).value = stored channel entry ∧
      RC_MIN < (rc.channel channel).value ∧ (rc.channel channel).value < RC_MAX

/-- A freshly set up channel has had no pulse. -/
theorem rc_setup_tracks {rc : Rc} {channel : Fin RC_MAX_CHANNELS} (hfree : rc.freeSlot = some channel)
    {setCallback setPeriod : ℤ} (hcallback : 0 ≤ setCallback) (hperiod : 0 ≤ setPeriod) (ret : ℤ)
    (capture : Capture) : Tracks channel (rc_setup ret setCallback setPeriod rc capture).2 none := by
  unfold Tracks
  rw [(rc_setup_success hfree hcallback hperiod ret capture).2]
  exact ⟨rfl, rfl⟩

/-- An event that leaves the flags and the value of a channel alone and is no
    overflow keeps the count. -/
theorem tracks_of_eq {channel : Fin RC_MAX_CHANNELS} {rc next : Rc} {found : Option ((Rc × Interrupt) × ℕ)}
    (htracks : Tracks channel rc found)
    (hretry : (next.channel channel).retry = (rc.channel channel).retry)
    (hcorret : (next.channel channel).corret = (rc.channel channel).corret)
    (hvalue : (next.channel channel).value = (rc.channel channel).value) : Tracks channel next found := by
  cases found with
  | none => exact ⟨hretry.trans htracks.1, hcorret.trans htracks.2⟩
  | some latest =>
    obtain ⟨hretry', hcorret', hrest⟩ := htracks
    refine ⟨hretry.trans hretry', hcorret.trans hcorret', ?_⟩
    rw [hvalue]
    exact hrest

/-- A timer overflow clears the retry flag first and the value flag next. -/
theorem overflow_tracks {channel : Fin RC_MAX_CHANNELS} {rc : Rc} {found : Option ((Rc × Interrupt) × ℕ)}
    (htracks : Tracks channel rc found) :
    Tracks channel (interrupt rc .overflow)
      (countStep (accepted channel) isOverflow found (rc, .overflow)) := by
  cases found with
  | none =>
    obtain ⟨hretry, _⟩ := htracks
    simp [Tracks, countStep, accepted, RcChannel.overflow, hretry]
  | some latest =>
    obtain ⟨entry, overflows⟩ := latest
    obtain ⟨hretry, hcorret, hvalue⟩ := htracks
    simp only [countStep, accepted, Bool.false_eq_true, if_false, Option.map_some, isOverflow, beq_self_eq_true,
      if_true, Tracks, interrupt_overflow, RcChannel.overflow]
    by_cases hfirst : overflows = 0
    · rw [if_pos (by simp [hretry, hfirst])]
      exact ⟨by simp, by simp [hcorret, hfirst], hvalue⟩
    · rw [if_neg (by simp [hretry, hfirst])]
      have hlost : ¬ overflows + 1 < 2 := by omega
      exact ⟨by simp [hretry, hfirst], by simp [hlost], hvalue⟩

/-- An edge is either taken for a pulse, which starts the count anew, or leaves
    flags and value alone. -/
theorem edge_tracks {channel : Fin RC_MAX_CHANNELS} {rc : Rc} {found : Option ((Rc × Interrupt) × ℕ)}
    (htracks : Tracks channel rc found) (other : Fin RC_MAX_CHANNELS) (time : UInt64) :
    Tracks channel (interrupt rc (.edge other time))
      (countStep (accepted channel) isOverflow found (rc, .edge other time)) := by
  have hkeep : ∀ entry : Rc × Interrupt, accepted channel entry = false → isOverflow entry = false →
      countStep (accepted channel) isOverflow found entry = found := by
    intro entry haccepted hoverflow
    cases found <;> simp [countStep, haccepted, hoverflow]
  by_cases hother : other = channel
  · subst hother
    cases haccepts : (rc.channel other).accepts time with
    | true =>
      have hwidth := (accepts_iff _ _).mp haccepts
      simpa [countStep, accepted, haccepts, Tracks, stored, rc_IRQHandler_of_accepts haccepts] using hwidth
    | false =>
      rw [hkeep _ (by simp [accepted, haccepts]) rfl]
      apply tracks_of_eq htracks <;> simp [rc_IRQHandler_of_not_accepts haccepts]
  · have hsame := interrupt_edge_other (Ne.symm hother) rc time
    rw [hkeep _ (by simp [accepted, hother]) rfl]
    apply tracks_of_eq htracks <;> rw [hsame]

/-- Over any run the flags count the overflows since the last accepted pulse. -/
theorem run_tracks {channel : Fin RC_MAX_CHANNELS} {start : Rc} (hstart : Tracks channel start none)
    (events : List Interrupt) :
    Tracks channel (run interrupt start events)
      (latest? (accepted channel) isOverflow (trace interrupt start events)) := by
  induction events using List.reverseRecOn with
  | nil => exact hstart
  | append_singleton events last ih =>
    simp only [run_concat, trace_concat, latest?_concat]
    cases last with
    | edge other time => exact edge_tracks ih other time
    | overflow => exact overflow_tracks ih

/-- The reading of a channel whose flags count the overflows. -/
theorem rc_get_of_tracks {channel : Fin RC_MAX_CHANNELS} {rc : Rc} {found : Option ((Rc × Interrupt) × ℕ)}
    (htracks : Tracks channel rc found) :
    (rc_get rc channel ≠ 0 ↔ ∃ entry overflows, found = some (entry, overflows) ∧ overflows < 2) ∧
      (rc_get rc channel ≠ 0 → ∀ entry overflows, found = some (entry, overflows) →
        rc_get rc channel = stored channel entry ∧ RC_MIN < rc_get rc channel ∧
          rc_get rc channel < RC_MAX) := by
  cases found with
  | none => simp [rc_get, htracks.2]
  | some latest =>
    obtain ⟨entry, overflows⟩ := latest
    obtain ⟨_, hcorret, hvalue, hmin, hmax⟩ := htracks
    have hnonzero : (rc.channel channel).value ≠ 0 := by
      intro hzero
      rw [hzero] at hmin
      exact absurd hmin (by decide)
    by_cases hlinked : overflows < 2
    · have hget : rc_get rc channel = (rc.channel channel).value := by simp [rc_get, hcorret, hlinked]
      rw [hget]
      refine ⟨iff_of_true hnonzero ⟨entry, overflows, rfl, hlinked⟩, ?_⟩
      intro _ other count hfound
      obtain ⟨rfl, _⟩ : entry = other ∧ overflows = count := by simpa using hfound
      exact ⟨hvalue, hmin, hmax⟩
    · have hget : rc_get rc channel = 0 := by simp [rc_get, hcorret, hlinked]
      rw [hget]
      refine ⟨iff_of_false (fun hzero => hzero rfl) ?_, fun hzero => absurd rfl hzero⟩
      rintro ⟨other, count, hfound, hfew⟩
      obtain ⟨_, rfl⟩ : entry = other ∧ overflows = count := by simpa using hfound
      exact hlinked hfew

/-- A nonzero reading is exactly a link. -/
theorem rc_get_ne_zero_iff {channel : Fin RC_MAX_CHANNELS} {start : Rc}
    (hstart : Tracks channel start none) (events : List Interrupt) :
    rc_get (run interrupt start events) channel ≠ 0 ↔ Linked channel start events := by
  rw [(rc_get_of_tracks (run_tracks hstart events)).1]
  constructor
  · rintro ⟨entry, overflows, hfound, hless⟩
    obtain ⟨after, hlatest, rfl⟩ := (latest?_eq_some_iff _ _ _ _ _).mp hfound
    exact ⟨entry, after, hlatest, hless⟩
  · rintro ⟨entry, after, hlatest, hless⟩
    exact ⟨entry, _, (latest?_eq_some_iff _ _ _ _ _).mpr ⟨after, hlatest, rfl⟩, hless⟩

/-- After its set-up a channel reads nonzero exactly while it is linked, the
    value is the width stored by its last accepted pulse, the edges of other
    channels leave it alone, and a lost axis centres the sticks. -/
theorem rc_get_after_setup {rc : Rc} {channel : Fin RC_MAX_CHANNELS} (hfree : rc.freeSlot = some channel)
    {setCallback setPeriod : ℤ} (hcallback : 0 ≤ setCallback) (hperiod : 0 ≤ setPeriod) (ret : ℤ)
    (capture : Capture) (events : List Interrupt) :
    let start := (rc_setup ret setCallback setPeriod rc capture).2
    let final := run interrupt start events
    (rc_get final channel ≠ 0 ↔ Linked channel start events) ∧
      (rc_get final channel ≠ 0 → ∀ entry after,
        Latest (accepted channel) (trace interrupt start events) entry after →
          rc_get final channel = stored channel entry ∧ RC_MIN < rc_get final channel ∧
            rc_get final channel < RC_MAX) ∧
      (∀ other time, other ≠ channel →
        rc_get (interrupt final (.edge other time)) channel = rc_get final channel) ∧
      (∀ (calibration : Calibration) (rcComm : RcComm), ¬ Linked channel start events →
        (channel = rcComm.rollID ∨ channel = rcComm.pitchID ∨ channel = rcComm.yawID) →
          rcComm_GetRPY calibration final rcComm = ⟨0, 0, 0⟩) := by
  intro start final
  have hstart : Tracks channel start none := rc_setup_tracks hfree hcallback hperiod ret capture
  have hget := rc_get_ne_zero_iff hstart events
  refine ⟨hget, ?_, ?_, ?_⟩
  · intro hnonzero entry after hlatest
    have hfound := (latest?_eq_some_iff _ isOverflow _ _ _).mpr ⟨after, hlatest, rfl⟩
    exact (rc_get_of_tracks (run_tracks hstart events)).2 hnonzero entry _ hfound
  · intro other time hother
    unfold rc_get
    rw [interrupt_edge_other (Ne.symm hother)]
  · intro calibration rcComm hlost haxis
    have hzero : rc_get final channel = 0 := by
      by_contra hnonzero
      exact hlost (hget.mp hnonzero)
    apply rcComm_GetRPY_of_lost
    obtain rfl | rfl | rfl := haxis
    · exact .inl hzero
    · exact .inr (.inl hzero)
    · exact .inr (.inr hzero)

/-- The first channel of the cleared table after a pulse of 1500 ticks. -/
theorem rc_get_after_setup_pulse :
    let start := (rc_setup 0 0 0 rc0 7).2
    let events := [.edge 0 100, .edge 0 1600, .overflow, .edge 1 40]
    rc_get (run interrupt start events) 0 = 1500 ∧ Linked 0 start events := by
  intro start events
  have hget : rc_get (run interrupt start events) 0 = 1500 := by decide
  have hlinked := (@rc_get_after_setup rc0 0 (by decide) 0 0 (by decide) (by decide) 0 7 events).1
  exact ⟨hget, hlinked.mp (by rw [hget]; decide)⟩

end copter.remote_control
