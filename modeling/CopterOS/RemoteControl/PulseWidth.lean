import CopterOS.RemoteControl.Loss

open transition history

namespace copter.remote_control

/-- What can happen around one channel: an edge of the channel at an absolute
    tick, an edge of another channel, or an overflow of the timer. -/
inductive Signal (channel : Fin RC_MAX_CHANNELS) where
  | edge (tick : ℕ)
  | other (source : Fin RC_MAX_CHANNELS) (hsource : source ≠ channel) (time : UInt64)
  | overflow

/-- The capture driver reports an edge as the value of a 16-bit counter. -/
def edgeAt (channel : Fin RC_MAX_CHANNELS) (tick : ℕ) : Interrupt :=
  .edge channel (UInt64.ofNat (tick % 2 ^ 16))

def Signal.interrupt {channel : Fin RC_MAX_CHANNELS} : Signal channel → Interrupt
  | .edge tick => edgeAt channel tick
  | .other source _ time => .edge source time
  | .overflow => .overflow

def Signal.tick? {channel : Fin RC_MAX_CHANNELS} : Signal channel → Option ℕ
  | .edge tick => some tick
  | _ => none

/-- The tick of the channel's last edge. -/
def previous? {channel : Fin RC_MAX_CHANNELS} (signals : List (Signal channel)) : Option ℕ :=
  (signals.filterMap Signal.tick?).getLast?

/-- The channel table after a sequence of signals. -/
def deliver {channel : Fin RC_MAX_CHANNELS} (start : Rc) (signals : List (Signal channel)) : Rc :=
  run interrupt start (signals.map Signal.interrupt)

/-- Successive edges are at least one tick and less than a counter period apart. -/
def Spaced {channel : Fin RC_MAX_CHANNELS} (signals : List (Signal channel)) : Prop :=
  ∀ before tick after previous, signals = before ++ .edge tick :: after → previous? before = some previous →
    previous < tick ∧ tick - previous < 2 ^ 16

/-- The handler's treatment of one edge: nothing is accepted at the first edge,
    and a later one is accepted and stored by its distance to the one before. -/
def MeasuresEdge (channel : Fin RC_MAX_CHANNELS) (rc : Rc) (tick : ℕ) : Option ℕ → Prop
  | none => accepted channel (rc, edgeAt channel tick) = false
  | some previous =>
    (accepted channel (rc, edgeAt channel tick) = true ↔
      RC_MIN.toNat < tick - previous ∧ tick - previous < RC_MAX.toNat) ∧
    (accepted channel (rc, edgeAt channel tick) = true →
      (stored channel (rc, edgeAt channel tick)).toNat = tick - previous)

/-- Every edge is measured by its distance, and every value read is the distance
    of two successive edges. -/
def MeasuresExactly {channel : Fin RC_MAX_CHANNELS} (start : Rc) (signals : List (Signal channel)) : Prop :=
  (∀ before tick after, signals = before ++ .edge tick :: after →
    MeasuresEdge channel (deliver start before) tick (previous? before)) ∧
  (∀ before after, signals = before ++ after → rc_get (deliver start before) channel ≠ 0 →
    ∃ first tick second previous, before = first ++ .edge tick :: second ∧
      previous? first = some previous ∧
        (rc_get (deliver start before) channel).toNat = tick - previous)

/-- An edge the handler measures right: the first one outside the accepted
    counter values, a later one without a counter wrap or outside the widths
    around which the wrap loses a tick. -/
def Measurable (tick : ℕ) : Option ℕ → Prop
  | none => ¬ (RC_MIN.toNat < tick % 2 ^ 16 ∧ tick % 2 ^ 16 < RC_MAX.toNat)
  | some previous => tick % 2 ^ 16 < previous % 2 ^ 16 →
    ¬ (RC_MIN.toNat < tick - previous ∧ tick - previous ≤ RC_MAX.toNat)

/-- The distance the handler computes from two 16-bit counter values. -/
theorem distance_toNat {channel : RcChannel} {counter : ℕ} (hraw : channel.raw.toNat < 2 ^ 16)
    (hcounter : counter < 2 ^ 16) :
    (channel.distance (UInt64.ofNat counter)).toNat =
      if channel.raw.toNat < counter then counter - channel.raw.toNat
      else 65535 - channel.raw.toNat + counter := by
  have htime : (UInt64.ofNat counter).toUInt32.toNat = counter := by
    rw [UInt64.toNat_toUInt32, UInt64.toNat_ofNat']
    omega
  have hmax : UINT16_MAX.toNat = 65535 := rfl
  unfold RcChannel.distance
  simp only [gt_iff_lt, UInt32.lt_iff_toNat_lt, htime]
  split
  · rename_i hless
    rw [UInt32.toNat_sub_of_le _ _ (by rw [UInt32.le_iff_toNat_le, htime]; omega), htime]
  · rw [UInt32.toNat_add, UInt32.toNat_sub_of_le _ _ (by rw [UInt32.le_iff_toNat_le, hmax]; omega), htime, hmax]
    omega

/-- The handler keeps the counter value of the channel's last edge. -/
theorem deliver_raw {channel : Fin RC_MAX_CHANNELS} {start : Rc} (hstart : (start.channel channel).raw = 0)
    (signals : List (Signal channel)) :
    ((deliver start signals).channel channel).raw.toNat =
      (previous? signals).elim 0 (fun previous => previous % 2 ^ 16) := by
  induction signals using List.reverseRecOn with
  | nil => simp [deliver, previous?, hstart]
  | append_singleton signals last ih =>
    simp only [deliver, previous?, List.map_append, List.map_cons, List.map_nil, run_concat,
      List.filterMap_append] at ih ⊢
    cases last with
    | edge tick =>
      have htick : tick % 2 ^ 16 % 2 ^ 64 % 2 ^ 32 = tick % 2 ^ 16 := by omega
      simpa [Signal.interrupt, edgeAt, Signal.tick?] using htick
    | other source hsource time =>
      simpa [Signal.interrupt, Signal.tick?, interrupt_edge_other (Ne.symm hsource)] using ih
    | overflow =>
      have hraw : ∀ state : RcChannel, state.overflow.raw = state.raw := by
        intro state
        unfold RcChannel.overflow
        split <;> rfl
      simpa [Signal.interrupt, Signal.tick?, hraw] using ih

/-- Acceptance and stored width of an edge over the computed distance. -/
theorem accepted_edge_iff (channel : Fin RC_MAX_CHANNELS) (rc : Rc) (tick : ℕ) :
    (accepted channel (rc, edgeAt channel tick) = true ↔
      RC_MIN.toNat < ((rc.channel channel).distance (UInt64.ofNat (tick % 2 ^ 16))).toNat ∧
        ((rc.channel channel).distance (UInt64.ofNat (tick % 2 ^ 16))).toNat < RC_MAX.toNat) ∧
    (accepted channel (rc, edgeAt channel tick) = true →
      stored channel (rc, edgeAt channel tick) =
        (rc.channel channel).distance (UInt64.ofNat (tick % 2 ^ 16))) := by
  have haccepted : accepted channel (rc, edgeAt channel tick) =
      (rc.channel channel).accepts (UInt64.ofNat (tick % 2 ^ 16)) := by
    simp [accepted, edgeAt]
  rw [haccepted]
  refine ⟨by rw [accepts_iff, UInt32.lt_iff_toNat_lt, UInt32.lt_iff_toNat_lt], ?_⟩
  intro haccepts
  simp only [stored, edgeAt, interrupt_edge_same, rc_IRQHandler_of_accepts haccepts]

/-- Two counter values give the distance of their ticks, less one tick when the
    counter has wrapped in between. -/
theorem measured_iff {previous tick distance width : ℕ} {accept : Prop} (hless : previous < tick)
    (hspan : tick - previous < 2 ^ 16)
    (hdistance : distance = if previous % 2 ^ 16 < tick % 2 ^ 16 then tick % 2 ^ 16 - previous % 2 ^ 16
      else 65535 - previous % 2 ^ 16 + tick % 2 ^ 16)
    (haccept : accept ↔ RC_MIN.toNat < distance ∧ distance < RC_MAX.toNat)
    (hwidth : accept → width = distance) :
    ((accept ↔ RC_MIN.toNat < tick - previous ∧ tick - previous < RC_MAX.toNat) ∧
      (accept → width = tick - previous)) ↔ Measurable tick (some previous) := by
  have hmin : RC_MIN.toNat = 480 := rfl
  have hmax : RC_MAX.toNat = 2200 := rfl
  simp only [Measurable, hmin, hmax] at haccept ⊢
  by_cases hwrap : tick % 2 ^ 16 < previous % 2 ^ 16
  · rw [if_neg (by omega)] at hdistance
    have hlost : distance + 1 = tick - previous := by omega
    constructor
    · rintro ⟨hiff, hexact⟩ _ hwindow
      by_cases htaken : accept
      · have hvalue := hexact htaken
        have hstored := hwidth htaken
        omega
      · have hrejected := mt haccept.mpr htaken
        have hclaimed := mt hiff.mpr htaken
        omega
    · intro hmeasurable
      have hwindow := hmeasurable hwrap
      refine ⟨haccept.trans (by omega), ?_⟩
      intro htaken
      have hbounds := haccept.mp htaken
      omega
  · rw [if_pos (by omega)] at hdistance
    have hexact : distance = tick - previous := by omega
    refine ⟨fun _ hless => absurd hless hwrap, fun _ => ⟨haccept.trans (by omega), ?_⟩⟩
    intro htaken
    rw [hwidth htaken, hexact]

/-- One edge is measured right exactly when it is measurable. -/
theorem measuresEdge_iff {channel : Fin RC_MAX_CHANNELS} {start : Rc}
    (hstart : (start.channel channel).raw = 0) {before : List (Signal channel)} {tick : ℕ}
    (hspaced : ∀ previous, previous? before = some previous → previous < tick ∧ tick - previous < 2 ^ 16) :
    MeasuresEdge channel (deliver start before) tick (previous? before) ↔
      Measurable tick (previous? before) := by
  have hraw := deliver_raw hstart before
  have hcounter : tick % 2 ^ 16 < 2 ^ 16 := by omega
  obtain ⟨haccepted, hstored⟩ := accepted_edge_iff channel (deliver start before) tick
  cases hprevious : previous? before with
  | none =>
    simp only [hprevious, Option.elim_none] at hraw
    have hdistance := distance_toNat (by rw [hraw]; omega) hcounter
    have hmin : RC_MIN.toNat = 480 := rfl
    have hmax : RC_MAX.toNat = 2200 := rfl
    rw [hraw] at hdistance
    simp only [MeasuresEdge, Measurable, ← Bool.not_eq_true, haccepted, hdistance, hmin, hmax]
    split <;> omega
  | some previous =>
    obtain ⟨hless, hspan⟩ := hspaced previous hprevious
    simp only [hprevious, Option.elim_some] at hraw
    have hdistance := distance_toNat (by rw [hraw]; omega) hcounter
    rw [hraw] at hdistance
    exact measured_iff hless hspan hdistance haccepted (fun htaken => by rw [hstored htaken])

/-- When every edge is measured right, the reading of the channel is the
    distance of two of its successive edges. -/
theorem rc_get_eq_distance {channel : Fin RC_MAX_CHANNELS} {start : Rc} (hstart : Tracks channel start none)
    {signals : List (Signal channel)}
    (hedges : ∀ before tick after, signals = before ++ .edge tick :: after →
      MeasuresEdge channel (deliver start before) tick (previous? before))
    (hnonzero : rc_get (deliver start signals) channel ≠ 0) :
    ∃ first tick second previous, signals = first ++ .edge tick :: second ∧ previous? first = some previous ∧
      (rc_get (deliver start signals) channel).toNat = tick - previous := by
  obtain ⟨entry, after, hlatest, _⟩ := (rc_get_ne_zero_iff hstart _).mp hnonzero
  have hfound := (latest?_eq_some_iff _ isOverflow _ _ _).mpr ⟨after, hlatest, rfl⟩
  have hvalue := ((rc_get_of_tracks (run_tracks hstart _)).2 hnonzero entry _ hfound).1
  obtain ⟨⟨recorded, htrace⟩, haccepted, _⟩ := hlatest
  obtain ⟨rc, event⟩ := entry
  obtain ⟨_, _, hsignals, _, rfl, _⟩ := trace_split htrace
  obtain ⟨first, rest, rfl, rfl, hrest⟩ := List.map_eq_append_iff.mp hsignals
  obtain ⟨signal, second, rfl, rfl, rfl⟩ := List.map_eq_cons_iff.mp hrest
  cases signal with
  | edge tick =>
    have hmeasures := hedges first tick second rfl
    cases hprevious : previous? first with
    | none =>
      rw [hprevious] at hmeasures
      exact absurd (haccepted.symm.trans hmeasures) (by decide)
    | some previous =>
      rw [hprevious] at hmeasures
      refine ⟨first, tick, second, previous, rfl, hprevious, ?_⟩
      unfold deliver
      rw [hvalue]
      exact hmeasures.2 haccepted
  | other source hsource time => simp [accepted, Signal.interrupt, hsource] at haccepted
  | overflow => simp [accepted, Signal.interrupt] at haccepted

/-- After its set-up a channel measures every pulse exactly if and only if each
    of its edges is measurable: the first one outside the accepted counter values
    and no later one with a wrap inside the widths. -/
theorem measuresExactly_iff {rc : Rc} {channel : Fin RC_MAX_CHANNELS} (hfree : rc.freeSlot = some channel)
    {setCallback setPeriod : ℤ} (hcallback : 0 ≤ setCallback) (hperiod : 0 ≤ setPeriod) (ret : ℤ)
    (capture : Capture) {signals : List (Signal channel)} (hspaced : Spaced signals) :
    MeasuresExactly (rc_setup ret setCallback setPeriod rc capture).2 signals ↔
      ∀ before tick after, signals = before ++ .edge tick :: after → Measurable tick (previous? before) := by
  have hraw : ((rc_setup ret setCallback setPeriod rc capture).2.channel channel).raw = 0 := by
    rw [(rc_setup_success hfree hcallback hperiod ret capture).2]
  have hstart := rc_setup_tracks hfree hcallback hperiod ret capture
  constructor
  · intro hexact before tick after hsignals
    exact (measuresEdge_iff hraw (hspaced before tick after · hsignals)).mp
      (hexact.1 before tick after hsignals)
  · intro hmeasurable
    have hedges : ∀ before tick after, signals = before ++ .edge tick :: after →
        MeasuresEdge channel (deliver (rc_setup ret setCallback setPeriod rc capture).2 before) tick
          (previous? before) :=
      fun before tick after hsignals => (measuresEdge_iff hraw (hspaced before tick after · hsignals)).mpr
        (hmeasurable before tick after hsignals)
    refine ⟨hedges, ?_⟩
    rintro before after rfl hnonzero
    refine rc_get_eq_distance hstart (fun first tick second hbefore => ?_) hnonzero
    exact hedges first tick (second ++ after) (by simp [hbefore])

/-- Two edges less than a counter period apart. -/
theorem spaced_pair {channel : Fin RC_MAX_CHANNELS} {first second : ℕ} (hless : first < second)
    (hspan : second - first < 2 ^ 16) : Spaced [(.edge first : Signal channel), .edge second] := by
  intro before tick after previous hsignals hprevious
  rcases pair_eq_split hsignals with ⟨rfl, _⟩ | ⟨rfl, htick⟩
  · simp [previous?] at hprevious
  · obtain rfl : tick = second := by simpa using htick
    obtain rfl : first = previous := by simpa [previous?, Signal.tick?] using hprevious
    exact ⟨hless, hspan⟩

/-- A pulse of 1500 ticks inside one counter period is measured. -/
theorem measuresExactly_pulse :
    MeasuresExactly (rc_setup 0 0 0 rc0 7).2 [(.edge 100 : Signal 0), .edge 1600] := by
  have hspaced : Spaced [(.edge 100 : Signal 0), .edge 1600] := spaced_pair (by decide) (by decide)
  refine (@measuresExactly_iff rc0 0 (by decide) 0 0 (by decide) (by decide) 0 7 _ hspaced).mpr ?_
  intro before tick after hsignals
  rcases pair_eq_split hsignals with ⟨rfl, htick⟩ | ⟨rfl, htick⟩
  · obtain rfl : tick = 100 := by simpa using htick
    change ¬ (RC_MIN.toNat < 100 % 2 ^ 16 ∧ 100 % 2 ^ 16 < RC_MAX.toNat)
    decide
  · obtain rfl : tick = 1600 := by simpa using htick
    intro hwrap
    exact absurd hwrap (by decide)

/-- A pulse of 1000 ticks over the wrap of the counter is stored as 999. -/
theorem not_measuresExactly_wrap :
    Spaced [(.edge 65000 : Signal 0), .edge 66000] ∧
      ¬ MeasuresExactly (rc_setup 0 0 0 rc0 7).2 [(.edge 65000 : Signal 0), .edge 66000] := by
  refine ⟨spaced_pair (by decide) (by decide), ?_⟩
  intro hexact
  have hstored := (hexact.1 [.edge 65000] 66000 [] rfl).2 (by decide)
  exact absurd hstored (by decide)

end copter.remote_control
