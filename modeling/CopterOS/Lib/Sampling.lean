import CopterOS.Lib.History
import CopterOS.Lib.Run
import Mathlib.Algebra.BigOperators.Group.List.Basic
import Mathlib.Tactic.LinearCombination
import Mathlib.Tactic.Ring

open transition history

namespace sampling

/-- A value and the time since the one before it. -/
structure Sample (K : Type) where
  value : K
  interval : K

/-- The samples taken so far, and the ticks of the clock since the last of them. -/
structure Recorder (K : Type) where
  waited : ℕ
  samples : List (Sample K)

/-- What an integrator with a fixed time step remembers. -/
structure Integrator (K : Type) where
  integ : K
  deriv : K
  previous : K

section definitions

variable {K : Type} [Field K]

/-- One tick of the clock, and the value sampled in it. -/
def record (period : K) (recorder : Recorder K) : Option K → Recorder K
  | none => { recorder with waited := recorder.waited + 1 }
  | some value =>
    { waited := 0
      samples := recorder.samples ++ [⟨value, (recorder.waited + 1 : ℕ) * period⟩] }

/-- The recorder after a signal that has a value in some of the ticks. The first
    interval is the time since the start. -/
def recorded (period : K) (signal : List (Option K)) : Recorder K := run (record period) ⟨0, []⟩ signal

/-- Every value times its own interval, summed up. -/
def integral (samples : List (Sample K)) : K := (samples.map fun sample => sample.value * sample.interval).sum

/-- The last value, zero before the first one. -/
def latest (samples : List (Sample K)) : K := (samples.getLast?.map Sample.value).getD 0

/-- The difference of the last two values over the interval between them. -/
def slope (samples : List (Sample K)) : K :=
  match samples.getLast? with
  | none => 0
  | some last => (last.value - latest samples.dropLast) / last.interval

/-- The integrator takes every value to be one time step after the one before it. -/
def feed (dt : K) (integrator : Integrator K) : Option K → Integrator K
  | none => integrator
  | some value =>
    { integ := integrator.integ + value * dt
      deriv := (value - integrator.previous) / dt
      previous := value }

def fed (dt : K) (signal : List (Option K)) : Integrator K := run (feed dt) ⟨0, 0, 0⟩ signal

/-- The integrator agrees with the time that has really passed. -/
def OnTime (dt period : K) (signal : List (Option K)) : Prop :=
  (fed dt signal).integ = integral (recorded period signal).samples ∧
    (fed dt signal).deriv = slope (recorded period signal).samples

@[simp] theorem recorded_concat (period : K) (signal : List (Option K)) (last : Option K) :
    recorded period (signal ++ [last]) = record period (recorded period signal) last := by
  simp [recorded]

@[simp] theorem fed_concat (dt : K) (signal : List (Option K)) (last : Option K) :
    fed dt (signal ++ [last]) = feed dt (fed dt signal) last := by
  simp [fed]

@[simp] theorem integral_concat (samples : List (Sample K)) (last : Sample K) :
    integral (samples ++ [last]) = integral samples + last.value * last.interval := by
  simp [integral]

@[simp] theorem latest_concat (samples : List (Sample K)) (last : Sample K) :
    latest (samples ++ [last]) = last.value := by
  simp [latest]

@[simp] theorem slope_concat (samples : List (Sample K)) (last : Sample K) :
    slope (samples ++ [last]) = (last.value - latest samples) / last.interval := by
  simp [slope]

end definitions

/-- The signal has a value in every d-th tick. -/
def Every {K : Type} (d : ℕ) (signal : List (Option K)) : Prop :=
  ∀ before entry after, signal = before ++ entry :: after → (entry.isSome ↔ d ∣ before.length + 1)

theorem every_nil {K : Type} (d : ℕ) : Every d ([] : List (Option K)) := by
  rintro before entry after hsplit
  simp at hsplit

theorem every_concat {K : Type} {d : ℕ} {signal : List (Option K)} {last : Option K} :
    Every d (signal ++ [last]) ↔ Every d signal ∧ (last.isSome ↔ d ∣ signal.length + 1) :=
  forall_split_concat (fun before (entry : Option K) => entry.isSome ↔ d ∣ before.length + 1) signal last

theorem every_of_append {K : Type} {d : ℕ} {first second : List (Option K)} (hevery : Every d (first ++ second)) :
    Every d first := by
  rintro before entry after rfl
  exact hevery before entry (after ++ second) (by simp)

section every

variable {K : Type} [Field K] {d : ℕ} {dt period : K}

/-- The ticks since the last value. -/
theorem waited_of_every (hd : 0 < d) {signal : List (Option K)} (hevery : Every d signal) :
    (recorded period signal).waited = signal.length % d := by
  induction signal using List.reverseRecOn with
  | nil => exact (Nat.zero_mod d).symm
  | append_singleton signal last ih =>
    obtain ⟨hsignal, hlast⟩ := every_concat.mp hevery
    rw [recorded_concat, List.length_append, List.length_singleton]
    cases last with
    | none =>
      have hnot : ¬ d ∣ signal.length + 1 := by simpa using hlast
      rw [Nat.dvd_iff_mod_eq_zero] at hnot
      simp only [record, ih hsignal]
      rw [← Nat.mod_add_mod] at hnot ⊢
      have hless : signal.length % d + 1 < d := by
        have hmod := Nat.mod_lt signal.length hd
        by_contra hge
        have hall : signal.length % d + 1 = d := by omega
        rw [hall, Nat.mod_self] at hnot
        exact hnot rfl
      exact (Nat.mod_eq_of_lt hless).symm
    | some value =>
      have hdvd : d ∣ signal.length + 1 := by simpa using hlast
      exact (Nat.mod_eq_zero_of_dvd hdvd).symm

/-- A value that comes when it is due comes d ticks after the one before it. -/
theorem waited_add_one (hd : 0 < d) {signal : List (Option K)} (hevery : Every d signal)
    (hdue : d ∣ signal.length + 1) : (recorded period signal).waited + 1 = d := by
  rw [waited_of_every hd hevery]
  rw [Nat.dvd_iff_mod_eq_zero, ← Nat.mod_add_mod] at hdue
  have hmod := Nat.mod_lt signal.length hd
  by_contra hne
  have hless : signal.length % d + 1 < d := by omega
  rw [Nat.mod_eq_of_lt hless] at hdue
  omega

/-- The integral is the true one scaled by the time step over the interval, and the
    derivative by the inverse of it. -/
theorem fed_scaled (hd : 0 < d) (hinterval : d * period ≠ 0) (hdt : dt ≠ 0) {signal : List (Option K)}
    (hevery : Every d signal) :
    (fed dt signal).previous = latest (recorded period signal).samples ∧
      (fed dt signal).integ * (d * period) = integral (recorded period signal).samples * dt ∧
        (fed dt signal).deriv * dt = slope (recorded period signal).samples * (d * period) := by
  induction signal using List.reverseRecOn with
  | nil => simp [fed, recorded, latest, integral, slope]
  | append_singleton signal last ih =>
    obtain ⟨hsignal, hlast⟩ := every_concat.mp hevery
    obtain ⟨hprevious, hinteg, hderiv⟩ := ih hsignal
    rw [fed_concat, recorded_concat]
    cases last with
    | none => exact ⟨hprevious, hinteg, hderiv⟩
    | some value =>
      have hdue : d ∣ signal.length + 1 := by simpa using hlast
      simp only [feed, record, latest_concat, integral_concat, slope_concat, hprevious,
        waited_add_one hd hsignal hdue]
      refine ⟨trivial, ?_, ?_⟩
      · linear_combination hinteg
      · rw [div_mul_cancel₀ _ hdt, div_mul_cancel₀ _ hinterval]

/-- The integral of a signal vanishes all along only with the signal. -/
theorem eq_zero_of_integral (hd : 0 < d) (hinterval : d * period ≠ 0) {signal : List (Option K)}
    (hevery : Every d signal)
    (hzero : ∀ before, before <+: signal → integral (recorded period before).samples = 0) :
    ∀ value, some value ∈ signal → value = 0 := by
  induction signal using List.reverseRecOn with
  | nil => simp
  | append_singleton signal last ih =>
    obtain ⟨hsignal, hlast⟩ := every_concat.mp hevery
    have hbefore := fun before (hbefore : before <+: signal) =>
      hzero before (hbefore.trans (List.prefix_append _ _))
    intro value hvalue
    rcases List.mem_append.mp hvalue with hold | hnew
    · exact ih hsignal hbefore value hold
    · obtain rfl : some value = last := by simpa using hnew
      have hdue : d ∣ signal.length + 1 := by simpa using hlast
      have hsum := hzero _ (List.prefix_refl _)
      rw [recorded_concat] at hsum
      simp only [record, integral_concat, waited_add_one hd hsignal hdue, hbefore signal (List.prefix_refl _),
        zero_add] at hsum
      exact (mul_eq_zero.mp hsum).resolve_right hinterval

theorem integral_of_zero (period : K) {signal : List (Option K)} (hzero : ∀ value, some value ∈ signal → value = 0) :
    latest (recorded period signal).samples = 0 ∧ integral (recorded period signal).samples = 0 ∧
      slope (recorded period signal).samples = 0 := by
  induction signal using List.reverseRecOn with
  | nil => simp [recorded, latest, integral, slope]
  | append_singleton signal last ih =>
    obtain ⟨hlatest, hintegral, hslope⟩ := ih fun value hvalue => hzero value (by simp [hvalue])
    rw [recorded_concat]
    cases last with
    | none => exact ⟨hlatest, hintegral, hslope⟩
    | some value =>
      obtain rfl := hzero value (by simp)
      simp [record, hlatest, hintegral]

/-- An integrator that is fed in every d-th tick agrees with the time all along
    exactly when its time step is d ticks, or the signal is zero. -/
theorem forall_onTime_iff (hd : 0 < d) (hinterval : d * period ≠ 0) (hdt : dt ≠ 0) {signal : List (Option K)}
    (hevery : Every d signal) :
    (∀ before, before <+: signal → OnTime dt period before) ↔
      dt = d * period ∨ ∀ value, some value ∈ signal → value = 0 := by
  have hscaled := fun before (hbefore : before <+: signal) =>
    (fed_scaled hd hinterval hdt (every_of_append (hbefore.choose_spec ▸ hevery))).2
  constructor
  · intro htime
    by_cases hstep : dt = d * period
    · exact .inl hstep
    · refine .inr (eq_zero_of_integral hd hinterval hevery ?_)
      intro before hbefore
      obtain ⟨hinteg, _⟩ := hscaled before hbefore
      rw [(htime before hbefore).1] at hinteg
      by_contra hne
      exact hstep (mul_left_cancel₀ hne hinteg).symm
  · rintro (hstep | hzero) before hbefore
    · obtain ⟨hinteg, hderiv⟩ := hscaled before hbefore
      rw [← hstep] at hinteg hderiv
      exact ⟨mul_right_cancel₀ hdt hinteg, mul_right_cancel₀ hdt hderiv⟩
    · obtain ⟨hinteg, hderiv⟩ := hscaled before hbefore
      obtain ⟨_, hintegral, hslope⟩ := integral_of_zero period
        fun value hvalue => hzero value (hbefore.subset hvalue)
      rw [hintegral, zero_mul] at hinteg
      rw [hslope, zero_mul] at hderiv
      refine ⟨?_, ?_⟩
      · rw [hintegral]
        exact (mul_eq_zero.mp hinteg).resolve_right hinterval
      · rw [hslope]
        exact (mul_eq_zero.mp hderiv).resolve_right hdt

end every

end sampling
