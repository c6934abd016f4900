import Mathlib.Data.List.Basic

namespace transition

/-- The state of a deterministic machine after a finite sequence of events. -/
def run {S E : Type} (step : S → E → S) (start : S) (events : List E) : S :=
  events.foldl step start

@[simp] theorem run_nil {S E : Type} (step : S → E → S) (start : S) :
    run step start [] = start := rfl

@[simp] theorem run_cons {S E : Type} (step : S → E → S) (start : S) (event : E)
    (events : List E) : run step start (event :: events) = run step (step start event) events := rfl

@[simp] theorem run_append {S E : Type} (step : S → E → S) (start : S) (first second : List E) :
    run step start (first ++ second) = run step (run step start first) second := by
  simp [run]

theorem run_concat {S E : Type} (step : S → E → S) (start : S) (events : List E) (last : E) :
    run step start (events ++ [last]) = step (run step start events) last := by
  rw [run_append, run_cons, run_nil]

/-- A property that every step keeps holds along the whole run. -/
theorem run_invariant {S E : Type} {step : S → E → S} {P : S → Prop}
    (hstep : ∀ state event, P state → P (step state event)) {start : S} (hstart : P start)
    (events : List E) : P (run step start events) := by
  induction events generalizing start with
  | nil => exact hstart
  | cons event events ih => exact ih (hstep start event hstart)

/-- An invariant kept only by allowed events holds along every run made of
    allowed events. -/
theorem run_invariant_of_forall {S E : Type} {step : S → E → S} {P : S → Prop} {allowed : E → Prop}
    (hstep : ∀ state event, allowed event → P state → P (step state event)) {start : S}
    (hstart : P start) {events : List E} (hevents : ∀ event ∈ events, allowed event) :
    P (run step start events) := by
  induction events generalizing start with
  | nil => exact hstart
  | cons event events ih =>
    have hfirst := hstep start event (hevents event (by simp)) hstart
    exact ih hfirst (fun later hlater => hevents later (by simp [hlater]))

/-- A bound that no event raises, and every marked one lowers, is used up by as
    many marked events. -/
theorem run_countdown {S E : Type} {step : S → E → S} (P : ℕ → S → Prop) (mark : E → Bool)
    (hkeep : ∀ n state event, P n state → P n (step state event))
    (hmark : ∀ n state event, mark event = true → P (n + 1) state → P n (step state event)) {n : ℕ}
    {start : S} (hstart : P n start) {events : List E} (hcount : n ≤ events.countP mark) :
    P 0 (run step start events) := by
  induction events generalizing n start with
  | nil =>
    obtain rfl : n = 0 := by simpa using hcount
    exact hstart
  | cons event events ih =>
    rw [run_cons]
    by_cases hevent : mark event = true
    · rw [List.countP_cons_of_pos hevent] at hcount
      cases n with
      | zero => exact ih (hkeep 0 start event hstart) (Nat.zero_le _)
      | succ n => exact ih (hmark n start event hevent hstart) (by omega)
    · rw [List.countP_cons_of_neg hevent] at hcount
      exact ih (hkeep n start event hstart) hcount

/-- A state that the event leaves alone stays as it is. -/
theorem run_replicate_of_fixed {S E : Type} {step : S → E → S} {state : S} {event : E}
    (hfixed : step state event = state) (n : ℕ) : run step state (List.replicate n event) = state := by
  induction n with
  | zero => rfl
  | succ n ih => rw [List.replicate_succ, run_cons, hfixed, ih]

/-- One and the same event, again and again, settles a state when each time it
    either changes nothing or brings the state closer. -/
theorem run_replicate_settles {S E : Type} {step : S → E → S} {event : E} (distance : S → ℕ)
    (hstep : ∀ state, step state event = state ∨ distance (step state event) < distance state) (start : S) :
    ∃ n, step (run step start (List.replicate n event)) event = run step start (List.replicate n event) := by
  induction hdistance : distance start using Nat.strongRecOn generalizing start with
  | _ far ih =>
    obtain hfixed | hcloser := hstep start
    · exact ⟨0, hfixed⟩
    · obtain ⟨n, hsettled⟩ := ih _ (hdistance ▸ hcloser) (step start event) rfl
      exact ⟨n + 1, hsettled⟩

/-- Every step of a run, in order: the state it is taken in and its event. -/
def trace {S E : Type} (step : S → E → S) : S → List E → List (S × E)
  | _, [] => []
  | start, event :: events => (start, event) :: trace step (step start event) events

@[simp] theorem trace_nil {S E : Type} (step : S → E → S) (start : S) :
    trace step start [] = [] := rfl

@[simp] theorem trace_cons {S E : Type} (step : S → E → S) (start : S) (event : E)
    (events : List E) :
    trace step start (event :: events) = (start, event) :: trace step (step start event) events := rfl

@[simp] theorem trace_append {S E : Type} (step : S → E → S) (start : S) (first second : List E) :
    trace step start (first ++ second) =
      trace step start first ++ trace step (run step start first) second := by
  induction first generalizing start with
  | nil => simp
  | cons event events ih => simp [ih]

theorem trace_concat {S E : Type} (step : S → E → S) (start : S) (events : List E) (last : E) :
    trace step start (events ++ [last]) = trace step start events ++ [(run step start events, last)] := by
  rw [trace_append, trace_cons, trace_nil]

theorem length_trace {S E : Type} (step : S → E → S) (start : S) (events : List E) :
    (trace step start events).length = events.length := by
  induction events generalizing start with
  | nil => rfl
  | cons event events ih => simp [ih]

theorem trace_take {S E : Type} (step : S → E → S) (start : S) (events : List E) (n : ℕ) :
    trace step start (events.take n) = (trace step start events).take n := by
  induction events generalizing start n with
  | nil => simp
  | cons event events ih =>
    cases n with
    | zero => rfl
    | succ n => simp [ih]

/-- A step that stands in the trace splits the event sequence at itself. -/
theorem trace_split {S E : Type} {step : S → E → S} {start : S} {events : List E}
    {before after : List (S × E)} {state : S} {event : E}
    (htrace : trace step start events = before ++ (state, event) :: after) :
    ∃ first second, events = first ++ event :: second ∧ before = trace step start first ∧
      state = run step start first ∧ after = trace step (step state event) second := by
  induction events generalizing start before with
  | nil => simp at htrace
  | cons head events ih =>
    cases before with
    | nil =>
      simp only [trace_cons, List.nil_append, List.cons.injEq, Prod.mk.injEq] at htrace
      obtain ⟨⟨rfl, rfl⟩, rfl⟩ := htrace
      exact ⟨[], events, rfl, rfl, rfl, rfl⟩
    | cons entry before =>
      simp only [trace_cons, List.cons_append, List.cons.injEq] at htrace
      obtain ⟨rfl, htail⟩ := htrace
      obtain ⟨first, second, rfl, rfl, hstate, hafter⟩ := ih htail
      exact ⟨head :: first, second, rfl, rfl, hstate, hafter⟩

/-- The steps of a run are its splits. -/
theorem mem_trace_iff {S E : Type} {step : S → E → S} {start : S} {events : List E} {entry : S × E} :
    entry ∈ trace step start events ↔
      ∃ before after, events = before ++ entry.2 :: after ∧ entry.1 = run step start before := by
  constructor
  · intro hentry
    obtain ⟨first, second, htrace⟩ := List.append_of_mem hentry
    obtain ⟨before, after, hevents, _, hstate, _⟩ := trace_split htrace
    exact ⟨before, after, hevents, hstate⟩
  · rintro ⟨before, after, rfl, hstate⟩
    rw [trace_append, trace_cons, ← hstate]
    simp

/-- An invariant kept by the allowed steps only holds along every run whose steps are
    all allowed in the states they are taken in. -/
theorem run_invariant_of_trace {S E : Type} {step : S → E → S} {P : S → Prop} {allowed : S × E → Prop}
    (hstep : ∀ state event, allowed (state, event) → P state → P (step state event)) {start : S}
    (hstart : P start) {events : List E} (hevents : ∀ entry ∈ trace step start events, allowed entry) :
    P (run step start events) := by
  induction events generalizing start with
  | nil => exact hstart
  | cons event events ih =>
    rw [trace_cons, List.forall_mem_cons] at hevents
    exact ih (hstep start event hevents.1 hstart) hevents.2

end transition
