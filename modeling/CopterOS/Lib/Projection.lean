import CopterOS.Lib.Run

namespace transition

section projection

variable {S E T F : Type} (step : S → E → S) (project : S → E → Option F)

/-- The events a run shows a coarser machine, in order. -/
def projected (start : S) (events : List E) : List F :=
  (trace step start events).filterMap fun entry => project entry.1 entry.2

@[simp] theorem projected_cons (start : S) (event : E) (events : List E) :
    projected step project start (event :: events) =
      (project start event).toList ++ projected step project (step start event) events := by
  unfold projected
  rw [trace_cons, List.filterMap_cons]
  cases project start event <;> rfl

theorem projected_concat (start : S) (events : List E) (event : E) :
    projected step project start (events ++ [event]) =
      projected step project start events ++ (project (run step start events) event).toList := by
  unfold projected
  rw [trace_concat, List.filterMap_append]
  cases hshown : project (run step start events) event <;> simp [hshown]

/-- A property that the projection has of every event holds of all that is shown. -/
theorem projected_forall {P : F → Prop} {allowed : E → Prop}
    (hproject : ∀ state event shown, allowed event → project state event = some shown → P shown) {start : S}
    {events : List E} (hevents : ∀ event ∈ events, allowed event) :
    ∀ shown ∈ projected step project start events, P shown := by
  intro shown hshown
  obtain ⟨entry, hentry, hsome⟩ := List.mem_filterMap.mp hshown
  obtain ⟨before, after, rfl, _⟩ := mem_trace_iff.mp hentry
  exact hproject entry.1 entry.2 shown (hevents entry.2 (by simp)) hsome

/-- A machine refines a coarser one when every step from a state it can reach is a step
    of the coarser machine or cannot be seen by it; then its runs are runs of the coarser
    machine. -/
theorem run_projected_of_invariant {P : S → Prop} {abstractStep : T → F → T} {abstraction : S → T}
    (hkeeps : ∀ state event, P state → P (step state event))
    (hstep : ∀ state event, P state → abstraction (step state event) =
      (project state event).elim (abstraction state) (abstractStep (abstraction state))) {start : S}
    (hstart : P start) (events : List E) :
    abstraction (run step start events) =
      run abstractStep (abstraction start) (projected step project start events) := by
  induction events generalizing start with
  | nil => rfl
  | cons event events ih =>
    rw [run_cons, ih (hkeeps start event hstart), projected_cons, run_append, hstep start event hstart]
    cases project start event <;> rfl

theorem run_projected {abstractStep : T → F → T} {abstraction : S → T}
    (hstep : ∀ state event, abstraction (step state event) =
      (project state event).elim (abstraction state) (abstractStep (abstraction state))) (start : S) (events : List E) :
    abstraction (run step start events) =
      run abstractStep (abstraction start) (projected step project start events) :=
  run_projected_of_invariant (P := fun _ => True) step project (fun _ _ _ => trivial)
    (fun state event _ => hstep state event) trivial events

end projection

/-- Events that a part of the state does not see can be left out: runs with and
    without them stay related when each seen event keeps the relation on both sides and
    an unseen one on the side that takes it. -/
theorem run_filter {S E : Type} {step : S → E → S} {R : S → S → Prop} {seen : E → Bool}
    (hseen : ∀ left right event, seen event = true → R left right → R (step left event) (step right event))
    (hunseen : ∀ left right event, seen event = false → R left right → R (step left event) right) {left right : S}
    (hrelated : R left right) (events : List E) : R (run step left events) (run step right (events.filter seen)) := by
  induction events generalizing left right with
  | nil => exact hrelated
  | cons event events ih =>
    rw [run_cons]
    cases hevent : seen event with
    | true =>
      rw [List.filter_cons_of_pos hevent, run_cons]
      exact ih (hseen left right event hevent hrelated)
    | false =>
      rw [List.filter_cons_of_neg (by rw [hevent]; exact Bool.false_ne_true)]
      exact ih (hunseen left right event hevent hrelated)

end transition
