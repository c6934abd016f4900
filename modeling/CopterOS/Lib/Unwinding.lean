import CopterOS.Lib.Run
import Mathlib.Data.List.Forall2

open transition

namespace unwinding

/-- Two event sequences that are the same but for erased events. -/
inductive Aligned {E : Type} (erased : E → Bool) : List E → List E → Prop where
  | nil : Aligned erased [] []
  | left {event : E} {events events' : List E} (herased : erased event = true)
      (haligned : Aligned erased events events') : Aligned erased (event :: events) events'
  | right {event : E} {events events' : List E} (herased : erased event = true)
      (haligned : Aligned erased events events') : Aligned erased events (event :: events')
  | both {event : E} {events events' : List E} (herased : erased event = false)
      (haligned : Aligned erased events events') : Aligned erased (event :: events) (event :: events')

/-- What is left of a sequence without its erased events. -/
def keep {E : Type} (erased : E → Bool) (events : List E) : List E :=
  events.filter fun event => !erased event

theorem aligned_nil_of_keep {E : Type} {erased : E → Bool} {events : List E}
    (hkeep : keep erased events = []) : Aligned erased [] events := by
  induction events with
  | nil => exact .nil
  | cons event events ih =>
    obtain ⟨hevent, hevents⟩ := List.forall_mem_cons.mp (List.filter_eq_nil_iff.mp hkeep)
    exact .right (by simpa using hevent) (ih (List.filter_eq_nil_iff.mpr hevents))

/-- A kept event is the first kept one of any sequence that keeps the same. -/
theorem aligned_cons_of_keep {E : Type} {erased : E → Bool} {event : E} {events events' : List E}
    (hevent : erased event = false)
    (hevents : ∀ later, keep erased events = keep erased later → Aligned erased events later)
    (hkeep : event :: keep erased events = keep erased events') :
    Aligned erased (event :: events) events' := by
  induction events' with
  | nil => simp [keep] at hkeep
  | cons other later ih =>
    cases hother : erased other with
    | true =>
      have hrest : keep erased (other :: later) = keep erased later := by simp [keep, hother]
      exact .right hother (ih (hkeep.trans hrest))
    | false =>
      have hrest : keep erased (other :: later) = other :: keep erased later := by simp [keep, hother]
      obtain ⟨rfl, hlater⟩ := List.cons.inj (hkeep.trans hrest)
      exact .both hevent (hevents later hlater)

theorem aligned_of_keep_eq {E : Type} {erased : E → Bool} {events events' : List E}
    (hkeep : keep erased events = keep erased events') : Aligned erased events events' := by
  induction events generalizing events' with
  | nil => exact aligned_nil_of_keep hkeep.symm
  | cons event events ih =>
    cases hevent : erased event with
    | true =>
      have hrest : keep erased (event :: events) = keep erased events := by simp [keep, hevent]
      exact .left hevent (ih (hrest.symm.trans hkeep))
    | false =>
      have hrest : keep erased (event :: events) = event :: keep erased events := by simp [keep, hevent]
      exact aligned_cons_of_keep hevent (fun later hlater => ih hlater) (hrest.symm.trans hkeep)

/-- What a run puts out, in order. -/
def outputs {S E O : Type} (step : S → E → S) (output : S → E → Option O) (start : S)
    (events : List E) : List O :=
  (trace step start events).filterMap fun entry => output entry.1 entry.2

/-- The unwinding conditions of a relation between two runs: a common event keeps
    the states related and puts out related values, and an erased event keeps them
    related on either side and puts out nothing. -/
structure Unwinds {S E O : Type} (step : S → E → S) (erased : E → Bool) (output : S → E → Option O)
    (R : S → S → Prop) (Q : O → O → Prop) : Prop where
  both : ∀ left right event, R left right → erased event = false → R (step left event) (step right event)
  left : ∀ left right event, R left right → erased event = true → R (step left event) right
  right : ∀ left right event, R left right → erased event = true → R left (step right event)
  related : ∀ left right event, R left right → erased event = false →
    Option.Rel Q (output left event) (output right event)
  silent : ∀ state event, erased event = true → output state event = none

theorem outputs_cons {S E O : Type} (step : S → E → S) (output : S → E → Option O) (start : S) (event : E)
    (events : List E) :
    outputs step output start (event :: events) =
      (output start event).toList ++ outputs step output (step start event) events := by
  cases houtput : output start event <;> simp [outputs, houtput]

theorem forall₂_toList_append {O : Type} {Q : O → O → Prop} {value value' : Option O} {rest rest' : List O}
    (hvalue : Option.Rel Q value value') (hrest : List.Forall₂ Q rest rest') :
    List.Forall₂ Q (value.toList ++ rest) (value'.toList ++ rest') := by
  cases hvalue with
  | none => exact hrest
  | some hvalue => exact .cons hvalue hrest

/-- Runs over aligned sequences from related states put out related values. -/
theorem Unwinds.forall₂_of_aligned {S E O : Type} {step : S → E → S} {erased : E → Bool}
    {output : S → E → Option O} {R : S → S → Prop} {Q : O → O → Prop}
    (hunwinds : Unwinds step erased output R Q) {events events' : List E}
    (haligned : Aligned erased events events') {start start' : S} (hstart : R start start') :
    List.Forall₂ Q (outputs step output start events) (outputs step output start' events') := by
  induction haligned generalizing start start' with
  | nil => exact .nil
  | left herased _ ih =>
    rw [outputs_cons, hunwinds.silent _ _ herased]
    exact ih (hunwinds.left _ _ _ hstart herased)
  | right herased _ ih =>
    rw [outputs_cons, hunwinds.silent _ _ herased]
    exact ih (hunwinds.right _ _ _ hstart herased)
  | @both event events events' herased _ ih =>
    have hrest := ih (hunwinds.both _ _ event hstart herased)
    rw [outputs_cons, outputs_cons]
    exact forall₂_toList_append (hunwinds.related _ _ event hstart herased) hrest

/-- Runs that are the same but for erased events put out related values. -/
theorem Unwinds.forall₂_outputs {S E O : Type} {step : S → E → S} {erased : E → Bool}
    {output : S → E → Option O} {R : S → S → Prop} {Q : O → O → Prop}
    (hunwinds : Unwinds step erased output R Q) {events events' : List E}
    (hkeep : keep erased events = keep erased events') {start start' : S} (hstart : R start start') :
    List.Forall₂ Q (outputs step output start events) (outputs step output start' events') :=
  hunwinds.forall₂_of_aligned (aligned_of_keep_eq hkeep) hstart

/-- With nothing erased, equal events keep related states related and put out the
    same. -/
theorem outputs_eq_of_related {S E O : Type} {step : S → E → S} {output : S → E → Option O}
    {R : S → S → Prop} (hstep : ∀ left right event, R left right → R (step left event) (step right event))
    (houtput : ∀ left right event, R left right → output left event = output right event) {start start' : S}
    (hstart : R start start') (events : List E) :
    outputs step output start events = outputs step output start' events := by
  induction events generalizing start start' with
  | nil => rfl
  | cons event events ih =>
    rw [outputs_cons, outputs_cons, houtput start start' event hstart, ih (hstep start start' event hstart)]

/-- Runs over related events, one by one, stay related. -/
theorem run_related {S E : Type} {step : S → E → S} {R : S → S → Prop} {Q : E → E → Prop}
    (hstep : ∀ left right event event', R left right → Q event event' → R (step left event) (step right event'))
    {events events' : List E} (hevents : List.Forall₂ Q events events') {start start' : S} (hstart : R start start') :
    R (run step start events) (run step start' events') := by
  induction hevents generalizing start start' with
  | nil => exact hstart
  | cons hevent _ ih => exact ih (hstep start start' _ _ hstart hevent)

end unwinding
