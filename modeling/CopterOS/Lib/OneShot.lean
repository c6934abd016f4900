import CopterOS.Lib.History
import CopterOS.Lib.Run

open transition history

namespace one_shot

/-- What a call of an initialization returns: whether it hands out the unit, and the
    tests it has made with their results. -/
structure Reply (T : Type) where
  handle : Bool
  tested : List (T × Bool)

def Reply.Complete {T : Type} (required : List T) (reply : Reply T) : Prop :=
  ∀ test ∈ required, (test, true) ∈ reply.tested

/-- A unit that is to be initialized once. An event that does not call its
    initialization has no reply. -/
structure Initializer (S E T : Type) where
  step : S → E → S
  reply : S → E → Option (Reply T)
  isInit : S → Bool
  required : List T

namespace Initializer

/-- In some call all the required tests have succeeded. -/
def Completed {S E T : Type} (initializer : Initializer S E T) (start : S) (events : List E) : Prop :=
  ∃ entry ∈ trace initializer.step start events, ∃ reply,
    initializer.reply entry.1 entry.2 = some reply ∧ reply.Complete initializer.required

/-- The unit is handed out only when it is complete, and a call that fails leaves it
    uninitialized, so that the next one makes the tests again. -/
def KeepsPromise {S E T : Type} (initializer : Initializer S E T) (start : S) (before : List E) (event : E) :
    Prop :=
  let state := run initializer.step start before
  ∀ reply, initializer.reply state event = some reply →
    (reply.handle = true → initializer.Completed start (before ++ [event])) ∧
    (reply.handle = false →
      initializer.isInit (initializer.step state event) = false ∧
        ∀ next later, initializer.reply (initializer.step state event) next = some later → later.tested ≠ [])

def RetrySafe {S E T : Type} (initializer : Initializer S E T) (start : S) (events : List E) : Prop :=
  ∀ before event after, events = before ++ event :: after → initializer.KeepsPromise start before event

/-- The unit counts as initialized exactly after a call that has handed it out, but
    for the calls that slip: they fail and leave it marked. -/
structure Lawful {S E T : Type} (initializer : Initializer S E T) (slips : E → Prop) : Prop where
  other : ∀ state event, initializer.reply state event = none →
    initializer.isInit (initializer.step state event) = initializer.isInit state
  again : ∀ state event reply, initializer.reply state event = some reply →
    initializer.isInit state = true →
    reply.handle = true ∧ initializer.isInit (initializer.step state event) = true
  attempt : ∀ state event reply, initializer.reply state event = some reply →
    initializer.isInit state = false → reply.tested ≠ []
  served : ∀ state event reply, initializer.reply state event = some reply →
    initializer.isInit state = false → ¬ slips event →
    (reply.handle = true → reply.Complete initializer.required) ∧
      initializer.isInit (initializer.step state event) = reply.handle
  slip : ∀ state event reply, initializer.reply state event = some reply →
    initializer.isInit state = false → slips event →
    reply.handle = false ∧ initializer.isInit (initializer.step state event) = true

/-- No call slips while the unit is not initialized. -/
def NoSlip {S E T : Type} (initializer : Initializer S E T) (slips : E → Prop) (start : S) (before : List E)
    (event : E) : Prop :=
  initializer.isInit (run initializer.step start before) = false →
    (initializer.reply (run initializer.step start before) event).isSome → ¬ slips event

theorem Completed.concat {S E T : Type} {initializer : Initializer S E T} {start : S} {events : List E}
    (hcompleted : initializer.Completed start events) (event : E) :
    initializer.Completed start (events ++ [event]) := by
  obtain ⟨entry, hentry, hreply⟩ := hcompleted
  exact ⟨entry, by simp [hentry], hreply⟩

/-- A call that completes the unit stands at the end of the trace. -/
theorem completed_concat {S E T : Type} {initializer : Initializer S E T} {start : S} {events : List E}
    {event : E} {reply : Reply T}
    (hreply : initializer.reply (run initializer.step start events) event = some reply)
    (hcomplete : reply.Complete initializer.required) : initializer.Completed start (events ++ [event]) :=
  ⟨(run initializer.step start events, event), by simp, reply, hreply, hcomplete⟩

/-- Without slips the unit counts as initialized only when it is complete. -/
theorem completed_of_isInit {S E T : Type} {initializer : Initializer S E T} {slips : E → Prop}
    (hlawful : initializer.Lawful slips) {start : S} (hstart : initializer.isInit start = false)
    {events : List E} (hevents : ∀ before event after, events = before ++ event :: after →
      initializer.NoSlip slips start before event)
    (hinit : initializer.isInit (run initializer.step start events) = true) :
    initializer.Completed start events := by
  induction events using List.reverseRecOn with
  | nil =>
    rw [run_nil, hstart] at hinit
    contradiction
  | append_singleton events event ih =>
    obtain ⟨hold, hlast⟩ := (forall_split_concat (initializer.NoSlip slips start) events event).mp hevents
    rw [run_concat] at hinit
    cases hbefore : initializer.isInit (run initializer.step start events) with
    | true => exact (ih hold hbefore).concat event
    | false =>
      cases hreply : initializer.reply (run initializer.step start events) event with
      | none =>
        rw [hlawful.other _ _ hreply, hbefore] at hinit
        contradiction
      | some reply =>
        have hnoSlip := hlast hbefore (by rw [hreply]; rfl)
        obtain ⟨hcomplete, hmarked⟩ := hlawful.served _ _ _ hreply hbefore hnoSlip
        exact completed_concat hreply (hcomplete (hmarked.symm.trans hinit))

/-- Calls are safe to retry along a run exactly when none of them slips before the
    unit is initialized. -/
theorem retrySafe_iff_noSlip {S E T : Type} {initializer : Initializer S E T} {slips : E → Prop}
    (hlawful : initializer.Lawful slips) {start : S} (hstart : initializer.isInit start = false)
    (events : List E) :
    initializer.RetrySafe start events ↔
      ∀ before event after, events = before ++ event :: after →
        initializer.NoSlip slips start before event := by
  constructor
  · intro hsafe before event after hsplit hinit hcalled hslip
    obtain ⟨reply, hreply⟩ := Option.isSome_iff_exists.mp hcalled
    obtain ⟨hnull, hmarked⟩ := hlawful.slip _ _ _ hreply hinit hslip
    have hcleared := ((hsafe before event after hsplit reply hreply).2 hnull).1
    rw [hmarked] at hcleared
    contradiction
  · rintro hnoSlip before event after rfl reply hreply
    have hearlier : ∀ first entry rest, before = first ++ entry :: rest →
        initializer.NoSlip slips start first entry := by
      rintro first entry rest rfl
      exact hnoSlip first entry (rest ++ event :: after) (by simp)
    cases hinit : initializer.isInit (run initializer.step start before) with
    | true =>
      have hhandle := (hlawful.again _ _ _ hreply hinit).1
      have hcompleted := completed_of_isInit hlawful hstart hearlier hinit
      refine ⟨fun _ => hcompleted.concat event, ?_⟩
      intro hnull
      rw [hhandle] at hnull
      contradiction
    | false =>
      have hserves := hnoSlip before event after rfl hinit (by rw [hreply]; rfl)
      obtain ⟨hcomplete, hmarked⟩ := hlawful.served _ _ _ hreply hinit hserves
      refine ⟨fun hhandle => completed_concat hreply (hcomplete hhandle), ?_⟩
      intro hnull
      have hcleared := hmarked.trans hnull
      exact ⟨hcleared, fun next later hlater => hlawful.attempt _ _ _ hlater hcleared⟩

end Initializer

end one_shot
