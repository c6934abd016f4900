import Mathlib.Data.List.Find
import Mathlib.Data.List.Induction
import Mathlib.Data.List.Infix

namespace latch

/-- The shortest prefix of a history that passes a test, as a latch sees it. -/
def firstPrefix {E : Type} (test : List E → Bool) (history : List E) : Option (List E) :=
  history.inits.find? test

@[simp] theorem firstPrefix_nil {E : Type} (test : List E → Bool) :
    firstPrefix test [] = if test [] then some [] else none := by
  cases htest : test [] <;> simp [firstPrefix, htest]

/-- Once set a latch stays, and one more entry sets it if the whole history
    passes. -/
theorem firstPrefix_concat {E : Type} (test : List E → Bool) (history : List E) (entry : E) :
    firstPrefix test (history ++ [entry]) =
      (firstPrefix test history).or (if test (history ++ [entry]) then some (history ++ [entry]) else none) := by
  unfold firstPrefix
  rw [List.inits_append, List.find?_append]
  congr 1
  cases htest : test (history ++ [entry]) <;> simp [htest]

/-- The prefix passes, and no shorter one does. -/
structure IsFirst {E : Type} (test : List E → Bool) (history first : List E) : Prop where
  isPrefix : first <+: history
  passes : test first = true
  minimal : ∀ earlier, earlier <+: first → test earlier = true → earlier = first

theorem isFirst_of_firstPrefix {E : Type} {test : List E → Bool} {history first : List E}
    (hfirst : firstPrefix test history = some first) : IsFirst test history first := by
  induction history using List.reverseRecOn generalizing first with
  | nil =>
    rw [firstPrefix_nil, Option.ite_none_right_eq_some, Option.some.injEq] at hfirst
    obtain ⟨hpasses, rfl⟩ := hfirst
    exact ⟨List.prefix_rfl, hpasses, fun earlier hearlier _ => List.prefix_nil.mp hearlier⟩
  | append_singleton history entry ih =>
    rw [firstPrefix_concat] at hfirst
    cases hold : firstPrefix test history with
    | some old =>
      rw [hold, Option.some_or, Option.some.injEq] at hfirst
      subst hfirst
      obtain ⟨hearly, hpasses, hminimal⟩ := ih hold
      exact ⟨hearly.trans (List.prefix_append _ _), hpasses, hminimal⟩
    | none =>
      rw [hold, Option.none_or, Option.ite_none_right_eq_some, Option.some.injEq] at hfirst
      obtain ⟨hpasses, rfl⟩ := hfirst
      refine ⟨List.prefix_rfl, hpasses, ?_⟩
      intro earlier hearlier htest
      obtain heq | hshorter := List.prefix_concat_iff.mp hearlier
      · exact heq
      · have hnone := List.find?_eq_none.mp hold earlier (List.mem_inits _ _ |>.mpr hshorter)
        exact absurd htest hnone

theorem IsFirst.unique {E : Type} {test : List E → Bool} {history left right : List E}
    (hleft : IsFirst test history left) (hright : IsFirst test history right) : left = right := by
  obtain hle | hle := List.prefix_or_prefix_of_prefix hleft.isPrefix hright.isPrefix
  · exact hright.minimal left hle hleft.passes
  · exact (hleft.minimal right hle hright.passes).symm

theorem firstPrefix_eq_none_iff {E : Type} {test : List E → Bool} {history : List E} :
    firstPrefix test history = none ↔ ∀ earlier, earlier <+: history → test earlier = false := by
  simp [firstPrefix, List.find?_eq_none]

theorem firstPrefix_eq_some_iff {E : Type} {test : List E → Bool} {history first : List E} :
    firstPrefix test history = some first ↔ IsFirst test history first := by
  refine ⟨isFirst_of_firstPrefix, ?_⟩
  intro hfirst
  cases hfound : firstPrefix test history with
  | none =>
    have hfails := firstPrefix_eq_none_iff.mp hfound first hfirst.isPrefix
    rw [hfirst.passes] at hfails
    contradiction
  | some found => exact congrArg some ((isFirst_of_firstPrefix hfound).unique hfirst)

/-- A latch that is set stays as it is. -/
theorem firstPrefix_stays {E : Type} {test : List E → Bool} {history later first : List E}
    (hlater : history <+: later) (hfirst : firstPrefix test history = some first) :
    firstPrefix test later = some first := by
  obtain ⟨hearly, hpasses, hminimal⟩ := isFirst_of_firstPrefix hfirst
  exact firstPrefix_eq_some_iff.mpr ⟨hearly.trans hlater, hpasses, hminimal⟩

/-- A test that does not see a change of the entries latches the changed prefix. -/
theorem firstPrefix_map {E : Type} {test : List E → Bool} (change : E → E) {history : List E}
    (hunseen : ∀ earlier, earlier <+: history → test (earlier.map change) = test earlier) :
    firstPrefix test (history.map change) = (firstPrefix test history).map (List.map change) := by
  unfold firstPrefix
  rw [List.map_inits, List.find?_map]
  congr 1
  apply List.find?_congr
  intro earlier hearlier
  exact hunseen earlier ((List.mem_inits earlier history).mp hearlier)

/-- A laxer test latches the value of a stricter one, all along a history, exactly
    if it never passes before the stricter one has. -/
theorem firstPrefix_map_eq_iff {E V : Type} {strict lax : List E → Bool}
    (hlax : ∀ history, strict history = true → lax history = true) (value : List E → V) (history : List E) :
    (∀ earlier, earlier <+: history →
        (firstPrefix lax earlier).map value = (firstPrefix strict earlier).map value) ↔
      ∀ earlier, earlier <+: history → lax earlier = true → ∃ first, first <+: earlier ∧ strict first = true := by
  constructor
  · intro hsame earlier hearlier hpasses
    have hvalue := hsame earlier hearlier
    cases hfound : firstPrefix strict earlier with
    | none =>
      rw [hfound, Option.map_none, Option.map_eq_none_iff, firstPrefix_eq_none_iff] at hvalue
      exact absurd hpasses (by simp [hvalue earlier List.prefix_rfl])
    | some first =>
      have hfirst := isFirst_of_firstPrefix hfound
      exact ⟨first, hfirst.isPrefix, hfirst.passes⟩
  · intro hlater earlier hearlier
    congr 1
    cases hfound : firstPrefix strict earlier with
    | none =>
      rw [firstPrefix_eq_none_iff] at hfound ⊢
      intro start hstart
      apply Bool.eq_false_iff.mpr
      intro hpasses
      obtain ⟨first, hfirst, hstrict⟩ := hlater start (hstart.trans hearlier) hpasses
      rw [hfound first (hfirst.trans hstart)] at hstrict
      contradiction
    | some first =>
      obtain ⟨hearly, hpasses, hminimal⟩ := isFirst_of_firstPrefix hfound
      rw [firstPrefix_eq_some_iff]
      refine ⟨hearly, hlax first hpasses, ?_⟩
      intro start hstart hstartPasses
      obtain ⟨least, hleast, hstrict⟩ :=
        hlater start (hstart.trans (hearly.trans hearlier)) hstartPasses
      have heq := hminimal least (hleast.trans hstart) hstrict
      subst heq
      exact hstart.eq_of_length (Nat.le_antisymm hstart.length_le hleast.length_le)

end latch
