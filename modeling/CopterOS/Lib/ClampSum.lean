import Mathlib.Algebra.Order.Group.Defs
import Mathlib.Algebra.BigOperators.Group.List.Basic
import Mathlib.Algebra.Order.Group.MinMax
import Mathlib.Data.List.Induction
import Mathlib.Tactic.Abel

namespace clamp_sum

section definitions

variable {A : Type} [AddCommGroup A] [LinearOrder A]

/-- One addition, cut off at the two limits. -/
def clampAdd (low high total x : A) : A :=
  if high < total + x then high else if total + x < low then low else total + x

/-- One input of a resettable sum. -/
inductive Input (A : Type) where
  | reset
  | add (x : A)

/-- What has been added since the last reset, in order. -/
def sinceReset {A : Type} : List (Input A) → List A :=
  List.foldl (fun added input =>
    match input with
    | .reset => []
    | .add x => added ++ [x]) []

/-- The sum that is cut off at both limits in every addition. -/
def clampSum (low high : A) : List (Input A) → A :=
  List.foldl (fun total input =>
    match input with
    | .reset => 0
    | .add x => clampAdd low high total x) 0

/-- The sum that is cut off at the upper limit alone. -/
def cappedSum (high : A) (added : List A) : A := added.foldl (fun total x => min high (total + x)) 0

/-- No run of consecutive additions that ends now has lost more than the full
    range, and all of them together have not gone below its lower end. -/
def Bounded (bound : A) (added : List A) : Prop :=
  -bound ≤ added.sum ∧ ∀ window, window <:+ added → -(bound + bound) ≤ window.sum

@[simp] theorem sinceReset_concat {A : Type} (inputs : List (Input A)) (last : Input A) :
    sinceReset (inputs ++ [last]) =
      match last with
      | .reset => []
      | .add x => sinceReset inputs ++ [x] := by
  cases last <;> simp [sinceReset]

@[simp] theorem clampSum_concat (low high : A) (inputs : List (Input A)) (last : Input A) :
    clampSum low high (inputs ++ [last]) =
      match last with
      | .reset => 0
      | .add x => clampAdd low high (clampSum low high inputs) x := by
  cases last <;> simp [clampSum]

@[simp] theorem cappedSum_concat (high : A) (added : List A) (x : A) :
    cappedSum high (added ++ [x]) = min high (cappedSum high added + x) := by
  simp [cappedSum]

/-- A clamped addition stays between its limits. -/
theorem clampAdd_le {low high : A} (hlimits : low ≤ high) (total x : A) :
    clampAdd low high total x ≤ high := by
  unfold clampAdd
  split
  · exact le_refl high
  · split
    · exact hlimits
    · exact not_lt.mp ‹_›

/-- The sum never exceeds its upper limit. -/
theorem clampSum_le {low high : A} (hlimits : low ≤ high) (hhigh : 0 ≤ high) (inputs : List (Input A)) :
    clampSum low high inputs ≤ high := by
  induction inputs using List.reverseRecOn with
  | nil => exact hhigh
  | append_singleton inputs last ih =>
    rw [clampSum_concat]
    cases last with
    | reset => exact hhigh
    | add x => exact clampAdd_le hlimits _ x

/-- While the result stays above the lower limit, that limit is not used. -/
theorem clampAdd_eq_min {low high total x : A} (hlow : low ≤ min high (total + x)) :
    clampAdd low high total x = min high (total + x) := by
  unfold clampAdd
  by_cases hover : high < total + x
  · rw [if_pos hover, min_eq_left hover.le]
  · have hunder := (le_min_iff.mp hlow).2
    rw [if_neg hover, if_neg (not_lt.mpr hunder), min_eq_right (not_lt.mp hover)]

/-- A result strictly above the lower limit has not been cut off there. -/
theorem min_of_lt_clampAdd {low high total x : A} (hlow : low < clampAdd low high total x) :
    clampAdd low high total x = min high (total + x) := by
  unfold clampAdd at hlow ⊢
  by_cases hover : high < total + x
  · rw [if_pos hover, min_eq_left hover.le]
  · rw [if_neg hover] at hlow ⊢
    by_cases hunder : total + x < low
    · rw [if_pos hunder] at hlow
      exact absurd hlow (lt_irrefl low)
    · rw [if_neg hunder, min_eq_right (not_lt.mp hover)]

/-- As long as one of the two sums stays above the lower limit, they agree. -/
theorem clampSum_eq_cappedSum {low high : A} {inputs : List (Input A)}
    (habove : ∀ before, before <+: inputs →
      low < clampSum low high before ∨ low < cappedSum high (sinceReset before)) :
    clampSum low high inputs = cappedSum high (sinceReset inputs) := by
  induction inputs using List.reverseRecOn with
  | nil => rfl
  | append_singleton inputs last ih =>
    have hsame := ih (fun before hbefore => habove before (hbefore.trans (List.prefix_append _ _)))
    have hlast := habove (inputs ++ [last]) (List.prefix_refl _)
    rw [clampSum_concat, sinceReset_concat] at hlast ⊢
    cases last with
    | reset => rfl
    | add x =>
      rw [cappedSum_concat, ← hsame] at hlast ⊢
      rcases hlast with hclamped | hcapped
      · exact min_of_lt_clampAdd hclamped
      · exact clampAdd_eq_min hcapped.le

end definitions

section ordered

variable {A : Type} [AddCommGroup A] [LinearOrder A] [IsOrderedAddMonoid A]

/-- The capped sum is the least of the full sum and the limit plus any run of
    additions that ends now. -/
theorem le_cappedSum_iff {high c : A} (hhigh : 0 ≤ high) (added : List A) :
    c ≤ cappedSum high added ↔ c ≤ added.sum ∧ ∀ window, window <:+ added → c ≤ high + window.sum := by
  induction added using List.reverseRecOn generalizing c with
  | nil =>
    simp only [cappedSum, List.foldl_nil, List.sum_nil, List.suffix_nil, forall_eq, add_zero]
    exact ⟨fun hc => ⟨hc, hc.trans hhigh⟩, And.left⟩
  | append_singleton added x ih =>
    rw [cappedSum_concat, le_min_iff, ← sub_le_iff_le_add, ih, sub_le_iff_le_add]
    simp only [List.sum_append, List.sum_singleton]
    constructor
    · rintro ⟨hc, hsum, hwindows⟩
      refine ⟨hsum, ?_⟩
      intro window hwindow
      rcases List.suffix_concat_iff.mp hwindow with rfl | ⟨rest, rfl, hrest⟩
      · simpa using hc
      · have hbound := sub_le_iff_le_add.mp (hwindows rest hrest)
        rwa [List.sum_append, List.sum_singleton, ← add_assoc]
    · rintro ⟨hsum, hwindows⟩
      refine ⟨by simpa using hwindows [] (List.nil_suffix), hsum, ?_⟩
      intro window hwindow
      have hlonger := hwindows (window ++ [x]) (List.suffix_concat_iff.mpr (.inr ⟨window, rfl, hwindow⟩))
      rw [List.sum_append, List.sum_singleton, ← add_assoc] at hlonger
      exact sub_le_iff_le_add.mpr hlonger

/-- The capped sum stays in the symmetric range exactly when no run of additions
    loses too much. -/
theorem neg_le_cappedSum_iff {bound : A} (hbound : 0 ≤ bound) (added : List A) :
    -bound ≤ cappedSum bound added ↔ Bounded bound added := by
  rw [le_cappedSum_iff hbound]
  unfold Bounded
  have hwindow : ∀ total : A, -bound ≤ bound + total ↔ -(bound + bound) ≤ total := by
    intro total
    rw [neg_add, ← sub_eq_add_neg, sub_le_iff_le_add, add_comm]
  simp only [hwindow]

/-- With a lower limit strictly below the symmetric range, the clamped sum stays
    in that range all along exactly when the additions are bounded all along. -/
theorem forall_neg_le_clampSum_iff {low bound : A} (hlow : low < -bound) (hbound : 0 ≤ bound)
    (inputs : List (Input A)) :
    (∀ before, before <+: inputs → -bound ≤ clampSum low bound before) ↔
      ∀ before, before <+: inputs → Bounded bound (sinceReset before) := by
  constructor
  · intro hclamped before hbefore
    have hsame : clampSum low bound before = cappedSum bound (sinceReset before) :=
      clampSum_eq_cappedSum fun first hfirst =>
        .inl (hlow.trans_le (hclamped first (hfirst.trans hbefore)))
    rw [← neg_le_cappedSum_iff hbound, ← hsame]
    exact hclamped before hbefore
  · intro hadded before hbefore
    have hcapped := fun first (hfirst : first <+: before) =>
      (neg_le_cappedSum_iff hbound _).mpr (hadded first (hfirst.trans hbefore))
    rw [clampSum_eq_cappedSum fun first hfirst => .inr (hlow.trans_le (hcapped first hfirst))]
    exact hcapped before (List.prefix_refl _)

end ordered

end clamp_sum
