import Mathlib.Data.List.Basic
import Mathlib.Data.List.Pairwise

namespace compaction

section compaction

variable {A : Type}

/-- The positions of a list that hold something, moved together. -/
def compact (slots : List (Option A)) : List A := slots.filterMap id

@[simp] theorem compact_nil : compact ([] : List (Option A)) = [] := rfl

theorem compact_cons_none (slots : List (Option A)) : compact (none :: slots) = compact slots := rfl

theorem compact_cons_some (a : A) (slots : List (Option A)) : compact (some a :: slots) = a :: compact slots := rfl

theorem compact_concat (slots : List (Option A)) (slot : Option A) :
    compact (slots ++ [slot]) = compact slots ++ slot.toList := by
  unfold compact
  rw [List.filterMap_append]
  cases slot <;> rfl

/-- Nothing follows a gap. -/
def Gapless (slots : List (Option A)) : Prop := slots.Pairwise fun first second => first = none → second = none

theorem compact_eq_nil_iff (slots : List (Option A)) : compact slots = [] ↔ ∀ slot ∈ slots, slot = none := by
  unfold compact
  rw [List.filterMap_eq_nil_iff]
  rfl

theorem getElem?_join_of_none {slots : List (Option A)} (hnone : ∀ slot ∈ slots, slot = none) (k : ℕ) :
    slots[k]?.join = none := by
  cases hslot : slots[k]? with
  | none => rfl
  | some slot => rw [hnone slot (List.mem_of_getElem? hslot), Option.join_some]

/-- A list keeps its places under compaction exactly when it has no gap before an
    entry. -/
theorem compact_getElem?_iff (slots : List (Option A)) :
    (∀ k : ℕ, (compact slots)[k]? = slots[k]?.join) ↔ Gapless slots := by
  unfold Gapless
  induction slots with
  | nil => simp
  | cons slot slots ih =>
    rw [List.pairwise_cons, ← ih]
    cases slot with
    | none =>
      rw [compact_cons_none]
      constructor
      · intro hplaces
        have hempty : compact slots = [] := by
          have hfirst := hplaces 0
          rwa [List.getElem?_cons_zero, Option.join_some, ← List.head?_eq_getElem?, List.head?_eq_none_iff] at hfirst
        have hnone := (compact_eq_nil_iff slots).mp hempty
        refine ⟨fun second hsecond _ => hnone second hsecond, fun k => ?_⟩
        rw [getElem?_join_of_none hnone, hempty, List.getElem?_nil]
      · rintro ⟨hgap, _⟩ k
        have hnone : ∀ second ∈ slots, second = none := fun second hsecond => hgap second hsecond rfl
        rw [(compact_eq_nil_iff slots).mpr hnone, List.getElem?_nil]
        cases k with
        | zero => rfl
        | succ k => rw [List.getElem?_cons_succ, getElem?_join_of_none hnone]
    | some a =>
      rw [compact_cons_some]
      constructor
      · intro hplaces
        refine ⟨fun _ _ hgap => absurd hgap (Option.some_ne_none a), fun k => ?_⟩
        have hnext := hplaces (k + 1)
        rwa [List.getElem?_cons_succ, List.getElem?_cons_succ] at hnext
      · rintro ⟨_, hplaces⟩ k
        cases k with
        | zero => rfl
        | succ k => rw [List.getElem?_cons_succ, List.getElem?_cons_succ, hplaces]

end compaction

end compaction
