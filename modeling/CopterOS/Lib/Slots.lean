import Mathlib.Data.Nat.Notation
import Mathlib.Data.List.FinRange

namespace slots

/-- The slots of a table before position `k` are taken and all others free. -/
def FilledTo {n : ℕ} (free : Fin n → Bool) (k : ℕ) : Prop :=
  ∀ slot : Fin n, free slot = true ↔ k ≤ slot.val

/-- A search through the table stops at the first free slot. -/
theorem find?_eq_some_iff {n : ℕ} (free : Fin n → Bool) (slot : Fin n) :
    (List.finRange n).find? free = some slot ↔ free slot = true ∧ ∀ j < slot, free j = false := by
  rw [← Fin.find?_eq_find?_finRange, Fin.find?_eq_some_iff]

theorem find?_of_filledTo {n k : ℕ} {free : Fin n → Bool} (hfilled : FilledTo free k) (hk : k < n) :
    (List.finRange n).find? free = some ⟨k, hk⟩ := by
  rw [find?_eq_some_iff]
  refine ⟨(hfilled _).mpr (le_refl k), ?_⟩
  intro slot hslot
  have hlt : slot.val < k := hslot
  exact Bool.eq_false_iff.mpr fun hfree => absurd ((hfilled slot).mp hfree) (by omega)

/-- No slot of a filled table is free. -/
theorem find?_of_full {n k : ℕ} {free : Fin n → Bool} (hfilled : FilledTo free k) (hk : n ≤ k) :
    (List.finRange n).find? free = none := by
  rw [List.find?_eq_none]
  intro slot _ hfree
  have hle := (hfilled slot).mp hfree
  omega

/-- A table that holds the entries of a list in order has its first free slot behind
    them. -/
theorem find?_of_getElem? {n : ℕ} {A : Type} {free : Fin n → Bool} {entries : List A}
    (hentries : ∀ slot : Fin n, free slot = entries[slot.val]?.isNone) :
    (List.finRange n).find? free = if hk : entries.length < n then some ⟨entries.length, hk⟩ else none := by
  have hfilled : FilledTo free entries.length := by
    intro slot
    rw [hentries, Option.isNone_iff_eq_none, List.getElem?_eq_none_iff]
  split
  case isTrue hk => exact find?_of_filledTo hfilled hk
  case isFalse hk => exact find?_of_full hfilled (by omega)

/-- Taking the slot behind the taken ones fills the table by one more. -/
theorem FilledTo.take {n k : ℕ} {free after : Fin n → Bool} (hfilled : FilledTo free k)
    (htaken : ∀ slot : Fin n, slot.val = k → after slot = false)
    (hkept : ∀ slot : Fin n, slot.val ≠ k → after slot = free slot) : FilledTo after (k + 1) := by
  intro slot
  by_cases hslot : slot.val = k
  · rw [htaken slot hslot]
    simp
    omega
  · rw [hkept slot hslot, hfilled slot]
    omega

/-- A filled table stays filled however far the count runs past its end. -/
theorem FilledTo.full {n k l : ℕ} {free : Fin n → Bool} (hfilled : FilledTo free k) (hk : n ≤ k)
    (hl : n ≤ l) : FilledTo free l := by
  intro slot
  have hslot := slot.isLt
  rw [hfilled slot]
  omega

end slots
