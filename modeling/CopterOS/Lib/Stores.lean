import Mathlib.Data.List.Nodup
import Mathlib.Logic.Function.Basic

namespace stores

section functions

variable {L V : Type} [DecidableEq L]

/-- A memory after a sequence of single stores. -/
def storeAll (memory : L → V) (writes : List (L × V)) : L → V :=
  writes.foldl (fun memory write => Function.update memory write.1 write.2) memory

end functions

@[simp] theorem storeAll_nil {L V : Type} [DecidableEq L] (memory : L → V) :
    storeAll memory [] = memory := rfl

theorem storeAll_concat {L V : Type} [DecidableEq L] (memory : L → V) (writes : List (L × V))
    (write : L × V) :
    storeAll memory (writes ++ [write]) = Function.update (storeAll memory writes) write.1 write.2 := by
  simp [storeAll]

/-- A location that is not written keeps its value. -/
theorem storeAll_of_not_mem {L V : Type} [DecidableEq L] {writes : List (L × V)} {location : L}
    (hlocation : location ∉ writes.map Prod.fst) (memory : L → V) :
    storeAll memory writes location = memory location := by
  induction writes generalizing memory with
  | nil => rfl
  | cons write writes ih =>
    rw [List.map_cons, List.mem_cons, not_or] at hlocation
    change storeAll (Function.update memory write.1 write.2) writes location = memory location
    rw [ih hlocation.2, Function.update_of_ne hlocation.1]

/-- With distinct locations every one of them ends up with what is written to it. -/
theorem storeAll_of_mem {L V : Type} [DecidableEq L] {writes : List (L × V)}
    (hnodup : (writes.map Prod.fst).Nodup) {location : L} {value : V} (hwrite : (location, value) ∈ writes)
    (memory : L → V) : storeAll memory writes location = value := by
  induction writes generalizing memory with
  | nil => simp at hwrite
  | cons write writes ih =>
    obtain ⟨hhead, htail⟩ := List.nodup_cons.mp hnodup
    change storeAll (Function.update memory write.1 write.2) writes location = value
    cases List.mem_cons.mp hwrite with
    | inl heq =>
      obtain rfl := heq
      rw [storeAll_of_not_mem hhead, Function.update_self]
    | inr hrest => exact ih htail hrest _

/-- A copied location holds what the source holds there. -/
theorem storeAll_map_of_mem {L V : Type} [DecidableEq L] {locations : List L} (hnodup : locations.Nodup) (source : L → V)
    {location : L} (hlocation : location ∈ locations) (memory : L → V) :
    storeAll memory (locations.map fun location => (location, source location)) location = source location := by
  apply storeAll_of_mem
  · rwa [List.map_map, show (Prod.fst ∘ fun location => (location, source location)) = id from rfl, List.map_id]
  · exact List.mem_map_of_mem hlocation

/-- After the first `k` stores to distinct locations those behind hold the new
    values. -/
theorem storeAll_take_of_lt {L V : Type} [DecidableEq L] {writes : List (L × V)}
    (hnodup : (writes.map Prod.fst).Nodup) {i k : ℕ} (hi : i < writes.length) (hik : i < k)
    (memory : L → V) : storeAll memory (writes.take k) writes[i].1 = writes[i].2 := by
  apply storeAll_of_mem
  · exact hnodup.sublist ((List.take_sublist k writes).map Prod.fst)
  · exact List.mem_take_iff_getElem.mpr ⟨i, by omega, rfl⟩

/-- Those ahead hold the old ones. -/
theorem storeAll_take_of_le {L V : Type} [DecidableEq L] {writes : List (L × V)}
    (hnodup : (writes.map Prod.fst).Nodup) {i k : ℕ} (hi : i < writes.length) (hki : k ≤ i)
    (memory : L → V) : storeAll memory (writes.take k) writes[i].1 = memory writes[i].1 := by
  apply storeAll_of_not_mem
  intro hmem
  obtain ⟨write, htaken, hsame⟩ := List.mem_map.mp hmem
  obtain ⟨j, hj, rfl⟩ := List.mem_take_iff_getElem.mp htaken
  have hfirst : j < (writes.map Prod.fst).length := by rw [List.length_map]; omega
  have hsecond : i < (writes.map Prod.fst).length := by rwa [List.length_map]
  have hequal : (writes.map Prod.fst)[j] = (writes.map Prod.fst)[i] := by simpa using hsame
  have hindex : j = i := hnodup.getElem_inj_iff.mp hequal
  omega

end stores
