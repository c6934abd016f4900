import Mathlib.Algebra.BigOperators.Fin
import Mathlib.Data.Int.ModEq
import Mathlib.Data.List.DropRight
import Mathlib.Data.List.FinRange

namespace ring_buffer

/-- A buffer that is written round and round. -/
structure Ring (n : ℕ) (A : Type) where
  slots : Fin n → A
  head : Fin n

section functions

variable {n : ℕ} {A : Type}

def next (head : Fin n) : Fin n := if h : head.val + 1 < n then ⟨head.val + 1, h⟩ else ⟨0, head.pos⟩

def Ring.push (entry : A) (ring : Ring n A) : Ring n A where
  slots := Function.update ring.slots ring.head entry
  head := next ring.head

/-- The ring after a history of entries: its head is due for the next one, and
    each of the last `n` entries is in its slot. -/
structure Ring.Holds (ring : Ring n A) (history : List A) : Prop where
  head : ring.head.val = history.length % n
  slots : ∀ j (hj : j < history.length), history.length ≤ j + n →
    ring.slots ⟨j % n, Nat.mod_lt j ring.head.pos⟩ = history[j]

end functions

theorem next_val {n : ℕ} (head : Fin n) : (next head).val = (head.val + 1) % n := by
  unfold next
  split
  case isTrue hroom => exact (Nat.mod_eq_of_lt hroom).symm
  case isFalse hroom =>
    have hfull : head.val + 1 = n := by omega
    simp [hfull]

theorem Ring.holds_nil {n : ℕ} {A : Type} {ring : Ring n A} (hhead : ring.head.val = 0) : ring.Holds [] where
  head := by simpa using hhead
  slots := by simp

/-- Within one round no two entries share a slot. -/
theorem mod_ne_of_lt {n j k : ℕ} (hjk : j < k) (hround : k < j + n) : j % n ≠ k % n := by
  intro hsame
  have hdvd : n ∣ k - j := (Nat.modEq_iff_dvd' hjk.le).mp hsame
  have hle : n ≤ k - j := Nat.le_of_dvd (by omega) hdvd
  omega

theorem Ring.Holds.push {n : ℕ} {A : Type} {ring : Ring n A} {history : List A} (hholds : ring.Holds history)
    (entry : A) : (ring.push entry).Holds (history ++ [entry]) where
  head := by
    change (next ring.head).val = (history ++ [entry]).length % n
    rw [next_val, hholds.head, Nat.mod_add_mod, List.length_append, List.length_singleton]
  slots := by
    intro j hj hround
    rw [List.length_append, List.length_singleton] at hj hround
    change Function.update ring.slots ring.head entry _ = _
    by_cases hlast : j = history.length
    · subst hlast
      have hslot : (⟨history.length % n, Nat.mod_lt _ ring.head.pos⟩ : Fin n) = ring.head :=
        Fin.ext hholds.head.symm
      rw [hslot, Function.update_self, List.getElem_concat_length rfl]
    · have hother : (⟨j % n, Nat.mod_lt _ ring.head.pos⟩ : Fin n) ≠ ring.head := by
        intro hslot
        have hsame := congrArg Fin.val hslot
        rw [hholds.head] at hsame
        exact mod_ne_of_lt (by omega) (by omega) hsame
      rw [Function.update_of_ne hother, hholds.slots j (by omega) (by omega),
        List.getElem_append_left (by omega)]

/-- The slot of the `k`-th of the last `n` entries. -/
def slotOf {n : ℕ} (length : ℕ) (k : Fin n) : Fin n := ⟨(length - n + k) % n, Nat.mod_lt _ k.pos⟩

theorem slotOf_bijective {n : ℕ} (length : ℕ) : Function.Bijective (slotOf (n := n) length) := by
  apply Finite.injective_iff_bijective.mp
  intro left right hsame
  have hmod : (length - n + left) % n = (length - n + right) % n := congrArg Fin.val hsame
  by_contra hne
  obtain hlt | hlt := Nat.lt_or_gt_of_ne (fun hval => hne (Fin.ext hval))
  · exact mod_ne_of_lt (by omega) (by omega) hmod
  · exact mod_ne_of_lt (by omega) (by omega) hmod.symm

/-- The last `n` entries of a full ring, each from its slot. -/
theorem Ring.Holds.rtake_eq_ofFn {n : ℕ} {A : Type} {ring : Ring n A} {history : List A}
    (hholds : ring.Holds history) (hfull : n ≤ history.length) :
    history.rtake n = List.ofFn (ring.slots ∘ slotOf history.length) := by
  apply List.ext_getElem
  · rw [List.length_ofFn]
    simp only [List.rtake, List.length_drop]
    omega
  · intro i hi hi'
    rw [List.length_ofFn] at hi'
    simp only [List.rtake, List.getElem_drop, List.getElem_ofFn, Function.comp_apply, slotOf]
    exact (hholds.slots (history.length - n + i) (by omega) (by omega)).symm

/-- A full ring is a permutation of the last `n` entries. -/
theorem Ring.Holds.perm {n : ℕ} {A : Type} {ring : Ring n A} {history : List A} (hholds : ring.Holds history)
    (hfull : n ≤ history.length) : (List.ofFn ring.slots).Perm (history.rtake n) := by
  rw [hholds.rtake_eq_ofFn hfull]
  exact (Equiv.Perm.ofFn_comp_perm (Equiv.ofBijective _ (slotOf_bijective history.length)) ring.slots).symm

/-- Before it is full a ring holds all entries, in order, from its first slot on. -/
theorem Ring.Holds.take_eq {n : ℕ} {A : Type} {ring : Ring n A} {history : List A} (hholds : ring.Holds history)
    (hroom : history.length ≤ n) : (List.ofFn ring.slots).take history.length = history := by
  apply List.ext_getElem
  · rw [List.length_take, List.length_ofFn]
    omega
  · intro i hi hi'
    have hslot : (⟨i % n, Nat.mod_lt i ring.head.pos⟩ : Fin n) = ⟨i, by omega⟩ :=
      Fin.ext (Nat.mod_eq_of_lt (by omega))
    have hentry := hholds.slots i hi' (by omega)
    rw [hslot] at hentry
    rw [List.getElem_take, List.getElem_ofFn, hentry]

/-- The `k` slots before the head, in circular order. -/
def Ring.recent {n : ℕ} {A : Type} (ring : Ring n A) (k : ℕ) : List A :=
  List.ofFn fun i : Fin k => ring.slots ⟨(ring.head.val + (n - k) + i.val) % n, Nat.mod_lt _ ring.head.pos⟩

/-- The slots before the head hold the last entries, in order. -/
theorem Ring.Holds.recent_eq {n : ℕ} {A : Type} {ring : Ring n A} {history : List A} (hholds : ring.Holds history) :
    ring.recent (min history.length n) = history.rtake n := by
  apply List.ext_getElem
  · simp only [Ring.recent, List.length_ofFn, List.rtake, List.length_drop]
    omega
  · intro i hi hi'
    simp only [Ring.recent, List.length_ofFn] at hi
    have hslot : (ring.head.val + (n - min history.length n) + i) % n = (history.length - n + i) % n := by
      rw [hholds.head, add_assoc, Nat.mod_add_mod]
      have hsum : history.length + (n - min history.length n + i) = history.length - n + i + n := by omega
      rw [hsum, Nat.add_mod_right]
    simp only [Ring.recent, List.getElem_ofFn, List.rtake, List.getElem_drop, hslot]
    exact hholds.slots (history.length - n + i) (by omega) (by omega)

/-- A sum over a full ring is one over the last `n` entries. -/
theorem Ring.Holds.sum {n : ℕ} {A M : Type} [AddCommMonoid M] {ring : Ring n A} {history : List A}
    (hholds : ring.Holds history) (hfull : n ≤ history.length) (f : A → M) :
    ∑ i, f (ring.slots i) = ((history.rtake n).map f).sum := by
  rw [hholds.rtake_eq_ofFn hfull, List.map_ofFn, List.sum_ofFn]
  exact ((slotOf_bijective history.length).sum_comp fun slot => f (ring.slots slot)).symm

end ring_buffer
