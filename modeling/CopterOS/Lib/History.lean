import Mathlib.Data.List.Induction
import Mathlib.Data.List.Basic

namespace history

/-- A split of an extended history stands either at its last entry or inside
    the old history. -/
theorem concat_eq_split {A : Type} {entries before after : List A} {last entry : A}
    (hsplit : entries ++ [last] = before ++ entry :: after) :
    (entries = before ∧ last = entry ∧ after = []) ∨
      ∃ rest, after = rest ++ [last] ∧ entries = before ++ entry :: rest := by
  rcases List.eq_nil_or_concat' after with rfl | ⟨rest, final, rfl⟩
  · obtain ⟨hbefore, hlast⟩ := List.append_inj' hsplit rfl
    exact .inl ⟨hbefore, by simpa using hlast, rfl⟩
  · have hconcat : entries ++ [last] = (before ++ entry :: rest) ++ [final] := by simpa using hsplit
    obtain ⟨hentries, hlast⟩ := List.append_inj' hconcat rfl
    obtain rfl : last = final := by simpa using hlast
    exact .inr ⟨rest, rfl, hentries⟩

/-- What holds of every entry and the history before it holds of one more entry
    as soon as it holds of that one. -/
theorem forall_split_concat {A : Type} (P : List A → A → Prop) (entries : List A) (last : A) :
    (∀ before entry after, entries ++ [last] = before ++ entry :: after → P before entry) ↔
      (∀ before entry after, entries = before ++ entry :: after → P before entry) ∧ P entries last := by
  constructor
  · intro hall
    refine ⟨?_, hall entries last [] rfl⟩
    rintro before entry after rfl
    exact hall before entry (after ++ [last]) (by simp)
  · rintro ⟨hold, hlast⟩ before entry after hsplit
    rcases concat_eq_split hsplit with ⟨rfl, rfl, _⟩ | ⟨rest, _, hentries⟩
    · exact hlast
    · exact hold before entry rest hentries

/-- The splits of a history with two entries. -/
theorem pair_eq_split {A : Type} {first second entry : A} {before after : List A}
    (hsplit : [first, second] = before ++ entry :: after) :
    (before = [] ∧ entry = first) ∨ (before = [first] ∧ entry = second) := by
  have hconcat : [first] ++ [second] = before ++ entry :: after := hsplit
  rcases concat_eq_split hconcat with ⟨hbefore, hentry, _⟩ | ⟨rest, _, hfirst⟩
  · exact .inr ⟨hbefore.symm, hentry.symm⟩
  · have hnil : ([] : List A) ++ [first] = before ++ entry :: rest := hfirst
    rcases concat_eq_split hnil with ⟨hbefore, hentry, _⟩ | ⟨_, _, hempty⟩
    · exact .inl ⟨hbefore.symm, hentry.symm⟩
    · simp at hempty

/-- A statement about every prefix of a filtered history is one about the
    filtered prefixes. -/
theorem forall_prefix_filterMap {A B : Type} (f : A → Option B) (P : List B → Prop) (entries : List A) :
    (∀ before, before <+: entries.filterMap f → P before) ↔
      ∀ before, before <+: entries → P (before.filterMap f) := by
  constructor
  · intro hall before hbefore
    exact hall _ (hbefore.filterMap f)
  · rintro hall before ⟨after, hsplit⟩
    obtain ⟨first, second, rfl, rfl, _⟩ := List.filterMap_eq_append_iff.mp hsplit.symm
    exact hall first (List.prefix_append _ _)

/-- Some entry marks the start, and every entry after it keeps the condition. -/
def Since {A : Type} (keep start : A → Prop) (entries : List A) : Prop :=
  ∃ before entry after, entries = before ++ entry :: after ∧ start entry ∧ ∀ later ∈ after, keep later

@[simp] theorem not_since_nil {A : Type} (keep start : A → Prop) : ¬ Since keep start [] := by
  rintro ⟨before, entry, after, hentries, _⟩
  simp at hentries

/-- One more entry either starts the condition anew or has to keep it. -/
theorem since_concat {A : Type} (keep start : A → Prop) (entries : List A) (last : A) :
    Since keep start (entries ++ [last]) ↔ start last ∨ (keep last ∧ Since keep start entries) := by
  constructor
  · rintro ⟨before, entry, after, hentries, hentry, hafter⟩
    rcases concat_eq_split hentries with ⟨_, rfl, _⟩ | ⟨rest, rfl, rfl⟩
    · exact .inl hentry
    · refine .inr ⟨hafter last (by simp), before, entry, rest, rfl, hentry, ?_⟩
      exact fun later hlater => hafter later (by simp [hlater])
  · rintro (hstart | ⟨hkeep, before, entry, after, rfl, hentry, hafter⟩)
    · exact ⟨entries, last, [], rfl, hstart, by simp⟩
    · refine ⟨before, entry, after ++ [last], by simp, hentry, ?_⟩
      intro later hlater
      rcases List.mem_append.mp hlater with hlater | hlater
      · exact hafter later hlater
      · obtain rfl : later = last := by simpa using hlater
        exact hkeep

/-- An entry that breaks the condition ends it until the next start. -/
theorem not_since_of_break {A : Type} {keep start : A → Prop} (hkeep : ∀ entry, start entry → keep entry)
    {before after : List A} {broken : A} (hbroken : ¬ keep broken) (hafter : ∀ entry ∈ after, ¬ start entry) :
    ¬ Since keep start (before ++ broken :: after) := by
  induction after using List.reverseRecOn with
  | nil =>
    rw [since_concat]
    rintro (hstart | ⟨hlast, _⟩)
    · exact hbroken (hkeep broken hstart)
    · exact hbroken hlast
  | append_singleton after last ih =>
    have hsplit : before ++ broken :: (after ++ [last]) = (before ++ broken :: after) ++ [last] := by simp
    rw [hsplit, since_concat]
    rintro (hstart | ⟨_, hsince⟩)
    · exact hafter last (by simp) hstart
    · exact ih (fun entry hentry => hafter entry (by simp [hentry])) hsince

/-- The most recent marked entry and everything recorded after it. -/
def Latest {A : Type} (mark : A → Bool) (entries : List A) (entry : A) (after : List A) : Prop :=
  (∃ before, entries = before ++ entry :: after) ∧ mark entry = true ∧ ∀ later ∈ after, mark later = false

@[simp] theorem not_latest_nil {A : Type} (mark : A → Bool) (entry : A) (after : List A) :
    ¬ Latest mark [] entry after := by
  rintro ⟨⟨before, hentries⟩, _⟩
  simp at hentries

/-- A marked entry becomes the most recent one, with nothing after it. -/
theorem latest_concat_of_mark {A : Type} {mark : A → Bool} {last : A} (hmark : mark last = true)
    (entries : List A) (entry : A) (after : List A) :
    Latest mark (entries ++ [last]) entry after ↔ entry = last ∧ after = [] := by
  constructor
  · rintro ⟨⟨before, hentries⟩, _, hafter⟩
    rcases concat_eq_split hentries with ⟨_, rfl, rfl⟩ | ⟨rest, rfl, _⟩
    · exact ⟨rfl, rfl⟩
    · simp [hafter last (by simp)] at hmark
  · rintro ⟨rfl, rfl⟩
    exact ⟨⟨entries, rfl⟩, hmark, by simp⟩

/-- An unmarked entry is recorded after the most recent marked one. -/
theorem latest_concat_of_not_mark {A : Type} {mark : A → Bool} {last : A} (hmark : mark last = false)
    (entries : List A) (entry : A) (after : List A) :
    Latest mark (entries ++ [last]) entry after ↔
      ∃ rest, after = rest ++ [last] ∧ Latest mark entries entry rest := by
  constructor
  · rintro ⟨⟨before, hentries⟩, hentry, hafter⟩
    rcases concat_eq_split hentries with ⟨_, rfl, _⟩ | ⟨rest, rfl, rfl⟩
    · simp [hentry] at hmark
    · refine ⟨rest, rfl, ⟨before, rfl⟩, hentry, ?_⟩
      exact fun later hlater => hafter later (by simp [hlater])
  · rintro ⟨rest, rfl, ⟨before, rfl⟩, hentry, hrest⟩
    refine ⟨⟨before, by simp⟩, hentry, ?_⟩
    intro later hlater
    rcases List.mem_append.mp hlater with hlater | hlater
    · exact hrest later hlater
    · obtain rfl : later = last := by simpa using hlater
      exact hmark

/-- The most recent marked entry and the number of ticks since it, after one
    more entry. -/
def countStep {A : Type} (mark tick : A → Bool) (found : Option (A × ℕ)) (entry : A) : Option (A × ℕ) :=
  if mark entry then some (entry, 0)
  else found.map fun (marked, ticks) => (marked, if tick entry then ticks + 1 else ticks)

/-- The most recent marked entry with the number of ticks recorded after it. -/
def latest? {A : Type} (mark tick : A → Bool) (entries : List A) : Option (A × ℕ) :=
  entries.foldl (countStep mark tick) none

@[simp] theorem latest?_concat {A : Type} (mark tick : A → Bool) (entries : List A) (last : A) :
    latest? mark tick (entries ++ [last]) = countStep mark tick (latest? mark tick entries) last := by
  simp [latest?]

theorem latest?_eq_some_iff {A : Type} (mark tick : A → Bool) (entries : List A) (entry : A)
    (ticks : ℕ) :
    latest? mark tick entries = some (entry, ticks) ↔
      ∃ after, Latest mark entries entry after ∧ after.countP tick = ticks := by
  induction entries using List.reverseRecOn generalizing ticks with
  | nil => simp [latest?]
  | append_singleton entries last ih =>
    rw [latest?_concat, countStep]
    cases hmark : mark last with
    | true =>
      simp only [if_true, latest_concat_of_mark hmark, Option.some.injEq, Prod.mk.injEq]
      constructor
      · rintro ⟨rfl, rfl⟩
        exact ⟨[], ⟨rfl, rfl⟩, rfl⟩
      · rintro ⟨after, ⟨rfl, rfl⟩, rfl⟩
        exact ⟨rfl, rfl⟩
    | false =>
      simp only [Bool.false_eq_true, if_false, latest_concat_of_not_mark hmark]
      constructor
      · intro hsome
        obtain ⟨⟨marked, count⟩, hfound, heq⟩ := Option.map_eq_some_iff.mp hsome
        simp only [Prod.mk.injEq] at heq
        obtain ⟨rfl, rfl⟩ := heq
        obtain ⟨rest, hrest, hcount⟩ := (ih count).mp hfound
        refine ⟨rest ++ [last], ⟨rest, rfl, hrest⟩, ?_⟩
        simp only [List.countP_append, List.countP_singleton, hcount]
        split <;> rfl
      · rintro ⟨after, ⟨rest, rfl, hrest⟩, hcount⟩
        have hfound := (ih (rest.countP tick)).mpr ⟨rest, hrest, rfl⟩
        rw [hfound, ← hcount]
        simp only [Option.map_some, List.countP_append, List.countP_singleton]
        split <;> rfl

end history
