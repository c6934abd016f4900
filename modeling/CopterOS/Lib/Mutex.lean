import CopterOS.Lib.Projection
import Mathlib.Logic.Function.Basic

open transition

namespace mutex

/-- One access inside a critical section, to the shared value and to what the task
    keeps for itself. -/
abbrev Access (V L : Type) := V × L → V × L

/-- The shared value and what each task keeps for itself. -/
structure Memory (T V L : Type) where
  shared : V
  own : T → L

/-- A task is outside, waits for the mutex, or is inside with the accesses still to
    make. -/
inductive Place (C V L : Type) where
  | outside
  | waiting (call : C)
  | inside (rest : List (Access V L))

/-- Tasks that share a value under a mutex. -/
structure Machine (T C V L : Type) extends Memory T V L where
  place : T → Place C V L
  holder : Option T

/-- A task calls a function with a section, or goes on: it takes the mutex when that is
    free, makes its next access, or gives the mutex back. Who of several waiting tasks
    takes a free mutex is left open. -/
inductive Step (T C : Type) where
  | call (task : T) (call : C)
  | go (task : T)

section machine

variable {T C V L : Type} [DecidableEq T] (body : C → List (Access V L))

/-- All accesses in one piece. -/
def Memory.perform (memory : Memory T V L) (task : T) (accesses : List (Access V L)) : Memory T V L :=
  let (shared, own) := accesses.foldl (fun memory access => access memory) (memory.shared, memory.own task)
  { shared := shared, own := Function.update memory.own task own }

/-- The sections one after the other. -/
def Memory.step (memory : Memory T V L) (entry : T × C) : Memory T V L := memory.perform entry.1 (body entry.2)

def Machine.step (machine : Machine T C V L) : Step T C → Machine T C V L
  | .call task call =>
    match machine.place task with
    | .outside => { machine with place := Function.update machine.place task (.waiting call) }
    | _ => machine
  | .go task =>
    match machine.place task with
    | .outside => machine
    | .waiting call =>
      match machine.holder with
      | none =>
        { machine with place := Function.update machine.place task (.inside (body call)), holder := some task }
      | some _ => machine
    | .inside (access :: rest) =>
      let (shared, own) := access (machine.shared, machine.own task)
      { machine with
        shared := shared
        own := Function.update machine.own task own
        place := Function.update machine.place task (.inside rest) }
    | .inside [] => { machine with place := Function.update machine.place task .outside, holder := none }

/-- No task has called anything yet. -/
def Machine.start (memory : Memory T V L) : Machine T C V L where
  toMemory := memory
  place _ := .outside
  holder := none

/-- A task is inside exactly when it holds the mutex, and then it is in a section. -/
structure Machine.Exclusive (machine : Machine T C V L) : Prop where
  holds : ∀ {task rest}, machine.place task = .inside rest → machine.holder = some task
  inside : ∀ {task}, machine.holder = some task → ∃ call rest, machine.place task = .inside rest ∧ rest <:+ body call

/-- The memory once the section under way is through. -/
def Machine.finish (machine : Machine T C V L) : Memory T V L :=
  match machine.holder with
  | none => machine.toMemory
  | some task =>
    match machine.place task with
    | .inside rest => machine.toMemory.perform task rest
    | _ => machine.toMemory

/-- The section a step enters. -/
def Machine.entered (machine : Machine T C V L) : Step T C → Option (T × C)
  | .call _ _ => none
  | .go task =>
    match machine.place task, machine.holder with
    | .waiting call, none => some (task, call)
    | _, _ => none

theorem Memory.perform_nil (memory : Memory T V L) (task : T) : memory.perform task [] = memory := by
  unfold Memory.perform
  simp

theorem Memory.perform_cons (memory : Memory T V L) (task : T) (access : Access V L) (rest : List (Access V L)) :
    memory.perform task (access :: rest) =
      Memory.perform
        { shared := (access (memory.shared, memory.own task)).1
          own := Function.update memory.own task (access (memory.shared, memory.own task)).2 } task rest := by
  unfold Memory.perform
  simp

omit [DecidableEq T] in
theorem exclusive_start (memory : Memory T V L) : (Machine.start memory : Machine T C V L).Exclusive body where
  holds hplace := nomatch hplace
  inside hholder := nomatch hholder

variable {body} {machine : Machine T C V L}

theorem Machine.finish_of_free (hfree : machine.holder = none) : machine.finish = machine.toMemory := by
  unfold Machine.finish
  rw [hfree]

theorem Machine.finish_of_inside {task : T} {rest : List (Access V L)} (hholder : machine.holder = some task)
    (hplace : machine.place task = .inside rest) : machine.finish = machine.toMemory.perform task rest := by
  unfold Machine.finish
  simp only [hholder, hplace]

/-- A section under way changes nothing another task keeps for itself. -/
theorem Machine.Exclusive.finish_own (hexclusive : machine.Exclusive body) {task : T}
    (hfree : machine.holder ≠ some task) : machine.finish.own task = machine.own task := by
  cases hholder : machine.holder with
  | none => rw [machine.finish_of_free hholder]
  | some other =>
    obtain ⟨_, rest, hplace, _⟩ := hexclusive.inside hholder
    have hne : task ≠ other := by
      rintro rfl
      exact hfree hholder
    rw [machine.finish_of_inside hholder hplace]
    exact Function.update_of_ne hne _ _

omit [DecidableEq T] in
theorem Machine.Exclusive.ne_holder (hexclusive : machine.Exclusive body) {task other : T}
    (hplace : ∀ rest, machine.place task ≠ .inside rest) (hholder : machine.holder = some other) : other ≠ task := by
  rintro rfl
  obtain ⟨_, rest, hinside, _⟩ := hexclusive.inside hholder
  exact hplace rest hinside

omit [DecidableEq T] in
/-- The step of one task keeps the exclusion when it leaves the other tasks alone and
    its own place fits. -/
theorem Machine.Exclusive.of_others (hexclusive : machine.Exclusive body) {next : Machine T C V L} {task : T}
    (hplaces : ∀ other, other ≠ task → next.place other = machine.place other)
    (hholders : ∀ other, other ≠ task → (next.holder = some other ↔ machine.holder = some other))
    (hholds : ∀ rest, next.place task = .inside rest → next.holder = some task)
    (hinside : next.holder = some task → ∃ call rest, next.place task = .inside rest ∧ rest <:+ body call) :
    next.Exclusive body := by
  constructor
  · intro other rest hplace
    by_cases hother : other = task
    · subst hother
      exact hholds rest hplace
    · rw [hplaces other hother] at hplace
      exact (hholders other hother).mpr (hexclusive.holds hplace)
  · intro other hholder
    by_cases hother : other = task
    · subst hother
      exact hinside hholder
    · rw [hplaces other hother]
      exact hexclusive.inside ((hholders other hother).mp hholder)

/-- At most one task is inside, whatever the order of the steps. -/
theorem Machine.Exclusive.step (hexclusive : machine.Exclusive body) (step : Step T C) :
    (machine.step body step).Exclusive body := by
  cases step with
  | call task call =>
    unfold Machine.step
    dsimp only
    split
    case h_1 houtside =>
      refine hexclusive.of_others (fun _ hother => Function.update_of_ne hother _ _) (fun _ _ => Iff.rfl) ?_ ?_
      · intro rest hplace
        cases (Function.update_self ..).symm.trans hplace
      · intro hholder
        exact absurd rfl (hexclusive.ne_holder (by simp [houtside]) hholder)
    case h_2 => exact hexclusive
  | go task =>
    unfold Machine.step
    dsimp only
    split
    case h_1 => exact hexclusive
    case h_2 call hwaiting =>
      split
      case h_1 hfree =>
        refine hexclusive.of_others (fun _ hother => Function.update_of_ne hother _ _) (fun other hother => ?_)
          (fun _ _ => rfl) (fun _ => ⟨call, body call, Function.update_self .., List.suffix_refl _⟩)
        rw [hfree]
        exact iff_of_false (fun heq => hother (Option.some.inj heq).symm) nofun
      case h_2 => exact hexclusive
    case h_3 access rest hinside =>
      have hholder := hexclusive.holds hinside
      refine hexclusive.of_others (fun _ hother => Function.update_of_ne hother _ _) (fun _ _ => Iff.rfl)
        (fun _ _ => hholder) (fun _ => ?_)
      obtain ⟨call, rest', hplace, hsuffix⟩ := hexclusive.inside hholder
      obtain rfl := Place.inside.inj (hinside.symm.trans hplace)
      exact ⟨call, rest, Function.update_self .., (List.suffix_cons access rest).trans hsuffix⟩
    case h_4 hinside =>
      refine hexclusive.of_others (fun _ hother => Function.update_of_ne hother _ _) (fun other hother => ?_) ?_ nofun
      · rw [hexclusive.holds hinside]
        exact iff_of_false nofun fun heq => hother (Option.some.inj heq).symm
      · intro rest hplace
        cases (Function.update_self ..).symm.trans hplace

/-- A step enters one section as a whole, or cannot be seen behind the sections. -/
theorem Machine.Exclusive.finish_step (hexclusive : machine.Exclusive body) (step : Step T C) :
    (machine.step body step).finish = (machine.entered step).elim machine.finish (machine.finish.step body) := by
  cases step with
  | call task call =>
    change (machine.step body (.call task call)).finish = machine.finish
    unfold Machine.step
    dsimp only
    split
    case h_1 houtside =>
      cases hholder : machine.holder with
      | none =>
        rw [machine.finish_of_free hholder]
        exact Machine.finish_of_free rfl
      | some other =>
        have hne : other ≠ task := hexclusive.ne_holder (by simp [houtside]) hholder
        obtain ⟨_, rest, hinside, _⟩ := hexclusive.inside hholder
        rw [machine.finish_of_inside hholder hinside]
        exact Machine.finish_of_inside rfl ((Function.update_of_ne hne _ _).trans hinside)
    case h_2 => rfl
  | go task =>
    unfold Machine.step Machine.entered
    dsimp only
    split
    case h_1 houtside => simp [houtside]
    case h_2 call hwaiting =>
      cases hholder : machine.holder with
      | none =>
        simp only [hwaiting, Option.elim_some]
        rw [machine.finish_of_free hholder]
        exact Machine.finish_of_inside rfl (Function.update_self ..)
      | some other => simp [hwaiting]
    case h_3 access rest hinside =>
      have hholder := hexclusive.holds hinside
      simp only [hinside, Option.elim_none]
      rw [machine.finish_of_inside hholder hinside, Memory.perform_cons]
      exact Machine.finish_of_inside hholder (Function.update_self ..)
    case h_4 hinside =>
      have hholder := hexclusive.holds hinside
      simp only [hinside, Option.elim_none]
      rw [machine.finish_of_inside hholder hinside, Memory.perform_nil]
      exact Machine.finish_of_free rfl

/-- The task goes on. -/
def Step.isGo (task : T) : Step T C → Bool
  | .call _ _ => false
  | .go other => other == task

/-- Nobody but the task itself moves it on in its section. -/
theorem Machine.step_inside {task : T} {rest : List (Access V L)} (hinside : machine.place task = .inside rest)
    {step : Step T C} (hother : step.isGo task = false) : (machine.step body step).place task = .inside rest := by
  have hmoved : ∀ {other : T} {place : Place C V L}, other ≠ task →
      Function.update machine.place other place task = .inside rest :=
    fun hne => (Function.update_of_ne hne.symm _ _).trans hinside
  cases step with
  | call other call =>
    unfold Machine.step
    dsimp only
    split
    case h_1 houtside =>
      apply hmoved
      rintro rfl
      cases houtside.symm.trans hinside
    case h_2 => exact hinside
  | go other =>
    have hne : other ≠ task := beq_eq_false_iff_ne.mp hother
    unfold Machine.step
    dsimp only
    split
    case h_1 => exact hinside
    case h_2 =>
      split
      · exact hmoved hne
      · exact hinside
    case h_3 => exact hmoved hne
    case h_4 => exact hmoved hne

/-- Each step of the task inside is one of its last accesses, or gives the mutex back. -/
theorem Machine.step_go_inside {task : T} {rest : List (Access V L)} (hinside : machine.place task = .inside rest) :
    (rest = [] ∧ (machine.step body (.go task)).holder = none) ∨
      ∃ access rest', rest = access :: rest' ∧ (machine.step body (.go task)).place task = .inside rest' := by
  cases rest with
  | nil => exact .inl ⟨rfl, by simp only [Machine.step, hinside]⟩
  | cons access rest =>
    refine .inr ⟨access, rest, rfl, ?_⟩
    simp only [Machine.step, hinside]
    exact Function.update_self ..

/-- The task inside gives the mutex back as soon as it has been scheduled often enough,
    whatever the others do in between. -/
theorem exists_free {task : T} {rest : List (Access V L)} (hinside : machine.place task = .inside rest)
    {steps : List (Step T C)} (hsteps : rest.length < steps.countP (Step.isGo task)) :
    ∃ before, before <+: steps ∧ (run (Machine.step body) machine before).holder = none := by
  induction steps generalizing machine rest with
  | nil => cases hsteps
  | cons step steps ih =>
    cases hstep : step.isGo task with
    | false =>
      rw [List.countP_cons_of_neg (by rw [hstep]; nofun)] at hsteps
      obtain ⟨before, hbefore, hfree⟩ := ih (machine.step_inside hinside hstep) hsteps
      exact ⟨step :: before, (List.prefix_cons_inj step).mpr hbefore, hfree⟩
    | true =>
      rw [List.countP_cons_of_pos hstep] at hsteps
      obtain ⟨other, rfl⟩ : ∃ other, step = .go other := by
        cases step with
        | call other call => cases hstep
        | go other => exact ⟨other, rfl⟩
      obtain rfl : other = task := beq_iff_eq.mp hstep
      obtain ⟨_, hfree⟩ | ⟨access, rest', rfl, hplace⟩ := machine.step_go_inside hinside
      · exact ⟨[.go other], List.prefix_append [_] steps, hfree⟩
      · obtain ⟨before, hbefore, hfree⟩ := ih hplace (Nat.lt_of_succ_lt_succ hsteps)
        exact ⟨.go other :: before, (List.prefix_cons_inj _).mpr hbefore, hfree⟩

/-- A task that waits gets inside with its next step when the mutex is free. -/
theorem Machine.step_go_waiting {task : T} {call : C} (hwaiting : machine.place task = .waiting call)
    (hfree : machine.holder = none) : (machine.step body (.go task)).place task = .inside (body call) := by
  simp only [Machine.step, hwaiting, hfree]
  exact Function.update_self ..

end machine

end mutex
