import CopterOS.Lib.Run
import CopterOS.PidCtrl.Accesses
import Mathlib.Data.List.Induction

open transition stores number copter.controller copter.linux_client copter.pid copter.stabilizer

namespace copter.pidctrl

/-- The copter under the message task, with the accesses its handler has still to
    make. -/
structure Machine where
  state : Copter
  pending : List Access

/-- A message arrives, the message task makes its next access, or the stabilizer
    task preempts it for one pass. -/
inductive Step where
  | message (data : Data)
  | lcTask
  | stabilizerTask (sensors : Sensors)

/-- While a message is handled no other one is received. -/
def interleave (config : Config) (machine : Machine) : Step → Machine
  | .message data =>
    match machine.pending with
    | [] => { machine with pending := accesses (PidValues.ofData data) }
    | _ => machine
  | .lcTask =>
    match machine.pending with
    | [] => machine
    | access :: pending => { state := access.perform machine.state, pending := pending }
  | .stabilizerTask sensors => { machine with state := (stabilizerTask config sensors machine.state).2 }

theorem interleave_message_of_idle (config : Config) {machine : Machine} (hidle : machine.pending = [])
    (data : Data) :
    interleave config machine (.message data) = ⟨machine.state, accesses (PidValues.ofData data)⟩ := by
  simp [interleave, hidle]

theorem interleave_message_of_busy (config : Config) {machine : Machine} (hbusy : machine.pending ≠ [])
    (data : Data) : interleave config machine (.message data) = machine := by
  obtain ⟨access, pending, hpending⟩ := List.exists_cons_of_ne_nil hbusy
  simp [interleave, hpending]

theorem interleave_lcTask_of_idle (config : Config) {machine : Machine} (hidle : machine.pending = []) :
    interleave config machine .lcTask = machine := by
  simp [interleave, hidle]

theorem interleave_lcTask_of_busy (config : Config) {machine : Machine} {access : Access}
    {pending : List Access} (hbusy : machine.pending = access :: pending) :
    interleave config machine .lcTask = ⟨access.perform machine.state, pending⟩ := by
  simp [interleave, hbusy]

/-- The machine after a sequence of steps from the initialized copter on. -/
def machineAfter (config : Config) (steps : List Step) : Machine :=
  run (interleave config) ⟨copter0 config, []⟩ steps

/-- The gains of a loop are those a message for it carries. -/
def Carries (values : PidValues) (loop : Loop) (memory : Location → Flt) : Prop :=
  values.loop = some loop ∧
    ∀ location, loopOf location.1 = loop → memory location = hundredths (values.field location)

/-- The gains of a loop are a complete set: the initial one or that of a single
    message. -/
def Complete (config : Config) (steps : List Step) (loop : Loop) (memory : Location → Flt) : Prop :=
  (∀ location, loopOf location.1 = loop → memory location = gains (copter0 config).controller location) ∨
    ∃ data, .message data ∈ steps ∧ Carries (PidValues.ofData data) loop memory

/-- The control loops a calibrated pass computes. -/
def Computes (state : Copter) : Loop → Prop
  | .rate => True
  | .attitude => state.stabilizer.attitudeCounter + 1 ≥ ATTITUDE_UPDATE_RATE_DIVIDER

/-- Every calibrated pass computes with complete sets. -/
def ComputesComplete (config : Config) (steps : List Step) : Prop :=
  ∀ before sensors after, steps = before ++ .stabilizerTask sensors :: after →
    sensors.imu6IsCalibrated = true →
      ∀ loop, Computes (machineAfter config before).state loop →
        Complete config before loop (gains (machineAfter config before).state.controller)

def isLcTask : Step → Bool
  | .lcTask => true
  | _ => false

/-- A handled message has set the gains of the loop it names and no others. -/
def SetsExactly (config : Config) (steps : List Step) : Prop :=
  ∀ before data during after, steps = before ++ .message data :: (during ++ after) →
    (machineAfter config before).pending = [] →
      during.countP isLcTask = (accesses (PidValues.ofData data)).length →
        ∀ location,
          gains (machineAfter config (before ++ .message data :: during)).state.controller location =
            if (PidValues.ofData data).loop = some (loopOf location.1) then
              hundredths ((PidValues.ofData data).field location)
            else gains (machineAfter config before).state.controller location

/-- The message task changes nothing of a controller but its gains. -/
def TouchesGainsOnly (config : Config) (steps : List Step) : Prop :=
  ∀ before after, steps = before ++ .lcTask :: after → ∀ name,
    SameButGains ((machineAfter config (before ++ [.lcTask])).state.controller.pid name)
      ((machineAfter config before).state.controller.pid name)

theorem machineAfter_concat (config : Config) (steps : List Step) (step : Step) :
    machineAfter config (steps ++ [step]) = interleave config (machineAfter config steps) step := by
  simp [machineAfter]

/-- From an accepted message on, `k` steps of the message task make the first `k`
    accesses, and until the last one no other message is accepted. -/
theorem machineAfter_during (config : Config) {before : List Step}
    (hidle : (machineAfter config before).pending = []) (data : Data) {during : List Step}
    (hcount : during.countP isLcTask ≤ (accesses (PidValues.ofData data)).length) :
    gains (machineAfter config (before ++ .message data :: during)).state.controller =
        storeAll (gains (machineAfter config before).state.controller)
          ((writes (PidValues.ofData data)).take (during.countP isLcTask)) ∧
      (during.countP isLcTask < (accesses (PidValues.ofData data)).length →
        (machineAfter config (before ++ .message data :: during)).pending =
          (accesses (PidValues.ofData data)).drop (during.countP isLcTask)) := by
  induction during using List.reverseRecOn with
  | nil =>
    rw [machineAfter_concat, interleave_message_of_idle config hidle]
    exact ⟨rfl, fun _ => rfl⟩
  | append_singleton during step ih =>
    have hsplit : before ++ .message data :: (during ++ [step]) =
        (before ++ .message data :: during) ++ [step] := by simp
    rw [hsplit, machineAfter_concat]
    cases step with
    | message other =>
      have hsame : (during ++ [Step.message other]).countP isLcTask = during.countP isLcTask := by
        simp [isLcTask]
      rw [hsame] at hcount ⊢
      obtain ⟨hgains, hpending⟩ := ih hcount
      by_cases hbusy : (machineAfter config (before ++ .message data :: during)).pending = []
      · rw [interleave_message_of_idle config hbusy]
        refine ⟨hgains, ?_⟩
        intro hless
        rw [hpending hless, List.drop_eq_nil_iff] at hbusy
        omega
      · rw [interleave_message_of_busy config hbusy]
        exact ⟨hgains, hpending⟩
    | lcTask =>
      have hsucc : (during ++ [Step.lcTask]).countP isLcTask = during.countP isLcTask + 1 := by
        simp [isLcTask]
      rw [hsucc] at hcount ⊢
      obtain ⟨hgains, hpending⟩ := ih (by omega)
      obtain ⟨access, hdrop, hperform⟩ :=
        accesses_drop (PidValues.ofData data) (k := during.countP isLcTask) (by omega)
      rw [interleave_lcTask_of_busy config ((hpending (by omega)).trans hdrop)]
      exact ⟨hperform _ _ hgains, fun _ => rfl⟩
    | stabilizerTask sensors =>
      have hsame : (during ++ [Step.stabilizerTask sensors]).countP isLcTask = during.countP isLcTask := by
        simp [isLcTask]
      rw [hsame] at hcount ⊢
      obtain ⟨hgains, hpending⟩ := ih hcount
      exact ⟨(gains_stabilizerTask config sensors _).trans hgains, hpending⟩

theorem Complete.mono {config : Config} {steps later : List Step} (hsub : steps ⊆ later) {loop : Loop}
    {memory : Location → Flt} (hcomplete : Complete config steps loop memory) :
    Complete config later loop memory := by
  obtain hinitial | ⟨data, hmem, hcarries⟩ := hcomplete
  · exact Or.inl hinitial
  · exact Or.inr ⟨data, hsub hmem, hcarries⟩

/-- Whether a set is complete depends on the gains of its loop alone. -/
theorem Complete.congr {config : Config} {steps : List Step} {loop : Loop} {memory other : Location → Flt}
    (hcomplete : Complete config steps loop memory)
    (hsame : ∀ location, loopOf location.1 = loop → other location = memory location) :
    Complete config steps loop other := by
  obtain hinitial | ⟨data, hmem, hloop, hcarries⟩ := hcomplete
  · exact Or.inl fun location hlocation => (hsame location hlocation).trans (hinitial location hlocation)
  · exact Or.inr ⟨data, hmem, hloop,
      fun location hlocation => (hsame location hlocation).trans (hcarries location hlocation)⟩

/-- Once all assignments are made, a set that was complete is complete again. -/
theorem Complete.storeAll {config : Config} {steps : List Step} {loop : Loop} {memory : Location → Flt}
    (hcomplete : Complete config steps loop memory) {data : Data} (hmem : .message data ∈ steps) {k : ℕ}
    (hk : (assignments (PidValues.ofData data)).length ≤ k) :
    Complete config steps loop (storeAll memory ((writes (PidValues.ofData data)).take k)) := by
  by_cases hloop : (PidValues.ofData data).loop = some loop
  · refine Or.inr ⟨data, hmem, hloop, ?_⟩
    intro location hlocation
    subst hlocation
    exact storeAll_writes_of_eq hloop memory hk
  · apply hcomplete.congr
    intro location hlocation
    subst hlocation
    exact storeAll_writes_of_ne hloop memory k

/-- The handler rests over complete sets, or it has made `k` accesses for a
    message since they were complete. -/
def Consistent (config : Config) (steps : List Step) (machine : Machine) : Prop :=
  (machine.pending = [] ∧ ∀ loop, Complete config steps loop (gains machine.state.controller)) ∨
    ∃ data memory k, .message data ∈ steps ∧ (∀ loop, Complete config steps loop memory) ∧
      k < (accesses (PidValues.ofData data)).length ∧
      machine.pending = (accesses (PidValues.ofData data)).drop k ∧
      gains machine.state.controller = storeAll memory ((writes (PidValues.ofData data)).take k)

theorem Consistent.message {config : Config} {steps : List Step} {machine : Machine}
    (hconsistent : Consistent config steps machine) (data : Data) :
    Consistent config (steps ++ [.message data]) (interleave config machine (.message data)) := by
  have hsub : steps ⊆ steps ++ [.message data] := by simp
  obtain ⟨hidle, hcomplete⟩ | ⟨other, memory, k, hmem, hcomplete, hk, hpending, hgains⟩ := hconsistent
  · rw [interleave_message_of_idle config hidle]
    refine Or.inr ⟨data, gains machine.state.controller, 0, by simp, fun loop => (hcomplete loop).mono hsub,
      List.length_pos_iff.mpr (accesses_ne_nil _), rfl, rfl⟩
  · have hbusy : machine.pending ≠ [] := by
      rw [hpending, ne_eq, List.drop_eq_nil_iff]
      omega
    rw [interleave_message_of_busy config hbusy]
    exact Or.inr ⟨other, memory, k, hsub hmem, fun loop => (hcomplete loop).mono hsub, hk, hpending, hgains⟩

theorem Consistent.lcTask {config : Config} {steps : List Step} {machine : Machine}
    (hconsistent : Consistent config steps machine) :
    Consistent config (steps ++ [.lcTask]) (interleave config machine .lcTask) := by
  have hsub : steps ⊆ steps ++ [.lcTask] := by simp
  obtain ⟨hidle, hcomplete⟩ | ⟨data, memory, k, hmem, hcomplete, hk, hpending, hgains⟩ := hconsistent
  · rw [interleave_lcTask_of_idle config hidle]
    exact Or.inl ⟨hidle, fun loop => (hcomplete loop).mono hsub⟩
  obtain ⟨access, hdrop, hperform⟩ := accesses_drop (PidValues.ofData data) hk
  rw [interleave_lcTask_of_busy config (hpending.trans hdrop)]
  have hnext := hperform machine.state memory hgains
  by_cases hlast : k + 1 < (accesses (PidValues.ofData data)).length
  · exact Or.inr ⟨data, memory, k + 1, hsub hmem, fun loop => (hcomplete loop).mono hsub, hlast, rfl,
      hnext⟩
  · refine Or.inl ⟨List.drop_eq_nil_iff.mpr (by omega), ?_⟩
    intro loop
    change Complete config _ loop (gains (access.perform machine.state).controller)
    rw [hnext]
    apply ((hcomplete loop).mono hsub).storeAll (hsub hmem)
    rw [accesses_length] at hlast
    omega

theorem Consistent.stabilizerTask {config : Config} {steps : List Step} {machine : Machine}
    (hconsistent : Consistent config steps machine) (sensors : Sensors) :
    Consistent config (steps ++ [.stabilizerTask sensors])
      (interleave config machine (.stabilizerTask sensors)) := by
  have hsub : steps ⊆ steps ++ [.stabilizerTask sensors] := by simp
  have hkeeps := gains_stabilizerTask config sensors machine.state
  obtain ⟨hidle, hcomplete⟩ | ⟨data, memory, k, hmem, hcomplete, hk, hpending, hgains⟩ := hconsistent
  · refine Or.inl ⟨hidle, ?_⟩
    intro loop
    apply ((hcomplete loop).mono hsub).congr
    intro location _
    exact congrFun hkeeps location
  · exact Or.inr ⟨data, memory, k, hsub hmem, fun loop => (hcomplete loop).mono hsub, hk, hpending,
      hkeeps.trans hgains⟩

/-- Along every run the gains are those of complete sets and of the accesses the
    handler has made since. -/
theorem machineAfter_consistent (config : Config) (steps : List Step) :
    Consistent config steps (machineAfter config steps) := by
  induction steps using List.reverseRecOn with
  | nil => exact Or.inl ⟨rfl, fun _ => Or.inl fun _ _ => rfl⟩
  | append_singleton steps step ih =>
    rw [machineAfter_concat]
    cases step with
    | message data => exact ih.message data
    | lcTask => exact ih.lcTask
    | stabilizerTask sensors => exact ih.stabilizerTask sensors

/-- Accesses left to make belong to a message accepted by an idle handler. -/
theorem pending_origin (config : Config) {steps : List Step}
    (hpending : (machineAfter config steps).pending ≠ []) :
    ∃ before data during, steps = before ++ .message data :: during ∧
      (machineAfter config before).pending = [] ∧
      during.countP isLcTask < (accesses (PidValues.ofData data)).length := by
  induction steps using List.reverseRecOn with
  | nil => exact absurd rfl hpending
  | append_singleton steps step ih =>
    by_cases hidle : (machineAfter config steps).pending = []
    · rw [machineAfter_concat] at hpending
      cases step with
      | message data =>
        exact ⟨steps, data, [], rfl, hidle, List.length_pos_iff.mpr (accesses_ne_nil _)⟩
      | lcTask => exact absurd hidle (by rwa [interleave_lcTask_of_idle config hidle] at hpending)
      | stabilizerTask sensors => exact absurd hidle hpending
    · obtain ⟨before, data, during, rfl, hbefore, hcount⟩ := ih hidle
      refine ⟨before, data, during ++ [step], by simp, hbefore, ?_⟩
      by_contra hlast
      cases step with
      | message other =>
        apply hlast
        simpa [isLcTask] using hcount
      | lcTask =>
        have hdone : during.countP isLcTask + 1 = (accesses (PidValues.ofData data)).length := by
          have hsucc : (during ++ [Step.lcTask]).countP isLcTask = during.countP isLcTask + 1 := by
            simp [isLcTask]
          omega
        have hdrop := (machineAfter_during config hbefore data hcount.le).2 hcount
        apply hpending
        rw [machineAfter_concat]
        obtain ⟨access, hnext, _⟩ := accesses_drop (PidValues.ofData data) hcount
        rw [interleave_lcTask_of_busy config (hdrop.trans hnext), hdone, List.drop_length]
      | stabilizerTask sensors =>
        apply hlast
        simpa [isLcTask] using hcount

/-- Between the first and the last of the nine assignments for a loop. -/
def Machine.InWindow (machine : Machine) (loop : Loop) : Prop :=
  ∃ location field pending, machine.pending = .assign location field :: pending ∧
    loopOf location.1 = loop ∧ pending.length < 9

/-- No calibrated pass computes a loop between the first and the last assignment
    for it. -/
def NoneInWindow (config : Config) (steps : List Step) : Prop :=
  ∀ before sensors after, steps = before ++ .stabilizerTask sensors :: after →
    sensors.imu6IsCalibrated = true →
      ∀ loop, Computes (machineAfter config before).state loop →
        ¬ (machineAfter config before).InWindow loop

/-- A handler that has begun the assignments for a loop and not finished them is
    in the window. -/
theorem inWindow_of_drop {machine : Machine} {values : PidValues} {loop : Loop} {k : ℕ}
    (hloop : values.loop = some loop) (hpending : machine.pending = (accesses values).drop k)
    (hfirst : 0 < k) (hlast : k < (assignments values).length) : machine.InWindow loop := by
  have hlength := assignments_length values
  rw [hloop, Option.isSome_some, if_pos rfl] at hlength
  have hmem : (assignments values)[k] ∈ assignments values := List.getElem_mem hlast
  have hnamed := ((mem_assignments_iff values _ _).mp hmem).1
  refine ⟨(assignments values)[k].1, (assignments values)[k].2, (accesses values).drop (k + 1), ?_, ?_, ?_⟩
  · rw [hpending, List.drop_eq_getElem_cons (by rw [accesses_length]; omega)]
    simp [accesses, hlast]
  · exact Option.some.inj (hnamed.symm.trans hloop)
  · rw [List.length_drop, accesses_length]
    omega

/-- Outside the window the gains of a loop are a complete set. -/
theorem complete_of_not_inWindow {config : Config} {steps : List Step} {loop : Loop}
    (hwindow : ¬ (machineAfter config steps).InWindow loop) :
    Complete config steps loop (gains (machineAfter config steps).state.controller) := by
  obtain ⟨_, hcomplete⟩ | ⟨data, memory, k, hmem, hcomplete, _, hpending, hgains⟩ :=
    machineAfter_consistent config steps
  · exact hcomplete loop
  rw [hgains]
  by_cases hloop : (PidValues.ofData data).loop = some loop
  · by_cases hall : (assignments (PidValues.ofData data)).length ≤ k
    · exact (hcomplete loop).storeAll hmem hall
    · have hnone : k = 0 := by
        by_contra hfirst
        exact hwindow (inWindow_of_drop hloop hpending (by omega) (by omega))
      subst hnone
      exact hcomplete loop
  · apply (hcomplete loop).congr
    intro location hlocation
    subst hlocation
    exact storeAll_writes_of_ne hloop memory k

theorem setsExactly (config : Config) (steps : List Step) : SetsExactly config steps := by
  intro before data during after hsteps hidle hcount location
  rw [(machineAfter_during config hidle data hcount.le).1]
  split
  case isTrue hloop =>
    apply storeAll_writes_of_eq hloop
    rw [hcount, accesses_length]
    omega
  case isFalse hloop => exact storeAll_writes_of_ne hloop _ _

theorem touchesGainsOnly (config : Config) (steps : List Step) : TouchesGainsOnly config steps := by
  intro before after hsteps name
  rw [machineAfter_concat]
  by_cases hidle : (machineAfter config before).pending = []
  · rw [interleave_lcTask_of_idle config hidle]
    exact SameButGains.refl _
  · obtain ⟨access, pending, hbusy⟩ := List.exists_cons_of_ne_nil hidle
    rw [interleave_lcTask_of_busy config hbusy]
    cases access with
    | assign location field => exact sameButGains_pidSet location field _ name
    | commanderSetRPYType values => exact SameButGains.refl _

end copter.pidctrl
